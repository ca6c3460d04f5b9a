/-
What readers give, and what they give back of written values.

* `Read.Ensures`: whatever a reader gives has a property, with one lemma for each way to compose
  readers;
* `Read.list_ofJson`, `Read.map_ofJson`: lists and maps are read back if their parts are;
* `Read.ofText_of_isWrittenAs`: a text that writes a value is read as that value is;
* `RecordForm.ensures_read`: what each field keeps, a record has;
* `fillByName_member`, `fillByName_unknown`, `RecordForm.readMembers_eq`: a written record is read
  member by member.

A reader that gives `a` and draws no identity is the reader `pure a`.
-/
import SchemaDesigner.Proofs.Json.Written
import SchemaDesigner.Wire.Record

namespace SchemaDesigner

open Json (Document Items Members Fault IsWritable IsWrittenAs greatestDepth)

namespace Read

variable {α β : Type}

/-! ### What a reader gives -/

/-- Two readers one after the other give what the second one gives after the first. -/
lemma bind_eq_ok {x : Read α} {f : α → Read β} {ids ids' : IdSupply} {b : β} :
    (x >>= f) ids = .ok (b, ids')
      ↔ ∃ a mid, x ids = .ok (a, mid) ∧ f a mid = .ok (b, ids') := by
  change (x ids >>= fun p => f p.1 p.2) = .ok (b, ids') ↔ _
  cases x ids with
  | error e => exact iff_of_false (nofun) fun ⟨_, _, h, _⟩ => nomatch h
  | ok p =>
    refine ⟨fun h => ⟨p.1, p.2, rfl, h⟩, ?_⟩
    rintro ⟨a, mid, ⟨⟩, h⟩
    exact h

/-- Whatever the reader gives has the property. -/
def Ensures (x : Read α) (P : α → Prop) : Prop :=
  ∀ ids a ids', x ids = .ok (a, ids') → P a

namespace Ensures

variable {P : α → Prop} {Q : β → Prop} {x : Read α}

lemma pure {a : α} (h : P a) : Ensures (Pure.pure a) P := by
  rintro ids b ids' ⟨⟩
  exact h

lemma throw (e : ReadError) : Ensures (throw e) P := by
  rintro ids b ids' ⟨⟩

lemma trivial (x : Read α) : Ensures x fun _ => True := fun _ _ _ _ => True.intro

/-- What a reader gives is handed on with its property. -/
lemma bind {f : α → Read β} (hx : Ensures x P) (hf : ∀ a, P a → Ensures (f a) Q) :
    Ensures (x >>= f) Q := by
  intro ids b ids' h
  obtain ⟨a, mid, hfirst, hsecond⟩ := bind_eq_ok.mp h
  exact hf a (hx ids a mid hfirst) mid b ids' hsecond

/-- A property that does not depend on what was read before. -/
lemma after {f : α → Read β} (hf : ∀ a, Ensures (f a) Q) : Ensures (x >>= f) Q :=
  bind (trivial x) fun a _ => hf a

lemma map {f : α → β} (hx : Ensures x P) (hf : ∀ a, P a → Q (f a)) : Ensures (f <$> x) Q := by
  rw [map_eq_pure_bind]
  exact bind hx fun a ha => pure (hf a ha)

end Ensures

variable {P : α → Prop} {read : Document → Read α}

lemma ensures_items (h : ∀ d, Ensures (read d) P) (is : Items) :
    Ensures (items read is) fun as => ∀ a ∈ as, P a := by
  fun_induction items read is with
  | case1 => exact .pure fun a ha => nomatch ha
  | case2 kept skipped => exact .throw _
  | case3 value rest ih =>
    exact .bind (h value) fun a ha => .bind ih fun as has =>
      .pure (List.forall_mem_cons.mpr ⟨ha, has⟩)

/-- What holds of each item that is read holds of all items of a list. -/
lemma ensures_list (h : ∀ d, Ensures (read d) P) (d : Document) :
    Ensures (list read d) fun as => ∀ a ∈ as, P a := by
  rw [list.eq_def]
  split
  · exact ensures_items h _
  · exact .throw _

lemma ensures_members (h : ∀ d, Ensures (read d) P) (ms : Members) :
    Ensures (members read ms) fun es => ∀ e ∈ es, P e.2 := by
  fun_induction members read ms with
  | case1 => exact .pure fun a ha => nomatch ha
  | case2 | case3 => exact .throw _
  | case4 key value rest ih =>
    exact .bind (h value) fun a ha => .bind ih fun es hes =>
      .pure (List.forall_mem_cons.mpr ⟨ha, hes⟩)

/-- What holds of each value that is read holds of all values of a map. -/
lemma ensures_map (h : ∀ d, Ensures (read d) P) (d : Document) :
    Ensures (map read d) fun es => ∀ e ∈ es, P e.2 := by
  rw [map.eq_def]
  split
  · exact ensures_members h _
  · exact .throw _

/-- What holds of all that is read from documents holds of all that is read from texts. -/
lemma ensures_ofText (h : ∀ d, Ensures (read d) P) (s : String) : Ensures (ofText read s) P := by
  rw [ofText]
  refine .bind (h _) fun a ha => ?_
  dsimp only
  split_ifs
  · exact .after fun _ => .pure ha
  · exact .pure ha

/-! ### What is read back -/

variable {toJson : α → Json}

/-- Items that are read back one by one are read back as a list. -/
lemma items_ofJson {as : List α} (h : ∀ a ∈ as, read (.ofJson (toJson a)) = pure a) :
    items read (.ofJson (as.map toJson)) = pure as := by
  induction as with
  | nil => rfl
  | cons a as ih =>
    rw [List.forall_mem_cons] at h
    rw [List.map_cons, Items.ofJson, items, h.1, ih h.2, pure_bind, pure_bind]

/-- A list of values that are read back is read back. -/
lemma list_ofJson {as : List α} (h : ∀ a ∈ as, read (.ofJson (toJson a)) = pure a) :
    list read (.ofJson (.array (as.map toJson))) = pure as :=
  items_ofJson h

/-- Values that are read back one by one are read back with their keys. -/
lemma members_ofJson {es : List (String × α)}
    (h : ∀ e ∈ es, read (.ofJson (toJson e.2)) = pure e.2) :
    members read (.ofJson (es.map fun e => (e.1, toJson e.2))) = pure es := by
  induction es with
  | nil => rfl
  | cons e es ih =>
    rw [List.forall_mem_cons] at h
    rw [List.map_cons, Members.ofJson, members, h.1, ih h.2, pure_bind, pure_bind]

/-- Values with keys that are read back are read back with their keys. -/
lemma map_ofJson {es : List (String × α)} (h : ∀ e ∈ es, read (.ofJson (toJson e.2)) = pure e.2) :
    map read (.ofJson (.object (es.map fun e => (e.1, toJson e.2)))) = pure es :=
  members_ofJson h

/-- A text that writes a value is read as that value is. -/
theorem ofText_of_isWrittenAs {v : Json} {n : ℕ} {s : String} (hv : IsWritable n v)
    (hdepth : n ≤ greatestDepth) (hs : IsWrittenAs v s) (read : Document → Read α) :
    ofText read s = read (.ofJson v) := by
  rw [ofText, Json.Document.ofText_eq hv hdepth hs]
  exact bind_pure (read (.ofJson v))

end Read

/-! ### Records -/

section Records

variable {σ α : Type}

/-- A member of a field that was not read before. -/
lemma fillByName_member {slots : List (Slot σ)} {slot : Slot σ} {key : String} {value : Document}
    {s s' : σ} (hslot : slots.find? (fun slot => slot.answersTo key) = some slot)
    (hempty : slot.isFilled s = false) (hfill : slot.fill value s = pure s') (rest : Members) :
    fillByName slots (.member (.ok key) value rest) s = fillByName slots rest s' := by
  rw [fillByName, hslot]
  simp only [hempty, hfill, pure_bind]
  rfl

/-- A field of which the value is read as `a`. -/
lemma fill_eq_pure {β : Type} {read : Read β} {b : β} (h : read = pure b) (f : β → σ) :
    (do return f (← read)) = (pure (f b) : Read σ) := by
  rw [h, pure_bind]

/-- A member that is unknown. -/
lemma fillByName_unknown {slots : List (Slot σ)} {key : String} {value : Document}
    (hslot : slots.find? (fun slot => slot.answersTo key) = none) (hvalue : value.skipFault? = none)
    (rest : Members) (s : σ) :
    fillByName slots (.member (.ok key) value rest) s = fillByName slots rest s := by
  rw [fillByName, hslot]
  simp only [hvalue]
  rfl

/-- A record is read back if its members fill its fields and these make it up. -/
lemma RecordForm.readMembers_eq {r : RecordForm σ α} {ms : Members} {s : σ} {a : α}
    (hfill : fillByName r.slots ms r.start = pure s)
    (hfinish : r.finish .missingField s = pure a) : r.readMembers ms = pure a := by
  rw [readMembers, hfill, pure_bind, hfinish]

lemma ensures_required {β : Type} {missing : String → ReadError} {name : String} {b? : Option β}
    {P : β → Prop} (h : ∀ b ∈ b?, P b) : Read.Ensures (required missing name b?) P := by
  rw [required.eq_def]
  split
  · exact .pure (h _ rfl)
  · exact .throw _

variable {P : σ → Prop} {slots : List (Slot σ)}

/-- Fields that keep a property of the record keep it however they are ordered in an object. -/
lemma ensures_fillByName
    (hfill : ∀ slot ∈ slots, ∀ d s, P s → Read.Ensures (slot.fill d s) P) (ms : Members) {s : σ}
    (hs : P s) : Read.Ensures (fillByName slots ms s) P := by
  fun_induction fillByName slots ms s with
  | case1 => exact .pure hs
  | case2 | case3 => exact .throw _
  | case4 key value rest s hslot ih => exact .after fun _ => ih hs
  | case5 key value rest s slot hslot fill hfilled ih =>
    exact .after fun _ => .bind (hfill slot (List.mem_of_find?_eq_some hslot) value s hs) ih
  | case6 key value rest s slot hslot fill hempty ih =>
    exact .bind (hfill slot (List.mem_of_find?_eq_some hslot) value s hs) ih

/-- They also keep it in an array, where they stand in order. -/
lemma ensures_fillInOrder
    (hfill : ∀ slot ∈ slots, ∀ d s, P s → Read.Ensures (slot.fill d s) P) (is : Items) {s : σ}
    (hs : P s) : Read.Ensures (fillInOrder slots is s) fun p => P p.1 := by
  fun_induction fillInOrder slots is s with
  | case1 | case2 => exact .pure hs
  | case3 => exact .throw _
  | case4 slot slots value rest s ih =>
    rw [List.forall_mem_cons] at hfill
    exact .bind (hfill.1 value s hs) fun s hs => ih s hfill.2 hs

variable {r : RecordForm σ α} {Q : α → Prop}

lemma RecordForm.ensures_readMembers (hstart : P r.start)
    (hfill : ∀ slot ∈ r.slots, ∀ d s, P s → Read.Ensures (slot.fill d s) P)
    (hfinish : ∀ missing s, P s → Read.Ensures (r.finish missing s) Q) (ms : Members) :
    Read.Ensures (r.readMembers ms) Q :=
  .bind (ensures_fillByName hfill ms hstart) fun s hs => hfinish _ s hs

lemma RecordForm.ensures_readItems (source : Source) (hstart : P r.start)
    (hfill : ∀ slot ∈ r.slots, ∀ d s, P s → Read.Ensures (slot.fill d s) P)
    (hfinish : ∀ missing s, P s → Read.Ensures (r.finish missing s) Q) (is : Items) :
    Read.Ensures (r.readItems source is) Q := by
  refine .bind (ensures_fillInOrder hfill is hstart) fun p hp => ?_
  split
  rename_i s left
  split
  · exact .throw _
  · exact .bind (hfinish _ s hp) fun a ha => .after fun _ => .pure ha

/-- What holds of an empty record and is kept by reading a field holds of what makes up a record. -/
theorem RecordForm.ensures_read (source : Source) (hstart : P r.start)
    (hfill : ∀ slot ∈ r.slots, ∀ d s, P s → Read.Ensures (slot.fill d s) P)
    (hfinish : ∀ missing s, P s → Read.Ensures (r.finish missing s) Q) (d : Document) :
    Read.Ensures (r.read source d) Q := by
  rw [RecordForm.read.eq_def]
  split
  · exact r.ensures_readMembers hstart hfill hfinish _
  · exact r.ensures_readItems source hstart hfill hfinish _
  · exact .throw _
  · exact .throw _

end Records

end SchemaDesigner
