/-
Where the fields of a record come from: each one that was read is the value of one member.

* `Members.value?`, `Items.value?`, `Document.field?`: the value of a field, which has its name in
  an object and its place in an array;
* `Read.DrawsNothing`: a reader that leaves the supply of identities as it is;
* `Slot.Reads`, `Slot.Leaves`: a field that is what a reader gives, and one that has no part in it;
* `RecordForm.HasField`: a record with such a field, all others of which have no part in it;
* `RecordForm.HasField.exists_value`: a record that was read with the field has been read from a
  document with its value.
-/
import SchemaDesigner.Proofs.Wire.Reading
import SchemaDesigner.Wire.Table

namespace SchemaDesigner

open Json (Document Items Members)

/-! ### Values of fields -/

namespace Json

/-- The value of the first member with the key. -/
def Members.value? (key : String) : Members → Option Document
  | .member (.ok k) value rest => if k = key then some value else rest.value? key
  | _ => none

/-- The value of the item at a place. -/
def Items.value? : ℕ → Items → Option Document
  | 0, .item value _ => some value
  | place + 1, .item _ rest => rest.value? place
  | _, _ => none

/-- The value of the field of a record, which has its name in an object and its place in an
array. -/
def Document.field? (place : ℕ) (key : String) : Document → Option Document
  | .object ms => ms.value? key
  | .array is => is.value? place
  | _ => none

end Json

/-! ### Readers that draw nothing -/

namespace Read

variable {α β : Type} {x : Read α}

/-- The reader draws no identity. -/
def DrawsNothing (x : Read α) : Prop :=
  ∀ ids a ids', x ids = .ok (a, ids') → ids' = ids

namespace DrawsNothing

lemma pure (a : α) : DrawsNothing (Pure.pure a) := by
  rintro ids b ids' ⟨⟩
  rfl

lemma throw (e : ReadError) : DrawsNothing (throw e : Read α) := by
  rintro ids b ids' ⟨⟩

/-- Readers that draw nothing draw nothing one after the other. -/
lemma bind {f : α → Read β} (hx : DrawsNothing x) (hf : ∀ a, DrawsNothing (f a)) :
    DrawsNothing (x >>= f) := by
  intro ids b ids' h
  obtain ⟨a, mid, hfirst, hsecond⟩ := bind_eq_ok.mp h
  exact (hf a mid b ids' hsecond).trans (hx ids a mid hfirst)

lemma map {f : α → β} (hx : DrawsNothing x) : DrawsNothing (f <$> x) := by
  rw [map_eq_pure_bind]
  exact hx.bind fun a => .pure (f a)

end DrawsNothing

lemma drawsNothing_text (d : Document) : DrawsNothing (text d) := by
  rw [text, textAs.eq_def]
  split
  · exact .pure _
  · exact .throw _

lemma drawsNothing_float (d : Document) : DrawsNothing (float d) := by
  rw [float.eq_def]
  split
  · exact .pure _
  · exact .throw _

lemma drawsNothing_unlessFault (fault? : Option Json.Fault) :
    DrawsNothing (unlessFault fault?) := by
  cases fault? with
  | none => exact .pure ()
  | some fault => exact .throw _

end Read

lemma drawsNothing_required {β : Type} (missing : String → ReadError) (name : String)
    (b? : Option β) : Read.DrawsNothing (required missing name b?) := by
  cases b? with
  | none => exact .throw _
  | some b => exact .pure b

section Records

open Read (DrawsNothing)

variable {σ α : Type} {slots : List (Slot σ)}

/-- Fields that draw nothing draw nothing together. -/
lemma drawsNothing_fillByName (hfill : ∀ slot ∈ slots, ∀ d s, DrawsNothing (slot.fill d s))
    (ms : Members) (s : σ) : DrawsNothing (fillByName slots ms s) := by
  fun_induction fillByName slots ms s with
  | case1 => exact .pure _
  | case2 | case3 => exact .throw _
  | case4 key value rest s hslot ih => exact (Read.drawsNothing_unlessFault _).bind fun _ => ih
  | case5 key value rest s slot hslot fill hfilled ih =>
    exact (DrawsNothing.throw _).bind fun _ =>
      (hfill slot (List.mem_of_find?_eq_some hslot) value s).bind ih
  | case6 key value rest s slot hslot fill hempty ih =>
    exact (hfill slot (List.mem_of_find?_eq_some hslot) value s).bind ih

lemma drawsNothing_fillInOrder (hfill : ∀ slot ∈ slots, ∀ d s, DrawsNothing (slot.fill d s))
    (is : Items) (s : σ) : DrawsNothing (fillInOrder slots is s) := by
  fun_induction fillInOrder slots is s with
  | case1 | case2 => exact .pure _
  | case3 => exact .throw _
  | case4 slot slots value rest s ih =>
    rw [List.forall_mem_cons] at hfill
    exact (hfill.1 value s).bind fun s => ih s hfill.2

lemma drawsNothing_checkEnd (source : Source) (count : ℕ) (left : Items) :
    DrawsNothing (checkEnd source count left) := by
  cases source with
  | text => exact Read.drawsNothing_unlessFault _
  | buffer =>
    rw [checkEnd.eq_def]
    dsimp only
    split
    · exact .pure ()
    · exact .throw _

/-- A record of fields that draw nothing draws nothing. -/
lemma RecordForm.drawsNothing_read {r : RecordForm σ α} (source : Source)
    (hfill : ∀ slot ∈ r.slots, ∀ d s, DrawsNothing (slot.fill d s))
    (hfinish : ∀ missing s, DrawsNothing (r.finish missing s)) (d : Document) :
    DrawsNothing (r.read source d) := by
  rw [read.eq_def]
  split
  · exact (drawsNothing_fillByName hfill _ _).bind fun s => hfinish _ s
  · refine (drawsNothing_fillInOrder hfill _ _).bind fun p => ?_
    split
    split
    · exact .throw _
    · exact (hfinish _ _).bind fun a => (drawsNothing_checkEnd source _ _).bind fun _ => .pure a
  · exact .throw _
  · exact .throw _

end Records

lemma Position.drawsNothing_read (source : Source) (d : Document) :
    Read.DrawsNothing (Position.read source d) := by
  refine RecordForm.drawsNothing_read source ?_ ?_ d
  · intro slot hslot d s
    simp only [PositionFields.form, List.mem_cons, List.not_mem_nil, or_false] at hslot
    rcases hslot with rfl | rfl
    all_goals exact (Read.drawsNothing_float d).bind fun _ => .pure _
  · exact fun missing s => (drawsNothing_required missing _ _).bind fun _ =>
      (drawsNothing_required missing _ _).bind fun _ => .pure _

/-! ### Fields and their readers -/

section Fields

variable {σ α β : Type}

/-- A member of a field that was not read before is read first. -/
lemma fillByName_bind {slots : List (Slot σ)} {slot : Slot σ} {key : String} {value : Document}
    {s : σ} (hslot : slots.find? (fun slot => slot.answersTo key) = some slot)
    (hempty : slot.isFilled s = false) (rest : Members) :
    fillByName slots (.member (.ok key) value rest) s
      = slot.fill value s >>= fillByName slots rest := by
  rw [fillByName, hslot]
  simp only [hempty]
  rfl

/-- The field is what the reader gives, and `get` shows it. -/
structure Slot.Reads (read : Document → Read β) (get : σ → Option β) (slot : Slot σ) : Prop where
  isFilled : ∀ s, slot.isFilled s = (get s).isSome
  fill : ∀ d s ids s' ids', slot.fill d s ids = .ok (s', ids') →
    ∃ b, read d ids = .ok (b, ids') ∧ get s' = some b

/-- The field has no part in what `get` shows, and takes the supply of identities along `R`. -/
def Slot.Leaves (get : σ → Option β) (R : IdSupply → IdSupply → Prop) (slot : Slot σ) : Prop :=
  ∀ d s ids s' ids', slot.fill d s ids = .ok (s', ids') → get s' = get s ∧ R ids ids'

/-- A field of one name answers to that name. -/
lemma Slot.answersTo_iff {slot : Slot σ} (h : slot.otherName = none) (key : String) :
    slot.answersTo key = true ↔ key = slot.name := by
  rw [answersTo, h, Bool.or_eq_true, beq_iff_eq, beq_iff_eq]
  exact ⟨fun hkey => hkey.elim Eq.symm nofun, fun hkey => .inl hkey.symm⟩

/-- A field that is filled with what a reader gives. -/
lemma Slot.reads_of_fill {slot : Slot σ} {read : Document → Read β} {get : σ → Option β}
    (put : σ → β → σ) (hfilled : ∀ s, slot.isFilled s = (get s).isSome)
    (hfill : ∀ d s, slot.fill d s = (do return put s (← read d)))
    (hput : ∀ s b, get (put s b) = some b) : slot.Reads read get := by
  refine ⟨hfilled, fun d s ids s' ids' h => ?_⟩
  rw [hfill] at h
  obtain ⟨b, mid, hread, ⟨⟩⟩ := Read.bind_eq_ok.mp h
  exact ⟨b, hread, hput s b⟩

/-- A field that is put where `get` does not look leaves what it shows. -/
lemma Slot.leaves_of_fill {γ : Type} {slot : Slot σ} {read : Document → Read γ}
    {get : σ → Option β} {R : IdSupply → IdSupply → Prop} {put : σ → γ → σ}
    (hfill : ∀ d s, slot.fill d s = (do return put s (← read d)))
    (hput : ∀ s b, get (put s b) = get s)
    (hR : ∀ d ids b ids', read d ids = .ok (b, ids') → R ids ids') : slot.Leaves get R := by
  intro d s ids s' ids' h
  rw [hfill] at h
  obtain ⟨b, mid, hread, ⟨⟩⟩ := Read.bind_eq_ok.mp h
  exact ⟨hput s b, hR d ids b _ hread⟩

/-- Any two supplies. -/
def anySupplies (_ _ : IdSupply) : Prop := True

lemma Slot.leaves_of_any {γ : Type} {slot : Slot σ} {read : Document → Read γ}
    {get : σ → Option β} {put : σ → γ → σ}
    (hfill : ∀ d s, slot.fill d s = (do return put s (← read d)))
    (hput : ∀ s b, get (put s b) = get s) : slot.Leaves get anySupplies :=
  Slot.leaves_of_fill hfill hput fun _ _ _ _ _ => trivial

/-- If its reader draws nothing, it leaves the supply of identities as well. -/
lemma Slot.leaves_of_drawsNothing {γ : Type} {slot : Slot σ} {read : Document → Read γ}
    {get : σ → Option β} {put : σ → γ → σ}
    (hfill : ∀ d s, slot.fill d s = (do return put s (← read d)))
    (hput : ∀ s b, get (put s b) = get s) (hread : ∀ d, (read d).DrawsNothing) :
    slot.Leaves get Eq :=
  Slot.leaves_of_fill hfill hput fun d ids b ids' h => (hread d ids b ids' h).symm

/-- The fields before and after one field, which is what the reader gives, have no part in it. -/
structure HasField (slots before : List (Slot σ)) (slot : Slot σ) (after : List (Slot σ))
    (key : String) (read : Document → Read β) (get : σ → Option β)
    (R : IdSupply → IdSupply → Prop) : Prop where
  slots_eq : slots = before ++ slot :: after
  refl : ∀ ids, R ids ids
  trans : ∀ ids mid ids', R ids mid → R mid ids' → R ids ids'
  answersTo : ∀ k, slot.answersTo k = true ↔ k = key
  reads : slot.Reads read get
  others : ∀ other, other ∈ before ∨ other ∈ after →
    other.answersTo key = false ∧ other.Leaves get R

namespace HasField

variable {slots before after : List (Slot σ)} {slot : Slot σ} {key : String}
  {read : Document → Read β} {get : σ → Option β} {R : IdSupply → IdSupply → Prop}
  {s s' : σ} {ids ids' : IdSupply} {b : β}

/-- What the reader gave of a value, on the way from one supply to another. -/
def Gave (read : Document → Read β) (R : IdSupply → IdSupply → Prop) (ids ids' : IdSupply)
    (value? : Option Document) (b : β) : Prop :=
  ∃ d mid mid', value? = some d ∧ R ids mid ∧ read d mid = .ok (b, mid') ∧ R mid' ids'

/-- Each field of the record is the one in question, or it stands before or after it. -/
lemma mem (h : HasField slots before slot after key read get R) {other : Slot σ}
    (hother : other ∈ slots) : other = slot ∨ other ∈ before ∨ other ∈ after := by
  rw [h.slots_eq, List.mem_append, List.mem_cons] at hother
  rcases hother with hbefore | rfl | hafter
  · exact .inr (.inl hbefore)
  · exact .inl rfl
  · exact .inr (.inr hafter)

/-- Of the fields, only the one in question answers to its key. -/
lemma find?_cases (h : HasField slots before slot after key read get R) {k : String}
    {found : Slot σ} (hfound : slots.find? (fun slot => slot.answersTo k) = some found) :
    (k = key ∧ found = slot) ∨ (k ≠ key ∧ found.Leaves get R) := by
  have hanswers := List.find?_some (p := fun slot : Slot σ => slot.answersTo k) hfound
  rcases h.mem (List.mem_of_find?_eq_some hfound) with rfl | hother
  · exact .inl ⟨(h.answersTo k).mp hanswers, rfl⟩
  · obtain ⟨hkey, hleaves⟩ := h.others found hother
    refine .inr ⟨?_, hleaves⟩
    rintro rfl
    exact absurd hanswers (by simp [hkey])

/-- Once the field is filled, the rest of an object leaves it as it is. -/
lemma leaves_fillByName (h : HasField slots before slot after key read get R) {ms : Members}
    (hs : get s = some b) (hfill : fillByName slots ms s ids = .ok (s', ids')) :
    get s' = some b ∧ R ids ids' := by
  fun_induction fillByName slots ms s generalizing ids with
  | case1 s =>
    cases hfill
    exact ⟨hs, h.refl _⟩
  | case2 | case3 => cases hfill
  | case4 k value rest s hslot ih =>
    obtain ⟨_, mid, hskip, hrest⟩ := Read.bind_eq_ok.mp hfill
    obtain rfl := Read.drawsNothing_unlessFault _ ids _ mid hskip
    exact ih hs hrest
  | case5 => cases hfill
  | case6 k value rest s found hslot go hempty =>
    rename_i ih
    obtain ⟨t, mid, hfirst, hrest⟩ := Read.bind_eq_ok.mp hfill
    rcases h.find?_cases hslot with ⟨-, rfl⟩ | ⟨-, hleaves⟩
    · simp [h.reads.isFilled, hs] at hempty
    · obtain ⟨hget, hR⟩ := hleaves value s ids t mid hfirst
      obtain ⟨hget', hR'⟩ := ih t (hget.trans hs) hrest
      exact ⟨hget', h.trans _ _ _ hR hR'⟩

/-- What an object fills the field with is the value of the member with its key. -/
lemma gave_fillByName (h : HasField slots before slot after key read get R) {ms : Members}
    (hs : get s = none) (hfill : fillByName slots ms s ids = .ok (s', ids'))
    (hs' : get s' = some b) : Gave read R ids ids' (ms.value? key) b := by
  fun_induction fillByName slots ms s generalizing ids with
  | case1 s =>
    cases hfill
    exact absurd (hs.symm.trans hs') (Option.some_ne_none b).symm
  | case2 | case3 => cases hfill
  | case4 k value rest s hslot ih =>
    obtain ⟨_, mid, hskip, hrest⟩ := Read.bind_eq_ok.mp hfill
    obtain rfl := Read.drawsNothing_unlessFault _ ids _ mid hskip
    have hne : k ≠ key := by
      rintro rfl
      have hmem : slot ∈ slots := h.slots_eq ▸ List.mem_append_right _ List.mem_cons_self
      exact List.find?_eq_none.mp hslot slot hmem ((h.answersTo k).mpr rfl)
    rw [Members.value?, if_neg hne]
    exact ih hs hrest
  | case5 => cases hfill
  | case6 k value rest s found hslot go hempty =>
    rename_i ih
    obtain ⟨t, mid, hfirst, hrest⟩ := Read.bind_eq_ok.mp hfill
    rcases h.find?_cases hslot with ⟨rfl, rfl⟩ | ⟨hne, hleaves⟩
    · obtain ⟨b', hread, hb'⟩ := h.reads.fill value s ids t mid hfirst
      obtain ⟨hsame, hR⟩ := h.leaves_fillByName hb' hrest
      obtain rfl := Option.some.inj (hsame.symm.trans hs')
      refine ⟨value, ids, mid, ?_, h.refl ids, hread, hR⟩
      rw [Members.value?, if_pos rfl]
    · obtain ⟨hget, hR⟩ := hleaves value s ids t mid hfirst
      obtain ⟨d, start, finish, hvalue, hstart, hread⟩ := ih t (hget.trans hs) hrest
      rw [Members.value?, if_neg hne]
      exact ⟨d, start, finish, hvalue, h.trans _ _ _ hR hstart, hread⟩

/-- Fields that have no part in `get`, in an array. -/
lemma leaves_fillInOrder {others : List (Slot σ)} {is left : Items} (hrefl : ∀ ids, R ids ids)
    (htrans : ∀ ids mid ids', R ids mid → R mid ids' → R ids ids')
    (hothers : ∀ other ∈ others, other.Leaves get R)
    (hfill : fillInOrder others is s ids = .ok ((s', left), ids')) :
    get s' = get s ∧ R ids ids' := by
  fun_induction fillInOrder others is s generalizing ids with
  | case1 | case2 =>
    cases hfill
    exact ⟨rfl, hrefl _⟩
  | case3 => cases hfill
  | case4 first others value rest s ih =>
    obtain ⟨t, mid, hfirst, hrest⟩ := Read.bind_eq_ok.mp hfill
    rw [List.forall_mem_cons] at hothers
    obtain ⟨hget, hR⟩ := hothers.1 value s ids t mid hfirst
    obtain ⟨hget', hR'⟩ := ih t hothers.2 hrest
    exact ⟨hget'.trans hget, htrans _ _ _ hR hR'⟩

/-- What an array fills the field with is the item at its place. -/
lemma gave_fillInOrder (h : HasField slots before slot after key read get R) {is left : Items}
    (hs : get s = none) (hfill : fillInOrder slots is s ids = .ok ((s', left), ids'))
    (hs' : get s' = some b) : Gave read R ids ids' (is.value? before.length) b := by
  obtain ⟨rfl, hrefl, htrans, -, hreads, hothers⟩ := h
  induction before generalizing is s ids with
  | nil =>
    cases is with
    | close =>
      cases hfill
      exact absurd (hs.symm.trans hs') (Option.some_ne_none b).symm
    | stop kept skipped => cases hfill
    | item value rest =>
      obtain ⟨t, mid, hfirst, hrest⟩ := Read.bind_eq_ok.mp hfill
      obtain ⟨b', hread, hb'⟩ := hreads.fill value s ids t mid hfirst
      obtain ⟨hsame, hR⟩ := leaves_fillInOrder hrefl htrans
        (fun other hother => (hothers other (.inr hother)).2) hrest
      obtain rfl := Option.some.inj (hb'.symm.trans (hsame.symm.trans hs'))
      exact ⟨value, ids, mid, rfl, hrefl ids, hread, hR⟩
  | cons first before ih =>
    cases is with
    | close =>
      cases hfill
      exact absurd (hs.symm.trans hs') (Option.some_ne_none b).symm
    | stop kept skipped => cases hfill
    | item value rest =>
      obtain ⟨t, mid, hfirst, hrest⟩ := Read.bind_eq_ok.mp hfill
      obtain ⟨hget, hR⟩ := (hothers first (.inl List.mem_cons_self)).2 value s ids t mid hfirst
      obtain ⟨d, start, finish, hvalue, hstart, hread⟩ := ih (hget.trans hs)
        (fun other hother => hothers other (hother.imp_left (List.mem_cons_of_mem _))) hrest
      exact ⟨d, start, finish, hvalue, htrans _ _ _ hR hstart, hread⟩

/-- A record that was read with the field has been read from a document with its value. -/
theorem exists_value {α : Type} {r : RecordForm σ α} {source : Source} {d : Document} {a : α}
    (h : HasField r.slots before slot after key read get R) (hstart : get r.start = none)
    (hfinish : ∀ missing s ids ids', r.finish missing s ids = .ok (a, ids') →
      get s = some b ∧ R ids ids')
    (hread : r.read source d ids = .ok (a, ids')) :
    Gave read R ids ids' (d.field? before.length key) b := by
  rw [RecordForm.read.eq_def] at hread
  split at hread
  · obtain ⟨s, mid, hfill, hrest⟩ := Read.bind_eq_ok.mp hread
    obtain ⟨hget, hR⟩ := hfinish _ s mid ids' hrest
    obtain ⟨v, start, finish, hvalue, hbegin, hgave, hend⟩ := h.gave_fillByName hstart hfill hget
    exact ⟨v, start, finish, hvalue, hbegin, hgave, h.trans _ _ _ hend hR⟩
  · obtain ⟨⟨s, left⟩, mid, hfill, hrest⟩ := Read.bind_eq_ok.mp hread
    dsimp only at hrest
    cases hmissing : r.slots.find? fun slot => !slot.optional && !slot.isFilled s with
    | some missing =>
      rw [hmissing] at hrest
      cases hrest
    | none =>
      rw [hmissing] at hrest
      obtain ⟨a', mid', hmake, hcheck⟩ := Read.bind_eq_ok.mp hrest
      obtain ⟨_, mid'', hend, ⟨⟩⟩ := Read.bind_eq_ok.mp hcheck
      obtain rfl := drawsNothing_checkEnd source _ _ mid' _ _ hend
      obtain ⟨hget, hR⟩ := hfinish _ s mid _ hmake
      obtain ⟨v, start, finish, hvalue, hbegin, hgave, hlast⟩ :=
        h.gave_fillInOrder hstart hfill hget
      exact ⟨v, start, finish, hvalue, hbegin, hgave, h.trans _ _ _ hlast hR⟩
  · cases hread
  · cases hread

end HasField

end Fields

end SchemaDesigner
