/-
Reading depends on the supply of identities only by the identities that are drawn.

* `Read.IsSteady`: a reader that never goes back in the supply, and that gives the same from every
  supply if it draws nothing;
* `Read.IsSteady.bind`: steadiness is kept by composition, with one lemma for each way to compose
  readers;
* `Column.isSteady_read`, `Table.isSteady_read`, `Tables.isSteady_ofText`: columns and tables are
  read steadily;
* `Tables.ofText_eq_pure`: tables that were read without drawing an identity are read from every
  supply.
-/
import SchemaDesigner.Proofs.Wire.Reading
import SchemaDesigner.Wire.Table

namespace SchemaDesigner

open Json (Document Items Members)

namespace Read

variable {α β : Type} {x : Read α} {read : Document → Read α}

/-- The reader never goes back in the supply of identities, and where it draws none it gives the
same from every supply. -/
def IsSteady (x : Read α) : Prop :=
  ∀ ids a ids', x ids = .ok (a, ids') → ids.next ≤ ids'.next ∧ (ids' = ids → x = pure a)

namespace IsSteady

/-- A value without reading is the same from every supply. -/
lemma pure (a : α) : IsSteady (Pure.pure a) := by
  rintro ids b ids' ⟨⟩
  exact ⟨Nat.le_refl _, fun _ => rfl⟩

/-- A refusal gives nothing that could depend on the supply. -/
lemma throw (e : ReadError) : IsSteady (throw e : Read α) := by
  rintro ids b ids' ⟨⟩

/-- If both readers together draw nothing, neither of them does. -/
lemma bind {f : α → Read β} (hx : IsSteady x) (hf : ∀ a, IsSteady (f a)) : IsSteady (x >>= f) := by
  intro ids b ids' h
  obtain ⟨a, mid, hfirst, hsecond⟩ := bind_eq_ok.mp h
  obtain ⟨hle, hpure⟩ := hx ids a mid hfirst
  obtain ⟨hle', hpure'⟩ := hf a mid b ids' hsecond
  refine ⟨Nat.le_trans hle hle', ?_⟩
  rintro rfl
  obtain rfl : mid = ids' := congrArg IdSupply.mk (Nat.le_antisymm hle' hle)
  rw [hpure rfl, pure_bind]
  exact hpure' rfl

lemma map {f : α → β} (hx : IsSteady x) : IsSteady (f <$> x) := by
  rw [map_eq_pure_bind]
  exact hx.bind fun a => .pure (f a)

/-- Another error in the place of one makes no difference. -/
lemma tryCatch_throw (hx : IsSteady x) (e : ReadError) :
    IsSteady (tryCatch x fun _ => MonadExcept.throw e) := by
  intro ids a ids' h
  have hcatch : tryCatch (x ids) (fun _ => Except.error e) = .ok (a, ids') := h
  cases hfirst : x ids with
  | error e' =>
    rw [hfirst] at hcatch
    cases hcatch
  | ok p =>
    rw [hfirst] at hcatch
    obtain rfl := Except.ok.inj hcatch
    obtain ⟨hle, hpure⟩ := hx ids a ids' hfirst
    refine ⟨hle, fun heq => ?_⟩
    rw [hpure heq]
    rfl

end IsSteady

/-! ### Plain values -/

/-- Drawing an identity moves the supply on, so that there is nothing to show. -/
lemma isSteady_freshId : IsSteady freshId := by
  rintro ids a ids' h
  obtain rfl : (⟨ids.next + 1⟩ : IdSupply) = ids' := (Prod.mk.inj (Except.ok.inj h)).2
  refine ⟨Nat.le_succ _, fun heq => ?_⟩
  exact absurd (congrArg IdSupply.next heq) (Nat.succ_ne_self _)

lemma isSteady_unlessFault (fault? : Option Json.Fault) : IsSteady (unlessFault fault?) := by
  cases fault? with
  | none => exact .pure ()
  | some fault => exact .throw _

/-- Texts are read without the supply. -/
lemma isSteady_text (d : Document) : IsSteady (text d) := by
  rw [text, textAs.eq_def]
  split
  · exact .pure _
  · exact .throw _

lemma isSteady_flag (d : Document) : IsSteady (flag d) := by
  rw [flag.eq_def]
  split
  · exact .pure _
  · exact .throw _

lemma isSteady_float (d : Document) : IsSteady (float d) := by
  rw [float.eq_def]
  split
  · exact .pure _
  · exact .throw _

/-- A value that may be missing is read as steadily as the value. -/
lemma isSteady_option (h : ∀ d, IsSteady (read d)) (d : Document) : IsSteady (option read d) := by
  rw [option.eq_def]
  split
  · exact .pure _
  · exact (h d).map

/-! ### Lists and texts -/

/-- A list is read steadily if its elements are, whatever their number. -/
lemma isSteady_items (h : ∀ d, IsSteady (read d)) (is : Items) : IsSteady (items read is) := by
  fun_induction items read is with
  | case1 => exact .pure _
  | case2 kept skipped => exact .throw _
  | case3 value rest ih => exact (h value).bind fun _ => ih.bind fun _ => .pure _

lemma isSteady_list (h : ∀ d, IsSteady (read d)) (d : Document) : IsSteady (list read d) := by
  rw [list.eq_def]
  split
  · exact isSteady_items h _
  · exact .throw _

/-- So is the document of a text, with nothing behind it. -/
lemma isSteady_ofText (h : ∀ d, IsSteady (read d)) (s : String) : IsSteady (ofText read s) := by
  rw [ofText]
  refine (h _).bind fun a => ?_
  dsimp only
  split_ifs
  · exact (IsSteady.throw _).bind fun _ => .pure a
  · exact .pure a

end Read

/-! ### Records -/

section Records

open Read (IsSteady)

variable {σ α : Type} {slots : List (Slot σ)}

/-- Whether a field is there does not depend on the supply. -/
lemma isSteady_required (missing : String → ReadError) (name : String) (a? : Option α) :
    IsSteady (required missing name a?) := by
  cases a? with
  | none => exact .throw _
  | some a => exact .pure a

/-- Fields by name are read steadily, in any order and with unknown names among them. -/
lemma isSteady_fillByName (hfill : ∀ slot ∈ slots, ∀ d s, IsSteady (slot.fill d s)) (ms : Members)
    (s : σ) : IsSteady (fillByName slots ms s) := by
  fun_induction fillByName slots ms s with
  | case1 => exact .pure _
  | case2 | case3 => exact .throw _
  | case4 key value rest s hslot ih => exact (Read.isSteady_unlessFault _).bind fun _ => ih
  | case5 key value rest s slot hslot fill hfilled ih =>
    exact (IsSteady.throw _).bind fun _ =>
      (hfill slot (List.mem_of_find?_eq_some hslot) value s).bind ih
  | case6 key value rest s slot hslot fill hempty ih =>
    exact (hfill slot (List.mem_of_find?_eq_some hslot) value s).bind ih

/-- So are fields in their order. -/
lemma isSteady_fillInOrder (hfill : ∀ slot ∈ slots, ∀ d s, IsSteady (slot.fill d s)) (is : Items)
    (s : σ) : IsSteady (fillInOrder slots is s) := by
  fun_induction fillInOrder slots is s with
  | case1 | case2 => exact .pure _
  | case3 => exact .throw _
  | case4 slot slots value rest s ih =>
    rw [List.forall_mem_cons] at hfill
    exact (hfill.1 value s).bind fun s => ih s hfill.2

/-- Elements that are left over refuse the record or not, without the supply. -/
lemma isSteady_checkEnd (source : Source) (count : ℕ) (left : Items) :
    IsSteady (checkEnd source count left) := by
  cases source with
  | text => exact Read.isSteady_unlessFault _
  | buffer =>
    rw [checkEnd.eq_def]
    dsimp only
    split
    · exact .pure ()
    · exact .throw _

namespace RecordForm

variable {r : RecordForm σ α}

lemma isSteady_readMembers (hfill : ∀ slot ∈ r.slots, ∀ d s, IsSteady (slot.fill d s))
    (hfinish : ∀ missing s, IsSteady (r.finish missing s)) (ms : Members) :
    IsSteady (r.readMembers ms) :=
  (isSteady_fillByName hfill ms r.start).bind fun s => hfinish _ s

/-- A record is read steadily if each of its fields is and what makes it up is. -/
theorem isSteady_read (source : Source) (hfill : ∀ slot ∈ r.slots, ∀ d s, IsSteady (slot.fill d s))
    (hfinish : ∀ missing s, IsSteady (r.finish missing s)) (d : Document) :
    IsSteady (r.read source d) := by
  rw [read.eq_def]
  split
  · exact r.isSteady_readMembers hfill hfinish _
  · rename_i is
    refine (isSteady_fillInOrder hfill is r.start).bind fun p => ?_
    split
    rename_i s left
    split
    · exact .throw _
    · exact (hfinish _ s).bind fun a => (isSteady_checkEnd source _ left).bind fun _ => .pure a
  · exact .throw _
  · exact .throw _

end RecordForm

end Records

/-! ### Columns and tables -/

open Read (isSteady_text isSteady_flag isSteady_float isSteady_option)

/-- An identity that is there is read as it is. -/
lemma ColumnId.isSteady_read? (d : Document) : Read.IsSteady (ColumnId.read? d) := by
  rw [read?.eq_def]
  refine (Read.isSteady_unlessFault _).bind fun _ => ?_
  split
  · exact .pure _
  · exact .pure _
  · exact .pure _
  · exact .throw _

lemma ReferenceFields.isSteady_readMembers (ms : Members) :
    Read.IsSteady (form.readMembers ms) := by
  refine form.isSteady_readMembers ?_ ?_ ms
  · intro slot hslot d s
    simp only [form, List.mem_cons, List.not_mem_nil, or_false] at hslot
    rcases hslot with rfl | rfl
    all_goals exact (isSteady_text d).bind fun _ => .pure _
  · exact fun missing s => (isSteady_required missing _ _).bind fun _ =>
      (isSteady_required missing _ _).bind fun _ => .pure _

/-- A mark of a reference is read in any of its forms, without the supply. -/
lemma ReferenceMark.isSteady_read? (d : Document) : Read.IsSteady (ReferenceMark.read? d) := by
  rw [read?.eq_def]
  refine (Read.isSteady_unlessFault _).bind fun _ => ?_
  dsimp only
  split
  · exact .pure _
  · exact .pure _
  · exact ((ReferenceFields.isSteady_readMembers _).tryCatch_throw _).map
  · exact .throw _

namespace Column

/-- The fields of a column are read steadily, and an identity is drawn only if there is none. -/
lemma isSteady_read (source : Source) (d : Document) : Read.IsSteady (Column.read source d) := by
  refine RecordForm.isSteady_read source ?_ ?_ d
  · intro slot hslot d s
    simp only [ColumnFields.form, ColumnFields.slots, List.mem_cons, List.not_mem_nil, or_false]
      at hslot
    rcases hslot with rfl | rfl | rfl | rfl | rfl | rfl | rfl | rfl | rfl | rfl | rfl | rfl | rfl
    · exact (ColumnId.isSteady_read? d).bind fun _ => .pure _
    · exact (isSteady_text d).bind fun _ => .pure _
    · exact (isSteady_text d).bind fun _ => .pure _
    · exact (isSteady_option isSteady_text d).bind fun _ => .pure _
    · exact (isSteady_option isSteady_flag d).bind fun _ => .pure _
    · exact (isSteady_option isSteady_flag d).bind fun _ => .pure _
    · exact (isSteady_flag d).bind fun _ => .pure _
    · exact (isSteady_flag d).bind fun _ => .pure _
    · exact (isSteady_flag d).bind fun _ => .pure _
    · exact (ReferenceMark.isSteady_read? d).bind fun _ => .pure _
    all_goals exact (isSteady_option isSteady_text d).bind fun _ => .pure _
  · refine fun missing s => (isSteady_required missing _ _).bind fun name => ?_
    dsimp only
    split
    · exact (Read.IsSteady.pure _).bind fun _ => .pure _
    · exact Read.isSteady_freshId.map.bind fun _ => .pure _

end Column

/-- The place of a table has two numbers, which are read steadily. -/
lemma Position.isSteady_read (source : Source) (d : Document) :
    Read.IsSteady (Position.read source d) := by
  refine RecordForm.isSteady_read source ?_ ?_ d
  · intro slot hslot d s
    simp only [PositionFields.form, List.mem_cons, List.not_mem_nil, or_false] at hslot
    rcases hslot with rfl | rfl
    all_goals exact (isSteady_float d).bind fun _ => .pure _
  · exact fun missing s => (isSteady_required missing _ _).bind fun _ =>
      (isSteady_required missing _ _).bind fun _ => .pure _

namespace Table

/-- The fields of a table are read steadily, and an identity is drawn only if there is none. -/
lemma isSteady_read (source : Source) (d : Document) : Read.IsSteady (Table.read source d) := by
  refine RecordForm.isSteady_read source ?_ ?_ d
  · intro slot hslot d s
    simp only [TableFields.form, TableFields.slots, List.mem_cons, List.not_mem_nil, or_false]
      at hslot
    rcases hslot with rfl | rfl | rfl | rfl | rfl
    · exact (isSteady_text d).map.bind fun _ => .pure _
    · exact (isSteady_text d).bind fun _ => .pure _
    · exact (Read.isSteady_list (Column.isSteady_read source) d).bind fun _ => .pure _
    · exact (isSteady_option isSteady_text d).bind fun _ => .pure _
    · exact (Position.isSteady_read source d).bind fun _ => .pure _
  · refine fun missing s => (isSteady_required missing _ _).bind fun name => ?_
    dsimp only
    split
    · exact (Read.IsSteady.pure _).bind fun _ => .pure _
    · exact Read.isSteady_freshId.map.bind fun _ => .pure _

end Table

namespace Tables

/-- Tables are read from a text as steadily as each of them. -/
lemma isSteady_ofText (s : String) : Read.IsSteady (Tables.ofText s) :=
  Read.isSteady_ofText (Read.isSteady_list (Table.isSteady_read .text)) s

/-- Tables that were read without drawing an identity are read from every supply. -/
theorem ofText_eq_pure {s : String} {ids : IdSupply} {ts : List Table}
    (h : Tables.ofText s ids = .ok (ts, ids)) : Tables.ofText s = pure ts :=
  (isSteady_ofText s ids ts ids h).2 rfl

end Tables

end SchemaDesigner
