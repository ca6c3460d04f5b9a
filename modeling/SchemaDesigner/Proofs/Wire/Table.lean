/-
Tables in documents: what is read has storable columns, and such tables are read back.

* `Position.IsReadBack`: both coordinates are read back as numbers;
* `Table.IsStorable`, `Table.ensures_read`: all columns are storable, and so they are when read;
* `Table.read_toJson`: a table with storable columns is read back from its record;
* `Tables.ofText_toText`: a list of such tables is read back from its text.
-/
import SchemaDesigner.Proofs.Wire.Column
import SchemaDesigner.Wire.Table

namespace SchemaDesigner

open Json (Document Items Members IsWritable)

/-! ### Places -/

namespace Position

variable {p : Position}

/-- Both coordinates are read back as numbers. -/
def IsReadBack (p : Position) : Prop :=
  Json.IsReadBack p.x ∧ Json.IsReadBack p.y

instance (p : Position) : Decidable p.IsReadBack :=
  inferInstanceAs (Decidable (_ ∧ _))

/-- A place that is read back is writable. -/
lemma isWritable_toJson (n : ℕ) (h : p.IsReadBack) : IsWritable (n + 1) p.toJson := by
  refine .object ?_
  simp only [List.forall_mem_cons]
  exact ⟨.number _ h.1, .number _ h.2, fun _ h => nomatch h⟩

end Position

/-! ### Tables -/

/-- All columns are in the form in which reading leaves them. -/
def Table.IsStorable (t : Table) : Prop :=
  ∀ c ∈ t.columns, c.IsStorable

namespace TableFields

/-- The columns are storable, as far as they were read. -/
def IsSound (s : TableFields) : Prop :=
  ∀ cs ∈ s.columns, ∀ c ∈ cs, c.IsStorable

/-- No field of a table makes its columns unsound. -/
lemma ensures_fill (source : Source) :
    ∀ slot ∈ slots source, ∀ d s, IsSound s → Read.Ensures (slot.fill d s) IsSound := by
  intro slot hslot d s hs
  simp only [slots, List.mem_cons, List.not_mem_nil, or_false] at hslot
  rcases hslot with rfl | rfl | rfl | rfl | rfl
  case inr.inr.inl =>
    exact .bind (Read.ensures_list (Column.ensures_read source) d) fun cs hcs =>
      .pure fun cs' h => Option.some.inj h ▸ hcs
  all_goals exact .after fun _ => .pure hs

lemma ensures_finish (source : Source) (missing : String → ReadError) (s : TableFields)
    (hs : s.IsSound) : Read.Ensures ((form source).finish missing s) Table.IsStorable := by
  have hcolumns : ∀ c ∈ s.columns.getD [], c.IsStorable := by
    cases hc : s.columns with
    | none => exact fun _ h => nomatch h
    | some cs => exact hs cs hc
  refine .after fun name => ?_
  dsimp only
  split
  · exact .after fun _ => .pure hcolumns
  · exact .after fun _ => .pure hcolumns

end TableFields

namespace Table

/-- Each table that is read has storable columns, whichever shape its record has. -/
theorem ensures_read (source : Source) (d : Document) :
    Read.Ensures (Table.read source d) Table.IsStorable :=
  RecordForm.ensures_read source (fun _ h => nomatch h) (TableFields.ensures_fill source)
    (TableFields.ensures_finish source) d

variable {t : Table}

/-- A table with storable columns is read back from its record. -/
theorem read_toJson (source : Source) (h : t.IsStorable) :
    Table.read source (.ofJson t.toJson) = pure t := by
  have hcolumns := Read.list_ofJson fun c hc => Column.read_toJson source (h c hc)
  obtain ⟨id, name, columns, comment, position⟩ := t
  refine RecordForm.readMembers_eq
    (s := ⟨some id, some name, some columns, comment.map some, some position⟩) ?_ ?_
  · refine Eq.trans (fillByName_member rfl rfl rfl _) ?_
    refine Eq.trans (fillByName_member rfl rfl rfl _) ?_
    refine Eq.trans (fillByName_member rfl rfl (fill_eq_pure hcolumns _) _) ?_
    cases comment <;> rfl
  · cases comment <;> rfl

/-- A table whose place is read back is writable. -/
lemma isWritable_toJson (n : ℕ) (h : t.position.IsReadBack) : IsWritable (n + 3) t.toJson := by
  have hcolumns : IsWritable (n + 2) (.array (t.columns.map Column.toJson)) :=
    .array (List.forall_mem_map.mpr fun c _ => c.isWritable_toJson n)
  refine .object ?_
  cases hcomment : t.comment with
  | none =>
    simp only [Option.map_none, Option.toList_none, List.append_nil, List.cons_append,
      List.nil_append, List.forall_mem_cons]
    exact ⟨.string _ _, .string _ _, hcolumns, t.position.isWritable_toJson _ h,
      fun _ h => nomatch h⟩
  | some text =>
    simp only [Option.map_some, Option.toList_some, List.cons_append,
      List.nil_append, List.forall_mem_cons]
    exact ⟨.string _ _, .string _ _, hcolumns, .string _ _, t.position.isWritable_toJson _ h,
      fun _ h => nomatch h⟩

end Table

/-- Tables whose columns are storable and whose places are read back are read back from the text
that lists them. -/
theorem Tables.ofText_toText {ts : List Table} (h : ∀ t ∈ ts, t.IsStorable)
    (hplace : ∀ t ∈ ts, t.position.IsReadBack) : Tables.ofText (Tables.toText ts) = pure ts := by
  have hwritable : IsWritable 4 (.array (ts.map Table.toJson)) :=
    .array (List.forall_mem_map.mpr fun t ht => t.isWritable_toJson 0 (hplace t ht))
  rw [ofText, toText, Read.ofText_of_isWrittenAs hwritable (by decide) .compact]
  exact Read.list_ofJson fun t ht => Table.read_toJson .text (h t ht)

end SchemaDesigner
