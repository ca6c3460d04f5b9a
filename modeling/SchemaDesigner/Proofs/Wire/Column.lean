/-
Columns in documents: what is read is in a normal form, and the normal form is read back.

* `Column.IsNormal`, `Column.IsStorable`: the column has an identity, its type is the one that its
  name means, and none of its optional texts, nor of those of its reference, is blank;
* `Column.ensures_read`: each column that is read is storable, whichever shape its record has;
* `Column.read_toJson`: a storable column is read back from its record.
-/
import SchemaDesigner.Proofs.Name
import SchemaDesigner.Proofs.Text.Upper
import SchemaDesigner.Proofs.Wire.Reading
import SchemaDesigner.Wire.Column

namespace SchemaDesigner

open Json (Document Items Members IsWritable)

/-! ### Texts that are not blank -/

namespace Text

variable {s : Option String} {t : String}

/-- A text with a visible character is not blank. -/
lemma isBlankText_eq_false_of_mem {c : Char} (hc : c ∈ t.toList) (h : isBlank c = false) :
    isBlankText t = false := by
  rw [isBlankText, List.all_eq_false]
  exact ⟨c, hc, by rw [h]; exact Bool.false_ne_true⟩

lemma mem_nonBlank?_iff : t ∈ nonBlank? s ↔ t ∈ s ∧ isBlankText t = false := by
  rw [nonBlank?, Option.mem_def, Option.filter_eq_some_iff, Bool.not_eq_true']
  rfl

/-- A text that is missing or not blank is kept. -/
lemma nonBlank?_eq_self (h : ∀ t ∈ s, isBlankText t = false) : nonBlank? s = s := by
  ext t
  rw [← Option.mem_def, ← Option.mem_def, mem_nonBlank?_iff]
  exact ⟨fun ht => ht.1, fun ht => ⟨ht, h t ht⟩⟩

/-- A text that may be absent is read back from a text that is blank instead. -/
lemma nonBlank?_some_getD (h : ∀ t ∈ s, isBlankText t = false) :
    nonBlank? (some (s.getD "")) = s := by
  cases s with
  | none => rfl
  | some t => exact nonBlank?_eq_self h

end Text

/-- The reference names a table and a column by texts that are not blank. -/
def Reference.IsStorable (r : Reference) : Prop :=
  Text.isBlankText r.table = false ∧ Text.isBlankText r.column = false

/-- A reference is only made of names that are not blank. -/
lemma Reference.isStorable_of_mem_ofNames? {table column : Option String} {r : Reference}
    (h : r ∈ Reference.ofNames? table column) : r.IsStorable := by
  rw [ofNames?] at h
  split at h
  · rename_i ht hc
    obtain rfl := Option.some.inj h
    exact ⟨(Text.mem_nonBlank?_iff.mp ht).2, (Text.mem_nonBlank?_iff.mp hc).2⟩
  · cases h

/-- From its own names a storable reference is made again. -/
lemma Reference.ofNames?_of_isStorable {r : Reference} (h : r.IsStorable) :
    Reference.ofNames? (some r.table) (some r.column) = some r := by
  rw [ofNames?, Text.nonBlank?_eq_self fun t ht => Option.some.inj ht ▸ h.1,
    Text.nonBlank?_eq_self fun t ht => Option.some.inj ht ▸ h.2]

/-- The column has an identity, its type is the one that its name means, and its size and its
default are not blank. -/
structure Column.IsNormal (c : Column) : Prop where
  id : Text.isBlankText c.id.text = false
  type : ColumnType.ofName c.type.name = c.type
  size : ∀ t ∈ c.size, Text.isBlankText t = false
  defaultValue : ∀ t ∈ c.defaultValue, Text.isBlankText t = false

/-- The column is in the form in which reading leaves one. -/
structure Column.IsStorable (c : Column) : Prop extends c.IsNormal where
  reference : ∀ r ∈ c.reference, r.IsStorable

/-! ### What is read is storable -/

/-- Digits in positional notation have a point. -/
lemma Decimal.point_mem_positional (digits : List Char) (p : ℤ) : '.' ∈ positional digits p := by
  rw [positional]
  split_ifs <;> simp

lemma Decimal.letter_mem_scientific (digits : List Char) (exponent : ℤ) :
    'e' ∈ scientific digits exponent := by
  rw [scientific]
  simp

lemma Text.isBlank_of_isDigit {c : Char} (h : c.isDigit = true) : isBlank c = false := by
  obtain ⟨hfirst, hlast⟩ : 48 ≤ c.toNat ∧ c.toNat ≤ 57 := by
    rw [Char.isDigit, Bool.and_eq_true, decide_eq_true_iff, decide_eq_true_iff] at h
    exact h
  exact isBlank_of_visible (by omega) (by omega)

lemma Text.isBlankText_repr (n : ℕ) : isBlankText (Nat.repr n) = false := by
  obtain ⟨c, hc⟩ := List.exists_mem_of_ne_nil _ (Nat.toDigits_ne_nil (n := n) (b := 10))
  have hdigit : c.isDigit = true := Nat.isDigit_of_mem_toDigits (by decide) (by decide) hc
  rw [← Nat.toList_repr] at hc
  exact isBlankText_eq_false_of_mem hc (isBlank_of_isDigit hdigit)

/-- A number in floating point has a point or an exponent. -/
lemma Decimal.PointForm.isBlankText_text (f : Decimal.PointForm) (x : Float) :
    Text.isBlankText (f.text x) = false := by
  have hsize : ∃ c, c ∈ (f.text x).toList ∧ Text.isBlank c = false := by
    rw [text]
    simp only [String.toList_ofList, List.mem_append]
    refine Exists.imp (fun c => And.imp_left .inr) ?_
    split
    · exact ⟨'.', by decide, by decide⟩
    · split_ifs
      · exact ⟨'.', point_mem_positional _ _, by decide⟩
      · exact ⟨'e', letter_mem_scientific _ _, by decide⟩
  obtain ⟨c, hc, hblank⟩ := hsize
  exact Text.isBlankText_eq_false_of_mem hc hblank

/-- The text of a number is not blank. -/
lemma Json.Number.isBlankText_text (n : Json.Number) : Text.isBlankText n.text = false := by
  cases n with
  | int n =>
    rw [text, Int.toString_eq_repr, Int.repr_eq_if]
    split_ifs
    · exact Text.isBlankText_repr _
    · exact Text.isBlankText_eq_false_of_mem (c := '-') (by simp) (by decide)
  | float x => exact numberForm.isBlankText_text x

/-- The text of a drawn identity is not blank. -/
lemma isBlankText_identityText (n : ℕ) : Text.isBlankText (identityText n) = false := by
  refine Text.isBlankText_eq_false_of_mem (c := '-') ?_ (by decide)
  simp [identityText]

/-- A new identity is not blank. -/
lemma ensures_freshId :
    Read.Ensures Read.freshId fun text => Text.isBlankText text = false := by
  intro ids text ids' h
  have hdraw : ids.draw = (text, ids') := Except.ok.inj h
  have htext : (ids.draw).1 = text := by rw [hdraw]
  rw [← htext]
  exact isBlankText_identityText ids.next

lemma ColumnId.ensures_read? (d : Document) :
    Read.Ensures (ColumnId.read? d) fun id? => ∀ id ∈ id?, Text.isBlankText id.text = false := by
  rw [read?.eq_def]
  refine .after fun _ => ?_
  split
  · exact .pure fun _ h => nomatch h
  · refine .pure fun id h => ?_
    obtain ⟨t, ht, rfl⟩ := Option.map_eq_some_iff.mp h
    exact (Text.mem_nonBlank?_iff.mp ht).2
  · rename_i n
    refine .pure fun id h => ?_
    obtain rfl := Option.some.inj h
    exact n.isBlankText_text
  · exact .throw _

namespace ColumnFields

/-- The identity and the type are in the form in which reading leaves them. -/
structure IsSound (s : ColumnFields) : Prop where
  id : ∀ id ∈ s.id.join, Text.isBlankText id.text = false
  type : ∀ t ∈ s.type, ColumnType.ofName t.name = t

variable {s : ColumnFields}

/-- What sound fields say of a column is storable. -/
lemma isStorable_content (h : s.IsSound) (name : String) {id : ColumnId}
    (hid : Text.isBlankText id.text = false) : Column.IsStorable ⟨s.content name, id⟩ where
  id := hid
  type := by
    change ColumnType.ofName (s.type.getD defaultType).name = s.type.getD defaultType
    cases htype : s.type with
    | none => decide
    | some t => exact h.type t htype
  size t ht := (Text.mem_nonBlank?_iff.mp ht).2
  defaultValue t ht := (Text.mem_nonBlank?_iff.mp ht).2
  reference r hr := by
    change r ∈ s.reference? at hr
    rw [reference?] at hr
    split at hr
    · exact Reference.isStorable_of_mem_ofNames? hr
    · exact Reference.isStorable_of_mem_ofNames? hr
    all_goals cases hr

lemma ensures_fill : ∀ slot ∈ slots, ∀ d s, IsSound s → Read.Ensures (slot.fill d s) IsSound := by
  intro slot hslot d s hs
  simp only [slots, List.mem_cons, List.not_mem_nil, or_false] at hslot
  obtain rfl | rfl | rfl | hslot := hslot
  · exact .bind (ColumnId.ensures_read? d) fun id hid => .pure ⟨hid, hs.type⟩
  · exact .after fun _ => .pure ⟨hs.id, hs.type⟩
  · have htype : ∀ name, ∀ t ∈ some (ColumnType.ofName name), ColumnType.ofName t.name = t := by
      rintro name t ht
      rw [← Option.some.inj ht, ColumnType.ofName_name_ofName]
    exact .after fun name => .pure ⟨hs.id, htype name⟩
  · -- The other fields are brought into form only when all are there.
    rcases hslot with rfl | rfl | rfl | rfl | rfl | rfl | rfl | rfl | rfl | rfl
    all_goals exact .after fun _ => .pure ⟨hs.id, hs.type⟩

lemma ensures_finish (missing : String → ReadError) (s : ColumnFields) (hs : s.IsSound) :
    Read.Ensures (form.finish missing s) Column.IsStorable := by
  refine .after fun name => ?_
  dsimp only
  split
  · rename_i id hid
    exact .bind (.pure (hs.id id hid)) fun id hid => .pure (isStorable_content hs name hid)
  · exact .bind (.map ensures_freshId fun _ h => h) fun id hid =>
      .pure (isStorable_content hs name hid)

end ColumnFields

namespace Column

/-- Each column that is read is storable, whichever shape its record has. -/
theorem ensures_read (source : Source) (d : Document) :
    Read.Ensures (Column.read source d) Column.IsStorable :=
  RecordForm.ensures_read source ⟨fun _ h => (nomatch h), fun _ h => (nomatch h)⟩
    ColumnFields.ensures_fill ColumnFields.ensures_finish d

/-! ### What is storable is read back -/

/-- The fields of the record of a column, as they are read. -/
def toFields (c : Column) : ColumnFields where
  id := some ((Text.nonBlank? (some c.id.text)).map ColumnId.mk)
  name := some c.name
  type := some (ColumnType.ofName c.type.name)
  length := some (some (c.size.getD ""))
  nullable := some (some c.nullable)
  primaryKey := some c.primaryKey
  unique := some c.unique
  autoIncrement := some c.autoIncrement
  foreignKey := some (some (.flag c.reference.isSome))
  referencedTable := some (c.reference.map Reference.table)
  referencedField := some (c.reference.map Reference.column)
  defaultValue := some (some (c.defaultValue.getD ""))

/-- From the document of a column its own fields are read. -/
lemma read_toJson_eq (source : Source) (c : Column) : Column.read source (.ofJson c.toJson)
    = ColumnFields.form.finish .missingField c.toFields := by
  obtain ⟨⟨name, type, size, primaryKey, nullable, unique, autoIncrement, defaultValue,
    reference⟩, id⟩ := c
  cases reference <;> rfl

variable {c : Column}

lemma reference?_toFields (h : c.IsStorable) : c.toFields.reference? = c.reference := by
  rw [ColumnFields.reference?, toFields]
  cases hr : c.reference with
  | none => rfl
  | some r => exact Reference.ofNames?_of_isStorable (h.reference r hr)

/-- The fields of a storable column say what the column says. -/
lemma content_toFields (h : c.IsStorable) : c.toFields.content c.name = c.toColumnDef := by
  rw [ColumnFields.content, reference?_toFields h]
  simp only [toFields, ColumnFields.allowsNull, Option.getD_some, Option.join_some, h.type,
    Text.nonBlank?_some_getD h.size, Text.nonBlank?_some_getD h.defaultValue]

/-- A storable column is read back from its record. -/
theorem read_toJson (source : Source) (h : c.IsStorable) :
    Column.read source (.ofJson c.toJson) = pure c := by
  have hid : c.toFields.id.join = some c.id :=
    congrArg (Option.map ColumnId.mk) (Text.nonBlank?_eq_self fun t ht => Option.some.inj ht ▸ h.id)
  have hname : c.toFields.name = some c.name := rfl
  rw [read_toJson_eq]
  simp only [ColumnFields.form, hname, hid, required, pure_bind, content_toFields h]

/-- The record of a column has one pair of brackets and no numbers. -/
lemma isWritable_toJson (n : ℕ) (c : Column) : IsWritable (n + 1) c.toJson := by
  refine .object ?_
  simp only [List.forall_mem_cons]
  refine ⟨.string _ _, .string _ _, .string _ _, .string _ _, .bool _ _, .bool _ _, .bool _ _,
    .bool _ _, .bool _ _, .ofText? _ _, .ofText? _ _, .string _ _, ?_⟩
  exact fun _ h => nomatch h

end Column

end SchemaDesigner
