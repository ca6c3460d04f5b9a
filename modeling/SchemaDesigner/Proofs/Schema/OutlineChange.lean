/-
What an accepted change does to the outlines of the columns, up to what references make of it.

* `StemsFrom`: what is left was there, perhaps under another table name or with fewer references;
* `Adds`: a column has been added;
* `Replaces`: a column has taken the place of another one, whose references follow it;
* `OutlineChange`, `OutlineChange.of_apply`: each accepted change is one of these;
* `OutlineChange.forall_run_empty_iff`: what that means for sequences of commands.

The gate is made before the change, so `Outline.IsAdmitted` is about the columns that were there.
-/
import SchemaDesigner.Proofs.Schema.Outline
import SchemaDesigner.Proofs.Schema.Trace

namespace SchemaDesigner

open Schema

/-! ### The kinds of change -/

/-- The columns have the same type and size. -/
def ColumnDef.HasTypeOf (c d : ColumnDef) : Prop :=
  c.type = d.type ∧ c.size = d.size

/-- Each reference of the column leads to another column, of a type that fits. -/
def Outline.IsAdmitted (before : List Outline) (p : Outline) : Prop :=
  ∀ r, p.column.reference = some r → ∃ q ∈ before, r.names q.table q.column.name = true
    ∧ ¬q.SameNames p ∧ p.column.incompatibility? q.column = none

/-- Each column has an origin, of which it has the type and the size, and refers to another one only
if their origins do so. -/
structure StemsFrom (origin : Outline → Outline → Prop) (before after : List Outline) : Prop where
  exists_origin : ∀ p ∈ after, ∃ q ∈ before, origin p q
  hasTypeOf : ∀ p q, origin p q → p.column.HasTypeOf q.column
  refersTo : ∀ p p' q q', origin p q → origin p' q' → p.RefersTo p' → q.RefersTo q'

/-- A column of a new name is added. -/
structure Adds (new : Outline) (before after : List Outline) : Prop where
  shown : ∀ p ∈ after, p = new ∨ p ∈ before
  free : ∀ p ∈ before, ¬p.SameNames new
  admitted : new.IsAdmitted before

/-- The column `new` takes the place of `current`, and `f` is what becomes of all columns: those
that referred to `current` refer to `new`. -/
structure Replaces (f : Outline → Outline) (current new : Outline) (before after : List Outline) :
    Prop where
  mem : current ∈ before
  shown : ∀ p, p ∈ after ↔ p = f new ∨ ∃ q ∈ before, ¬q.SameNames current ∧ p = f q
  hasTypeOf : ∀ p, (f p).column.HasTypeOf p.column
  refersTo_new : ∀ p, p = new ∨ p ∈ before → ((f p).RefersTo (f new) ↔ p.RefersTo current)
  refersTo_old : ∀ p, p = new ∨ p ∈ before → ∀ q ∈ before, ¬q.SameNames current →
    ((f p).RefersTo (f q) ↔ p.RefersTo q)
  admitted : new.column.reference = current.column.reference ∧ new.column.HasTypeOf current.column
    ∨ new.IsAdmitted before

/-- The command puts another content in the place of a column. -/
def Command.ReplacesColumn : Command → Prop
  | .updateColumn .. => True
  | _ => False

/-- The command puts another content in the place of the column `name` of a table `t`, such that
`P t name` is true of it. -/
def Command.ReplacesWith (s : Schema) (P : Table → String → ColumnDef → Prop) : Command → Prop
  | .updateColumn id name replacement =>
    ∃ t ∈ s.tables, t.id = id ∧ P t name replacement.toColumnDef
  | _ => False

instance (s : Schema) (P : Table → String → ColumnDef → Prop) [∀ t name c, Decidable (P t name c)]
    (command : Command) : Decidable (command.ReplacesWith s P) :=
  match command with
  | .updateColumn id name replacement =>
    inferInstanceAs (Decidable (∃ t ∈ s.tables, t.id = id ∧ P t name replacement.toColumnDef))
  | .addTable .. | .renameTable .. | .deleteTable .. | .moveTable .. | .setComment ..
  | .addColumn .. | .removeColumn .. | .setPrimaryKey .. | .setForeignKey .. | .connect ..
  | .clearForeignKey .. => inferInstanceAs (Decidable False)

lemma Command.ReplacesWith.replacesColumn {s : Schema} {P : Table → String → ColumnDef → Prop}
    {command : Command} (h : command.ReplacesWith s P) : command.ReplacesColumn := by
  cases command with
  | updateColumn id name replacement => trivial
  | _ => exact h

/-- Identities tell which table a command is about. -/
lemma Command.replacesWith_updateColumn {s : Schema} (hw : s.WellFormed)
    {P : Table → String → ColumnDef → Prop} {t : Table} {id : TableId} {name : String}
    {replacement : Column} (ht : t ∈ s.tables) (hid : t.id = id) :
    (Command.updateColumn id name replacement).ReplacesWith s P
      ↔ P t name replacement.toColumnDef := by
  constructor
  · rintro ⟨u, hu, huid, hP⟩
    rwa [List.inj_on_of_nodup_map hw.ids ht hu (hid.trans huid.symm)]
  · exact fun hP => ⟨t, ht, hid, hP⟩

/-- How a command changes the columns, as references see them. -/
inductive OutlineChange (s s' : Schema) : Command → Prop
  | stems {command : Command} {origin : Outline → Outline → Prop}
      (hother : ¬command.ReplacesColumn)
      (h : StemsFrom origin (outlines s.tables) (outlines s'.tables)) : OutlineChange s s' command
  | adds {command : Command} {new : Outline} (hother : ¬command.ReplacesColumn)
      (h : Adds new (outlines s.tables) (outlines s'.tables)) : OutlineChange s s' command
  /-- A column is replaced by itself with another reference. -/
  | refers {command : Command} {f : Outline → Outline} {current new : Outline}
      (hother : ¬command.ReplacesColumn)
      (h : Replaces f current new (outlines s.tables) (outlines s'.tables))
      (hnames : new.SameNames current) (htype : new.column.HasTypeOf current.column)
      (hadmitted : new.IsAdmitted (outlines s.tables)) : OutlineChange s s' command
  | replaces {t : Table} {id : TableId} {name : String} {current replacement : Column}
      {f : Outline → Outline} (ht : t ∈ s.tables) (hid : t.id = id) (hcurrent : current ∈ t.columns)
      (hname : namesMatch current.name name = true)
      (h : Replaces f ⟨t.name, current.outline⟩
        ⟨t.name, { replacement.outline with name := Text.trim replacement.name }⟩
        (outlines s.tables) (outlines s'.tables)) :
      OutlineChange s s' (.updateColumn id name replacement)

/-! ### The gate -/

section Admitted

variable {s : Schema} {t : Table} {source : ColumnDef}

lemma isAdmitted_of_checkReference {owner : String}
    (h : ∀ r, source.reference = some r → checkReference s.tables owner source r = .ok ()) :
    Outline.IsAdmitted (outlines s.tables) ⟨owner, source.outline⟩ := by
  intro r hr
  obtain ⟨q, hq, hnames, hself, hfits⟩ := exists_outline_of_checkReference (h r hr)
  refine ⟨q, hq, hnames, fun hsame => ?_, hfits⟩
  exact absurd (Bool.and_eq_true_iff.mpr hsame) (Bool.eq_false_iff.mp hself)

lemma isAdmitted_of_checkOwnReference {owner : String}
    (h : checkOwnReference s.tables owner source = .ok ()) :
    Outline.IsAdmitted (outlines s.tables) ⟨owner, source.outline⟩ := by
  refine isAdmitted_of_checkReference fun r hr => ?_
  rwa [checkOwnReference, hr] at h

/-- A replacement that brings no reference in has the old one, and the old type if there is one. -/
lemma of_bringsReference_eq_false {current new : ColumnDef}
    (h : bringsReference current new = false) :
    new.reference = current.reference ∧ (new.reference.isSome = true → new.HasTypeOf current) := by
  simp only [bringsReference, Bool.or_eq_false_iff, Bool.and_eq_false_imp,
    bne_eq_false_iff_eq] at h
  exact h

/-- A name that no column of a table has is free for a column of that table. -/
lemma Schema.WellFormed.not_sameNames (h : s.WellFormed) (ht : t ∈ s.tables)
    (hfree : ∀ c ∈ t.columns, namesMatch c.name source.name = false) :
    ∀ p ∈ outlines s.tables, ¬p.SameNames ⟨t.name, source⟩ := by
  intro p hp hnames
  obtain ⟨v, hv, hp⟩ := mem_outlines.mp hp
  obtain ⟨c, hc, rfl⟩ := Table.mem_outlines.mp hp
  obtain rfl := h.distinct.eq_of_mem hv ht hnames.1
  exact absurd hnames.2 (by simp [ColumnDef.outline, hfree c hc])

end Admitted

/-! ### Columns that stem from others -/

/-- The column is what a change has left of another one, whose reference it may have dropped. -/
structure Outline.IsLeft (p q : Outline) : Prop where
  table : p.table = q.table
  name : p.column.name = q.column.name
  hasTypeOf : p.column.HasTypeOf q.column
  reference : ∀ r, p.column.reference = some r → q.column.reference = some r

section Left

variable {before after : List Outline}

lemma Outline.IsLeft.refl (p : Outline) : p.IsLeft p :=
  ⟨rfl, rfl, ⟨rfl, rfl⟩, fun _ hr => hr⟩

lemma StemsFrom.of_isLeft (h : ∀ p ∈ after, ∃ q ∈ before, p.IsLeft q) :
    StemsFrom Outline.IsLeft before after where
  exists_origin := h
  hasTypeOf _ _ h := h.hasTypeOf
  refersTo p p' q q' h h' := by
    rintro ⟨r, hr, hnames⟩
    exact ⟨r, h.reference r hr, h'.table ▸ h'.name ▸ hnames⟩

lemma StemsFrom.of_subset (h : after ⊆ before) : StemsFrom Outline.IsLeft before after :=
  .of_isLeft fun p hp => ⟨p, h hp, .refl p⟩

/-- What is left when some columns and some references are dropped. -/
lemma StemsFrom.of_drops {drops : Reference → Bool} {kept : List Outline} (hkept : kept ⊆ before)
    (hafter : after = kept.map (Outline.mapReference fun r => if drops r then none else some r)) :
    StemsFrom Outline.IsLeft before after := by
  refine .of_isLeft fun p hp => ?_
  rw [hafter] at hp
  obtain ⟨q, hq, rfl⟩ := List.mem_map.mp hp
  refine ⟨q, hkept hq, rfl, rfl, ⟨rfl, rfl⟩, fun r hr => ?_⟩
  obtain ⟨r', hr', hdrops⟩ := Option.bind_eq_some_iff.mp hr
  split_ifs at hdrops
  exact hr'.trans hdrops

/-- A change of one table that its columns do not show. -/
lemma StemsFrom.of_modify {tables tables' : List Table} {i : ℕ} {f : Table → Table}
    (htables' : tables' = tables.modify i f) (hf : ∀ t, (f t).outlines = t.outlines) :
    StemsFrom Outline.IsLeft (outlines tables) (outlines tables') := by
  rw [htables', outlines_modify_of_eq hf]
  exact .of_subset (List.Subset.refl _)

end Left

/-! ### A table of another name -/

/-- A name of a table after the table `old` has been named `new`. -/
def renamedName (old new name : String) : String :=
  if namesMatch name old then new else name

/-- A column after the table `old` has been named `new`. -/
def Outline.renamed (old new : String) (p : Outline) : Outline :=
  ⟨renamedName old new p.table,
    p.column.mapReference fun r => some { r with table := renamedName old new r.table }⟩

section Renamed

variable {s s' : Schema} {old new a b : String} {r : Reference}

/-- Names that match after a renaming did so before, if only the renamed table may have had the new
name. -/
lemma namesMatch_of_renamedName (ha : namesMatch a new = true → namesMatch a old = true)
    (hb : namesMatch b new = true → namesMatch b old = true)
    (h : namesMatch (renamedName old new a) (renamedName old new b) = true) :
    namesMatch a b = true := by
  rw [renamedName, renamedName] at h
  split_ifs at h with hao hbo hbo
  · exact namesMatch_trans hao (namesMatch_symm hbo)
  · exact absurd (hb (namesMatch_symm h)) hbo
  · exact absurd (ha h) hao
  · exact h

/-- A reference that does not meet the new name by chance follows its table. -/
lemma renamedReference_eq {tables : List Table} {owner : String} {source : ColumnDef}
    (h : namesMatch r.table new = true → namesMatch r.table old = true) :
    renamedReference tables old new owner source r
      = some { r with table := renamedName old new r.table } := by
  rw [renamedReference, renamedName]
  split_ifs with hold hnew
  · rfl
  · exact absurd (h hnew) hold
  · rfl

lemma ColumnDef.mapReference_congr {c : ColumnDef} {f g : Reference → Option Reference}
    (h : ∀ r, c.reference = some r → f r = g r) : c.mapReference f = c.mapReference g := by
  rw [mapReference, mapReference, Option.bind_congr h]

lemma stemsFrom_renamed (htable : ∀ p ∈ outlines s.tables,
      namesMatch p.table new = true → namesMatch p.table old = true)
    (hreference : ∀ p ∈ outlines s.tables, ∀ r, p.column.reference = some r →
      namesMatch r.table new = true → namesMatch r.table old = true)
    (hshown : ∀ p ∈ outlines s'.tables, ∃ q ∈ outlines s.tables, p = q.renamed old new) :
    StemsFrom (fun p q => q ∈ outlines s.tables ∧ p = q.renamed old new)
      (outlines s.tables) (outlines s'.tables) where
  exists_origin p hp := by
    obtain ⟨q, hq, rfl⟩ := hshown p hp
    exact ⟨q, hq, hq, rfl⟩
  hasTypeOf := by
    rintro p q ⟨-, rfl⟩
    exact ⟨rfl, rfl⟩
  refersTo := by
    rintro _ _ q q' ⟨hq, rfl⟩ ⟨hq', rfl⟩ hrefers
    obtain ⟨r, hr, hnames⟩ := Outline.mapReference_refersTo.mp hrefers
    rw [Reference.names, Bool.and_eq_true] at hnames
    refine ⟨r, hr, ?_⟩
    rw [Reference.names, Bool.and_eq_true]
    exact ⟨namesMatch_of_renamedName (hreference q hq r hr) (htable q' hq') hnames.1, hnames.2⟩

lemma stemsFrom_renameTable {id : TableId} {name : String} (hw : s.WellFormed) (hc : s.Closed)
    (h : s.renameTable id name = .ok s') :
    ∃ origin, StemsFrom origin (outlines s.tables) (outlines s'.tables) := by
  obtain ⟨-, hfree, i, table, hi, renamed, rfl, hs'⟩ := renameTable_effect h
  obtain ⟨hget, hid⟩ := locate_spec hi
  have hmem := List.mem_of_getElem? hget
  -- no other table has the new name
  have hown : ∀ p ∈ outlines s.tables, namesMatch p.table (Text.trim name) = true →
      namesMatch p.table table.name = true := by
    intro p hp hname
    obtain ⟨t, ht, hp⟩ := mem_outlines.mp hp
    rw [Table.table_of_mem_outlines hp] at hname ⊢
    rw [hw.eq_of_locate hi ht (hfree t ht hname)]
    exact namesMatch_refl _
  have hreference : ∀ p ∈ outlines s.tables, ∀ r, p.column.reference = some r →
      namesMatch r.table (Text.trim name) = true → namesMatch r.table table.name = true := by
    intro p hp r hr hname
    obtain ⟨q, hq, hnames⟩ := hc.exists_names hp hr
    have htable := (Bool.and_eq_true_iff.mp hnames).1
    exact namesMatch_trans htable (hown q hq (namesMatch_trans (namesMatch_symm htable) hname))
  refine ⟨_, stemsFrom_renamed hown hreference ?_⟩
  rw [hs']
  intro p hp
  obtain ⟨t', ht', hp⟩ := mem_outlines.mp hp
  obtain ⟨t, ht, rfl⟩ := List.mem_map.mp ht'
  obtain ⟨c', hc', rfl⟩ := Table.mem_outlines.mp hp
  obtain ⟨c, hc, rfl⟩ := List.mem_map.mp hc'
  obtain ⟨u, hu, hcu, hname⟩ : ∃ u ∈ s.tables, c ∈ u.columns
      ∧ t.name = renamedName table.name (Text.trim name) u.name := by
    rcases eq_or_of_mem_modify ht hget with rfl | ⟨k, hk, htk⟩
    · exact ⟨table, hmem, hc, (if_pos (namesMatch_refl _)).symm⟩
    · exact ⟨t, List.mem_of_getElem? htk, hc,
        (if_neg fun hmatch => hk (hw.hasDistinctNames.table_place htk hget hmatch)).symm⟩
  have hq := mem_outlines_of_mem hu hcu
  refine ⟨_, hq, ?_⟩
  rw [Outline.renamed, ← hname]
  exact congrArg (Outline.mk t.name) (ColumnDef.mapReference_congr fun r hr =>
    renamedReference_eq (hreference _ hq r hr))

end Renamed

/-! ### A column in the place of another one -/

/-- The reference after `new` has taken the place of `current`: if the name has changed, it follows
the column that it names. -/
def Reference.following (r : Reference) (current new : Outline) : Reference :=
  if !namesMatch current.column.name new.column.name && r.names current.table current.column.name
    then { r with column := new.column.name } else r

/-- A column after `new` has taken the place of `current`. -/
def Outline.following (p current new : Outline) : Outline :=
  p.mapReference fun r => some (r.following current new)

section Following

variable {before : List Outline} {current new p q : Outline} {r : Reference}

lemma Reference.following_eq_self (h : namesMatch current.column.name new.column.name = true) :
    r.following current new = r := by
  simp only [following, h, Bool.not_true, Bool.false_and, Bool.false_eq_true, if_false]

lemma Outline.following_eq_self (h : namesMatch current.column.name new.column.name = true) :
    p.following current new = p := by
  simp only [following, mapReference, ColumnDef.mapReference, Reference.following_eq_self h,
    Option.bind_fun_some]

variable (htable : new.table = current.table)
  (hfree : namesMatch current.column.name new.column.name = false →
    ∀ q ∈ before, ¬q.SameNames new)

include htable hfree

/-- References to the replaced column come to name the new one, and no others do. -/
lemma Reference.following_names_new
    (hresolves : ∃ q ∈ before, r.names q.table q.column.name = true) :
    (r.following current new).names new.table new.column.name = true
      ↔ r.names current.table current.column.name = true := by
  obtain ⟨q, hq, hrq⟩ := hresolves
  cases hrenamed : namesMatch current.column.name new.column.name with
  | true =>
    have hnames : current.SameNames new := ⟨htable ▸ namesMatch_refl _, hrenamed⟩
    rw [following_eq_self hrenamed]
    exact ⟨fun h => names_of_sameNames h hnames.symm, fun h => names_of_sameNames h hnames⟩
  | false =>
    have hfollowing : r.following current new = if r.names current.table current.column.name then
        { r with column := new.column.name } else r := by
      simp only [following, hrenamed, Bool.not_false, Bool.true_and]
    rw [hfollowing]
    split_ifs with hfires
    · refine iff_of_true ?_ hfires
      rw [names, Bool.and_eq_true] at hfires ⊢
      exact ⟨htable ▸ hfires.1, namesMatch_refl _⟩
    · exact iff_of_false (fun h => hfree hrenamed q hq (sameNames hrq h)) hfires

/-- References to other columns go on to name these, and no others do. -/
lemma Reference.following_names_old (hq : q ∈ before) (hne : ¬q.SameNames current) :
    (r.following current new).names q.table q.column.name = true
      ↔ r.names q.table q.column.name = true := by
  rw [following]
  split_ifs with hfires
  · rw [Bool.and_eq_true, Bool.not_eq_true'] at hfires
    refine iff_of_false (fun h => ?_) fun h => hne (sameNames h hfires.2)
    rw [names, Bool.and_eq_true] at h hfires
    exact hfree hfires.1 q hq ⟨htable ▸ namesMatch_trans (namesMatch_symm h.1) hfires.2.1,
      namesMatch_symm h.2⟩
  · exact Iff.rfl

end Following

section Put

variable {s : Schema} {i j : ℕ} {t : Table} {current : Column} {after : List Outline}

/-- What putting a column in the place of another one does, if its name is free where it differs
and its reference is the old one or has passed the gate. -/
lemma Replaces.of_put (hw : s.WellFormed) (hc : s.Closed) (hi : s.tables[i]? = some t)
    (hj : t.columns[j]? = some current) {isNewKey : Bool} (placed : Column)
    (hfree : namesMatch current.name placed.name = false →
      ∀ c ∈ t.columns, namesMatch c.name placed.name = false)
    (hadmitted : placed.reference = current.reference
        ∧ placed.outline.HasTypeOf current.outline
      ∨ Outline.IsAdmitted (outlines s.tables) ⟨t.name, placed.outline⟩)
    (hafter : after = (outlines (s.tables.modify i (Table.put j isNewKey placed))).map fun p =>
      p.following ⟨t.name, current.outline⟩ ⟨t.name, placed.outline⟩) :
    Replaces (fun p => p.following ⟨t.name, current.outline⟩ ⟨t.name, placed.outline⟩)
      ⟨t.name, current.outline⟩ ⟨t.name, placed.outline⟩ (outlines s.tables) after := by
  have hmem := List.mem_of_getElem? hi
  have hcurrent := mem_outlines_of_mem hmem (List.mem_of_getElem? hj)
  have hnew : namesMatch current.outline.name placed.outline.name = false →
      ∀ q ∈ outlines s.tables, ¬q.SameNames ⟨t.name, placed.outline⟩ := fun hrenamed =>
    hw.not_sameNames hmem (hfree hrenamed)
  -- all references lead somewhere before the change, also the one that the new column brings
  have hresolves : ∀ p : Outline, p = ⟨t.name, placed.outline⟩ ∨ p ∈ outlines s.tables →
      ∀ r, p.column.reference = some r →
        ∃ q ∈ outlines s.tables, r.names q.table q.column.name = true := by
    rintro p (rfl | hp) r hr
    · rcases hadmitted with ⟨hsame, -⟩ | hgate
      · exact hc.exists_names hcurrent (hsame ▸ hr)
      · obtain ⟨q, hq, hnames, -⟩ := hgate r hr
        exact ⟨q, hq, hnames⟩
    · exact hc.exists_names hp hr
  refine ⟨hcurrent, fun p => ?_, fun p => ⟨rfl, rfl⟩, fun p hp => ?_, fun p hp q hq hne => ?_,
    hadmitted⟩
  · rw [hafter, List.mem_map]
    constructor
    · rintro ⟨q, hq, rfl⟩
      rcases (hw.mem_outlines_put_iff hi hj).mp hq with rfl | ⟨hq, hne⟩
      · exact .inl rfl
      · exact .inr ⟨q, hq, hne, rfl⟩
    · rintro (rfl | ⟨q, hq, hne, rfl⟩)
      · exact ⟨_, (hw.mem_outlines_put_iff hi hj).mpr (.inl rfl), rfl⟩
      · exact ⟨q, (hw.mem_outlines_put_iff hi hj).mpr (.inr ⟨hq, hne⟩), rfl⟩
  · refine Outline.mapReference_refersTo.trans ?_
    refine exists_congr fun r => and_congr_right fun hr => ?_
    exact Reference.following_names_new rfl hnew (hresolves p hp r hr)
  · refine Outline.mapReference_refersTo.trans ?_
    refine exists_congr fun r => and_congr_right fun _ => ?_
    exact Reference.following_names_old (q := q) rfl hnew hq hne

end Put

/-! ### Each kind of command -/

namespace OutlineChange

variable {s s' : Schema} {id : TableId} {name : String}

/-- To set a reference is to put the column with that reference in its own place. -/
lemma withReference_tables {i j : ℕ} {t : Table} {c : Column} (hi : s.tables[i]? = some t)
    (hj : t.columns[j]? = some c) (r : Option Reference) : (s.withReference i j r).tables
      = s.tables.modify i (Table.put j false { c with reference := r }) := by
  rw [withReference, modify_eq_set hi, modify_eq_set hi, modify_eq_set hj]
  rfl

lemma addColumn {column : Column} (hw : s.WellFormed) (h : s.addColumn id column = .ok s') :
    OutlineChange s s' (.addColumn id column) := by
  obtain ⟨i, table, hi, -, added, -, hfree, hcheck, hs'⟩ := addColumn_effect h
  have hget := (locate_spec hi).1
  have hadds : Adds ⟨table.name, added.outline⟩ (outlines s.tables) (outlines s'.tables) := by
    refine ⟨fun p hp => ?_, hw.not_sameNames (List.mem_of_getElem? hget) hfree,
      isAdmitted_of_checkOwnReference hcheck⟩
    rw [hs'] at hp
    exact mem_outlines_append hget hp
  exact .adds not_false hadds

lemma updateColumn {replacement : Column} (hw : s.WellFormed) (hc : s.Closed)
    (h : s.updateColumn id name replacement = .ok s') :
    OutlineChange s s' (.updateColumn id name replacement) := by
  obtain ⟨i, table, hi, j, current, hj, -, placed, hplaced, hfree, hcheck, hs'⟩ :=
    updateColumn_effect h
  obtain ⟨hget, hid⟩ := locate_spec hi
  obtain ⟨hcolumn, hname⟩ := Table.locate_spec hj
  have hadmitted : placed.reference = current.reference
        ∧ placed.outline.HasTypeOf current.outline
      ∨ Outline.IsAdmitted (outlines s.tables) ⟨table.name, placed.outline⟩ := by
    cases hbrings : bringsReference current.toColumnDef placed.toColumnDef with
    | true => exact .inr (isAdmitted_of_checkOwnReference (hcheck hbrings))
    | false =>
      obtain ⟨hsame, htype⟩ := of_bringsReference_eq_false hbrings
      cases hr : placed.reference with
      | none => exact .inr fun r hr' => absurd (hr.symm.trans hr') (Option.some_ne_none r).symm
      | some r => exact .inl ⟨hr ▸ hsame, htype (hr ▸ rfl)⟩
  have hafter := (congrArg outlines hs').trans (outlines_map_mapReferences _ _)
  have hreplaces := Replaces.of_put hw hc hget hcolumn placed hfree hadmitted hafter
  subst hplaced
  exact .replaces (List.mem_of_getElem? hget) hid (List.mem_of_getElem? hcolumn) hname hreplaces

lemma setForeignKey {command : Command} {targetId : TableId} {targetName : String}
    (hother : ¬command.ReplacesColumn) (hw : s.WellFormed) (hc : s.Closed)
    (h : s.setForeignKey id name targetId targetName = .ok s') :
    OutlineChange s s' command := by
  obtain ⟨i, table, hi, j, column, hj, k, target, -, chosen, -, hcheck, rfl⟩ :=
    setForeignKey_effect h
  have hget := (locate_spec hi).1
  have hcolumn := (Table.locate_spec hj).1
  have htables := withReference_tables hget hcolumn (some ⟨target.name, chosen.name⟩)
  have hadmitted : Outline.IsAdmitted (outlines s.tables)
      ⟨table.name, column.outline.referringTo target.name chosen.name⟩ := by
    have hgate : ∀ r, (column.toColumnDef.referringTo target.name chosen.name).reference = some r →
        checkReference s.tables table.name
          (column.toColumnDef.referringTo target.name chosen.name) r = .ok () := fun r hr => by
      obtain rfl := Option.some.inj hr
      exact hcheck
    exact isAdmitted_of_checkReference hgate
  -- the name is the old one, so no reference has to follow it
  have hself : ∀ p : Outline, p.following ⟨table.name, column.outline⟩
      ⟨table.name, column.outline.referringTo target.name chosen.name⟩ = p := fun p =>
    Outline.following_eq_self (namesMatch_refl _)
  have hafter := (congrArg outlines htables).trans (List.map_id' _).symm
  rw [← funext hself] at hafter
  have hreplaces := Replaces.of_put hw hc hget hcolumn
    { column with reference := some ⟨target.name, chosen.name⟩ }
    (fun h => absurd (namesMatch_refl _) (Bool.eq_false_iff.mp h)) (.inr hadmitted) hafter
  exact .refers hother hreplaces ⟨namesMatch_refl _, namesMatch_refl _⟩ ⟨rfl, rfl⟩ hadmitted

/-- Each accepted change of a closed schema is of one of the kinds. -/
theorem of_apply {fresh : TableId} {command : Command} (hw : s.WellFormed) (hc : s.Closed)
    (h : s.apply fresh command = .ok s') : OutlineChange s s' command := by
  cases command with
  | addTable name =>
    obtain ⟨-, -, hs'⟩ := addTable_effect h
    refine .stems not_false (.of_subset fun p hp => ?_)
    rw [hs', outlines, List.flatMap_append, List.mem_append] at hp
    exact hp.resolve_right List.not_mem_nil
  | renameTable id name =>
    obtain ⟨origin, horigin⟩ := stemsFrom_renameTable hw hc h
    exact .stems not_false horigin
  | deleteTable id =>
    obtain ⟨i, table, -, hs'⟩ := deleteTable_effect h
    exact .stems not_false (.of_drops (outlines_subset List.eraseIdx_subset)
      (hs' ▸ outlines_map_mapReferences _ _))
  | moveTable id position =>
    obtain ⟨i, table, -, hs'⟩ := moveTable_effect h
    exact .stems not_false (.of_modify hs' fun _ => rfl)
  | setComment id comment =>
    obtain ⟨i, table, -, hs'⟩ := setComment_effect h
    exact .stems not_false (.of_modify hs' fun _ => rfl)
  | addColumn id column => exact addColumn hw h
  | updateColumn id name replacement => exact updateColumn hw hc h
  | removeColumn id name =>
    obtain ⟨i, table, hi, j, removed, -, hs'⟩ := removeColumn_effect h
    have hkept : outlines (s.tables.modify i fun t => { t with columns := t.columns.eraseIdx j })
        ⊆ outlines s.tables := fun p hp =>
      mem_outlines_of_modify_subset
        (f := fun t => { t with columns := t.columns.eraseIdx j }) (locate_spec hi).1
        (List.map_subset _ List.eraseIdx_subset) hp
    exact .stems not_false (.of_drops hkept (hs' ▸ outlines_map_mapReferences _ _))
  | setPrimaryKey id name =>
    obtain ⟨i, table, -, j, chosen, -, hs'⟩ := setPrimaryKey_effect h
    exact .stems not_false (.of_modify hs' fun t =>
      Column.IsKeyBlind.map_soleKeyAt (g := fun d => (⟨t.name, d.outline⟩ : Outline))
        (fun _ _ _ _ => rfl) j t.columns)
  | setForeignKey id name targetId targetName => exact setForeignKey not_false hw hc h
  | connect id name targetId targetName => exact setForeignKey not_false hw hc h
  | clearForeignKey id name =>
    obtain ⟨i, table, hi, j, column, hj, rfl⟩ := clearForeignKey_effect h
    have hget := (locate_spec hi).1
    have hcolumn := (Table.locate_spec hj).1
    refine .stems not_false (.of_isLeft fun p hp => ?_)
    rw [withReference_tables hget hcolumn, hw.mem_outlines_put_iff hget hcolumn] at hp
    rcases hp with rfl | ⟨hp, -⟩
    · exact ⟨_, mem_outlines_of_mem (List.mem_of_getElem? hget) (List.mem_of_getElem? hcolumn),
        rfl, rfl, ⟨rfl, rfl⟩, fun r hr => absurd hr (Option.some_ne_none r).symm⟩
    · exact ⟨p, hp, .refl p⟩

/-- A property that each change keeps just when it is not `Harmful` holds all along a sequence of
commands on the empty schema if and only if no accepted command is harmful. -/
theorem forall_run_empty_iff {P : Schema → Prop} {Harmful : Schema → Command → Prop}
    (hempty : P empty) (hstep : ∀ (s s' : Schema) (command : Command), s.WellFormed → s.Closed →
      s'.WellFormed → s'.Closed → P s → OutlineChange s s' command →
      (P s' ↔ ¬Harmful s command))
    {commands : List (TableId × Command)} (hfresh : empty.DrawsFresh commands) :
    (∀ n, P (empty.run (commands.take n)))
      ↔ ∀ change ∈ empty.accepted commands, ¬Harmful change.1 change.2 := by
  have hholds : ∀ (s : Schema) (fresh : TableId) (command : Command) (s' : Schema),
      s.WellFormed ∧ s.Closed → (command.AddsTable → ∀ t ∈ s.tables, t.id ≠ fresh) →
      s.apply fresh command = .ok s' → s'.WellFormed ∧ s'.Closed := by
    rintro s fresh command s' ⟨hw, hc⟩ hnew happly
    exact ⟨hw.apply hnew happly, hc.apply hw happly⟩
  have hbegin : empty.WellFormed ∧ empty.Closed :=
    ⟨wellFormed_empty, fun _ ht => absurd ht List.not_mem_nil⟩
  refine forall_run_take_iff hholds ?_ hfresh hbegin hempty
  rintro s fresh command s' ⟨hw, hc⟩ ⟨hw', hc'⟩ hp happly
  exact hstep s s' command hw hc hw' hc' hp (of_apply hw hc happly)

end OutlineChange

end SchemaDesigner
