/-
Scripts of the tables that a script defines.

* `reexport`: a script is read, and what it defines is written in a dialect;
* `IsReread`: a table and what the dialect carries of it, read back;
* `IsReread.renderTable_eq`, `render_eq`: both have the same script;
* `isLegibleTable_of_mem_ofDefs`: tables with legible columns that come from a script are legible;
* `reexport_reexport`: in the dialects with quotes, a script of legible columns is written again as
  it is;
* `reexport_reexport_of_isTidy`: so is a tidy script.
-/
import SchemaDesigner.Proofs.Script.Import
import SchemaDesigner.Proofs.Script.Roundtrip
import SchemaDesigner.Proofs.Script.Tidy

namespace SchemaDesigner.Script

/-- The script, in a dialect, of the tables that a script defines. -/
def reexport (s : String) (ids : IdSupply) (d : Dialect) (layout : Layout) (time : Timestamp) :
    String :=
  render (Table.ofDefs (parse s) ids).1 d layout time

/-! ### What a script depends on -/

/-- The table `u` has what the dialect carries of `t`, and its comment. -/
structure IsReread (d : Dialect) (t u : Table) : Prop where
  name : u.name = t.name
  comment : u.comment = t.comment
  columns : u.columns.map (fun c => c.toColumnDef) = t.columns.map fun c => c.toColumnDef.carried d

lemma namedReferences_eq_filterMap (cs : List Column) : namedReferences cs
    = (cs.map fun c => c.toColumnDef).filterMap fun c => c.reference.map fun r => (c.name, r) := by
  rw [namedReferences, List.filterMap_map]
  rfl

lemma hasReferences_eq_any (t : Table) : t.hasReferences
    = (t.columns.map fun c => c.toColumnDef).any fun c => c.reference.isSome := by
  rw [Table.hasReferences, List.any_map]
  rfl

namespace IsReread

variable {d : Dialect} {t u : Table}

lemma namedReferences_eq (h : IsReread d t u) :
    namedReferences u.columns = namedReferences t.columns := by
  rw [namedReferences_eq_filterMap, namedReferences_eq_filterMap, h.columns, List.filterMap_map,
    List.filterMap_map]
  rfl

lemma hasReferences_eq (h : IsReread d t u) : u.hasReferences = t.hasReferences := by
  rw [hasReferences_eq_any, hasReferences_eq_any, h.columns, List.any_map, List.any_map]
  rfl

lemma bodyLines_eq (h : IsReread d t u) : bodyLines d u = bodyLines d t := by
  have hlines : ∀ t : Table, bodyLines d t = (t.columns.map fun c => columnLine d c.toColumnDef)
      ++ (namedReferences t.columns).map fun p => referenceLine d p.1 p.2 := fun t => by
    rw [namedReferences_eq_map, List.map_map]
    rfl
  have hcolumns : (u.columns.map fun c => columnLine d c.toColumnDef)
      = t.columns.map fun c => columnLine d c.toColumnDef := by
    calc (u.columns.map fun c => columnLine d c.toColumnDef)
        = (u.columns.map fun c => c.toColumnDef).map (columnLine d) := by
          rw [List.map_map]
          rfl
      _ = t.columns.map fun c => columnLine d (c.toColumnDef.carried d) := by
          rw [h.columns, List.map_map]
          rfl
      _ = _ := List.map_congr_left fun c _ => columnLine_carried d c.toColumnDef
  rw [hlines, hlines, h.namedReferences_eq, hcolumns]

/-- A table and what is read back of it have the same definition. -/
lemma renderTable_eq (h : IsReread d t u) (layout : Layout) :
    renderTable d layout u = renderTable d layout t := by
  have htext : ∀ t : Table, renderTable d layout t = commentLines t.comment
      ++ "CREATE TABLE " ++ d.quote t.name ++ " (\n"
      ++ joinWith ",\n" ((bodyLines d t).map (layout.indent ++ ·)) ++ "\n);\n"
      ++ (if d.indexesReferences then
        joinWith "" ((namedReferences t.columns).map fun p => indexLine d t.name p.1)
        else "") := fun t => by
    rw [namedReferences_eq_map, List.map_map]
    rfl
  rw [htext, htext, h.bodyLines_eq, h.namedReferences_eq, h.comment, h.name]

end IsReread

lemma referringLast_referringLast (ts : List Table) :
    referringLast (referringLast ts) = referringLast ts := by
  simp [referringLast, List.filter_append, List.filter_filter]

/-- Tables and what is read back of them, in the order of the script, have the same script. -/
lemma render_eq {d : Dialect} {ts us : List Table}
    (h : List.Forall₂ (IsReread d) (referringLast ts) us) (layout : Layout) (time : Timestamp) :
    render us d layout time = render ts d layout time := by
  have hkinds : ∀ t u, IsReread d t u → (t.hasReferences = u.hasReferences) :=
    fun t u htu => htu.hasReferences_eq.symm
  have horder : List.Forall₂ (IsReread d) (referringLast ts) (referringLast us) := by
    rw [← referringLast_referringLast ts]
    refine List.rel_append (List.rel_filter ?_ h) (List.rel_filter ?_ h)
    · exact fun t u htu => iff_of_eq (congrArg (fun b => (!b) = true) (hkinds t u htu))
    · exact fun t u htu => iff_of_eq (congrArg (· = true) (hkinds t u htu))
  have hlines : (referringLast us).map (renderTable d layout)
      = (referringLast ts).map (renderTable d layout) := by
    generalize referringLast us = us', referringLast ts = ts' at horder
    induction horder with
    | nil => rfl
    | cons htu _ ih => rw [List.map_cons, List.map_cons, htu.renderTable_eq, ih]
  rw [render, render, hlines]

/-! ### Tables that come from a script -/

/-- One primary key at most is left as it is. -/
lemma firstKeyOnly_eq_self {cs : List ColumnDef}
    (h : cs.countP (fun c => c.primaryKey) ≤ 1) : firstKeyOnly false cs = cs := by
  have hnone : ∀ cs : List ColumnDef, cs.countP (fun c => c.primaryKey) = 0 →
      firstKeyOnly true cs = cs := by
    intro cs hcs
    rw [List.countP_eq_zero] at hcs
    induction cs with
    | nil => rfl
    | cons c cs ih =>
      rw [firstKeyOnly, if_neg (hcs c List.mem_cons_self),
        ih fun c' hc' => hcs c' (List.mem_cons_of_mem c hc')]
  induction cs with
  | nil => rfl
  | cons c cs ih =>
    rw [firstKeyOnly]
    split_ifs with hkey
    · rw [List.countP_cons, if_pos hkey] at h
      rw [hnone cs (by omega)]
      simp [← hkey]
    · rw [List.countP_cons, if_neg hkey] at h
      rw [ih h]

section OfDefs

variable {d : Dialect} {s : String} {ids : IdSupply} {t : Table}

lemma countP_carried (d : Dialect) (cs : List Column) :
    (cs.map fun c => c.toColumnDef.carried d).countP (fun c => c.primaryKey)
      = (cs.map fun c => c.toColumnDef).countP fun c => c.primaryKey := by
  rw [List.countP_map, List.countP_map]
  rfl

/-- Nothing but the columns is left of a table that comes from a script. -/
lemma carried_of_mem_ofDefs (h : t ∈ (Table.ofDefs (parse s) ids).1) :
    TableDef.carried d t = ⟨t.name, t.columns.map fun c => c.toColumnDef.carried d⟩ := by
  have hkey : (t.columns.map fun c => c.toColumnDef).countP (fun c => c.primaryKey) ≤ 1 :=
    (wellFormed_of_mem_parse (toDef_mem_parse h)).oneKey
  rw [← countP_carried d] at hkey
  rw [TableDef.carried, firstKeyOnly_eq_self hkey]

/-- In a dialect that can write all names, the tables that come from a script are legible if their
columns are. -/
lemma isLegibleTable_of_mem_ofDefs (hd : ∀ name, IsWritable d name)
    (hlegible : ∀ t ∈ parse s, ∀ c ∈ t.columns, IsLegible d c)
    (h : t ∈ (Table.ofDefs (parse s) ids).1) : IsLegibleTable d t := by
  have hmem := toDef_mem_parse h
  have hwell := wellFormed_of_mem_parse hmem
  have hcolumns : ∀ c ∈ t.columns, c.toColumnDef ∈ t.toDef.columns := fun c hc =>
    List.mem_map_of_mem hc
  refine ⟨⟨hd _, fun c _ => hd _, fun p _ => ⟨hd _, hd _⟩, ?_, ?_⟩, fun c hc =>
    hlegible _ hmem _ (hcolumns c hc)⟩
  · rintro hnil
    exact hwell.nonempty (by rw [Table.toDef, hnil, List.map_nil])
  · have hdistinct := hwell.distinct
    rwa [Table.toDef, List.map_map] at hdistinct

/-- The tables that come from a script of tables are these tables, read back. -/
lemma forall₂_isReread {ts : List Table} {ids : IdSupply}
    (hcarried : ∀ t ∈ ts, t.comment = none
      ∧ TableDef.carried d t = ⟨t.name, t.columns.map fun c => c.toColumnDef.carried d⟩) :
    List.Forall₂ (IsReread d) ts (Table.ofDefs (ts.map (TableDef.carried d)) ids).1 := by
  obtain ⟨hdefs, hcomments⟩ := ofDefs_spec (ts.map (TableDef.carried d)) ids
  generalize (Table.ofDefs (ts.map (TableDef.carried d)) ids).1 = us at hdefs hcomments
  induction ts generalizing us with
  | nil =>
    rw [List.map_nil, List.map_eq_nil_iff] at hdefs
    rw [hdefs]
    exact .nil
  | cons t ts ih =>
    cases us with
    | nil => cases hdefs
    | cons u us =>
      rw [List.map_cons, List.map_cons] at hdefs
      obtain ⟨hu, hus⟩ := List.cons.inj hdefs
      obtain ⟨hcomment, ht⟩ := hcarried t List.mem_cons_self
      rw [ht] at hu
      obtain ⟨hname, hcolumns⟩ := TableDef.mk.inj hu
      refine .cons ⟨hname, ?_, hcolumns⟩ ?_
      · rw [hcomments u List.mem_cons_self, hcomment]
      · exact ih (fun t' ht' => hcarried t' (List.mem_cons_of_mem t ht')) us hus
          fun u' hu' => hcomments u' (List.mem_cons_of_mem u hu')

end OfDefs

/-! ### Scripts -/

/-- In a dialect that can write all names, what a script of legible columns is written as has the
tables of the script: they are written in the same way. -/
lemma reexport_reexport_of_writable {d : Dialect} {layout : Layout} {s : String}
    (hd : ∀ name, IsWritable d name) (hindent : Text.isBlankText layout.indent = true)
    (hlegible : ∀ t ∈ parse s, ∀ c ∈ t.columns, IsLegible d c) (ids ids' : IdSupply)
    (time time' : Timestamp) :
    reexport (reexport s ids d layout time) ids' d layout time'
      = reexport s ids d layout time' := by
  obtain ⟨hdefs, hcomments⟩ := ofDefs_spec (parse s) ids
  have hnames : DistinctNames ((Table.ofDefs (parse s) ids).1.map fun t => t.name) := by
    have hdistinct := distinct_parse s
    rw [← hdefs, List.map_map] at hdistinct
    exact hdistinct
  have hparse : parse (reexport s ids d layout time)
      = (referringLast (Table.ofDefs (parse s) ids).1).map (TableDef.carried d) :=
    parse_render_of_legible hindent hnames fun t ht => isLegibleTable_of_mem_ofDefs hd hlegible ht
  have hperm := referringLast_perm (Table.ofDefs (parse s) ids).1
  have hreread : List.Forall₂ (IsReread d) (referringLast (Table.ofDefs (parse s) ids).1)
      (Table.ofDefs (parse (reexport s ids d layout time)) ids').1 := by
    rw [hparse]
    exact forall₂_isReread fun t ht =>
      ⟨hcomments t (hperm.mem_iff.mp ht), carried_of_mem_ofDefs (hperm.mem_iff.mp ht)⟩
  exact render_eq hreread layout time'

/-- So it is with a tidy script, which shows by its tokens that its columns are legible. -/
theorem reexport_reexport_of_isTidy {d : Dialect} {layout : Layout} {s : String}
    (hd : ∀ name, IsWritable d name) (hindent : Text.isBlankText layout.indent = true)
    (h : IsTidy s) (ids ids' : IdSupply) (time time' : Timestamp) :
    reexport (reexport s ids d layout time) ids' d layout time'
      = reexport s ids d layout time' :=
  reexport_reexport_of_writable hd hindent (fun _ ht => h.isLegible d ht) ids ids' time time'

/-- In the dialects with quotes, with any indent of blanks and without a header: what a script is
written as is written again as it is, if the types, the sizes and the defaults in the script are
read back as they are written. -/
theorem reexport_reexport {d : Dialect} {layout : Layout} {s : String}
    (hd : d = .postgreSql ∨ d = .cockroachDb ∨ d = .oracle ∨ d = .sqlServer)
    (hheader : layout.header = false) (hindent : Text.isBlankText layout.indent = true)
    (hlegible : ∀ t ∈ parse s, ∀ c ∈ t.columns, IsLegible d c) (ids ids' : IdSupply)
    (time time' : Timestamp) :
    reexport (reexport s ids d layout time) ids' d layout time' = reexport s ids d layout time := by
  have hquoted : ∀ name, IsWritable d name := by
    intro name
    rcases hd with rfl | rfl | rfl | rfl <;> exact trivial
  have htime : reexport s ids d layout time' = reexport s ids d layout time := by
    simp only [reexport, render, hheader, Bool.false_eq_true, if_false]
  rw [reexport_reexport_of_writable hquoted hindent hlegible, htime]

/-- Orders of a buyer, with a note that has a size and a default. -/
def sampleScript : String :=
  "create table \"Order\" (id serial, buyer int references t(id), note enum('a') default N'it''s');"

/-- Its types, its size and its default are read back as they are written. -/
lemma isTidy_sampleScript : IsTidy sampleScript := by
  decide +kernel

/-- The script is written again as it is for PostgreSQL. -/
theorem reexport_reexport_sampleScript :
    (∀ t ∈ parse sampleScript, ∀ c ∈ t.columns, IsLegible .postgreSql c)
      ∧ reexport (reexport sampleScript ⟨0⟩ .postgreSql ⟨false, "  "⟩ .epoch) ⟨7⟩ .postgreSql
          ⟨false, "  "⟩ .epoch
        = reexport sampleScript ⟨0⟩ .postgreSql ⟨false, "  "⟩ .epoch := by
  have hlegible : ∀ t ∈ parse sampleScript, ∀ c ∈ t.columns, IsLegible .postgreSql c :=
    fun _ ht => isTidy_sampleScript.isLegible .postgreSql ht
  exact ⟨hlegible, reexport_reexport (.inl rfl) rfl (by decide) hlegible ⟨0⟩ ⟨7⟩ .epoch .epoch⟩

/-- A quote behind a backslash is written twice, and only one of the two is read behind the
backslash again. The other one ends the literal, and no table is left. -/
theorem reexport_reexport_ne_of_backslash :
    reexport (reexport "CREATE TABLE t (a TEXT DEFAULT 'it\\'s', b INT);" ⟨0⟩ .postgreSql
        ⟨false, "  "⟩ .epoch) ⟨0⟩ .postgreSql ⟨false, "  "⟩ .epoch
      ≠ reexport "CREATE TABLE t (a TEXT DEFAULT 'it\\'s', b INT);" ⟨0⟩ .postgreSql
        ⟨false, "  "⟩ .epoch := by
  decide +kernel

end SchemaDesigner.Script
