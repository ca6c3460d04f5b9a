/-
Scripts of tables: what a dialect writes of them is read back.

* `IsLegibleTable`: a table with readable names and legible columns;
* `Defines.renderTable`: the definition of such a table gives what the dialect carries of it;
* `parse_render_of_legible`: so does the whole script, in its own order of the tables;
* `IsPlainColumn`, `IsPlainTable`: known types, lists of sizes and plain defaults;
* `parse_render`: a script of plain tables is read back.
-/
import SchemaDesigner.Proofs.Schema.Effect
import SchemaDesigner.Proofs.Script.Elements
import SchemaDesigner.Proofs.Script.Table

namespace SchemaDesigner.Script

/-- All names in the table can be read, and it has columns, of distinct names. -/
structure HasReadableNames (d : Dialect) (t : Table) : Prop where
  name : IsWritable d t.name
  columns : ∀ c ∈ t.columns, IsWritable d c.name
  references : ∀ p ∈ t.references, IsWritable d p.2.table ∧ IsWritable d p.2.column
  nonempty : t.columns ≠ []
  distinct : DistinctNames (t.columns.map fun c => c.name)

/-- A table with readable names and legible columns. -/
structure IsLegibleTable (d : Dialect) (t : Table) : Prop extends HasReadableNames d t where
  legible : ∀ c ∈ t.columns, IsLegible d c.toColumnDef

/-! ### The definition of a table -/

section RenderTable

variable {d : Dialect} {layout : Layout} {t : Table} {s : String} {ds : List TableDef}

lemma namedReferences_eq_map (t : Table) :
    namedReferences t.columns = t.references.map fun p => (p.1.name, p.2) := by
  rw [namedReferences, Table.references, List.map_filterMap]
  congr 1
  funext c
  cases c.reference <;> rfl

/-- The lines of a body give the columns without references, followed by the references. -/
lemma writes_bodyLines (h : IsLegibleTable d t) : List.Forall₂ WritesElement (bodyLines d t)
    ((t.columns.map fun c => (c.toColumnDef.carried d).withoutReference).map Element.column
      ++ ((namedReferences t.columns).map fun p => .foreignKey p.1 p.2).map
        Element.constraint) := by
  rw [bodyLines, namedReferences_eq_map, List.map_map, List.map_map, List.map_map]
  refine List.rel_append ?_ ?_
  · rw [List.forall₂_map_left_iff, List.forall₂_map_right_iff, List.forall₂_same]
    exact fun c hc => reads_columnLine (h.columns c hc) (h.legible c hc)
  · rw [List.forall₂_map_left_iff, List.forall₂_map_right_iff, List.forall₂_same]
    intro p hp
    obtain ⟨htarget, hname⟩ := h.references p hp
    exact reads_referenceLine (h.columns p.1 (Table.mem_references.mp hp).1) htarget hname

/-- The statements for the indexes of a table define nothing. -/
lemma Defines.indexLines (h : IsLegibleTable d t) (hs : Defines s ds) :
    Defines ((if d.indexesReferences then
      joinWith "" (t.references.map fun (c, _) => Script.indexLine d t.name c.name) else "") ++ s)
      ds := by
  split_ifs
  · have hcolumns : ∀ p ∈ t.references, IsWritable d p.1.name := fun p hp =>
      h.columns p.1 (Table.mem_references.mp hp).1
    generalize t.references = ps at hcolumns
    induction ps with
    | nil => rwa [List.map_nil, joinWith, String.empty_append]
    | cons p ps ih =>
      have hrest := ih fun q hq => hcolumns q (List.mem_cons_of_mem p hq)
      rw [List.map_cons, joinWith_empty_cons, String.append_assoc]
      exact hrest.indexLine h.name (hcolumns p List.mem_cons_self)
  · rwa [String.empty_append]

/-- The definition of a legible table, in front of other definitions. -/
lemma Defines.renderTable (h : IsLegibleTable d t)
    (hindent : Text.isBlankText layout.indent = true) (hs : Defines s ds) :
    Defines (Script.renderTable d layout t ++ s) (TableDef.carried d t :: ds) := by
  have hne : bodyLines d t ≠ [] := by
    rw [bodyLines, ne_eq, List.append_eq_nil_iff, List.map_eq_nil_iff]
    exact fun hnil => h.nonempty hnil.1
  obtain ⟨ts, hafter, hgives⟩ := Defines.indexLines h hs
  obtain ⟨body, parts, hbody, hsplit, helements⟩ :=
    reads_body hindent (writes_bodyLines h) hne
  have htable := tableOf?_elements t.name h.distinct h.nonempty
    (f := fun c => c.toColumnDef.carried d) (fun _ => rfl) fun _ => rfl
  rw [← helements] at htable
  have hclosed := hbody.append hafter.endBody (Stops.prepend (c := '\n') rfl rfl)
  have hnamed := (reads_quote h.name).append hclosed.beginBody (Stops.prepend (c := ' ') rfl rfl)
  have hstatement := hnamed.createTable.afterComment t.comment
  have htext : Script.renderTable d layout t ++ s = _ := append_assoc₈ _ _ _ _ _ _ _ _
  refine ⟨_, htext ▸ hstatement, fun rest => ?_⟩
  have hcreate : readCreate (.keyword .table :: .ident t.name :: .lparen
      :: (body ++ .rparen :: .semicolon :: (ts ++ rest)))
      = (some (TableDef.carried d t), ts ++ rest) := by
    rw [readCreate, List.dropWhile_cons_of_neg (by decide)]
    simp only [readTable, dropCondition, readName, readQualified, hsplit, htable, afterStatement,
      TableDef.carried]
  have htokens : .keyword .create :: .keyword .table :: ([.ident t.name]
      ++ .lparen :: (body ++ .rparen :: .semicolon :: ts)) ++ rest
      = .keyword .create :: .keyword .table :: .ident t.name :: .lparen
        :: (body ++ .rparen :: .semicolon :: (ts ++ rest)) := by
    simp
  rw [htokens, definitions_create_of_some hcreate, hgives]
  rfl

/-- The script of legible tables gives what the dialect carries of them, in its own order. -/
lemma defines_joinWith {ts : List Table} (h : ∀ t ∈ ts, IsLegibleTable d t)
    (hindent : Text.isBlankText layout.indent = true) :
    Defines (joinWith "\n" (ts.map (Script.renderTable d layout)))
      (ts.map (TableDef.carried d)) := by
  induction ts with
  | nil => exact .empty
  | cons t ts ih =>
    have ht := h t List.mem_cons_self
    have hrest := ih fun u hu => h u (List.mem_cons_of_mem t hu)
    cases ts with
    | nil =>
      have hlast := Defines.renderTable ht hindent .empty
      rwa [String.append_empty] at hlast
    | cons u us =>
      rw [List.map_cons, List.map_cons, joinWith, String.append_assoc]
      exact Defines.renderTable ht hindent hrest.newline

end RenderTable

/-! ### Headers -/

lemma newline_notMem_repr (n : ℕ) : '\n' ∉ n.repr.toList := by
  rw [Nat.toList_repr]
  intro hmem
  have hdigit := Nat.isDigit_of_mem_toDigits (by decide) (by decide) hmem
  cases hdigit

lemma newline_notMem_padded (width n : ℕ) : '\n' ∉ (Decimal.padded width n).toList := by
  rw [Decimal.padded, String.toList_append, String.toList_ofList, List.mem_append, not_or]
  refine ⟨fun hmem => ?_, newline_notMem_repr n⟩
  cases (List.mem_replicate.mp hmem).2

/-- The time in a header stands on one line. -/
lemma newline_notMem_secondsText (time : Timestamp) : '\n' ∉ time.secondsText.toList := by
  have hyear : ∀ year : ℤ, '\n' ∉ (Date.yearText year).toList := by
    intro year
    rw [Date.yearText]
    split_ifs <;> simp [newline_notMem_padded]
  simp [Timestamp.secondsText, Timestamp.dateTimeText, Date.text, newline_notMem_padded, hyear]

/-- A header in front of a text does not matter. -/
lemma Defines.headerLines {s : String} {ds : List TableDef} (d : Dialect) (time : Timestamp)
    (h : Defines s ds) : Defines (Script.headerLines d time ++ s) ds := by
  obtain ⟨ts, hreads, hgives⟩ := h
  have htitle : '\n' ∉ d.title.toList := by
    cases d <;> decide
  have hblank := hreads.newline
  have htime := hblank.comment (a := "-- Generated at: ") rfl (by decide)
    (newline_notMem_secondsText time)
  have hdialect := htime.comment (a := "-- Dialect: ") rfl (by decide) htitle
  have hlines := hdialect.comment (a := "-- SchemaForge DDL export") (b := "") rfl
    (by decide) (by decide)
  have htext : Script.headerLines d time ++ s = _ := append_assoc₈ _ _ _ _ _ _ _ _
  have hfirst : ∀ s : String, "-- SchemaForge DDL export\n" ++ s
      = "-- SchemaForge DDL export" ++ ("" ++ ("\n" ++ s)) := fun s => by
    simp [← String.append_assoc]
  have hlast : "\n\n" ++ s = "\n" ++ ("\n" ++ s) := by
    simp [← String.append_assoc]
  rw [htext, hfirst, hlast]
  exact ⟨ts, hlines, hgives⟩

/-! ### Scripts -/

/-- The order of a script has the same tables. -/
lemma referringLast_perm (ts : List Table) : (referringLast ts).Perm ts := by
  rw [referringLast]
  have hperm := List.filter_append_perm (fun t : Table => !t.hasReferences) ts
  simpa using hperm

/-- A script of legible tables with distinct names gives what the dialect carries of them. -/
theorem parse_render_of_legible {d : Dialect} {layout : Layout} {time : Timestamp}
    {tables : List Table} (hindent : Text.isBlankText layout.indent = true)
    (hnames : DistinctNames (tables.map fun t => t.name))
    (h : ∀ t ∈ tables, IsLegibleTable d t) :
    parse (render tables d layout time) = (referringLast tables).map (TableDef.carried d) := by
  have hperm := referringLast_perm tables
  have hbody : Defines (joinWith "\n" ((referringLast tables).map (Script.renderTable d layout)))
      ((referringLast tables).map (TableDef.carried d)) :=
    defines_joinWith (fun t ht => h t (hperm.mem_iff.mp ht)) hindent
  have hdefines : Defines (render tables d layout time)
      ((referringLast tables).map (TableDef.carried d)) := by
    rw [render]
    split_ifs
    · exact hbody.headerLines d time
    · rwa [String.empty_append]
  rw [hdefines.parse_eq]
  refine keepFirst_eq_self (List.pairwise_map.mpr ?_)
  have hdistinct := List.pairwise_map.mp hnames
  refine (hperm.pairwise_iff ?_).mpr hdistinct
  intro a b hab
  rw [← Bool.not_eq_true] at hab ⊢
  exact fun hba => hab (namesMatch_symm hba)

/-! ### Plain tables -/

/-- The type of the column is a plain one, and so are its size and its default, if it has them. -/
structure IsPlainColumn (c : ColumnDef) : Prop where
  type : IsPlainType c.type
  size : ∀ s, Text.nonEmpty? c.size = some s → IsPlainSize s
  default : ∀ s, Text.nonEmpty? c.defaultValue = some s → IsPlainDefault s

lemma IsPlainColumn.legible {c : ColumnDef} (h : IsPlainColumn c) (d : Dialect) : IsLegible d c :=
  ⟨fun _ => h.type.legible, fun _ s hs => (h.size s hs).legible, fun s hs =>
    (h.default s hs).legible⟩

/-- A table with readable names and plain columns. -/
structure IsPlainTable (d : Dialect) (t : Table) : Prop extends HasReadableNames d t where
  plain : ∀ c ∈ t.columns, IsPlainColumn c.toColumnDef

/-- In each dialect, with a header or without, at any time and with any indent of blanks: a script
of plain tables with distinct names is read as these tables, those that refer to others last, with
all that the dialect carries of their columns. -/
theorem parse_render {d : Dialect} {layout : Layout} {time : Timestamp} {tables : List Table}
    (hindent : Text.isBlankText layout.indent = true)
    (hnames : DistinctNames (tables.map fun t => t.name)) (h : ∀ t ∈ tables, IsPlainTable d t) :
    parse (render tables d layout time) = (referringLast tables).map (TableDef.carried d) := by
  refine parse_render_of_legible hindent hnames fun t ht => ?_
  exact ⟨(h t ht).toHasReadableNames, fun c hc => ((h t ht).plain c hc).legible d⟩

/-- A customer and an order that refers to it. -/
def sampleTables : List Table :=
  [{ id := ⟨"1"⟩, name := "orders", columns :=
      [{ name := "customer", type := .int, id := ⟨"a"⟩,
          reference := some ⟨"customers", "id"⟩ },
        { name := "price", type := .decimal, size := some "10,2", defaultValue := some "-1.5",
          id := ⟨"b"⟩ }] },
    { id := ⟨"2"⟩, name := "customers", comment := some "who buys", columns :=
      [{ name := "id", type := .int, primaryKey := true, nullable := false, unique := true,
          autoIncrement := true, id := ⟨"c"⟩ },
        { name := "grade", type := .other "ENUM", size := some "'a','it''s'",
          defaultValue := some "'it''s'", id := ⟨"d"⟩ }] }]

/-- A list of two numbers, one of literals, and defaults of both kinds are plain. -/
lemma isPlainTable_sampleTables : ∀ t ∈ sampleTables, IsPlainTable .mySql t := by
  have hnumber : IsPlainSize "10,2" :=
    .cons (s := "10") (.number (by decide)) (.single (s := "2") (.number (by decide)))
  have hliterals : IsPlainSize "'a','it''s'" :=
    .cons (.literal (s := "a") (by decide)) (.single (.literal (s := "it's") (by decide)))
  have hnegative : IsPlainDefault "-1.5" := .operand (.number (by decide))
  have hliteral : IsPlainDefault "'it''s'" := .operand (.literal (s := "it's") (by decide))
  intro t ht
  simp only [sampleTables, List.mem_cons, List.not_mem_nil, or_false] at ht
  rcases ht with rfl | rfl
  · refine ⟨⟨by decide, by decide, by decide, by decide, by decide⟩, ?_⟩
    intro c hc
    simp only [List.mem_cons, List.not_mem_nil, or_false] at hc
    rcases hc with rfl | rfl
    · exact ⟨.known (by decide), nofun, nofun⟩
    · refine ⟨.known (by decide), ?_, ?_⟩
      · rintro s hs
        obtain rfl := Option.some.inj hs
        exact hnumber
      · rintro s hs
        obtain rfl := Option.some.inj hs
        exact hnegative
  · refine ⟨⟨by decide, by decide, by decide, by decide, by decide⟩, ?_⟩
    intro c hc
    simp only [List.mem_cons, List.not_mem_nil, or_false] at hc
    rcases hc with rfl | rfl
    · exact ⟨.known (by decide), nofun, nofun⟩
    · refine ⟨.other (by decide) (by decide) (by decide) (by decide), ?_, ?_⟩
      · rintro s hs
        obtain rfl := Option.some.inj hs
        exact hliterals
      · rintro s hs
        obtain rfl := Option.some.inj hs
        exact hliteral

/-- The tables are read back from a script in a dialect without quotes. -/
theorem parse_render_sampleTables :
    Text.isBlankText "\t" = true ∧ DistinctNames (sampleTables.map fun t => t.name)
      ∧ (∀ t ∈ sampleTables, IsPlainTable .mySql t)
      ∧ parse (render sampleTables .mySql ⟨true, "\t"⟩ .epoch)
        = (referringLast sampleTables).map (TableDef.carried .mySql) := by
  have hnames : DistinctNames (sampleTables.map fun t => t.name) := by decide
  exact ⟨by decide, hnames, isPlainTable_sampleTables,
    parse_render (by decide) hnames isPlainTable_sampleTables⟩

end SchemaDesigner.Script
