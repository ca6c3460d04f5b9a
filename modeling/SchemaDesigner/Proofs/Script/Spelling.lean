/-
How a script spells what its tables refer to: as the references do, and not as the tables do.

* `IsPartOf`: a text stands somewhere in another one;
* `IsPartOf.definition`, `isPartOf_createTable`, `isPartOf_columnLine`, `isPartOf_referenceLine`:
  the texts of which a script is made;
* `referenceLine_inj`: between quotes a line tells the column and the reference;
* `referenceLine_spells_iff`: the line for a reference spells the column that it names as the
  definition of that column does exactly if the reference itself does so.

Names match without regard to case, and quoted names are told apart by it.
-/
import SchemaDesigner.Proofs.Script.Roundtrip

namespace SchemaDesigner.Script

/-! ### Parts of a text -/

/-- The text stands somewhere in the other one. -/
def IsPartOf (s t : String) : Prop :=
  s.toList <:+: t.toList

instance (s t : String) : Decidable (IsPartOf s t) :=
  inferInstanceAs (Decidable (_ <:+: _))

namespace IsPartOf

variable {s t u : String}

lemma refl (s : String) : IsPartOf s s :=
  List.infix_rfl

lemma trans (h : IsPartOf s t) (h' : IsPartOf t u) : IsPartOf s u :=
  List.IsInfix.trans h h'

lemma append (s : String) (h : IsPartOf t u) : IsPartOf t (s ++ u) := by
  rw [IsPartOf, String.toList_append]
  exact List.IsInfix.trans h (List.suffix_append _ _).isInfix

lemma prepend (u : String) (h : IsPartOf s t) : IsPartOf s (t ++ u) := by
  rw [IsPartOf, String.toList_append]
  exact List.IsInfix.trans h (List.prefix_append _ _).isInfix

lemma joinWith {separator : String} {ss : List String} (h : s ∈ ss) :
    IsPartOf s (Script.joinWith separator ss) := by
  induction ss using Script.joinWith.induct with
  | case1 => exact absurd h List.not_mem_nil
  | case2 t =>
    rw [List.mem_singleton.mp h]
    exact refl t
  | case3 t u ss ih =>
    rw [Script.joinWith]
    rcases List.mem_cons.mp h with rfl | h
    · exact ((refl s).prepend _).prepend _
    · exact (ih h).append _

end IsPartOf

/-! ### Parts of a script -/

section Parts

variable {d : Dialect} {layout : Layout} {time : Timestamp} {tables : List Table} {t : Table}

/-- A script has the definitions of all its tables. -/
lemma IsPartOf.definition (ht : t ∈ tables) :
    IsPartOf (renderTable d layout t) (render tables d layout time) := by
  have hmem := (referringLast_perm tables).mem_iff.mpr ht
  exact (IsPartOf.joinWith (List.mem_map_of_mem hmem)).append _

/-- A definition begins with the name of the table. -/
lemma isPartOf_createTable :
    IsPartOf ("CREATE TABLE " ++ d.quote t.name ++ " (\n") (renderTable d layout t) := by
  have hhead : commentLines t.comment ++ "CREATE TABLE " ++ d.quote t.name ++ " (\n"
      = commentLines t.comment ++ ("CREATE TABLE " ++ d.quote t.name ++ " (\n") := by
    simp only [String.append_assoc]
  rw [renderTable, hhead]
  exact ((((IsPartOf.refl _).append _).prepend _).prepend _).prepend _

lemma isPartOf_bodyLine {line : String} (h : line ∈ bodyLines d t) :
    IsPartOf (layout.indent ++ line) (renderTable d layout t) := by
  have hline : layout.indent ++ line ∈ (bodyLines d t).map (layout.indent ++ ·) :=
    List.mem_map_of_mem h
  rw [renderTable]
  exact (((IsPartOf.joinWith hline).append _).prepend _).prepend _

/-- A definition has a line for each column, which begins with the name of the column. -/
lemma isPartOf_columnLine {c : Column} (hc : c ∈ t.columns) :
    IsPartOf (layout.indent ++ (d.quote c.name ++ " ")) (renderTable d layout t) := by
  have hmem : columnLine d c.toColumnDef ∈ t.columns.map fun c => columnLine d c.toColumnDef :=
    List.mem_map_of_mem hc
  have hline : IsPartOf (layout.indent ++ (d.quote c.name ++ " "))
      (layout.indent ++ columnLine d c.toColumnDef) := by
    have htext : layout.indent ++ columnLine d c.toColumnDef
        = layout.indent ++ (d.quote c.name ++ " ")
          ++ ((d.serialType? c.toColumnDef).getD c.typeLabel ++ columnOptions d c.toColumnDef) := by
      simp only [columnLine, String.append_assoc]
    rw [htext]
    exact (IsPartOf.refl _).prepend _
  exact hline.trans (isPartOf_bodyLine (List.mem_append_left _ hmem))

/-- A definition has a line for each reference. -/
lemma isPartOf_referenceLine {c : Column} {r : Reference} (hr : (c, r) ∈ t.references) :
    IsPartOf (layout.indent ++ referenceLine d c.name r) (renderTable d layout t) := by
  have hmem : referenceLine d c.name r
      ∈ t.references.map fun p : Column × Reference => referenceLine d p.1.name p.2 :=
    List.mem_map.mpr ⟨(c, r), hr, rfl⟩
  exact isPartOf_bodyLine (List.mem_append_right _ hmem)

end Parts

/-! ### Spelling -/

/-- Between quotes the line for a reference tells the column and what it refers to. -/
lemma referenceLine_inj {d : Dialect} (hd : ∀ name, IsWritable d name) {a b : String}
    {r r' : Reference} (h : referenceLine d a r = referenceLine d b r') : a = b ∧ r = r' := by
  obtain ⟨ts, hts, -, helement⟩ := reads_referenceLine (hd a) (hd r.table) (hd r.column)
  obtain ⟨ts', hts', -, helement'⟩ := reads_referenceLine (hd b) (hd r'.table) (hd r'.column)
  have hsame : ts = ts' := by
    rw [← hts.tokenize_eq, ← hts'.tokenize_eq, h]
  rw [hsame, helement'] at helement
  obtain ⟨rfl, rfl⟩ := Constraint.foreignKey.inj (Element.constraint.inj (Option.some.inj helement))
  exact ⟨rfl, rfl⟩

/-- The definition of a table is part of a script and has the text in it. -/
def IsWritten (script definition text : String) : Prop :=
  IsPartOf text definition ∧ IsPartOf definition script

/-- In the dialects with quotes, when a reference names a column: the script has the line for the
reference in the definition of the one table, and the names of the other table and of its column in
the definition of that table. The line spells the two as that definition does if and only if the
reference itself does so. Otherwise it spells no column of the script. -/
theorem referenceLine_spells_iff {d : Dialect} {layout : Layout} {time : Timestamp}
    {tables : List Table} {owner target : Table} {c k : Column} {r : Reference}
    (hd : d = .postgreSql ∨ d = .cockroachDb ∨ d = .oracle ∨ d = .sqlServer)
    (htables : DistinctNames (tables.map fun t => t.name))
    (hcolumns : ∀ t ∈ tables, DistinctNames (t.columns.map fun c => c.name))
    (howner : owner ∈ tables) (hr : (c, r) ∈ owner.references)
    (htarget : target ∈ tables) (hk : k ∈ target.columns)
    (hnames : r.names target.name k.name = true) :
    (IsWritten (render tables d layout time) (renderTable d layout owner)
        (layout.indent ++ referenceLine d c.name r)
      ∧ IsWritten (render tables d layout time) (renderTable d layout target)
        ("CREATE TABLE " ++ d.quote target.name ++ " (\n")
      ∧ IsWritten (render tables d layout time) (renderTable d layout target)
        (layout.indent ++ (d.quote k.name ++ " ")))
    ∧ (referenceLine d c.name r = "FOREIGN KEY (" ++ d.quote c.name ++ ") REFERENCES "
        ++ d.quote target.name ++ "(" ++ d.quote k.name ++ ")" ↔ r = ⟨target.name, k.name⟩)
    ∧ (r ≠ ⟨target.name, k.name⟩ → ∀ t ∈ tables, ∀ x ∈ t.columns,
        referenceLine d c.name r ≠ "FOREIGN KEY (" ++ d.quote c.name ++ ") REFERENCES "
          ++ d.quote t.name ++ "(" ++ d.quote x.name ++ ")") := by
  have hquoted : ∀ name, IsWritable d name := by
    intro name
    rcases hd with rfl | rfl | rfl | rfl <;> exact trivial
  have hspells : ∀ table column : String, referenceLine d c.name r = "FOREIGN KEY ("
      ++ d.quote c.name ++ ") REFERENCES " ++ d.quote table ++ "(" ++ d.quote column ++ ")"
        ↔ r = ⟨table, column⟩ := fun table column => by
    constructor
    · intro h
      have hline : referenceLine d c.name r = referenceLine d c.name ⟨table, column⟩ := h
      exact (referenceLine_inj hquoted hline).2
    · rintro rfl
      rfl
  refine ⟨⟨⟨isPartOf_referenceLine hr, .definition howner⟩,
    ⟨isPartOf_createTable, .definition htarget⟩, ⟨isPartOf_columnLine hk, .definition htarget⟩⟩,
    hspells _ _, fun hne t ht x hx hline => hne ?_⟩
  -- a column that the line spells is one that the reference names, so it is the other one
  obtain rfl := (hspells t.name x.name).mp hline
  rw [Reference.names, Bool.and_eq_true] at hnames
  obtain rfl := htables.eq_of_mem ht htarget hnames.1
  rw [(hcolumns t ht).eq_of_mem hx hk hnames.2]

/-- Users with a number. -/
def usersTable : Table :=
  { id := ⟨"1"⟩, name := "users", columns :=
    [{ name := "id", type := .int, primaryKey := true, id := ⟨"a"⟩ }] }

/-- The column for the user of an order, with a reference. -/
def userColumn (r : Reference) : Column :=
  { name := "user_id", type := .int, reference := some r, id := ⟨"b"⟩ }

/-- Orders with a reference to the user. -/
def ordersTable (r : Reference) : Table :=
  { id := ⟨"2"⟩, name := "orders", columns := [userColumn r] }

/-- A reference in the spelling of the users is written in that spelling. -/
theorem referenceLine_spells_usersTable :
    DistinctNames ([usersTable, ordersTable ⟨"users", "id"⟩].map fun t => t.name)
      ∧ (∀ t ∈ [usersTable, ordersTable ⟨"users", "id"⟩],
        DistinctNames (t.columns.map fun c => c.name))
      ∧ (userColumn ⟨"users", "id"⟩, ⟨"users", "id"⟩) ∈ (ordersTable ⟨"users", "id"⟩).references
      ∧ IsWritten
        (render [usersTable, ordersTable ⟨"users", "id"⟩] .postgreSql ⟨false, "  "⟩ .epoch)
        (renderTable .postgreSql ⟨false, "  "⟩ (ordersTable ⟨"users", "id"⟩))
        "  FOREIGN KEY (\"user_id\") REFERENCES \"users\"(\"id\")" := by
  have htables : DistinctNames
      ([usersTable, ordersTable ⟨"users", "id"⟩].map fun t => t.name) := by decide
  have hcolumns : ∀ t ∈ [usersTable, ordersTable ⟨"users", "id"⟩],
      DistinctNames (t.columns.map fun c => c.name) := by decide
  have hr : (userColumn ⟨"users", "id"⟩, ⟨"users", "id"⟩)
      ∈ (ordersTable ⟨"users", "id"⟩).references := by decide
  have hspells := @referenceLine_spells_iff .postgreSql ⟨false, "  "⟩ .epoch _ _ usersTable _ _ _
    (.inl rfl) htables hcolumns (List.mem_of_getElem? (i := 1) rfl) hr List.mem_cons_self
    List.mem_cons_self (by decide)
  have hline := hspells.1.1
  rw [hspells.2.1.mpr rfl] at hline
  exact ⟨htables, hcolumns, hr, hline⟩

/-- A reference in another spelling names the column all the same, and is written in its own. -/
theorem referenceLine_ne_usersTable :
    DistinctNames ([usersTable, ordersTable ⟨"Users", "ID"⟩].map fun t => t.name)
      ∧ (∀ t ∈ [usersTable, ordersTable ⟨"Users", "ID"⟩],
        DistinctNames (t.columns.map fun c => c.name))
      ∧ (userColumn ⟨"Users", "ID"⟩, ⟨"Users", "ID"⟩) ∈ (ordersTable ⟨"Users", "ID"⟩).references
      ∧ Reference.names ⟨"Users", "ID"⟩ "users" "id" = true
      ∧ referenceLine .postgreSql "user_id" ⟨"Users", "ID"⟩
        ≠ "FOREIGN KEY (\"user_id\") REFERENCES \"users\"(\"id\")"
      ∧ render [usersTable, ordersTable ⟨"Users", "ID"⟩] .postgreSql ⟨false, "  "⟩ .epoch
        = "CREATE TABLE \"users\" (\n  \"id\" INT PRIMARY KEY\n);\n\n"
          ++ "CREATE TABLE \"orders\" (\n  \"user_id\" INT,\n"
          ++ "  FOREIGN KEY (\"user_id\") REFERENCES \"Users\"(\"ID\")\n);\n"
          ++ "CREATE INDEX \"idx_orders_user_id\" ON \"orders\"(\"user_id\");\n" := by
  exact ⟨by decide, by decide, by decide, by decide, by decide, by decide +kernel⟩

end SchemaDesigner.Script
