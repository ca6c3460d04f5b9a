/-
The indexes of a script, and what tells their names apart.

* `WrittenStatement`, `statements`, `render_eq_written`: a script is made of statements, each the
  definition of a table or an index on a referring column;
* `tokenize_indexLine`: the name that the statement for an index gives;
* `indexNames`, `indexNames_perm`: the names of the indexes, one for each referring column;
* `nodup_indexNames_iff`: they are distinct unless the name of one table is that of another one, an
  underscore and more.
-/
import SchemaDesigner.Proofs.Schema.Referral
import SchemaDesigner.Proofs.Script.Roundtrip
import SchemaDesigner.Proofs.Text.Cut

namespace SchemaDesigner.Script

/-! ### Statements of a script -/

/-- A statement that a script has for a table: its definition, or the index on a column of it. -/
inductive WrittenStatement
  | definition (t : Table)
  | index (table column : String)

namespace WrittenStatement

/-- The text of a statement. A definition comes with the comment of its table. -/
def text (d : Dialect) (layout : Layout) : WrittenStatement → String
  | definition t =>
    commentLines t.comment
      ++ "CREATE TABLE " ++ d.quote t.name ++ " (\n"
      ++ joinWith ",\n" ((bodyLines d t).map (layout.indent ++ ·))
      ++ "\n);\n"
  | index table column => indexLine d table column

/-- The name that the statement gives to an index, if it is for one. -/
def indexName? : WrittenStatement → Option String
  | definition _ => none
  | index table column => some (indexName table column)

/-- The statements for a table. -/
def ofTable (d : Dialect) (t : Table) : List WrittenStatement :=
  definition t :: if d.indexesReferences then
    t.references.map fun p => index t.name p.1.name
  else []

end WrittenStatement

/-- The statements of a script, table by table. -/
def statements (d : Dialect) (tables : List Table) : List (List WrittenStatement) :=
  (referringLast tables).map (WrittenStatement.ofTable d)

/-- The text of the statements, with a free line between those of two tables. -/
def written (d : Dialect) (layout : Layout) (groups : List (List WrittenStatement)) : String :=
  joinWith "\n" (groups.map fun group => joinWith "" (group.map (WrittenStatement.text d layout)))

/-- Behind its header a script has its statements and nothing else. -/
lemma render_eq_written (tables : List Table) (d : Dialect) (layout : Layout) (time : Timestamp) :
    render tables d layout time = (if layout.header then headerLines d time else "")
      ++ written d layout (statements d tables) := by
  rw [render, written, statements, List.map_map]
  congr 3
  funext t
  rw [Function.comp_apply, WrittenStatement.ofTable, List.map_cons, joinWith_empty_cons]
  rw [renderTable, WrittenStatement.text]
  cases d.indexesReferences with
  | true => simp [WrittenStatement.text, Function.comp_def]
  | false => rfl

/-- The statement for an index in a dialect with quotes, as it is read: the name of the index, the
table and the column. -/
lemma tokenize_indexLine {d : Dialect} (hd : ∀ name, IsWritable d name) (table column : String) :
    tokenize (indexLine d table column) = [.keyword .create, .keyword .index,
      .ident (indexName table column), .keyword .on, .ident table, .lparen, .ident column, .rparen,
      .semicolon] := by
  have hline := Reads.empty.indexLine (reads_quote (hd (indexName table column))) (hd table)
    (hd column)
  rw [String.append_empty] at hline
  exact hline.tokenize_eq

/-! ### Names of indexes -/

/-- The names of the indexes in a script, in the order of their statements. -/
def indexNames (d : Dialect) (tables : List Table) : List String :=
  (statements d tables).flatten.filterMap WrittenStatement.indexName?

/-- In a dialect with indexes, each referring column has one. -/
lemma indexNames_perm {d : Dialect} (hd : d.indexesReferences = true) (tables : List Table) :
    (indexNames d tables).Perm
      ((referrals tables).map fun x => "idx_" ++ x.table.name ++ "_" ++ x.column.name) := by
  have hnames : indexNames d tables = (referrals (referringLast tables)).map fun x =>
      "idx_" ++ x.table.name ++ "_" ++ x.column.name := by
    rw [indexNames, statements, referrals_eq, List.map_flatMap, ← List.flatMap_def,
      List.filterMap_flatMap]
    refine List.flatMap_congr fun t _ => ?_
    rw [WrittenStatement.ofTable, if_pos hd, Table.references, List.filterMap_cons_none rfl,
      List.filterMap_map, List.filterMap_filterMap, List.map_filterMap]
    refine List.filterMap_congr fun c _ => ?_
    cases c.reference <;> rfl
  rw [hnames]
  exact (referrals_perm (referringLast_perm tables)).map _

/-- A script is made of statements, of which those for indexes are read with the names of these. For
tables with distinct names, and columns with distinct names in each, the names of the indexes are
distinct if and only if there are no two referring columns such that the name of the one table is
that of the other one, an underscore and some text, and the name of the other column is that text,
an underscore and the name of the one. -/
theorem nodup_indexNames_iff {tables : List Table}
    (htables : DistinctNames (tables.map fun t => t.name))
    (hcolumns : ∀ t ∈ tables, DistinctNames (t.columns.map fun c => c.name))
    (layout : Layout) (time : Timestamp) :
    render tables .postgreSql layout time
        = (if layout.header then headerLines .postgreSql time else "")
          ++ written .postgreSql layout (statements .postgreSql tables)
    ∧ (∀ table column, tokenize ((WrittenStatement.index table column).text .postgreSql layout)
        = [.keyword .create, .keyword .index, .ident (indexName table column), .keyword .on,
          .ident table, .lparen, .ident column, .rparen, .semicolon])
    ∧ ((indexNames .postgreSql tables).Nodup
      ↔ ∀ x ∈ referrals tables, ∀ y ∈ referrals tables,
        ¬Text.IsLaterCut "_" (x.table.name, x.column.name) (y.table.name, y.column.name)) := by
  have hnames := List.Nodup.of_map foldName (DistinctNames.iff_nodup.mp htables)
  refine ⟨render_eq_written _ _ _ _, tokenize_indexLine fun _ => trivial, ?_⟩
  rw [(indexNames_perm rfl tables).nodup_iff]
  exact Text.nodup_map_separated_iff (nodup_map_referrals hnames hcolumns) rfl "idx_"

/-- Orders and their lines, where a column of the orders and one of the lines refer to users. -/
def orderTables (ofOrder ofLine : String) : List Table :=
  [{ id := ⟨"1"⟩, name := "order", columns :=
      [{ name := ofOrder, type := .int, reference := some ⟨"users", "id"⟩, id := ⟨"a"⟩ }] },
    { id := ⟨"2"⟩, name := "order_line", columns :=
      [{ name := ofLine, type := .int, reference := some ⟨"users", "id"⟩, id := ⟨"b"⟩ }] }]

/-- Names in which the one table and the other column go on in different ways. -/
theorem nodup_indexNames_orderTables :
    DistinctNames ((orderTables "line_user" "user_id").map fun t => t.name)
      ∧ (∀ t ∈ orderTables "line_user" "user_id", DistinctNames (t.columns.map fun c => c.name))
      ∧ (indexNames .postgreSql (orderTables "line_user" "user_id")).Nodup := by
  have htables : DistinctNames ((orderTables "line_user" "user_id").map fun t => t.name) := by
    decide
  have hcolumns : ∀ t ∈ orderTables "line_user" "user_id",
      DistinctNames (t.columns.map fun c => c.name) := by decide
  have hiff := nodup_indexNames_iff htables hcolumns ⟨false, "  "⟩ .epoch
  exact ⟨htables, hcolumns, hiff.2.2.mpr (by decide)⟩

/-- The underscore that ends the name of the table may be another one than the first behind it. -/
theorem repeated_indexNames_orderTables :
    DistinctNames ((orderTables "line_user" "user").map fun t => t.name)
      ∧ (∀ t ∈ orderTables "line_user" "user", DistinctNames (t.columns.map fun c => c.name))
      ∧ render (orderTables "line_user" "user") .postgreSql ⟨false, "  "⟩ .epoch
        = "CREATE TABLE \"order\" (\n  \"line_user\" INT,\n"
          ++ "  FOREIGN KEY (\"line_user\") REFERENCES \"users\"(\"id\")\n);\n"
          ++ "CREATE INDEX \"idx_order_line_user\" ON \"order\"(\"line_user\");\n\n"
          ++ "CREATE TABLE \"order_line\" (\n  \"user\" INT,\n"
          ++ "  FOREIGN KEY (\"user\") REFERENCES \"users\"(\"id\")\n);\n"
          ++ "CREATE INDEX \"idx_order_line_user\" ON \"order_line\"(\"user\");\n"
      ∧ ¬(indexNames .postgreSql (orderTables "line_user" "user")).Nodup :=
  ⟨by decide, by decide, by decide +kernel, by decide⟩

end SchemaDesigner.Script
