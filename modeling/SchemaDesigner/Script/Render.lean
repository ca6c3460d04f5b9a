/-
The script that defines a list of tables in a dialect.

* `Layout`: whether a script begins with a header, and the indent of its lines;
* `referringLast`: the order of tables in a script;
* `columnLine`, `referenceLine`, `indexLine`: the parts of a table's definition;
* `renderTable`, `render`: the definition of a table and the whole script.

All that a table holds is written as it stands, so rendering never fails.
-/
import SchemaDesigner.Dialect
import SchemaDesigner.Table
import SchemaDesigner.Timestamp.Basic

namespace SchemaDesigner.Script

/-- The form of a script. -/
structure Layout where
  /-- Whether the script begins with a comment on its dialect and time. -/
  header : Bool := true
  /-- What stands in front of each line inside a definition. -/
  indent : String := "  "
  deriving DecidableEq, Repr

/-- Texts with a separator between them. -/
def joinWith (separator : String) : List String → String
  | [] => ""
  | [s] => s
  | s :: t :: ss => s ++ separator ++ joinWith separator (t :: ss)

/-- The tables with those first that refer to no others; among each of the two kinds the order
stays. -/
def referringLast (tables : List Table) : List Table :=
  tables.filter (fun t => !t.hasReferences) ++ tables.filter fun t => t.hasReferences

/-! ### Lines -/

/-- The lines of a comment as comments of a script. A blank comment has none. -/
def commentLines (comment : Option String) : String :=
  match Text.nonBlank? comment with
  | none => ""
  | some text =>
    joinWith "" <| (Text.lines text.toList).map fun line =>
      "-- " ++ String.ofList (Text.trimEnd line) ++ "\n"

/-- The options of a column after its type, each with a blank in front. -/
def columnOptions (d : Dialect) (c : ColumnDef) : String :=
  let counter :=
    if c.autoIncrement && (d.serialType? c).isNone && c.type.isInteger then
      d.autoIncrementWord?
    else none
  (if c.primaryKey then " PRIMARY KEY" else "")
    ++ (if !c.nullable && !c.primaryKey then " NOT NULL" else "")
    ++ (if c.unique && !c.primaryKey then " UNIQUE" else "")
    ++ (match counter with
      | some word => " " ++ word
      | none => "")
    ++ (match Text.nonEmpty? c.defaultValue with
      | some text => " DEFAULT " ++ text
      | none => "")

/-- The definition of a column. -/
def columnLine (d : Dialect) (c : ColumnDef) : String :=
  d.quote c.name ++ " " ++ (d.serialType? c).getD c.typeLabel ++ columnOptions d c

/-- The constraint for the reference of a column. -/
def referenceLine (d : Dialect) (column : String) (r : Reference) : String :=
  "FOREIGN KEY (" ++ d.quote column ++ ") REFERENCES " ++ d.quote r.table ++ "("
    ++ d.quote r.column ++ ")"

/-- The name of the index on a referring column. -/
def indexName (table column : String) : String :=
  "idx_" ++ table ++ "_" ++ column

/-- The statement that makes the index on a referring column. -/
def indexLine (d : Dialect) (table column : String) : String :=
  "CREATE INDEX " ++ d.quote (indexName table column) ++ " ON " ++ d.quote table ++ "("
    ++ d.quote column ++ ");\n"

/-! ### Tables and scripts -/

/-- The lines inside the definition of a table: its columns, then its references. -/
def bodyLines (d : Dialect) (t : Table) : List String :=
  t.columns.map (fun c => columnLine d c.toColumnDef)
    ++ t.references.map fun (c, r) => referenceLine d c.name r

/-- The definition of a table, with its comment in front and its indexes behind. -/
def renderTable (d : Dialect) (layout : Layout) (t : Table) : String :=
  commentLines t.comment
    ++ "CREATE TABLE " ++ d.quote t.name ++ " (\n"
    ++ joinWith ",\n" ((bodyLines d t).map (layout.indent ++ ·))
    ++ "\n);\n"
    ++ (if d.indexesReferences then
        joinWith "" (t.references.map fun (c, _) => indexLine d t.name c.name)
      else "")

/-- The comment at the beginning of a script. -/
def headerLines (d : Dialect) (time : Timestamp) : String :=
  "-- SchemaForge DDL export\n"
    ++ "-- Dialect: " ++ d.title ++ "\n"
    ++ "-- Generated at: " ++ time.secondsText ++ "\n\n"

/-- The script that defines some tables, with a free line between them. -/
def render (tables : List Table) (d : Dialect) (layout : Layout) (time : Timestamp) : String :=
  (if layout.header then headerLines d time else "")
    ++ joinWith "\n" ((referringLast tables).map (renderTable d layout))

end SchemaDesigner.Script
