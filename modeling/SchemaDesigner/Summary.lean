/-
The summary of a schema for a terminal.

* `padTo`: a cell of a table with columns, filled up with blanks;
* `columnFlags`: what holds of a column besides its type;
* `tableSection`, `relationshipLine`: the parts of the summary;
* `Schema.summary`: tables with aligned columns, then relationships, then stale references.
-/
import SchemaDesigner.Schema.Basic
import SchemaDesigner.Script.Render
import SchemaDesigner.Text.Width

namespace SchemaDesigner

open Script (joinWith)

/-- The least number of blanks between two cells. -/
def cellGap : Nat := 2

/-- A text filled up with blanks so that the next cell begins behind the widest one. -/
def padTo (columns : Nat) (s : String) : String :=
  s ++ String.ofList (List.replicate (columns - Text.width s + cellGap) ' ')

/-- The greatest width of some texts. -/
def widest (l : List String) : Nat :=
  (l.map Text.width).foldl max 0

/-- What holds of a column besides its type. -/
def columnFlags (c : ColumnDef) : List String :=
  (if c.primaryKey then ["PK"] else [])
    ++ (if c.nullable then [] else ["NN"])
    ++ (if c.unique then ["UQ"] else [])
    ++ (if c.autoIncrement then ["AI"] else [])
    ++ (c.reference.map fun r => "FK->" ++ r.table ++ "." ++ r.column).toList
    ++ ((Text.nonEmpty? c.defaultValue).map fun text => "DEFAULT " ++ text).toList

/-- The line of a column, whose cells are as wide as given. -/
def columnSummary (nameWidth typeWidth : Nat) (c : ColumnDef) : String :=
  let line := "  " ++ padTo nameWidth c.name ++ padTo typeWidth c.typeLabel
    ++ joinWith " " (columnFlags c)
  String.ofList (Text.trimEnd line.toList) ++ "\n"

/-- The lines of a table. -/
def tableSection (t : Table) : String :=
  let comment := match Text.nonEmpty? t.comment with
    | some text => "  -- " ++ text
    | none => ""
  let columns :=
    if t.columns.isEmpty then "  (no columns)\n"
    else
      let nameWidth := widest (t.columns.map fun c => c.name)
      let typeWidth := widest (t.columns.map fun c => c.typeLabel)
      String.join (t.columns.map fun c => columnSummary nameWidth typeWidth c.toColumnDef)
  t.name ++ comment ++ "\n" ++ columns

/-- The line of a relationship. -/
def relationshipLine (r : Relationship) : String :=
  "  " ++ r.sourceTable ++ "." ++ r.sourceColumn ++ " -> " ++ r.targetTable ++ "."
    ++ r.targetColumn ++ " (" ++ (if r.optional then "optional" else "required") ++ ")\n"

/-- Lines under a heading, or nothing if there are no lines. -/
def headed (heading : String) (lines : List String) : String :=
  if lines.isEmpty then "" else "\n" ++ heading ++ "\n" ++ String.join lines

/-- The summary of a schema. -/
def Schema.summary (s : Schema) : String :=
  joinWith "\n" (s.tables.map tableSection)
    ++ headed "Relationships:" (s.relationships.map relationshipLine)
    ++ headed "Warnings:" (s.staleReferences.map fun r => "  " ++ r.message ++ "\n")

end SchemaDesigner
