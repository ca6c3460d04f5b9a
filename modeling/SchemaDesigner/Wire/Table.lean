/-
Tables and their places in documents.

* `Position.read`, `Position.toJson`: a place as an object or a pair;
* `Table.read`, `Table.toJson`: a table from its record and back;
* `Tables.ofText`, `Tables.toText`: a text that lists tables.

The name may be called `tableName` or `name` and the columns `fields` or `columns`.
-/
import SchemaDesigner.Wire.Column

namespace SchemaDesigner

open Json (Document Items Members Fault)

/-! ### Places -/

/-- The parts of a place. -/
structure PositionFields where
  x : Option Float := none
  y : Option Float := none

/-- The form of a place. -/
def PositionFields.form : RecordForm PositionFields Position where
  title := "struct Position"
  slots :=
    [{ name := "x", isFilled := fun s => s.x.isSome
       fill := fun d s => do return { s with x := some (← Read.float d) } },
     { name := "y", isFilled := fun s => s.y.isSome
       fill := fun d s => do return { s with y := some (← Read.float d) } }]
  start := {}
  finish missing s := do
    let x ← required missing "x" s.x
    let y ← required missing "y" s.y
    return ⟨x, y⟩

namespace Position

/-- A place from its record. -/
def read (source : Source) : Document → Read Position :=
  PositionFields.form.read source

/-- The record of a place. -/
def toJson (p : Position) : Json :=
  .object [("x", .number p.x), ("y", .number p.y)]

end Position

/-! ### Tables -/

/-- The record of a table, as far as it was read. -/
structure TableFields where
  id : Option TableId := none
  name : Option String := none
  columns : Option (List Column) := none
  comment : Option (Option String) := none
  position : Option Position := none

/-- The identity of a table, which is a text. -/
def TableId.read (d : Document) : Read TableId :=
  TableId.mk <$> Read.text d

namespace TableFields

/-- The fields of a record in their order. -/
def slots (source : Source) : List (Slot TableFields) :=
  [{ name := "id", optional := true, isFilled := fun s => s.id.isSome
     fill := fun d s => do return { s with id := some (← TableId.read d) } },
   { name := "tableName", otherName := some "name", isFilled := fun s => s.name.isSome
     fill := fun d s => do return { s with name := some (← Read.text d) } },
   { name := "fields", otherName := some "columns", optional := true
     isFilled := fun s => s.columns.isSome
     fill := fun d s => do
       return { s with columns := some (← Read.list (Column.read source) d) } },
   { name := "comment", optional := true, isFilled := fun s => s.comment.isSome
     fill := fun d s => do return { s with comment := some (← Read.option Read.text d) } },
   { name := "position", optional := true, isFilled := fun s => s.position.isSome
     fill := fun d s => do return { s with position := some (← Position.read source d) } }]

/-- The form of the record of a table. A table without identity gets a new one. -/
def form (source : Source) : RecordForm TableFields Table where
  title := "struct Table"
  slots := slots source
  start := {}
  finish missing s := do
    let name ← required missing "tableName" s.name
    let id ← match s.id with
      | some id => pure id
      | none => TableId.mk <$> Read.freshId
    return { id, name, columns := s.columns.getD [], comment := s.comment.join
             position := s.position.getD Position.origin }

end TableFields

namespace Table

/-- A table from its record. -/
def read (source : Source) : Document → Read Table :=
  (TableFields.form source).read source

/-- The record of a table, without a comment if there is none. -/
def toJson (t : Table) : Json :=
  .object <|
    [("id", .string t.id.text),
     ("tableName", .string t.name),
     ("fields", .array (t.columns.map Column.toJson))]
    ++ (t.comment.map fun text => ("comment", Json.string text)).toList
    ++ [("position", t.position.toJson)]

end Table

/-- The tables that a text lists. -/
def Tables.ofText : String → Read (List Table) :=
  Read.ofText (Read.list (Table.read .text))

/-- The text that lists tables. -/
def Tables.toText (ts : List Table) : String :=
  (Json.array (ts.map Table.toJson)).compact

end SchemaDesigner
