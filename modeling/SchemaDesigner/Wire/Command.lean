/-
Commands in documents.

* `CommandKind`: the kinds of commands, with their `name`;
* `CommandKind.read`: the fields of a command of some kind;
* `Command.read`, `Command.toJson`: a command, which tells its kind in the field `op`;
* `Command.ofText`, `Command.toText`: the same for whole texts.

The kind may stand behind other fields, so the whole document is read before any of them counts.
-/
import SchemaDesigner.Schema.Command
import SchemaDesigner.Wire.Table

namespace SchemaDesigner

open Json (Document Items Members Fault)

/-! ### Kinds -/

/-- The kinds of commands. -/
inductive CommandKind
  | addTable
  | renameTable
  | deleteTable
  | moveTable
  | setComment
  | addColumn
  | updateColumn
  | removeColumn
  | setPrimaryKey
  | setForeignKey
  | connect
  | clearForeignKey
  deriving DecidableEq, Repr

namespace CommandKind

/-- All kinds. -/
def all : List CommandKind :=
  [addTable, renameTable, deleteTable, moveTable, setComment, addColumn, updateColumn,
   removeColumn, setPrimaryKey, setForeignKey, connect, clearForeignKey]

/-- The name of a kind in a document. -/
def name : CommandKind → String
  | addTable => "addTable"
  | renameTable => "renameTable"
  | deleteTable => "deleteTable"
  | moveTable => "moveTable"
  | setComment => "setComment"
  | addColumn => "addColumn"
  | updateColumn => "updateColumn"
  | removeColumn => "removeColumn"
  | setPrimaryKey => "setPrimaryKey"
  | setForeignKey => "setForeignKey"
  | connect => "connect"
  | clearForeignKey => "clearForeignKey"

/-- The name of a kind in an error about its fields. -/
def title : CommandKind → String
  | addTable => "struct variant SchemaCommand::AddTable"
  | renameTable => "struct variant SchemaCommand::RenameTable"
  | deleteTable => "struct variant SchemaCommand::DeleteTable"
  | moveTable => "struct variant SchemaCommand::MoveTable"
  | setComment => "struct variant SchemaCommand::SetComment"
  | addColumn => "struct variant SchemaCommand::AddColumn"
  | updateColumn => "struct variant SchemaCommand::UpdateColumn"
  | removeColumn => "struct variant SchemaCommand::RemoveColumn"
  | setPrimaryKey => "struct variant SchemaCommand::SetPrimaryKey"
  | setForeignKey => "struct variant SchemaCommand::SetForeignKey"
  | connect => "struct variant SchemaCommand::Connect"
  | clearForeignKey => "struct variant SchemaCommand::ClearForeignKey"

/-- The kind that a field `op` names. -/
def read (d : Document) : Read CommandKind := do
  let name ← Read.textAs "variant identifier" d
  match all.find? fun kind => kind.name == name with
  | some kind => return kind
  | none => throw (.unknownVariant name (all.map CommandKind.name))

end CommandKind

/-! ### Fields -/

/-- The fields of all kinds of commands, as far as they were read. -/
structure CommandFields where
  table : Option TableId := none
  name : Option String := none
  position : Option Position := none
  comment : Option (Option String) := none
  newColumn : Option Column := none
  column : Option String := none
  replacement : Option Column := none
  targetTable : Option TableId := none
  targetColumn : Option String := none

namespace CommandFields

/-- The identity of the table to change. -/
def tableSlot : Slot CommandFields where
  name := "table"
  isFilled s := s.table.isSome
  fill d s := do return { s with table := some (← TableId.read d) }

/-- The new name of a table. -/
def nameSlot : Slot CommandFields where
  name := "name"
  isFilled s := s.name.isSome
  fill d s := do return { s with name := some (← Read.text d) }

/-- The new place of a table. -/
def positionSlot : Slot CommandFields where
  name := "position"
  isFilled s := s.position.isSome
  fill d s := do return { s with position := some (← Position.read .buffer d) }

/-- The new comment of a table. -/
def commentSlot : Slot CommandFields where
  name := "comment"
  isFilled s := s.comment.isSome
  fill d s := do return { s with comment := some (← Read.option Read.text d) }

/-- The column to add. -/
def newColumnSlot : Slot CommandFields where
  name := "column"
  isFilled s := s.newColumn.isSome
  fill d s := do return { s with newColumn := some (← Column.read .buffer d) }

/-- The name of the column to change. -/
def columnSlot : Slot CommandFields where
  name := "column"
  isFilled s := s.column.isSome
  fill d s := do return { s with column := some (← Read.text d) }

/-- The column in place of another one. -/
def replacementSlot : Slot CommandFields where
  name := "replacement"
  isFilled s := s.replacement.isSome
  fill d s := do return { s with replacement := some (← Column.read .buffer d) }

/-- The identity of the table to refer to. -/
def targetTableSlot : Slot CommandFields where
  name := "targetTable"
  isFilled s := s.targetTable.isSome
  fill d s := do return { s with targetTable := some (← TableId.read d) }

/-- The name of the column to refer to. -/
def targetColumnSlot : Slot CommandFields where
  name := "targetColumn"
  isFilled s := s.targetColumn.isSome
  fill d s := do return { s with targetColumn := some (← Read.text d) }

end CommandFields

namespace CommandKind

open CommandFields

/-- The fields of a kind of command in their order. -/
def slots : CommandKind → List (Slot CommandFields)
  | addTable => [nameSlot]
  | renameTable => [tableSlot, nameSlot]
  | deleteTable => [tableSlot]
  | moveTable => [tableSlot, positionSlot]
  | setComment => [tableSlot, commentSlot]
  | addColumn => [tableSlot, newColumnSlot]
  | updateColumn => [tableSlot, columnSlot, replacementSlot]
  | removeColumn | setPrimaryKey | clearForeignKey => [tableSlot, columnSlot]
  | setForeignKey | connect => [tableSlot, columnSlot, targetTableSlot, targetColumnSlot]

/-- The command of a kind with its fields. A comment that is missing is none. -/
def finish (kind : CommandKind) (missing : String → ReadError) (s : CommandFields) :
    Read Command := do
  let table : Read TableId := required missing "table" s.table
  let name : Read String := required missing "name" s.name
  let column : Read String := required missing "column" s.column
  let targetTable : Read TableId := required missing "targetTable" s.targetTable
  let targetColumn : Read String := required missing "targetColumn" s.targetColumn
  match kind with
  | addTable => return .addTable (← name)
  | renameTable => return .renameTable (← table) (← name)
  | deleteTable => return .deleteTable (← table)
  | moveTable => return .moveTable (← table) (← required missing "position" s.position)
  | setComment => return .setComment (← table) s.comment.join
  | addColumn => return .addColumn (← table) (← required missing "column" s.newColumn)
  | updateColumn =>
    return .updateColumn (← table) (← column) (← required missing "replacement" s.replacement)
  | removeColumn => return .removeColumn (← table) (← column)
  | setPrimaryKey => return .setPrimaryKey (← table) (← column)
  | setForeignKey =>
    return .setForeignKey (← table) (← column) (← targetTable) (← targetColumn)
  | connect => return .connect (← table) (← column) (← targetTable) (← targetColumn)
  | clearForeignKey => return .clearForeignKey (← table) (← column)

/-- The form of the record of a kind of command. -/
def form (kind : CommandKind) : RecordForm CommandFields Command where
  title := kind.title
  slots := kind.slots
  start := {}
  finish := kind.finish

end CommandKind

namespace Command

/-! ### Reading -/

/-- The field that names the kind of a command. -/
def kindField : String := "op"

/-- The kind that the members of an object name, and the other members. -/
def splitKind (kind : Option CommandKind) : Members → Read (CommandKind × Members)
  | .close => match kind with
    | some kind => pure (kind, .close)
    | none => throw (.missingField kindField)
  | .stop kept _ => throw (.malformed kept)
  | .member (.error fault) _ _ => throw (.malformed fault)
  | .member (.ok key) value rest => do
    if key = kindField then
      if kind.isSome then throw (.duplicateField kindField)
      let kind ← CommandKind.read value
      splitKind (some kind) rest
    else
      Read.unlessFault value.keepFault?
      let (kind, others) ← splitKind kind rest
      return (kind, .member (.ok key) value others)

/-- A command from its record: an object with the kind among its fields, or an array that begins
with the kind. -/
def read : Document → Read Command
  | .object ms => do
    let (kind, others) ← splitKind none ms
    kind.form.readMembers others
  | .array .close => throw (.missingField kindField)
  | .array (.stop kept _) => throw (.malformed kept)
  | .array (.item value rest) => do
    let kind ← CommandKind.read value
    Read.unlessFault rest.keepFault?
    kind.form.readItems .buffer rest
  | d => throw (mismatch "internally tagged enum SchemaCommand" d)

/-- The command that a text writes. -/
def ofText : String → Read Command :=
  Read.ofText read

/-! ### Writing -/

/-- The kind of a command. -/
def kind : Command → CommandKind
  | addTable .. => .addTable
  | renameTable .. => .renameTable
  | deleteTable .. => .deleteTable
  | moveTable .. => .moveTable
  | setComment .. => .setComment
  | addColumn .. => .addColumn
  | updateColumn .. => .updateColumn
  | removeColumn .. => .removeColumn
  | setPrimaryKey .. => .setPrimaryKey
  | setForeignKey .. => .setForeignKey
  | connect .. => .connect
  | clearForeignKey .. => .clearForeignKey

/-- The fields of a command besides its kind. -/
def fieldsJson : Command → List (String × Json)
  | addTable name => [("name", .string name)]
  | renameTable table name => [("table", .string table.text), ("name", .string name)]
  | deleteTable table => [("table", .string table.text)]
  | moveTable table position => [("table", .string table.text), ("position", position.toJson)]
  | setComment table comment =>
    [("table", .string table.text), ("comment", Json.ofText? comment)]
  | addColumn table column => [("table", .string table.text), ("column", column.toJson)]
  | updateColumn table column replacement =>
    [("table", .string table.text), ("column", .string column),
     ("replacement", replacement.toJson)]
  | removeColumn table column | setPrimaryKey table column | clearForeignKey table column =>
    [("table", .string table.text), ("column", .string column)]
  | setForeignKey table column targetTable targetColumn
  | connect table column targetTable targetColumn =>
    [("table", .string table.text), ("column", .string column),
     ("targetTable", .string targetTable.text), ("targetColumn", .string targetColumn)]

/-- The record of a command. -/
def toJson (c : Command) : Json :=
  .object ((kindField, .string c.kind.name) :: c.fieldsJson)

/-- The text of a command. -/
def toText (c : Command) : String :=
  c.toJson.compact

end Command

end SchemaDesigner
