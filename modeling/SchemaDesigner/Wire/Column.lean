/-
Columns in documents.

* `Column.read`: a column from its record, in the current and the older shape;
* `Column.toJson`: the record of a column.

Older records have numbers as identities, a reference as an object instead of a flag with two
names, and say `notNull` for the opposite of `nullable`. Sizes, defaults and names in references
that are blank count as absent.
-/
import SchemaDesigner.Wire.Record

namespace SchemaDesigner

open Json (Document Items Members Fault)

/-! ### Identities and references -/

/-- The identity in a record, if there is one that is not blank. A number becomes its text. -/
def ColumnId.read? (d : Document) : Read (Option ColumnId) := do
  Read.unlessFault d.keepFault?
  match d with
  | .null => return none
  | .string (.ok s) => return (Text.nonBlank? (some s)).map ColumnId.mk
  | .number (some n) => return some ⟨n.text⟩
  | _ => throw (.noVariant "WireId")

/-- What a record says of a reference: whether there is one, or which one it is. -/
inductive ReferenceMark
  | flag (isSet : Bool)
  | target (table column : String)
  deriving DecidableEq, Repr

/-- The parts of a reference that is an object. -/
structure ReferenceFields where
  table : Option String := none
  column : Option String := none
  deriving DecidableEq, Repr

/-- The form of a reference that is an object. -/
def ReferenceFields.form : RecordForm ReferenceFields ReferenceMark where
  title := "struct Reference"
  slots :=
    [{ name := "table", isFilled := fun s => s.table.isSome
       fill := fun d s => do return { s with table := some (← Read.text d) } },
     { name := "column", isFilled := fun s => s.column.isSome
       fill := fun d s => do return { s with column := some (← Read.text d) } }]
  start := {}
  finish missing s := do
    let table ← required missing "table" s.table
    let column ← required missing "column" s.column
    return .target table column

/-- What a record says of a reference. An object that is no reference has no form at all. -/
def ReferenceMark.read? (d : Document) : Read (Option ReferenceMark) := do
  Read.unlessFault d.keepFault?
  let noForm : ReadError := .noVariant "WireForeignKey"
  match d with
  | .null => return none
  | .bool b => return some (.flag b)
  | .object ms => some <$> tryCatch (ReferenceFields.form.readMembers ms) fun _ => throw noForm
  | _ => throw noForm

/-- The reference between two names, if neither is blank. -/
def Reference.ofNames? (table column : Option String) : Option Reference :=
  match Text.nonBlank? table, Text.nonBlank? column with
  | some table, some column => some ⟨table, column⟩
  | _, _ => none

/-! ### Records -/

/-- The record of a column, as far as it was read. A field that is `null` was read. -/
structure ColumnFields where
  id : Option (Option ColumnId) := none
  name : Option String := none
  type : Option ColumnType := none
  length : Option (Option String) := none
  nullable : Option (Option Bool) := none
  notNull : Option (Option Bool) := none
  primaryKey : Option Bool := none
  unique : Option Bool := none
  autoIncrement : Option Bool := none
  foreignKey : Option (Option ReferenceMark) := none
  referencedTable : Option (Option String) := none
  referencedField : Option (Option String) := none
  defaultValue : Option (Option String) := none
  deriving Repr

namespace ColumnFields

/-- The reference that the fields give. -/
def reference? (s : ColumnFields) : Option Reference :=
  match s.foreignKey.join with
  | some (.target table column) => Reference.ofNames? (some table) (some column)
  | some (.flag true) => Reference.ofNames? s.referencedTable.join s.referencedField.join
  | some (.flag false) | none => none

/-- Whether the fields allow null: `nullable` counts more than `notNull`. -/
def allowsNull (s : ColumnFields) : Bool :=
  match s.nullable.join, s.notNull.join with
  | some nullable, _ => nullable
  | none, some notNull => !notNull
  | none, none => true

/-- The type of a column whose record has none. -/
def defaultType : ColumnType := .varchar

/-- The content of the column of that name. -/
def content (s : ColumnFields) (name : String) : ColumnDef :=
  { name
    type := s.type.getD defaultType
    size := Text.nonBlank? s.length.join
    primaryKey := s.primaryKey.getD false
    nullable := s.allowsNull
    unique := s.unique.getD false
    autoIncrement := s.autoIncrement.getD false
    defaultValue := Text.nonBlank? s.defaultValue.join
    reference := s.reference? }

/-- The fields of a record in their order. -/
def slots : List (Slot ColumnFields) :=
  [{ name := "id", optional := true, isFilled := fun s => s.id.isSome
     fill := fun d s => do return { s with id := some (← ColumnId.read? d) } },
   { name := "name", isFilled := fun s => s.name.isSome
     fill := fun d s => do return { s with name := some (← Read.text d) } },
   { name := "type", optional := true, isFilled := fun s => s.type.isSome
     fill := fun d s => do return { s with type := some (ColumnType.ofName (← Read.text d)) } },
   { name := "length", optional := true, isFilled := fun s => s.length.isSome
     fill := fun d s => do return { s with length := some (← Read.option Read.text d) } },
   { name := "nullable", optional := true, isFilled := fun s => s.nullable.isSome
     fill := fun d s => do return { s with nullable := some (← Read.option Read.flag d) } },
   { name := "notNull", optional := true, isFilled := fun s => s.notNull.isSome
     fill := fun d s => do return { s with notNull := some (← Read.option Read.flag d) } },
   { name := "primaryKey", optional := true, isFilled := fun s => s.primaryKey.isSome
     fill := fun d s => do return { s with primaryKey := some (← Read.flag d) } },
   { name := "unique", optional := true, isFilled := fun s => s.unique.isSome
     fill := fun d s => do return { s with unique := some (← Read.flag d) } },
   { name := "autoIncrement", optional := true, isFilled := fun s => s.autoIncrement.isSome
     fill := fun d s => do return { s with autoIncrement := some (← Read.flag d) } },
   { name := "foreignKey", optional := true, isFilled := fun s => s.foreignKey.isSome
     fill := fun d s => do return { s with foreignKey := some (← ReferenceMark.read? d) } },
   { name := "referencedTable", optional := true, isFilled := fun s => s.referencedTable.isSome
     fill := fun d s => do
       return { s with referencedTable := some (← Read.option Read.text d) } },
   { name := "referencedField", optional := true, isFilled := fun s => s.referencedField.isSome
     fill := fun d s => do
       return { s with referencedField := some (← Read.option Read.text d) } },
   { name := "defaultValue", optional := true, isFilled := fun s => s.defaultValue.isSome
     fill := fun d s => do return { s with defaultValue := some (← Read.option Read.text d) } }]

/-- The form of the record of a column. A column without identity gets a new one. -/
def form : RecordForm ColumnFields Column where
  title := "struct ColumnRecord"
  slots := slots
  start := {}
  finish missing s := do
    let name ← required missing "name" s.name
    let id ← match s.id.join with
      | some id => pure id
      | none => ColumnId.mk <$> Read.freshId
    return { s.content name with id }

end ColumnFields

namespace Column

/-- A column from its record. -/
def read (source : Source) : Document → Read Column :=
  ColumnFields.form.read source

/-- The record of a column. -/
def toJson (c : Column) : Json :=
  .object
    [("id", .string c.id.text),
     ("name", .string c.name),
     ("type", .string c.type.name),
     ("length", .string (c.size.getD "")),
     ("nullable", .bool c.nullable),
     ("primaryKey", .bool c.primaryKey),
     ("unique", .bool c.unique),
     ("autoIncrement", .bool c.autoIncrement),
     ("foreignKey", .bool c.reference.isSome),
     ("referencedTable", Json.ofText? (c.reference.map Reference.table)),
     ("referencedField", Json.ofText? (c.reference.map Reference.column)),
     ("defaultValue", .string (c.defaultValue.getD ""))]

end Column

end SchemaDesigner
