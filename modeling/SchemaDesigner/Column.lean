/-
Columns: what a column says, and the identity that a designed column carries besides.

* `Reference`: a foreign key, which names a column of a table and is resolved when it is used;
* `ColumnDef`: the content of a column;
* `Column`: a content with an identity that survives renaming;
* `ColumnDef.asPrimaryKey`, `ColumnDef.asSoleKey`: primary keys are neither null nor repeated;
* `ColumnDef.typeLabel`: the type with its size.
-/
import SchemaDesigner.Name
import SchemaDesigner.ColumnType

namespace SchemaDesigner

/-- A reference to a column of a table, both by name. -/
structure Reference where
  table : String
  column : String
  deriving DecidableEq, Repr

/-- Whether the reference names a column of a table. -/
def Reference.names (r : Reference) (table column : String) : Bool :=
  namesMatch r.table table && namesMatch r.column column

/-- The content of a column. The size and the default are raw texts, such as `10,2` and `now()`. -/
structure ColumnDef where
  name : String
  type : ColumnType
  size : Option String := none
  primaryKey : Bool := false
  nullable : Bool := true
  unique : Bool := false
  autoIncrement : Bool := false
  defaultValue : Option String := none
  reference : Option Reference := none
  deriving DecidableEq, Repr

/-- The identity of a column. -/
structure ColumnId where
  text : String
  deriving DecidableEq, Repr

/-- A column of a designed table. Two columns say the same if their contents are equal. -/
structure Column extends ColumnDef where
  id : ColumnId
  deriving DecidableEq, Repr

namespace ColumnDef

/-- The column as a primary key, which is neither null nor repeated. -/
def asPrimaryKey (c : ColumnDef) : ColumnDef :=
  { c with primaryKey := true, nullable := false, unique := true }

/-- The column as its table's primary key or as none, when a table has just one. -/
def asSoleKey (isKey : Bool) (c : ColumnDef) : ColumnDef :=
  if isKey then c.asPrimaryKey else { c with primaryKey := false }

/-- The column with a size. -/
def withSize (size : String) (c : ColumnDef) : ColumnDef :=
  { c with size := some size }

/-- The column without null. -/
def notNull (c : ColumnDef) : ColumnDef :=
  { c with nullable := false }

/-- The column without repeated values. -/
def withoutRepeats (c : ColumnDef) : ColumnDef :=
  { c with unique := true }

/-- The column that counts up by itself. -/
def counting (c : ColumnDef) : ColumnDef :=
  { c with autoIncrement := true }

/-- The column with a default. -/
def withDefault (text : String) (c : ColumnDef) : ColumnDef :=
  { c with defaultValue := some text }

/-- The column with a reference. -/
def referringTo (table column : String) (c : ColumnDef) : ColumnDef :=
  { c with reference := some ⟨table, column⟩ }

/-- The type, with the size in parentheses if there is one. -/
def typeLabel (c : ColumnDef) : String :=
  match Text.nonEmpty? c.size with
  | some size => c.type.name ++ "(" ++ size ++ ")"
  | none => c.type.name

/-- The column with its reference, if it has one, replaced or dropped. -/
def mapReference (f : Reference → Option Reference) (c : ColumnDef) : ColumnDef :=
  { c with reference := c.reference.bind f }

end ColumnDef

namespace Column

/-- Changes the content of a column and keeps its identity. -/
def modify (f : ColumnDef → ColumnDef) (c : Column) : Column :=
  { c with toColumnDef := f c.toColumnDef }

@[simp]
theorem modify_id (f : ColumnDef → ColumnDef) (c : Column) : (c.modify f).id = c.id := rfl

@[simp]
theorem modify_toColumnDef (f : ColumnDef → ColumnDef) (c : Column) :
    (c.modify f).toColumnDef = f c.toColumnDef := rfl

end Column

end SchemaDesigner
