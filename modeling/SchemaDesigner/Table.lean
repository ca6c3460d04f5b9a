/-
Tables on a canvas, and the definitions of tables that a script gives.

* `Position`, `Position.grid`: a place on the canvas and the places of a grid four wide;
* `TableDef`: a named list of column contents;
* `Table`: a table with identity, comment and place;
* `Table.column?`, `Table.setPrimaryKey?`: lookup by name and the choice of the only primary key.
-/
import SchemaDesigner.Column

namespace SchemaDesigner

/-- A place on the canvas. -/
structure Position where
  x : Float
  y : Float
  deriving DecidableEq, Repr

/-- The origin of the canvas. -/
def Position.origin : Position := ⟨0.0, 0.0⟩

/-- The places of a grid four wide, row by row. -/
def Position.grid (index : Nat) : Position :=
  ⟨100.0 + (index % 4).toFloat * 320.0, 100.0 + (index / 4).toFloat * 280.0⟩

/-- The identity of a table. -/
structure TableId where
  text : String
  deriving DecidableEq, Repr

/-- A table as a script defines it. -/
structure TableDef where
  name : String
  columns : List ColumnDef
  deriving DecidableEq, Repr

/-- A table of a schema. -/
structure Table where
  id : TableId
  name : String
  columns : List Column := []
  comment : Option String := none
  position : Position := Position.origin
  deriving DecidableEq, Repr

namespace Table

/-- The first column whose name matches. -/
def column? (t : Table) (name : String) : Option Column :=
  t.columns.find? fun c => namesMatch c.name name

/-- The place of the first column whose name matches. -/
def columnIndex? (t : Table) (name : String) : Option Nat :=
  t.columns.findIdx? fun c => namesMatch c.name name

/-- The first primary key. -/
def primaryKey? (t : Table) : Option Column :=
  t.columns.find? fun c => c.primaryKey

/-- Whether some column refers to another one. -/
def hasReferences (t : Table) : Bool :=
  t.columns.any fun c => c.reference.isSome

/-- The columns that refer to others, with their references, in order. -/
def references (t : Table) : List (Column × Reference) :=
  t.columns.filterMap fun c => c.reference.map fun r => (c, r)

/-- The columns with the one at an index as the only primary key. -/
def soleKeyAt (index : Nat) (cs : List Column) : List Column :=
  cs.mapIdx fun i c => c.modify (ColumnDef.asSoleKey (i == index))

/-- The table with the named column as its only primary key, if there is such a column. -/
def setPrimaryKey? (t : Table) (name : String) : Option Table :=
  (t.columnIndex? name).map fun i => { t with columns := soleKeyAt i t.columns }

/-- The table with each reference replaced or dropped. -/
def mapReferences (f : Reference → Option Reference) (t : Table) : Table :=
  { t with columns := t.columns.map fun c => c.modify (ColumnDef.mapReference f) }

end Table

end SchemaDesigner
