/-
References of a list of tables, resolved by name.

* `tableNamed?`: the first table whose name matches, which is what a reference means by a table;
* `Relationship`, `Relationship.ofTables`: an edge for each reference to an existing table;
* `StaleReference`, `StaleReference.ofTables`: the references that do not lead to a primary key.

Both lists are recomputed from the columns whenever they are asked for.
-/
import SchemaDesigner.Table

namespace SchemaDesigner

/-- The first table whose name matches. -/
def tableNamed? (tables : List Table) (name : String) : Option Table :=
  tables.find? fun t => namesMatch t.name name

/-! ### Relationships -/

/-- A referring column as an edge between two tables. It is optional if the column may be null. -/
structure Relationship where
  sourceTable : String
  sourceColumn : String
  targetTable : String
  targetColumn : String
  optional : Bool
  deriving DecidableEq, Repr

/-- The edges of one table. A reference to a table that does not exist has none. -/
def Relationship.ofTable (tables : List Table) (t : Table) : List Relationship :=
  t.references.filterMap fun (c, r) =>
    (tableNamed? tables r.table).map fun target =>
      { sourceTable := t.name, sourceColumn := c.name, targetTable := target.name,
        targetColumn := r.column, optional := c.nullable }

/-- The edges of all tables, in the order of tables and columns. -/
def Relationship.ofTables (tables : List Table) : List Relationship :=
  tables.flatMap (Relationship.ofTable tables)

/-! ### Stale references -/

/-- Why a reference does not lead to a primary key. -/
inductive StaleReason
  | missingTable
  | missingColumn
  | notPrimaryKey
  deriving DecidableEq, Repr

/-- The text of a reason. -/
def StaleReason.message : StaleReason → String
  | missingTable => "table does not exist"
  | missingColumn => "column does not exist"
  | notPrimaryKey => "column is no longer a primary key"

/-- A reference that does not lead to a primary key. -/
structure StaleReference where
  table : String
  column : String
  reference : Reference
  reason : StaleReason
  deriving DecidableEq, Repr

/-- The text of a warning about a stale reference. -/
def StaleReference.message (s : StaleReference) : String :=
  s.table ++ "." ++ s.column ++ " -> " ++ s.reference.table ++ "." ++ s.reference.column ++ ": "
    ++ s.reason.message

/-- What is wrong with a reference, if anything is. -/
def Reference.staleReason? (tables : List Table) (r : Reference) : Option StaleReason :=
  match tableNamed? tables r.table with
  | none => some .missingTable
  | some target => match target.column? r.column with
    | none => some .missingColumn
    | some c => if c.primaryKey then none else some .notPrimaryKey

/-- The stale references of one table. -/
def StaleReference.ofTable (tables : List Table) (t : Table) : List StaleReference :=
  t.references.filterMap fun (c, r) =>
    (r.staleReason? tables).map fun reason => ⟨t.name, c.name, r, reason⟩

/-- The stale references of all tables, in the order of tables and columns. -/
def StaleReference.ofTables (tables : List Table) : List StaleReference :=
  tables.flatMap (StaleReference.ofTable tables)

end SchemaDesigner
