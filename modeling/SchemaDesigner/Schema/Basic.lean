/-
Schemas, what can be asked of them, and why a change may be refused.

* `Schema`: a list of tables;
* `Schema.relationships`, `Schema.staleReferences`: what its references amount to;
* `Rejection`: the causes of a refusal, with their `message`;
* `locate?`, `Schema.locate`, `Table.locate`: the first table or column addressed, with its place;
* `checkReference`: the gate for each new or altered reference.
-/
import SchemaDesigner.Compatibility
import SchemaDesigner.Relationship

namespace SchemaDesigner

/-- A relational schema. -/
structure Schema where
  tables : List Table := []
  deriving DecidableEq, Repr

namespace Schema

/-- The schema without tables. -/
def empty : Schema := {}

/-- The edges between its tables. -/
def relationships (s : Schema) : List Relationship :=
  Relationship.ofTables s.tables

/-- The references that do not lead to a primary key. They stay until they are cleared. -/
def staleReferences (s : Schema) : List StaleReference :=
  StaleReference.ofTables s.tables

/-- The table with an identity. -/
def table? (s : Schema) (id : TableId) : Option Table :=
  s.tables.find? fun t => t.id == id

/-- The first table whose name matches. -/
def tableNamed? (s : Schema) (name : String) : Option Table :=
  SchemaDesigner.tableNamed? s.tables name

end Schema

/-! ### Refusals -/

/-- Why a change of a schema is refused. -/
inductive Rejection
  | emptyTableName
  | emptyColumnName
  | duplicateTable (name : String)
  | duplicateColumn (table column : String)
  | tableNotFound (name : String)
  | columnNotFound (table column : String)
  | notPrimaryKey (table column : String)
  | selfReference (table column : String)
  | incompatible (cause : Incompatibility)
  deriving DecidableEq, Repr

/-- The text of a refusal. -/
def Rejection.message : Rejection → String
  | emptyTableName => "Table name must not be empty"
  | emptyColumnName => "Column name must not be empty"
  | duplicateTable name => "Table '" ++ name ++ "' already exists"
  | duplicateColumn table column =>
    "Column '" ++ column ++ "' already exists in table '" ++ table ++ "'"
  | tableNotFound name => "Table '" ++ name ++ "' not found"
  | columnNotFound table column =>
    "Column '" ++ column ++ "' not found in table '" ++ table ++ "'"
  | notPrimaryKey table column =>
    "Column '" ++ table ++ "." ++ column ++ "' is not a primary key"
  | selfReference table column =>
    "Column '" ++ table ++ "." ++ column ++ "' cannot reference itself"
  | incompatible cause => "Cannot create foreign key: " ++ cause.message

/-! ### Addressing -/

/-- The first element with a property, and its place. -/
def locate? {α : Type} (p : α → Bool) (l : List α) : Option (Nat × α) :=
  (l.findIdx? p).bind fun i => l[i]?.map fun a => (i, a)

/-- The place found holds the element found, and that element has the property. -/
theorem locate?_eq_some {α : Type} {p : α → Bool} {l : List α} {i : Nat} {a : α}
    (h : locate? p l = some (i, a)) : l[i]? = some a ∧ p a = true := by
  simp only [locate?, Option.bind_eq_some_iff, Option.map_eq_some_iff, Prod.mk.injEq] at h
  obtain ⟨j, hj, b, hb, rfl, rfl⟩ := h
  obtain ⟨hlt, hp, -⟩ := List.findIdx?_eq_some_iff_getElem.mp hj
  rw [List.getElem?_eq_getElem hlt, Option.some.injEq] at hb
  exact ⟨by rw [List.getElem?_eq_getElem hlt, hb], hb ▸ hp⟩

/-- The addressed table and its place. -/
def Schema.locate (s : Schema) (id : TableId) : Except Rejection (Nat × Table) :=
  match locate? (fun t => t.id == id) s.tables with
  | some found => .ok found
  | none => .error (.tableNotFound id.text)

/-- The addressed column and its place. -/
def Table.locate (t : Table) (name : String) : Except Rejection (Nat × Column) :=
  match locate? (fun c => namesMatch c.name name) t.columns with
  | some found => .ok found
  | none => .error (.columnNotFound t.name name)

/-! ### The gate for references -/

/-- Lets a reference of a column of the table `owner` pass if it leads to the primary key of an
existing table, is not the column itself, and has a compatible type. -/
def checkReference (tables : List Table) (owner : String) (source : ColumnDef)
    (r : Reference) : Except Rejection Unit := do
  let some target := tableNamed? tables r.table
    | throw (.tableNotFound r.table)
  let some column := target.column? r.column
    | throw (.columnNotFound target.name r.column)
  if namesMatch target.name owner && namesMatch column.name source.name then
    throw (.selfReference owner source.name)
  if !column.primaryKey then
    throw (.notPrimaryKey target.name column.name)
  match source.incompatibility? column.toColumnDef with
  | some cause => throw (.incompatible cause)
  | none => pure ()

/-- Checks the reference of a column of the table `owner`, if it has one. -/
def checkOwnReference (tables : List Table) (owner : String) (source : ColumnDef) :
    Except Rejection Unit :=
  match source.reference with
  | some r => checkReference tables owner source r
  | none => pure ()

end SchemaDesigner
