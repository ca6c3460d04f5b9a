/-
Changes of a schema.

* `Command`: a single change, as a user asks for it;
* `Schema.addTable` … `Schema.clearForeignKey`: one function for each kind of change;
* `Schema.apply`: the change that a command asks for, or why it is refused;
* `Schema.run`: a sequence of commands, in which a refused one changes nothing.

Renaming carries references along, and removing clears them, so that names stay resolved.
-/
import SchemaDesigner.Schema.Basic

namespace SchemaDesigner

/-- A single change of a schema. Tables are addressed by identity and columns by name. -/
inductive Command
  | addTable (name : String)
  | renameTable (table : TableId) (name : String)
  | deleteTable (table : TableId)
  | moveTable (table : TableId) (position : Position)
  | setComment (table : TableId) (comment : Option String)
  | addColumn (table : TableId) (column : Column)
  | updateColumn (table : TableId) (column : String) (replacement : Column)
  | removeColumn (table : TableId) (column : String)
  | setPrimaryKey (table : TableId) (column : String)
  /-- A reference chosen in the form of a column. -/
  | setForeignKey (table : TableId) (column : String) (targetTable : TableId)
      (targetColumn : String)
  /-- A reference drawn between two columns on the canvas. -/
  | connect (table : TableId) (column : String) (targetTable : TableId) (targetColumn : String)
  | clearForeignKey (table : TableId) (column : String)
  deriving DecidableEq, Repr

namespace Schema

/-! ### Tables -/

/-- The name without outer blanks, if it is not empty and no table but `own` has it. -/
def checkTableName (s : Schema) (name : String) (own : Option TableId) :
    Except Rejection String :=
  let name := Text.trim name
  if name = "" then .error .emptyTableName
  else if s.tables.any fun t => namesMatch t.name name && some t.id != own then
    .error (.duplicateTable name)
  else .ok name

/-- Adds a table without columns at the end, on the next place of the grid. -/
def addTable (fresh : TableId) (name : String) (s : Schema) : Except Rejection Schema := do
  let name ← s.checkTableName name none
  let table : Table := { id := fresh, name, position := .grid s.tables.length }
  return ⟨s.tables ++ [table]⟩

/-- What renaming a table makes of a reference: one to the old name follows, and one that had
dangled and meets the new name has to pass the gate. -/
def renamedReference (tables : List Table) (old new owner : String) (source : ColumnDef)
    (r : Reference) : Option Reference :=
  if namesMatch r.table old then some { r with table := new }
  else if namesMatch r.table new then
    match checkReference tables owner source r with
    | .ok _ => some r
    | .error _ => none
  else some r

/-- Renames a table. -/
def renameTable (id : TableId) (name : String) (s : Schema) : Except Rejection Schema := do
  let name ← s.checkTableName name (some id)
  let (i, table) ← s.locate id
  let renamed := s.tables.modify i fun t => { t with name := name }
  return ⟨renamed.map fun t =>
    { t with
      columns := t.columns.map fun c => c.modify fun d =>
        d.mapReference (renamedReference renamed table.name name t.name d) }⟩

/-- Deletes a table and the references to it. -/
def deleteTable (id : TableId) (s : Schema) : Except Rejection Schema := do
  let (i, table) ← s.locate id
  return ⟨(s.tables.eraseIdx i).map <|
    Table.mapReferences fun r => if namesMatch r.table table.name then none else some r⟩

/-- Moves a table on the canvas. -/
def moveTable (id : TableId) (position : Position) (s : Schema) : Except Rejection Schema := do
  let (i, _) ← s.locate id
  return ⟨s.tables.modify i fun t => { t with position := position }⟩

/-- Sets the comment of a table; a blank one counts as none. -/
def setComment (id : TableId) (comment : Option String) (s : Schema) :
    Except Rejection Schema := do
  let (i, _) ← s.locate id
  return ⟨s.tables.modify i fun t => { t with comment := Text.nonBlank? comment }⟩

/-! ### Columns -/

/-- The columns with none as primary key. -/
def withoutKeys (cs : List Column) : List Column :=
  cs.map fun c => c.modify fun d => { d with primaryKey := false }

/-- The column under its name without outer blanks, which must not be empty. -/
def trimmedColumn (c : Column) : Except Rejection Column :=
  let name := Text.trim c.name
  if name = "" then .error .emptyColumnName else .ok { c with name := name }

/-- Adds a column at the end of a table. A new primary key replaces the old one. -/
def addColumn (id : TableId) (column : Column) (s : Schema) : Except Rejection Schema := do
  let (i, table) ← s.locate id
  let column ← trimmedColumn column
  if (table.column? column.name).isSome then
    throw (.duplicateColumn table.name column.name)
  checkOwnReference s.tables table.name column.toColumnDef
  return ⟨s.tables.modify i fun t =>
    { t with
      columns :=
        if column.primaryKey then withoutKeys t.columns ++ [column.modify ColumnDef.asPrimaryKey]
        else t.columns ++ [column] }⟩

/-- Whether a replacement brings in a reference that has not passed the gate as it stands. -/
def bringsReference (current replacement : ColumnDef) : Bool :=
  replacement.reference != current.reference
    || (replacement.reference.isSome
      && (replacement.type != current.type || replacement.size != current.size))

/-- Puts another content in the place of a column, which keeps its identity. -/
def updateColumn (id : TableId) (name : String) (replacement : Column) (s : Schema) :
    Except Rejection Schema := do
  let (i, table) ← s.locate id
  let (j, current) ← table.locate name
  let replacement ← trimmedColumn replacement
  let isRenamed := !namesMatch current.name replacement.name
  if isRenamed && (table.column? replacement.name).isSome then
    throw (.duplicateColumn table.name replacement.name)
  if bringsReference current.toColumnDef replacement.toColumnDef then
    checkOwnReference s.tables table.name replacement.toColumnDef
  let replacement := { replacement with id := current.id }
  let updated := s.tables.modify i fun t =>
    { t with
      columns :=
        if replacement.primaryKey && !current.primaryKey then
          (withoutKeys t.columns).set j (replacement.modify ColumnDef.asPrimaryKey)
        else t.columns.set j replacement }
  if isRenamed then
    return ⟨updated.map <| Table.mapReferences fun r =>
      some (if r.names table.name current.name then { r with column := replacement.name } else r)⟩
  else return ⟨updated⟩

/-- Removes a column and the references to it. -/
def removeColumn (id : TableId) (name : String) (s : Schema) : Except Rejection Schema := do
  let (i, table) ← s.locate id
  let (j, removed) ← table.locate name
  let remaining := s.tables.modify i fun t => { t with columns := t.columns.eraseIdx j }
  return ⟨remaining.map <| Table.mapReferences fun r =>
    if r.names table.name removed.name then none else some r⟩

/-- Makes a column the only primary key of its table. -/
def setPrimaryKey (id : TableId) (name : String) (s : Schema) : Except Rejection Schema := do
  let (i, table) ← s.locate id
  let (j, _) ← table.locate name
  return ⟨s.tables.modify i fun t => { t with columns := Table.soleKeyAt j t.columns }⟩

/-! ### References -/

/-- Sets the reference of the column at a place of the table at a place. -/
def withReference (s : Schema) (i j : Nat) (r : Option Reference) : Schema :=
  ⟨s.tables.modify i fun t =>
    { t with columns := t.columns.modify j fun c => { c with reference := r } }⟩

/-- Lets a column refer to a column of a table, under the names that these declare. -/
def setForeignKey (id : TableId) (name : String) (targetId : TableId) (targetName : String)
    (s : Schema) : Except Rejection Schema := do
  let (i, table) ← s.locate id
  let (j, column) ← table.locate name
  let (_, target) ← s.locate targetId
  let some targetColumn := target.column? targetName
    | throw (.columnNotFound target.name targetName)
  let reference : Reference := ⟨target.name, targetColumn.name⟩
  checkReference s.tables table.name column.toColumnDef reference
  return s.withReference i j (some reference)

/-- Clears the reference of a column. -/
def clearForeignKey (id : TableId) (name : String) (s : Schema) : Except Rejection Schema := do
  let (i, table) ← s.locate id
  let (j, _) ← table.locate name
  return s.withReference i j none

/-! ### Commands -/

/-- The schema after a command, or why the command is refused. A table that it adds gets the
identity `fresh`. -/
def apply (fresh : TableId) (command : Command) (s : Schema) : Except Rejection Schema :=
  match command with
  | .addTable name => s.addTable fresh name
  | .renameTable table name => s.renameTable table name
  | .deleteTable table => s.deleteTable table
  | .moveTable table position => s.moveTable table position
  | .setComment table comment => s.setComment table comment
  | .addColumn table column => s.addColumn table column
  | .updateColumn table column replacement => s.updateColumn table column replacement
  | .removeColumn table column => s.removeColumn table column
  | .setPrimaryKey table column => s.setPrimaryKey table column
  | .setForeignKey table column targetTable targetColumn
  | .connect table column targetTable targetColumn =>
    s.setForeignKey table column targetTable targetColumn
  | .clearForeignKey table column => s.clearForeignKey table column

/-- The schema after a command, which stays as it is if the command is refused. -/
def step (s : Schema) (fresh : TableId) (command : Command) : Schema :=
  match s.apply fresh command with
  | .ok next => next
  | .error _ => s

/-- The schema after a sequence of commands, each with the identity for a table that it adds. -/
def run (s : Schema) (commands : List (TableId × Command)) : Schema :=
  commands.foldl (fun s c => s.step c.1 c.2) s

end Schema

end SchemaDesigner
