/-
The services for a program that draws the canvas. They take texts and give texts.

* `ServiceError`: why a service is refused, with its `message`;
* `generateSql`: the script that defines listed tables in a dialect;
* `parseSql`: the list of the tables that a script defines;
* `validateColumns`: whether one column may refer to another;
* `deriveRelationships`: the list of the relationships of listed tables;
* `applyCommand`: the list of the tables after a command.

The host keeps the text of the tables between two calls, so nothing is remembered here.
-/
import SchemaDesigner.Import
import SchemaDesigner.Script.Render
import SchemaDesigner.Wire.Command
import SchemaDesigner.Wire.Project

namespace SchemaDesigner.Host

/-- Why a service is refused. -/
inductive ServiceError
  | unreadable (e : ReadError)
  | unknownDialect (name : String)
  | notImported (fault : ImportFault)
  | rejected (r : Rejection)
  deriving DecidableEq, Repr

/-- The text of a refusal. -/
def ServiceError.message : ServiceError → String
  | unreadable e => e.message
  | unknownDialect name => Dialect.unknownMessage name
  | notImported fault => fault.message
  | rejected r => r.message

/-- A service draws identities and may be refused. -/
abbrev Service (α : Type) := StateT IdSupply (Except ServiceError) α

/-- A reader as a part of a service. -/
def reading {α : Type} (r : Read α) : Service α := fun ids =>
  (r ids).mapError .unreadable

/-- The script that defines listed tables in a dialect, at a time. -/
def generateSql (now : Timestamp) (tables dialect : String) : Service String := do
  let tables ← reading (Tables.ofText tables)
  match Dialect.ofName? dialect with
  | some d => return Script.render tables d {} now
  | none => throw (.unknownDialect dialect)

/-- The list of the tables that a script defines. -/
def parseSql (script : String) : Service String := fun ids =>
  match importTables script ids with
  | .ok (tables, ids) => .ok (Tables.toText tables, ids)
  | .error fault => .error (.notImported fault)

/-- Whether one column may refer to another. -/
def validateColumns (source target : String) : Service Verdict := do
  let source ← reading (Read.ofText (Column.read .text) source)
  let target ← reading (Read.ofText (Column.read .text) target)
  return Verdict.ofIncompatibility? (source.incompatibility? target.toColumnDef)

/-- The list of the relationships of listed tables. -/
def deriveRelationships (tables : String) : Service String := do
  let tables ← reading (Tables.ofText tables)
  return (Json.array ((Relationship.ofTables tables).map Relationship.toJson)).compact

/-- The list of the tables after a command. -/
def applyCommand (tables command : String) : Service String := do
  let tables ← reading (Tables.ofText tables)
  let command ← reading (Command.ofText command)
  let fresh ← reading Read.freshId
  match Schema.apply ⟨fresh⟩ command ⟨tables⟩ with
  | .ok next => return Tables.toText next.tables
  | .error r => throw (.rejected r)

end SchemaDesigner.Host
