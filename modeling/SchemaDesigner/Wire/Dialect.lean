/-
Dialects in documents.

* `Dialect.ofId`: the dialect with an exact name;
* `Dialect.ofDocument`: a dialect from its name, or from an object with its name as the only key;
* `Dialect.ofText`: the same for a whole text.
-/
import SchemaDesigner.Dialect
import SchemaDesigner.Wire.Reading

namespace SchemaDesigner

open Json (Document Items Members Fault)

namespace Dialect

/-- The dialect with an exact name. -/
def ofId (name : String) : Read Dialect :=
  match all.find? fun d => d.id == name with
  | some d => pure d
  | none => throw (.unknownVariant name (all.map id))

/-- The fault of a text in which an object should have ended here. -/
def endFault? : Members → Option Fault
  | .close => none
  | .stop .endInObject _ => some .endInObject
  | .stop _ _ | .member _ _ _ => some .expectedValue

/-- A dialect from its name, or from an object with its name as the only key, which has no
value. -/
def ofDocument : Document → Read Dialect
  | .string (.ok name) => ofId name
  | .object (.member (.ok name) value rest) => do
    let d ← ofId name
    match value with
    | .null => do
      Read.unlessFault (endFault? rest)
      return d
    | value => throw (mismatch "unit" value)
  | .string (.error fault) | .object (.member (.error fault) _ _) => throw (.malformed fault)
  | .broken kept _ => throw (.malformed kept)
  | _ => throw (.malformed .expectedValue)

/-- The dialect that a text writes. -/
def ofText : String → Read Dialect :=
  Read.ofText ofDocument

/-- The text of a dialect. -/
def toText (d : Dialect) : String :=
  (Json.string d.id).compact

end Dialect

end SchemaDesigner
