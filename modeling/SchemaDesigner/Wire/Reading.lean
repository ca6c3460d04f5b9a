/-
Reading of values from documents.

* `ReadError`: why a document does not give a value, with its `message`;
* `Read`: a reader, which may draw identities for things that come without one;
* `Read.text`, `Read.flag`, `Read.float`, `Read.option`, `Read.list`: readers of plain values;
* `Read.ofText`: a whole text as a value.

The parts of a document are read in their order, and the first error is the one that counts.
-/
import SchemaDesigner.IdSupply
import SchemaDesigner.Json.Reader
import SchemaDesigner.Text.Shown
import SchemaDesigner.Timestamp.Reader

namespace SchemaDesigner

open Json (Document Items Members Fault)

/-! ### Errors -/

/-- A value that was met where another one was expected. -/
inductive Met
  | null
  | bool (b : Bool)
  | number (n : Json.Number)
  | string (s : String)
  | array
  | object
  deriving DecidableEq, Repr

/-- How a message names a value. -/
def Met.name : Met → String
  | null => "null"
  | bool b => "boolean \x60" ++ (if b then "true" else "false") ++ "\x60"
  | number (.int n) => "integer \x60" ++ toString n ++ "\x60"
  | number (.float x) => "floating point \x60" ++ (Json.Number.float x).text ++ "\x60"
  | string s => "string " ++ Text.shown s
  | array => "sequence"
  | object => "map"

/-- Why a document does not give a value. -/
inductive ReadError
  /-- The text is not JSON. -/
  | malformed (fault : Fault)
  | wrongType (met : Met) (expected : String)
  | missingField (name : String)
  | duplicateField (name : String)
  | unknownVariant (name : String) (known : List String)
  | wrongLength (length : Nat) (expected : String)
  /-- None of the forms that a type has is the one of the value. -/
  | noVariant (type : String)
  | badTimestamp (fault : TimestampFault)
  deriving DecidableEq, Repr

/-- A name between grave accents. -/
def accented (name : String) : String :=
  "\x60" ++ name ++ "\x60"

/-- The text of an error. -/
def ReadError.message : ReadError → String
  | malformed fault => fault.message
  | wrongType met expected => "invalid type: " ++ met.name ++ ", expected " ++ expected
  | missingField name => "missing field " ++ accented name
  | duplicateField name => "duplicate field " ++ accented name
  | unknownVariant name known =>
    "unknown variant " ++ accented name ++ ", expected one of "
      ++ String.intercalate ", " (known.map accented)
  | wrongLength length expected =>
    "invalid length " ++ Nat.repr length ++ ", expected " ++ expected
  | noVariant type => "data did not match any variant of untagged enum " ++ type
  | badTimestamp fault => fault.message

/-- The error for a value where another one was expected. Brackets are not looked into. -/
def mismatch (expected : String) : Document → ReadError
  | .null => .wrongType .null expected
  | .bool b => .wrongType (.bool b) expected
  | .number (some n) => .wrongType (.number n) expected
  | .number none => .malformed .numberOutOfRange
  | .string (.ok s) => .wrongType (.string s) expected
  | .string (.error fault) => .malformed fault
  | .array _ | .deep (.array _) => .wrongType .array expected
  | .object _ => .wrongType .object expected
  | .deep _ => .wrongType .object expected
  | .broken kept _ => .malformed kept

/-! ### Readers -/

/-- A reader draws identities and may fail. -/
abbrev Read (α : Type) := StateT IdSupply (Except ReadError) α

namespace Read

/-- A new identity. -/
def freshId : Read String := fun s => .ok (s.draw)

/-- Fails if there is a fault. -/
def unlessFault : Option Fault → Read Unit
  | some fault => throw (.malformed fault)
  | none => pure ()

/-- A text, which errors call by the given words. -/
def textAs (expected : String) : Document → Read String
  | .string (.ok s) => pure s
  | d => throw (mismatch expected d)

/-- A text. -/
def text : Document → Read String :=
  textAs "a string"

/-- A flag. -/
def flag : Document → Read Bool
  | .bool b => pure b
  | d => throw (mismatch "a boolean" d)

/-- A number in floating point. -/
def float : Document → Read Float
  | .number (some n) => pure n.toFloat
  | d => throw (mismatch "f64" d)

/-- A value, or none for `null`. -/
def option {α : Type} (read : Document → Read α) : Document → Read (Option α)
  | .null => pure none
  | d => some <$> read d

/-- The values of items. -/
def items {α : Type} (read : Document → Read α) : Items → Read (List α)
  | .close => pure []
  | .stop kept _ => throw (.malformed kept)
  | .item value rest => do
    let a ← read value
    let as ← items read rest
    return a :: as

/-- A list of values. -/
def list {α : Type} (read : Document → Read α) : Document → Read (List α)
  | .array is => items read is
  | d => throw (mismatch "a sequence" d)

/-- The values of members with their keys. -/
def members {α : Type} (read : Document → Read α) : Members → Read (List (String × α))
  | .close => pure []
  | .stop kept _ => throw (.malformed kept)
  | .member (.error fault) _ _ => throw (.malformed fault)
  | .member (.ok key) value rest => do
    let a ← read value
    let as ← members read rest
    return (key, a) :: as

/-- Values with keys. -/
def map {α : Type} (read : Document → Read α) : Document → Read (List (String × α))
  | .object ms => members read ms
  | d => throw (mismatch "a map" d)

/-- A whole text as a value, which nothing may follow. -/
def ofText {α : Type} (read : Document → Read α) (s : String) : Read α := do
  let (document, trailing) := Document.ofText s
  let a ← read document
  if trailing then throw (.malformed .trailingCharacters)
  return a

end Read

end SchemaDesigner
