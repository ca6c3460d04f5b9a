/-
Records in documents: objects with named fields, or arrays with the fields in their order.

* `Slot`: a field of a record while it is being read;
* `Source`: where a document comes from, which decides how superfluous items are reported;
* `fillByName`, `fillInOrder`: the fields of an object and those of an array;
* `RecordForm`, `RecordForm.read`: a record in either form.
-/
import SchemaDesigner.Wire.Reading

namespace SchemaDesigner

open Json (Document Items Members Fault)

/-- Where a document comes from. -/
inductive Source
  /-- It is being read from a text. -/
  | text
  /-- It was read as a whole before. -/
  | buffer
  deriving DecidableEq, Repr

/-- A field of a record of which `σ` holds what was read as yet. -/
structure Slot (σ : Type) where
  /-- The name of the field. -/
  name : String
  /-- Another name that is read as well. -/
  otherName : Option String := none
  /-- Whether an array may end in front of the field. -/
  optional : Bool := false
  isFilled : σ → Bool
  fill : Document → σ → Read σ

/-- Whether a key names the field. -/
def Slot.answersTo {σ : Type} (s : Slot σ) (key : String) : Bool :=
  s.name == key || s.otherName == some key

/-- The fields of an object. A field that comes twice is an error, and one that is unknown is passed
over. -/
def fillByName {σ : Type} (slots : List (Slot σ)) : Members → σ → Read σ
  | .close, s => pure s
  | .stop kept _, _ => throw (.malformed kept)
  | .member (.error fault) _ _, _ => throw (.malformed fault)
  | .member (.ok key) value rest, s =>
    match slots.find? fun slot => slot.answersTo key with
    | none => do
      Read.unlessFault value.skipFault?
      fillByName slots rest s
    | some slot => do
      if slot.isFilled s then throw (.duplicateField slot.name)
      let s ← slot.fill value s
      fillByName slots rest s

/-- The fields of an array as far as it goes, and the items that are left. -/
def fillInOrder {σ : Type} : List (Slot σ) → Items → σ → Read (σ × Items)
  | [], items, s => pure (s, items)
  | _ :: _, .close, s => pure (s, .close)
  | _ :: _, .stop kept _, _ => throw (.malformed kept)
  | slot :: slots, .item value rest, s => do
    let s ← slot.fill value s
    fillInOrder slots rest s

/-- A number of elements in a message. -/
def elementCount (n : Nat) : String :=
  Nat.repr n ++ (if n = 1 then " element" else " elements")

/-- How many items there are. -/
def itemCount : Items → Nat
  | .item _ rest => itemCount rest + 1
  | .close | .stop _ _ => 0

/-- The fault of a text in which an array should have ended here. -/
def endFault? : Items → Option Fault
  | .close => none
  | .item _ _ => some .trailingCharacters
  | .stop .endInArray _ => some .endInArray
  | .stop .trailingComma _ => some .trailingComma
  | .stop _ _ => some .trailingCharacters

/-- Fails if items are left after `count` ones. -/
def checkEnd (source : Source) (count : Nat) (left : Items) : Read Unit :=
  match source with
  | .text => Read.unlessFault (endFault? left)
  | .buffer =>
    match itemCount left with
    | 0 => pure ()
    | n => throw (.wrongLength (count + n) (elementCount count ++ " in sequence"))

/-- A kind of record. The fields come in the order of their declaration. -/
structure RecordForm (σ α : Type) where
  /-- What an error calls the record. -/
  title : String
  slots : List (Slot σ)
  /-- Nothing read as yet. -/
  start : σ
  /-- The record, given what to report for a field that is missing. -/
  finish : (String → ReadError) → σ → Read α

namespace RecordForm

variable {σ α : Type}

/-- The error for an array that ends in front of a field. -/
def tooShort (r : RecordForm σ α) (field : String) : ReadError :=
  .wrongLength ((r.slots.findIdx? fun slot => slot.name == field).getD 0)
    (r.title ++ " with " ++ elementCount r.slots.length)

/-- A record from the members of an object. -/
def readMembers (r : RecordForm σ α) (ms : Members) : Read α := do
  let s ← fillByName r.slots ms r.start
  r.finish .missingField s

/-- A record from the items of an array. An array may end only in front of fields that are
optional. -/
def readItems (r : RecordForm σ α) (source : Source) (is : Items) : Read α := do
  let (s, left) ← fillInOrder r.slots is r.start
  match r.slots.find? fun slot => !slot.optional && !slot.isFilled s with
  | some slot => throw (r.tooShort slot.name)
  | none =>
    let a ← r.finish r.tooShort s
    checkEnd source r.slots.length left
    return a

/-- A record in either form. -/
def read (r : RecordForm σ α) (source : Source) : Document → Read α
  | .object ms => r.readMembers ms
  | .array is => r.readItems source is
  | .deep _ => throw (.malformed .tooDeep)
  | d => throw (mismatch r.title d)

end RecordForm

/-- The value of a field that has to be there. -/
def required {β : Type} (missing : String → ReadError) (name : String) : Option β → Read β
  | some b => pure b
  | none => throw (missing name)

end SchemaDesigner
