/-
Which columns may refer to which: types have to agree, texts must fit, decimals must be equal.

* `Incompatibility`: the three causes of a refusal, with their `message`;
* `ColumnDef.stringLength`, `ColumnDef.decimalSize`: the size that counts where none is written;
* `ColumnDef.incompatibility?`: the check, which is not symmetric;
* `Verdict`: the outcome as a flag with a reason.
-/
import SchemaDesigner.Column
import SchemaDesigner.Decimal.Digits

namespace SchemaDesigner

/-- Why a column may not refer to another. -/
inductive Incompatibility
  | type (source target : ColumnType)
  | length (type : ColumnType) (source target : Nat)
  | decimal (source target : String)
  deriving DecidableEq, Repr

/-- The text of a refusal. -/
def Incompatibility.message : Incompatibility → String
  | type s t => "Type mismatch: " ++ s.name ++ " cannot reference " ++ t.name
  | length ty s t =>
    "Length mismatch: " ++ ty.name ++ "(" ++ Nat.repr s ++ ") does not fit into "
      ++ ty.name ++ "(" ++ Nat.repr t ++ ")"
  | decimal s t =>
    "Precision mismatch: DECIMAL(" ++ s ++ ") cannot reference DECIMAL(" ++ t ++ ")"

/-! ### Sizes that count -/

/-- The number written by decimal digits, one at least, after an optional plus sign. -/
def unsigned? (cs : List Char) : Option Nat :=
  let digits := match cs with
    | '+' :: ds => ds
    | ds => ds
  if digits ≠ [] ∧ digits.all Char.isDigit then
    some (Decimal.digitsValue digits)
  else none

/-- One past the greatest length, of 32 bits. -/
def lengthLimit : Nat := Nat.pow 2 32

/-- The length of a text column whose size is absent, unreadable or beyond 32 bits. -/
def defaultStringLength : Nat := 255

/-- The size of a decimal column that has none. -/
def defaultDecimalSize : String := "10,2"

namespace ColumnDef

/-- The length of a text column: a number of 32 bits, else the default. -/
def stringLength (c : ColumnDef) : Nat :=
  ((c.size.bind fun s => unsigned? (Text.trim s).toList).filter (· < lengthLimit)).getD
    defaultStringLength

/-- The precision and scale of a decimal column. -/
def decimalSize (c : ColumnDef) : String :=
  (Text.nonEmpty? c.size).getD defaultDecimalSize

/-- Why `source` may not refer to `target`: a shorter text may refer to a longer one, but not the
other way round. -/
def incompatibility? (source target : ColumnDef) : Option Incompatibility :=
  if source.type ≠ target.type then some (.type source.type target.type)
  else match source.type with
    | .varchar | .char =>
      if target.stringLength < source.stringLength then
        some (.length source.type source.stringLength target.stringLength)
      else none
    | .decimal =>
      if source.decimalSize ≠ target.decimalSize then
        some (.decimal source.decimalSize target.decimalSize)
      else none
    | _ => none

end ColumnDef

/-- The outcome of a check as a flag with a reason. -/
structure Verdict where
  valid : Bool
  reason : String
  deriving DecidableEq, Repr

/-- The verdict on a check. -/
def Verdict.ofIncompatibility? : Option Incompatibility → Verdict
  | none => ⟨true, "Types are compatible"⟩
  | some e => ⟨false, e.message⟩

end SchemaDesigner
