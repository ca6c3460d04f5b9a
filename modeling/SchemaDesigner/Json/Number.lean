/-
Numbers of JSON, as integers of 64 bits where possible and else in floating point.

* `Number`, `Number.text`, `Number.toFloat`: a number, how it is written and its approximation;
* `Numeral`: a number as it was written, in its parts;
* `Significand`: the leading digits of a numeral, as far as 64 bits hold them;
* `scaled?`: a significand times a power of ten, computed by few rounded operations;
* `Numeral.number?`: the number that a numeral writes, if it is in range.
-/
import SchemaDesigner.Decimal.Shortest

namespace SchemaDesigner.Json

/-- A number of a document. -/
inductive Number
  | int (n : Int)
  | float (x : Float)
  deriving DecidableEq, Repr

/-- Numbers are written in positional notation from 10^-5 up to 10^16. -/
def numberForm : Decimal.PointForm := ⟨-5, 15⟩

/-- A number in floating point. -/
def Number.toFloat : Number → Float
  | int n => Float.ofInt n
  | float x => x

/-- The written form of a number. -/
def Number.text : Number → String
  | int n => toString n
  | float x => numberForm.text x

/-- A number in its written parts. -/
structure Numeral where
  negative : Bool
  whole : List Char
  fraction : Option (List Char) := none
  /-- The sign and the digits of the exponent. -/
  exponent : Option (Bool × List Char) := none
  deriving DecidableEq, Repr

/-! ### Leading digits -/

/-- The leading digits of a number, and the power of ten that their last one counts. -/
structure Significand where
  value : Nat
  exponent : Int
  deriving DecidableEq, Repr

/-- One past the greatest significand. -/
def significandLimit : Nat := Nat.pow 2 64

/-- Adds the digits in front of the point. From the first one on that would exceed the limit they
only raise the exponent. -/
def Significand.addWhole (s : Significand) : List Char → Significand
  | [] => s
  | c :: cs =>
    let next := 10 * s.value + (c.toNat - '0'.toNat)
    if next < significandLimit then addWhole { s with value := next } cs
    else { s with exponent := s.exponent + (cs.length + 1 : Nat) }

/-- Adds the digits behind the point, up to the first one that would exceed the limit. -/
def Significand.addFraction (s : Significand) : List Char → Significand
  | [] => s
  | c :: cs =>
    let next := 10 * s.value + (c.toNat - '0'.toNat)
    if next < significandLimit then addFraction ⟨next, s.exponent - 1⟩ cs else s

/-! ### Values -/

/-- The power of ten with a natural exponent. -/
def powerOfTen (n : Nat) : Float :=
  Float.ofScientific 1 false n

/-- The greatest exponent of a power of ten that is a number in floating point. -/
def greatestPower : Nat := 308

/-- A number times a power of ten. A number that is too large is none; a divisor that is too large
is applied in steps. -/
def scaled? (x : Float) (exponent : Int) : Option Float :=
  if x == 0 then some x
  else if 0 ≤ exponent then
    if exponent ≤ greatestPower then
      some (x * powerOfTen exponent.toNat) |>.filter Float.isFinite
    else none
  else if -exponent ≤ greatestPower then some (x / powerOfTen (-exponent).toNat)
  else scaled? (x / powerOfTen greatestPower) (exponent + greatestPower)
termination_by (-exponent).toNat
decreasing_by simp only [greatestPower] at *; omega

/-- One past the greatest written exponent that is read as a number. -/
def exponentLimit : Nat := Nat.pow 2 31

/-- The size of a number from its leading digits and its written exponent. -/
def Significand.size? (s : Significand) : Option (Bool × List Char) → Option Float
  | none => scaled? (Float.ofNat s.value) s.exponent
  | some (negative, digits) =>
    let n := Decimal.digitsValue digits
    if n < exponentLimit then
      scaled? (Float.ofNat s.value) (if negative then s.exponent - n else s.exponent + n)
    else if negative || s.value = 0 then some 0.0
    else none

/-- The number that a numeral writes. It is an integer if it has no point and no exponent, is not
`-0` and fits into 64 bits. One beyond the range of floating point is none. -/
def Numeral.number? (l : Numeral) : Option Number :=
  let whole := Significand.addWhole ⟨0, 0⟩ l.whole
  let isInteger := l.fraction.isNone && l.exponent.isNone && whole.exponent == 0
    && (!l.negative || (whole.value != 0 && whole.value ≤ Nat.pow 2 63))
  if isInteger then
    some (.int (if l.negative then -(whole.value : Int) else whole.value))
  else
    ((whole.addFraction (l.fraction.getD [])).size? l.exponent).map fun x =>
      .float (if l.negative then -x else x)

end SchemaDesigner.Json
