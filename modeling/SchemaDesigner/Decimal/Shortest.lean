/-
The shortest decimal text that reads back as a given number of 64 bits.

* `Dyadic`, `Dyadic.ofBits`: a positive number m · 2^q, with the reals that round to it;
* `Dyadic.decade`: the power of ten just below or at the number;
* `Dyadic.onGrid?`: the nearest point of a decimal grid among the reals that round to the number;
* `Dyadic.shortest`: the digits and the exponent of the first grid, from coarse to fine, with such
  a point;
* `PointForm`: where positional notation ends, and `PointForm.text`: the text of a number.

A grid has a point among the reals that round to the number only if one of the number's two
neighbours on the grid is such a point, so it suffices to look at these.
-/
import SchemaDesigner.Decimal.Digits

namespace SchemaDesigner.Decimal

/-- A positive number m · 2^q. The reals between `4m - below` and `4m + 2` quarters of 2^q round to
it, the ends included if m is even. -/
structure Dyadic where
  mantissa : Nat
  exponent : Int
  below : Nat
  deriving DecidableEq, Repr

/-- The size of a finite number from its 64 bits; zero has none. -/
def Dyadic.ofBits (bits : Nat) : Option Dyadic :=
  let fraction : Nat := bits % Nat.pow 2 52
  let biased : Nat := bits / Nat.pow 2 52 % Nat.pow 2 11
  if biased = 0 then
    if fraction = 0 then none else some ⟨fraction, -1074, 2⟩
  else
    some ⟨Nat.pow 2 52 + fraction, (biased : Int) - 1075,
      if fraction = 0 && 1 < biased then 1 else 2⟩

namespace Dyadic

/-- A number of quarters of 2^q as a fraction. -/
def quarters (d : Dyadic) (n : Nat) : Nat × Nat :=
  (n * Nat.pow 2 d.exponent.toNat, 4 * Nat.pow 2 (-d.exponent).toNat)

/-- A number of tenth powers 10^p as a fraction. -/
def tens (p : Int) (n : Nat) : Nat × Nat :=
  (n * Nat.pow 10 p.toNat, Nat.pow 10 (-p).toNat)

/-- Whether a fraction is less than another. -/
def isLess (a b : Nat × Nat) : Bool :=
  a.1 * b.2 < b.1 * a.2

/-- Whether a point of the grid 10^p rounds to the number. -/
def accepts (d : Dyadic) (p : Int) (n : Nat) : Bool :=
  let point := tens p n
  let low := d.quarters (4 * d.mantissa - d.below)
  let high := d.quarters (4 * d.mantissa + 2)
  if d.mantissa % 2 = 0 then !isLess point low && !isLess high point
  else isLess low point && isLess point high

/-- The exponent of the greatest power of ten that is not greater than the number. -/
def decade (d : Dyadic) : Int :=
  let value := d.quarters (4 * d.mantissa)
  let guess : Int := (Nat.repr value.1).length - (Nat.repr value.2).length
  if isLess value (tens guess 1) then guess - 1 else guess

/-- The nearer one of the two neighbours of the number on the grid 10^p that rounds to it. -/
def onGrid? (d : Dyadic) (p : Int) : Option Nat :=
  let value := d.quarters (4 * d.mantissa)
  let unit := tens p 1
  let num := value.1 * unit.2
  let den := value.2 * unit.1
  let floor := num / den
  let rest := num % den
  let nearer := if 2 * rest < den || (2 * rest = den && floor % 2 = 0) then floor else floor + 1
  let farther := if nearer = floor then floor + 1 else floor
  if d.accepts p nearer then some nearer
  else if d.accepts p farther then some farther
  else none

/-- The point on the first of the grids 10^p, 10^(p-1), … that rounds to the number, among `count`
grids, with the exponent of its grid. The last grid is taken as it is. -/
def search (d : Dyadic) (p : Int) : Nat → Nat × Int
  | 0 => ((d.onGrid? p).getD 0, p)
  | count + 1 =>
    match d.onGrid? p with
    | some n => (n, p)
    | none => search d (p - 1) count

/-- The shortest digits that read back as the number, with the exponent of the last one. Seventeen
digits always suffice. -/
def shortest (d : Dyadic) : Nat × Int :=
  d.search d.decade 16

end Dyadic

/-! ### Point and exponent -/

/-- The range of decimal exponents that are written in positional notation. -/
structure PointForm where
  least : Int
  most : Int
  deriving DecidableEq, Repr

/-- Digits without the zeros at their end, and the exponent of the last digit that is left. -/
def stripZeros (digits : List Char) (p : Int) : List Char × Int :=
  let kept := (digits.reverse.dropWhile (· == '0')).reverse
  (kept, p + (digits.length - kept.length : Nat))

/-- Digits in positional notation, with a point and at least one digit at each side of it. -/
def positional (digits : List Char) (p : Int) : List Char :=
  let whole := digits.length + p
  if 0 ≤ p then digits ++ List.replicate p.toNat '0' ++ ['.', '0']
  else if 0 < whole then digits.take whole.toNat ++ '.' :: digits.drop whole.toNat
  else '0' :: '.' :: List.replicate (-whole).toNat '0' ++ digits

/-- Digits with an exponent, which has a sign in any case. -/
def scientific (digits : List Char) (exponent : Int) : List Char :=
  let fraction := match digits.drop 1 with
    | [] => []
    | rest => '.' :: rest
  let sign := if exponent < 0 then '-' else '+'
  digits.take 1 ++ fraction ++ 'e' :: sign :: (Nat.repr exponent.natAbs).toList

/-- The bit that tells the sign of a number. -/
def signBit : Nat := Nat.pow 2 63

/-- The text of a finite number. -/
def PointForm.text (f : PointForm) (x : Float) : String :=
  let bits := x.toBits.toNat
  let sign := if bits < signBit then [] else ['-']
  let size := match Dyadic.ofBits (bits % signBit) with
    | none => ['0', '.', '0']
    | some d =>
      let (n, p) := d.shortest
      let (digits, p) := stripZeros (Nat.repr n).toList p
      let exponent := p + digits.length - 1
      if f.least ≤ exponent && exponent ≤ f.most then positional digits p
      else scientific digits exponent
  String.ofList (sign ++ size)

end SchemaDesigner.Decimal
