/-
Numbers written in decimal digits.

* `digitsValue`: the number that some digits write;
* `padded`: a number with leading zeros up to a width.
-/

namespace SchemaDesigner.Decimal

/-- The number that some decimal digits write. -/
def digitsValue (cs : List Char) : Nat :=
  cs.foldl (fun n c => 10 * n + (c.toNat - '0'.toNat)) 0

/-- A number in decimal, with leading zeros up to a width. -/
def padded (width n : Nat) : String :=
  let digits := Nat.repr n
  String.ofList (List.replicate (width - digits.length) '0') ++ digits

end SchemaDesigner.Decimal
