/-
Sets of characters given by ranges of code points.

* `Ranges`: a set as a list of closed ranges;
* `Ranges.has`: membership of a code point;
* `Ranges.has_iff`: membership means lying between the ends of a listed range.
-/

namespace SchemaDesigner.Text

/-- A set of code points, as a list of closed ranges. -/
abbrev Ranges := List (Nat × Nat)

/-- Whether a code point lies in one of the ranges. -/
def Ranges.has (rs : Ranges) (n : Nat) : Bool :=
  rs.any fun r => r.1 ≤ n && n ≤ r.2

/-- A code point is in the set exactly if it lies between the ends of a range. -/
theorem Ranges.has_iff (rs : Ranges) (n : Nat) :
    rs.has n = true ↔ ∃ r ∈ rs, r.1 ≤ n ∧ n ≤ r.2 := by
  simp [Ranges.has]

end SchemaDesigner.Text
