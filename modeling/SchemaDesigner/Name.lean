/-
Names of tables and columns, which are compared without regard to the case of ASCII letters.

* `foldName`: the characters of a name with its ASCII letters in lower case;
* `namesMatch`: equality of folded names;
* `namesMatch_iff`, `namesMatch_refl`, `namesMatch_symm`, `namesMatch_trans`: matching is an
  equivalence.
-/

namespace SchemaDesigner

/-- The characters of a name with the ASCII letters in lower case. -/
def foldName (s : String) : List Char :=
  s.toList.map Char.toLower

/-- Whether two names denote the same thing: unquoted names have no case. -/
def namesMatch (a b : String) : Bool :=
  foldName a == foldName b

theorem namesMatch_iff {a b : String} : namesMatch a b = true ↔ foldName a = foldName b := by
  simp [namesMatch]

@[simp]
theorem namesMatch_refl (a : String) : namesMatch a a = true := by
  simp [namesMatch]

theorem namesMatch_symm {a b : String} (h : namesMatch a b = true) : namesMatch b a = true :=
  namesMatch_iff.mpr (namesMatch_iff.mp h).symm

theorem namesMatch_trans {a b c : String} (h : namesMatch a b = true)
    (k : namesMatch b c = true) : namesMatch a c = true :=
  namesMatch_iff.mpr ((namesMatch_iff.mp h).trans (namesMatch_iff.mp k))

end SchemaDesigner
