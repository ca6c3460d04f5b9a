/-
The body of a table definition: where it ends, and its parts between commas.

* `splitBody`: the parts of a body, or the place where it breaks off;
* `afterStatement`: what follows a statement;
* `head?_of_splitBody_eq_none`: a body that breaks off does so at the end of the tokens, at a
  semicolon or at the beginning of the next statement.
-/
import SchemaDesigner.Script.Token

namespace SchemaDesigner.Script

/-- Puts a token at the front of the first part. -/
def consPart (t : Token) : List (List Token) → List (List Token)
  | [] => [[t]]
  | p :: ps => (t :: p) :: ps

/-- The parts of a body between the commas outside of `depth` more parentheses, up to the closing
parenthesis, and what follows it. A body that is not closed before the statement ends has no parts;
what follows begins where it breaks off. -/
def splitBody (depth : Nat) : List Token → Option (List (List Token)) × List Token
  | [] => (none, [])
  | .keyword .create :: r => (none, .keyword .create :: r)
  | .semicolon :: r => (none, .semicolon :: r)
  | .lparen :: r =>
    ((splitBody (depth + 1) r).1.map (consPart .lparen), (splitBody (depth + 1) r).2)
  | .rparen :: r =>
    if depth = 0 then (some [[]], r)
    else ((splitBody (depth - 1) r).1.map (consPart .rparen), (splitBody (depth - 1) r).2)
  | .comma :: r =>
    if depth = 0 then ((splitBody 0 r).1.map ([] :: ·), (splitBody 0 r).2)
    else ((splitBody depth r).1.map (consPart .comma), (splitBody depth r).2)
  | t :: r => ((splitBody depth r).1.map (consPart t), (splitBody depth r).2)

/-- What follows the next semicolon, or the beginning of the next statement if that comes first. -/
def afterStatement : List Token → List Token
  | [] => []
  | .semicolon :: r => r
  | .keyword .create :: r => .keyword .create :: r
  | _ :: r => afterStatement r

theorem length_splitBody_le (depth : Nat) (ts : List Token) :
    (splitBody depth ts).2.length ≤ ts.length := by
  fun_induction splitBody depth ts <;> simp_all <;> omega

theorem length_afterStatement_le (ts : List Token) :
    (afterStatement ts).length ≤ ts.length := by
  fun_induction afterStatement ts <;> simp_all
  omega

/-- A body that breaks off does so at the end, at a semicolon or at the next statement. -/
theorem head?_of_splitBody_eq_none {depth : Nat} {ts : List Token}
    (h : (splitBody depth ts).1 = none) :
    (splitBody depth ts).2.head? = none ∨ (splitBody depth ts).2.head? = some .semicolon
      ∨ (splitBody depth ts).2.head? = some (.keyword .create) := by
  fun_induction splitBody depth ts <;> simp_all

end SchemaDesigner.Script
