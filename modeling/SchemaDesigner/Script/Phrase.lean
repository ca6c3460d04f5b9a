/-
Phrases inside the definition of a table: names, lists of columns, parentheses, defaults.

* `readName`: a name with its qualifiers, of which the last part counts;
* `readColumnList`, `readReference`: the columns in parentheses, and the target of a reference;
* `parenText`, `sizeText`: tokens in parentheses, written as text again;
* `readDefault`: the text of a default;
* `afterParens`: what follows a closing parenthesis.

Each reader returns what follows the tokens it has used, also when it finds nothing.
-/
import SchemaDesigner.Column
import SchemaDesigner.Text.Delimited
import SchemaDesigner.Script.Token

namespace SchemaDesigner.Script

/-! ### Names and references -/

/-- The last part of a qualified name, of which `name` has been read. -/
def readQualified (name : String) : List Token → Option String × List Token
  | .dot :: .ident part :: r => readQualified part r
  | .dot :: r => (none, r)
  | ts => (some name, ts)

/-- The last part of a name with its qualifiers. -/
def readName : List Token → Option String × List Token
  | .ident name :: r => readQualified name r
  | ts => (none, ts)

/-- The identifiers up to the next closing parenthesis. -/
def readIdents : List Token → Option (List String) × List Token
  | [] => (none, [])
  | .rparen :: r => (some [], r)
  | .ident name :: r => ((readIdents r).1.map (name :: ·), (readIdents r).2)
  | _ :: r => readIdents r

/-- The identifiers in parentheses. -/
def readColumnList : List Token → Option (List String) × List Token
  | .lparen :: r => readIdents r
  | ts => (none, ts)

/-- The table and the one column of it that a reference names. -/
def readReference (ts : List Token) : Option Reference × List Token :=
  match readName ts with
  | (none, rest) => (none, rest)
  | (some table, rest) =>
    match readColumnList rest with
    | (some [column], rest) => (some ⟨table, column⟩, rest)
    | (_, rest) => (none, rest)

/-! ### Parentheses -/

/-- What follows the closing parenthesis at `depth` open ones more. -/
def afterParens (depth : Nat) : List Token → List Token
  | [] => []
  | .lparen :: r => afterParens (depth + 1) r
  | .rparen :: r => if depth = 0 then r else afterParens (depth - 1) r
  | _ :: r => afterParens depth r

/-- A literal as it is written. -/
def literal (text : String) : String :=
  Text.quoted '\'' text

/-- The written form of a token that is kept in an expression. -/
def Token.word? : Token → Option String
  | .ident s | .num s => some s
  | .str s => some (literal s)
  | .prefixed w s => some (w ++ literal s)
  | .keyword .null => some "NULL"
  | _ => none

/-- Puts a text in front of what was read. -/
def prependRead (s : String) (p : String × List Token) : String × List Token :=
  (s ++ p.1, p.2)

/-- The text of an expression up to the parenthesis that closes the first one. Words are separated
by one blank, and tokens that are neither words nor punctuation are left out. -/
def parenText (depth : Nat) (afterWord : Bool) : List Token → String × List Token
  | [] => ("", [])
  | .lparen :: r => prependRead "(" (parenText (depth + 1) false r)
  | .rparen :: r =>
    if depth ≤ 1 then (")", r) else prependRead ")" (parenText (depth - 1) false r)
  | .comma :: r => prependRead "," (parenText depth false r)
  | t :: r =>
    match t.word? with
    | some w => prependRead (if afterWord then " " ++ w else w) (parenText depth true r)
    | none => parenText depth afterWord r

/-- The text of a size up to the parenthesis that closes it, without blanks. -/
def sizeText (depth : Nat) : List Token → String × List Token
  | [] => ("", [])
  | .lparen :: r => prependRead "(" (sizeText (depth + 1) r)
  | .rparen :: r => if depth = 0 then ("", r) else prependRead ")" (sizeText (depth - 1) r)
  | .comma :: r => prependRead "," (sizeText depth r)
  | .num s :: r | .ident s :: r => prependRead s (sizeText depth r)
  | .str s :: r => prependRead (literal s) (sizeText depth r)
  | _ :: r => sizeText depth r

/-- The size after a type, if one is written. -/
def readSize : List Token → Option String × List Token
  | .lparen :: r => (Text.nonEmpty? (some (sizeText 0 r).1), (sizeText 0 r).2)
  | ts => (none, ts)

/-! ### Defaults -/

/-- The text of a default: a literal, a number, a word with its arguments, or an expression in
parentheses. -/
def readDefault : List Token → Option String × List Token
  | .str s :: r => (some (literal s), r)
  | .prefixed w s :: r => (some (w ++ literal s), r)
  | .num s :: r => (some s, r)
  | .keyword .null :: r => (some "NULL", r)
  | .ident s :: .lparen :: r =>
    let p := parenText 0 false (.lparen :: r)
    (some (s ++ p.1), p.2)
  | .ident s :: r => (some s, r)
  | .lparen :: r =>
    let p := parenText 0 false (.lparen :: r)
    (some p.1, p.2)
  | ts => (none, ts)

/-! ### Lengths: no reader lengthens the tokens -/

theorem length_readQualified_le (name : String) (ts : List Token) :
    (readQualified name ts).2.length ≤ ts.length := by
  fun_induction readQualified name ts <;> simp_all
  omega

theorem length_readName_le (ts : List Token) : (readName ts).2.length ≤ ts.length := by
  unfold readName
  split
  · exact Nat.le_succ_of_le (length_readQualified_le _ _)
  · simp

theorem length_readIdents_le (ts : List Token) : (readIdents ts).2.length ≤ ts.length := by
  fun_induction readIdents ts <;> simp_all <;> omega

theorem length_readColumnList_le (ts : List Token) :
    (readColumnList ts).2.length ≤ ts.length := by
  unfold readColumnList
  split
  · exact Nat.le_succ_of_le (length_readIdents_le _)
  · simp

theorem length_readReference_le (ts : List Token) :
    (readReference ts).2.length ≤ ts.length := by
  have hname := length_readName_le ts
  unfold readReference
  split
  · simp_all
  · rename_i table rest h
    have hlist := length_readColumnList_le rest
    rw [h] at hname
    split
    · simp_all; omega
    · simp_all; omega

theorem length_afterParens_le (depth : Nat) (ts : List Token) :
    (afterParens depth ts).length ≤ ts.length := by
  fun_induction afterParens depth ts <;> simp_all <;> omega

theorem length_parenText_le (depth : Nat) (afterWord : Bool) (ts : List Token) :
    (parenText depth afterWord ts).2.length ≤ ts.length := by
  fun_induction parenText depth afterWord ts <;> simp_all [prependRead] <;> omega

theorem length_readDefault_le (ts : List Token) : (readDefault ts).2.length ≤ ts.length := by
  unfold readDefault
  split <;> simp
  · exact Nat.le_succ_of_le (length_parenText_le _ _ _)
  · exact length_parenText_le _ _ _

end SchemaDesigner.Script
