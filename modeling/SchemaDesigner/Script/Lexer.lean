/-
The tokens of a text.

* `afterLine`, `afterBlock`: what follows a comment;
* `readLiteral`, `readNumber`, `readWord`: the parts of a token and what follows it;
* `next`: the token that begins with a character, if any does, and what follows;
* `scan`, `tokenize`: all tokens of a text. Characters that begin no token are skipped.
-/
import SchemaDesigner.Text.Blank
import SchemaDesigner.Text.Letter
import SchemaDesigner.Text.Delimited
import SchemaDesigner.Script.Token

namespace SchemaDesigner.Script

open Text

/-! ### Comments -/

/-- What follows the next line feed. -/
def afterLine : List Char → List Char
  | [] => []
  | c :: r => if c = '\n' then r else afterLine r

/-- What follows the end of a block comment. -/
def afterBlock : List Char → List Char
  | [] => []
  | '*' :: '/' :: r => r
  | _ :: r => afterBlock r

/-! ### Literals and words -/

/-- The text of a literal up to the closing quote, and what follows. A quote written twice stands
for one, and a backslash keeps the character after it from closing. -/
def readLiteral : List Char → List Char × List Char
  | [] => ([], [])
  | '\'' :: '\'' :: r => consRead '\'' (readLiteral r)
  | '\'' :: r => ([], r)
  | '\\' :: c :: r => consRead '\\' (consRead c (readLiteral r))
  | c :: r => consRead c (readLiteral r)

/-- Digits with at most one point among them, none if one was `seen` before, and what follows. -/
def readNumber (seen : Bool) : List Char → List Char × List Char
  | [] => ([], [])
  | c :: r =>
    if c.isDigit then consRead c (readNumber seen r)
    else if c = '.' && !seen then consRead c (readNumber true r)
    else ([], c :: r)

/-- The characters that a word may begin with. -/
def beginsWord (c : Char) : Bool :=
  isLetter c || c == '_'

/-- The characters that a word may go on with. -/
def continuesWord (c : Char) : Bool :=
  isLetter c || isNumeral c || c == '_' || c == '$'

/-- The symbol that a character is. -/
def symbol? : Char → Option Token
  | '(' => some .lparen
  | ')' => some .rparen
  | ',' => some .comma
  | ';' => some .semicolon
  | '.' => some .dot
  | _ => none

/-- The closing delimiter of an identifier that a character opens. -/
def closing? : Char → Option Char
  | '"' => some '"'
  | '\x60' => some '\x60'
  | '[' => some ']'
  | _ => none

/-! ### Tokens -/

/-- The token of a word and what follows it: a keyword, a prefix of a literal, or an identifier. -/
def wordToken (word : String) (rest : List Char) : Token × List Char :=
  match Keyword.ofWord? word with
  | some k => (.keyword k, rest)
  | none => match rest with
    | '\'' :: r => (.prefixed word (String.ofList (readLiteral r).1), (readLiteral r).2)
    | _ => (.ident word, rest)

/-- The token that begins with `c`, if one does, and what follows it. -/
def next (c : Char) (r : List Char) : Option Token × List Char :=
  if isBlank c then (none, r)
  else if c = '#' || (c = '-' && r.head? = some '-') then (none, afterLine r)
  else if c = '/' && r.head? = some '*' then (none, afterBlock r.tail)
  else match symbol? c, closing? c with
    | some t, _ => (some t, r)
    | none, some close =>
      (some (.ident (String.ofList (readDelimited close r).1)), (readDelimited close r).2)
    | none, none =>
      if c = '\'' then (some (.str (String.ofList (readLiteral r).1)), (readLiteral r).2)
      else if c.isDigit || ((c = '-' || c = '+') && r.head?.any Char.isDigit) then
        (some (.num (String.ofList (c :: (readNumber false r).1))), (readNumber false r).2)
      else if beginsWord c then
        let (t, rest) :=
          wordToken (String.ofList (c :: r.takeWhile continuesWord)) (r.dropWhile continuesWord)
        (some t, rest)
      else (none, r)

/-! ### Lengths: each step leaves a shorter text -/

theorem length_afterLine_le (cs : List Char) : (afterLine cs).length ≤ cs.length := by
  fun_induction afterLine cs <;> simp_all
  omega

theorem length_afterBlock_le (cs : List Char) : (afterBlock cs).length ≤ cs.length := by
  fun_induction afterBlock cs <;> simp_all <;> omega

theorem length_readLiteral_le (cs : List Char) : (readLiteral cs).2.length ≤ cs.length := by
  fun_induction readLiteral cs <;> simp_all <;> omega

theorem length_readNumber_le (seen : Bool) (cs : List Char) :
    (readNumber seen cs).2.length ≤ cs.length := by
  fun_induction readNumber seen cs <;> simp_all <;> omega

theorem length_wordToken_le (word : String) (rest : List Char) :
    (wordToken word rest).2.length ≤ rest.length := by
  unfold wordToken
  split
  · simp
  · split
    · rename_i r
      exact Nat.le_succ_of_le (length_readLiteral_le r)
    · simp

theorem length_next_le (c : Char) (r : List Char) : (next c r).2.length ≤ r.length := by
  unfold next
  split
  · simp
  split
  · exact length_afterLine_le r
  split
  · exact Nat.le_trans (length_afterBlock_le _) (by simp)
  split
  · simp
  · exact length_readDelimited_le _ r
  · split
    · exact length_readLiteral_le r
    split
    · exact length_readNumber_le false r
    split
    · exact Nat.le_trans (length_wordToken_le _ _) (List.dropWhile_sublist _).length_le
    · simp

/-- The tokens of a list of characters. -/
def scan : List Char → List Token
  | [] => []
  | c :: r =>
    match _h : next c r with
    | (some t, rest) => t :: scan rest
    | (none, rest) => scan rest
termination_by cs => cs.length
decreasing_by
  all_goals
    have := length_next_le c r
    rw [_h] at this
    exact Nat.lt_succ_of_le this

/-- The tokens of a text. -/
def tokenize (s : String) : List Token :=
  scan s.toList

end SchemaDesigner.Script
