/-
Values of JSON and their written forms.

* `Json`: a value, whose numbers are in floating point;
* `quotedText`: a text between quotes, with escapes;
* `Json.compact`: a value without blanks;
* `Json.pretty`: a value on lines, indented by two blanks for each level.
-/
import SchemaDesigner.Json.Number

namespace SchemaDesigner

/-- A value of JSON. The members of an object keep their order. -/
inductive Json
  | null
  | bool (b : Bool)
  | number (x : Float)
  | string (s : String)
  | array (items : List Json)
  | object (members : List (String × Json))

namespace Json

/-! ### Single values -/

/-- A character between quotes. -/
def escapedChar (c : Char) : List Char :=
  match c with
  | '"' => ['\\', '"']
  | '\\' => ['\\', '\\']
  | '\x08' => ['\\', 'b']
  | '\t' => ['\\', 't']
  | '\n' => ['\\', 'n']
  | '\x0c' => ['\\', 'f']
  | '\r' => ['\\', 'r']
  | c =>
    if c.toNat < 0x20 then
      ['\\', 'u', '0', '0', Nat.digitChar (c.toNat / 16), Nat.digitChar (c.toNat % 16)]
    else [c]

/-- A text between quotes. -/
def quotedText (s : String) : String :=
  "\"" ++ String.ofList (s.toList.flatMap escapedChar) ++ "\""

/-- A number, or `null` for one that is not finite. -/
def numberText (x : Float) : String :=
  if x.isFinite then numberForm.text x else "null"

/-! ### Whole values -/

mutual

/-- The written form without blanks. -/
def compact : Json → String
  | null => "null"
  | bool b => if b then "true" else "false"
  | number x => numberText x
  | string s => quotedText s
  | array items => "[" ++ compactItems items ++ "]"
  | object members => "\x7b" ++ compactMembers members ++ "\x7d"

/-- The items of an array without blanks. -/
def compactItems : List Json → String
  | [] => ""
  | [v] => compact v
  | v :: w :: vs => compact v ++ "," ++ compactItems (w :: vs)

/-- The members of an object without blanks. -/
def compactMembers : List (String × Json) → String
  | [] => ""
  | [(k, v)] => quotedText k ++ ":" ++ compact v
  | (k, v) :: m :: ms => quotedText k ++ ":" ++ compact v ++ "," ++ compactMembers (m :: ms)

end

/-- The beginning of a line at a level. -/
def newLine (level : Nat) : String :=
  "\n" ++ String.ofList (List.replicate (2 * level) ' ')

mutual

/-- The written form on lines, inside of brackets of a level. -/
def prettyAt (level : Nat) : Json → String
  | array (v :: vs) =>
    "[" ++ newLine (level + 1) ++ prettyItems (level + 1) (v :: vs) ++ newLine level ++ "]"
  | object (m :: ms) =>
    "\x7b" ++ newLine (level + 1) ++ prettyMembers (level + 1) (m :: ms) ++ newLine level ++ "\x7d"
  | array [] => "[]"
  | object [] => "\x7b\x7d"
  | null => "null"
  | bool b => if b then "true" else "false"
  | number x => numberText x
  | string s => quotedText s

/-- The items of an array on lines. -/
def prettyItems (level : Nat) : List Json → String
  | [] => ""
  | [v] => prettyAt level v
  | v :: w :: vs => prettyAt level v ++ "," ++ newLine level ++ prettyItems level (w :: vs)

/-- The members of an object on lines. -/
def prettyMembers (level : Nat) : List (String × Json) → String
  | [] => ""
  | [(k, v)] => quotedText k ++ ": " ++ prettyAt level v
  | (k, v) :: m :: ms =>
    quotedText k ++ ": " ++ prettyAt level v ++ "," ++ newLine level
      ++ prettyMembers level (m :: ms)

end

/-- The written form on lines. -/
def pretty (v : Json) : String :=
  v.prettyAt 0

/-- A text, or `null` for none. -/
def ofText? : Option String → Json
  | some s => string s
  | none => null

end Json

end SchemaDesigner
