/-
White space: which characters are blank, trimming, and the lines of a text.

* `isBlank`: the characters of the Unicode property `White_Space`;
* `trim`: a text without the blanks at both ends;
* `isBlankText`: a text of blanks only, the empty one included;
* `lines`: the pieces between line feeds.
-/

namespace SchemaDesigner.Text

/-- The Unicode property `White_Space`. -/
def isBlank (c : Char) : Bool :=
  let n := c.toNat
  (0x09 ≤ n && n ≤ 0x0D) || n == 0x20 || n == 0x85 || n == 0xA0 || n == 0x1680
    || (0x2000 ≤ n && n ≤ 0x200A) || n == 0x2028 || n == 0x2029 || n == 0x202F
    || n == 0x205F || n == 0x3000

/-! ### Trimming -/

/-- The characters from the first one on that is not blank. -/
def trimStart (cs : List Char) : List Char :=
  cs.dropWhile isBlank

/-- The characters up to the last one that is not blank. -/
def trimEnd (cs : List Char) : List Char :=
  (cs.reverse.dropWhile isBlank).reverse

/-- A text without the blanks at its two ends. -/
def trim (s : String) : String :=
  String.ofList (trimEnd (trimStart s.toList))

/-- Whether a text has nothing but blanks. -/
def isBlankText (s : String) : Bool :=
  s.toList.all isBlank

/-- A value that says something: one that is absent or blank counts as absent. -/
def nonBlank? (s : Option String) : Option String :=
  s.filter fun t => !isBlankText t

/-- A value that is present and not empty. -/
def nonEmpty? (s : Option String) : Option String :=
  s.filter fun t => t != ""

/-! ### Lines -/

/-- The pieces of a text between line feeds; a final line feed starts no further piece. -/
def lines : List Char → List (List Char)
  | [] => []
  | c :: cs =>
    if c = '\n' then [] :: lines cs
    else match lines cs with
      | [] => [[c]]
      | l :: ls => (c :: l) :: ls

end SchemaDesigner.Text
