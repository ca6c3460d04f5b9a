/-
The number of columns that a text takes on a terminal.

* `Ligature`, `Ahead`: what stands to the right of a character, as far as the width depends on it;
* `Right`: the same behind variation selectors, with the forms that they ask for;
* `Ahead.ofChar`, `charWidth`: a character that stands alone;
* `Ahead.step`, `Right.step`: the columns that a character adds to the text on its right;
* `width`: the columns of a text, counted from its end.

Letters that merge with the next one, pictures with a skin tone and pictures that a joiner ties
together take less room than their characters one by one.
-/
import SchemaDesigner.Text.WidthClass

namespace SchemaDesigner.Text

/-- Letters that may merge with the one on their left. -/
inductive Ligature
  | lamed
  | ya
  | vowelBeforeYa
  | consonant
  | joinedConsonant
  | tone
  | orkhonI
  | khmer
  deriving DecidableEq, Repr

/-- What stands to the right of a character. -/
inductive Ahead
  | other
  | lineFeed
  /-- A letter that may merge, with or without a joiner in front. -/
  | ligature (l : Ligature) (joined : Bool)
  /-- An Arabic alef, which merges with a lam. -/
  | alef
  /-- A Kirat Rai vowel sign, which is written as one with the signs in front of it. -/
  | kiratRaiE
  | kiratRaiAi
  | emoji
  /-- A skin tone. -/
  | modifier
  /-- A letter of a flag. -/
  | indicator
  /-- Two or more letters of flags. -/
  | indicators
  /-- A joiner in front of a picture. -/
  | joiner
  /-- The mark of a key on a keyboard in front of such a joiner. -/
  | joinedKey
  /-- A letter of a flag in front of such a joiner. -/
  | joinedIndicator
  /-- Several such letters, which make flags or leave one letter over. -/
  | joinedIndicators (even : Bool)
  /-- The end of the tags of a regional flag in front of such a joiner. -/
  | joinedTags (letters digits : Nat)
  deriving DecidableEq, Repr

/-- A form of characters that a variation selector asks for. -/
inductive Form
  | picture
  | text
  /-- The form of a quotation mark that is as wide as an ideograph. -/
  | fullWidth
  deriving DecidableEq, Repr

/-- The text to the right of a character: what it begins with behind its selectors, and the forms
that these ask for. -/
structure Right where
  ahead : Ahead := .other
  picture : Bool := false
  text : Bool := false
  fullWidth : Bool := false
  deriving DecidableEq, Repr

/-! ### Characters alone -/

/-- The letters that flags are made of. -/
def isIndicator (n : Nat) : Bool :=
  0x1F1E6 ≤ n && n ≤ 0x1F1FF

/-- Skin tones. -/
def isModifier (n : Nat) : Bool :=
  0x1F3FB ≤ n && n ≤ 0x1F3FF

/-- The letters alef, which merge with a lam in front of them. -/
def isAlef (n : Nat) : Bool :=
  Ranges.has [(0x622, 0x623), (0x625, 0x625), (0x627, 0x627), (0x671, 0x673), (0x675, 0x675),
    (0x773, 0x774), (0x870, 0x882)] n

/-- The letters lam. -/
def isLam (n : Nat) : Bool :=
  Ranges.has [(0x644, 0x644), (0x6B5, 0x6B8), (0x76A, 0x76A), (0x8A6, 0x8A6), (0x8C7, 0x8C7)] n

/-- The consonants that merge with the next one. -/
def isJoiningConsonant (n : Nat) : Bool :=
  (0x2D31 ≤ n && n ≤ 0x2D65) || n == 0x2D6F

/-- Characters without a column that do not keep a letter from merging. -/
def isTransparent (n : Nat) : Bool :=
  Ranges.has [(0x34F, 0x34F), (0x17B4, 0x17B5), (0x180B, 0x180D), (0x180F, 0x180F),
    (0x200D, 0x200D), (0xFE00, 0xFE0F), (0xE0100, 0xE01EF)] n

/-- The quotation marks that have a wide form. -/
def isQuotationMark (n : Nat) : Bool :=
  n == 0x2018 || n == 0x2019 || n == 0x201C || n == 0x201D

/-- The form that a variation selector asks for. -/
def form? (n : Nat) : Option Form :=
  if n = 0xFE0F then some .picture
  else if n = 0xFE0E then some .text
  else if n = 0xFE01 then some .fullWidth
  else none

/-- Whether the selector of pictures makes a difference to a character. -/
def takesPicture (n : Nat) : Bool :=
  pictureFormRanges.has n

/-- Whether a character is shown as a picture by itself. -/
def isEmoji (n : Nat) : Bool :=
  emojiRanges.has n && !isIndicator n && !isModifier n

/-- The ligature that a letter may be part of. -/
def ligature? (n : Nat) : Option Ligature :=
  if n = 0x5DC then some .lamed
  else if coengRanges.has n then some .khmer
  else if n = 0x1A10 then some .ya
  else if isJoiningConsonant n then some .consonant
  else if 0xA4FC ≤ n ∧ n ≤ 0xA4FD then some .tone
  else if n = 0x10C03 then some .orkhonI
  else none

/-- The columns of a character that stands alone. -/
def charWidth (c : Char) : Nat :=
  let n := c.toNat
  if n ≤ 0xA0 then 1
  else if n = 0x17D8 then 3
  else if zeroWidthRanges.has n then 0
  else if wideRanges.has n then 2
  else 1

/-- Whether a ligature does not need a joiner between its letters. -/
def Ligature.isFree : Ligature → Bool
  | khmer | tone => true
  | _ => false

/-- What a character that is no selector is to the one on its left. -/
def Ahead.ofChar (c : Char) : Ahead :=
  let n := c.toNat
  if n ≤ 0xA0 then if c = '\n' then .lineFeed else .other
  else match ligature? n with
    | some l => .ligature l l.isFree
    | none =>
      if isAlef n then .alef
      else if n = 0x16D67 then .kiratRaiE
      else if n = 0x16D68 then .kiratRaiAi
      else if isIndicator n then .indicator
      else if isModifier n then .modifier
      else if isEmoji n then .emoji
      else .other

/-! ### Characters in front of others -/

/-- Whether a letter that may merge is seen through selectors. -/
def Ahead.isLetter : Ahead → Bool
  | ligature _ _ | alef => true
  | _ => false

/-- Whether a joined picture is seen through the selector of pictures. -/
def Ahead.isJoiner : Ahead → Bool
  | joiner | joinedKey => true
  | _ => false

/-- The right-hand side in front of a selector. Only a letter that may merge, and for pictures a
joined one, is still seen through it. -/
def Right.select (form : Form) (r : Right) : Right :=
  let seen : Right :=
    if r.ahead.isLetter || (form == .picture && r.ahead.isJoiner) then r else {}
  match form with
  | .picture => { seen with picture := true }
  | .text => { seen with text := true }
  | .fullWidth => { seen with fullWidth := true }

/-- The right-hand side where the selector of pictures, if there is one, has no effect. -/
def Right.dropPicture (r : Right) : Right :=
  if !r.picture then r
  else if r.ahead.isLetter then { r with picture := false }
  else {}

/-- The change of width and what stands ahead where a letter merges with the next one. -/
def mergeLetters? (n : Nat) : Ahead → Option (Int × Ahead)
  | .alef =>
    if isLam n then some (0, .other)
    else if zeroWidthRanges.has n && !opaqueRanges.has n then some (0, .alef)
    else none
  | .ligature .lamed true => if n = 0x5D0 then some (0, .other) else none
  | .ligature .khmer _ => if n = 0x17D2 then some (-1, .other) else none
  | .ligature .ya true => if n = 0x1A17 then some (0, .ligature .vowelBeforeYa true) else none
  | .ligature .vowelBeforeYa _ => if n = 0x1A15 then some (0, .other) else none
  | .ligature .consonant joined =>
    if n = 0x2D7F then some (1, .ligature .joinedConsonant true)
    else if joined && isJoiningConsonant n then some (0, .other)
    else none
  | .ligature .joinedConsonant _ => if isJoiningConsonant n then some (-1, .other) else none
  | .ligature .tone _ => if 0xA4F8 ≤ n ∧ n ≤ 0xA4FB then some (0, .other) else none
  | .ligature .orkhonI true => if n = 0x10C32 then some (0, .other) else none
  | .kiratRaiE =>
    if n = 0x16D63 || n = 0x16D69 then some (0, .other)
    else if n = 0x16D67 then some (0, .kiratRaiAi)
    else if n = 0x16D68 then some (1, .kiratRaiE)
    else none
  | .kiratRaiAi => if n = 0x16D63 then some (0, .other) else none
  | _ => none

/-- What stands ahead in front of the tags of a regional flag, which write three to six letters, or
up to four letters and three digits, behind a black flag. -/
def mergeTags? (n letters digits : Nat) : Option Ahead :=
  if 0xE0061 ≤ n ∧ n ≤ 0xE007A then
    if digits = 0 ∧ letters < 6 then some (.joinedTags (letters + 1) 0) else none
  else if 0xE0030 ≤ n ∧ n ≤ 0xE0039 then
    if letters ≤ 4 ∧ digits < 3 then some (.joinedTags letters (digits + 1)) else none
  else if n = 0x1F3F4 ∧ (digits = 3 ∨ digits = 0 ∧ 3 ≤ letters) then some .emoji
  else none

/-- The change of width and what stands ahead where letters of flags meet. Behind a joined flag
they count in pairs. -/
def mergeIndicators? : Ahead → Option (Int × Ahead)
  | .indicator | .indicators => some (1, .indicators)
  | .joiner => some (1, .joinedIndicator)
  | .joinedIndicator | .joinedIndicators false => some (-1, .joinedIndicators true)
  | .joinedIndicators true => some (3, .joinedIndicators false)
  | _ => none

/-- Whether a joiner can tie what follows to a picture in front of it. -/
def Ahead.canBeJoined : Ahead → Bool
  | emoji | modifier | indicators | joinedIndicators _ => true
  | _ => false

/-- The change of width and what stands ahead where pictures are tied together. -/
def mergePictures? (n : Nat) (a : Ahead) : Option (Int × Ahead) :=
  if isIndicator n then mergeIndicators? a
  else if n = 0x200D then if a.canBeJoined then some (0, .joiner) else none
  else match a with
    | .modifier => if modifiableRanges.has n then some (0, .emoji) else none
    | .joiner =>
      if n = 0x20E3 then some (0, .joinedKey)
      else if n = 0xE007F then some (0, .joinedTags 0 0)
      else if isModifier n then some (0, .modifier)
      else if isEmoji n then some (0, .emoji)
      else none
    | .joinedTags letters digits => (mergeTags? n letters digits).map ((0, ·))
    | _ => none

/-- The change of width and what stands ahead behind it, for a character in front of what has no
selector. -/
def Ahead.step (c : Char) (a : Ahead) : Int × Ahead :=
  let n := c.toNat
  let alone : Int × Ahead := (charWidth c, Ahead.ofChar c)
  if c = '\r' && a == .lineFeed then (0, .other)
  else if n ≤ 0xA0 || a == .other then alone
  else match a with
    | .ligature l joined =>
      if n = 0x200D then (0, .ligature l true)
      else if isTransparent n then (0, .ligature l joined)
      else (mergeLetters? n a).getD alone
    | _ => ((mergeLetters? n a).or (mergePictures? n a)).getD alone

/-- The change of width and the new right-hand side for a character. -/
def Right.step (c : Char) (r : Right) : Int × Right :=
  let n := c.toNat
  if r.picture && takesPicture n then (if r.ahead.isJoiner then 0 else 2, { ahead := .emoji })
  else
    let r := r.dropPicture
    match form? n with
    | some form => (0, r.select form)
    | none =>
      if r.text && textFormRanges.has n then (1, {})
      else if r.fullWidth && isQuotationMark n then (2, {})
      else
        let (change, ahead) := r.ahead.step c
        (change, { ahead := ahead })

/-- The width of some characters and what they are to a character on their left. -/
def measure : List Char → Int × Right
  | [] => (0, {})
  | c :: cs =>
    let (columns, right) := measure cs
    let (change, right) := right.step c
    (columns + change, right)

/-- The columns that a text takes on a terminal. -/
def width (s : String) : Nat :=
  (measure s.toList).1.toNat

end SchemaDesigner.Text
