/-
Reading of points of time in the form of RFC 3339, with some freedom in blanks and digits.

* `TimestampFault`: the causes of a refusal, with their `message`;
* `readDigits`, `readYear`, `readZone`: the parts of the form;
* `Timestamp.ofText`: the point of time that a text writes.

Blanks may stand in front of each number and around the signs between numbers. The part between
date and time is a `T` or one blank, and the zone is `Z`, `UTC` or an offset.
-/
import SchemaDesigner.Text.Blank
import SchemaDesigner.Timestamp.Basic

namespace SchemaDesigner

/-- Why a text is no point of time. -/
inductive TimestampFault
  | tooShort
  | invalid
  | outOfRange
  | impossible
  | trailing
  deriving DecidableEq, Repr

/-- The text of a refusal. -/
def TimestampFault.message : TimestampFault → String
  | tooShort => "premature end of input"
  | invalid => "input contains invalid characters"
  | outOfRange => "input is out of range"
  | impossible => "no possible date and time matching input"
  | trailing => "trailing input"

namespace Timestamp

/-- A reader of the front part of some characters returns what it reads and what follows. -/
abbrev Reader (α : Type) := StateT (List Char) (Except TimestampFault) α

/-! ### Parts -/

/-- Skips blanks. -/
def skipBlanks : Reader Unit :=
  modify Text.trimStart

/-- One past the greatest number that is read, of 63 bits. -/
def numberLimit : Nat := Nat.pow 2 63

/-- One past the greatest year that is read, of 31 bits. -/
def yearLimit : Nat := Nat.pow 2 31

/-- Reads one to `most` digits that write a number of 63 bits. -/
def readDigits (most : Nat) : Reader Nat := do
  let cs ← get
  match cs with
  | [] => throw .tooShort
  | c :: _ =>
    if !c.isDigit then throw .invalid
    let digits := (cs.take most).takeWhile Char.isDigit
    let n := Decimal.digitsValue digits
    if numberLimit ≤ n then throw .outOfRange
    set (cs.drop digits.length)
    return n

/-- Reads a number of up to two digits between bounds. -/
def readField (least most : Nat) : Reader Nat := do
  skipBlanks
  let n ← readDigits 2
  if n < least || most < n then throw .outOfRange
  return n

/-- Reads a year: up to four digits, or any number of them after a sign. -/
def readYear : Reader Int := do
  skipBlanks
  let cs ← get
  let year : Int ← match cs with
    | '-' :: r => set r; pure (-(Int.ofNat (← readDigits r.length)))
    | '+' :: r => set r; pure (Int.ofNat (← readDigits r.length))
    | _ => pure (Int.ofNat (← readDigits 4))
  if year < -(yearLimit : Int) || (yearLimit : Int) ≤ year then throw .outOfRange
  return year

/-- Reads a sign between numbers, with blanks in front. -/
def readSign (sign : Char) : Reader Unit := do
  skipBlanks
  match ← get with
  | [] => throw .tooShort
  | c :: r => if c = sign then set r else throw .invalid

/-- Reads the sign between date and time. -/
def readSeparator : Reader Unit := do
  match ← get with
  | [] => throw .tooShort
  | c :: r => if c = 'T' || c = 't' || c = ' ' then set r else throw .invalid

/-- Reads the fraction of a second, if there is one, as nanoseconds. Digits after the ninth are
dropped. -/
def readFraction : Reader Nat := do
  match ← get with
  | '.' :: r =>
    set r
    let n ← readDigits 9
    let rest ← get
    let used := r.length - rest.length
    set (rest.dropWhile Char.isDigit)
    return n * Nat.pow 10 (9 - used)
  | _ => return 0

/-- The two digits in front of some characters. Digits are missing if less than two bytes are
left. -/
def twoDigits : List Char → Except TimestampFault (Char × Char)
  | [] => .error .tooShort
  | [c] => if c.toNat < 0x80 then .error .tooShort else .error .invalid
  | c :: d :: _ => if c.isDigit && d.isDigit then .ok (c, d) else .error .invalid

/-- Reads hours and minutes of an offset, which colons and blanks may separate, as seconds. -/
def readHoursMinutes : Reader Int := do
  let (h₁, h₂) ← twoDigits (← get)
  modify fun cs => (cs.drop 2).dropWhile fun c => c == ':' || Text.isBlank c
  let (m₁, m₂) ← twoDigits (← get)
  if '6'.toNat ≤ m₁.toNat then throw .outOfRange
  modify (·.drop 2)
  return Decimal.digitsValue [h₁, h₂] * 3600 + Decimal.digitsValue [m₁, m₂] * 60

/-- Reads a zone as its offset in seconds. -/
def readZone : Reader Int := do
  skipBlanks
  let cs ← get
  if (cs.take 3).map Char.toUpper = ['U', 'T', 'C'] then
    set (cs.drop 3)
    return 0
  match cs with
  | 'Z' :: r | 'z' :: r => set r; return 0
  | '+' :: r => set r; readHoursMinutes
  | '-' :: r | '\u2212' :: r => set r; return -(← readHoursMinutes)
  | _ :: _ => throw .invalid
  | [] => throw .tooShort

/-! ### Whole points of time -/

/-- Reads a date, as yet one that may not exist. -/
def readDate : Reader Date := do
  let year ← readYear
  readSign '-'
  let month ← readField 1 12
  readSign '-'
  let day ← readField 1 31
  return ⟨year, month, day⟩

/-- Reads a time of day as its seconds and nanoseconds; second 60 is the leap second after
second 59. -/
def readTime : Reader (Nat × Nat) := do
  let hour ← readField 0 23
  readSign ':'
  let minute ← readField 0 59
  readSign ':'
  let second ← readField 0 60
  let nanos ← readFraction
  let ofDay := hour * 3600 + minute * 60
  if second = 60 then return (ofDay + 59, nanos + nanosPerSecond)
  else return (ofDay + second, nanos)

/-- Reads a point of time up to the end of the text. -/
def readWhole : Reader Timestamp := do
  let date ← readDate
  readSeparator
  let (ofDay, nanos) ← readTime
  let offset ← readZone
  skipBlanks
  if (← get) ≠ [] then throw .trailing
  if !date.isValid || 86400 ≤ offset.natAbs then throw .outOfRange
  let seconds := date.days * 86400 + ofDay - offset
  if !Date.yearInRange (Date.ofDays (seconds / 86400)).year then throw .impossible
  return ⟨seconds, nanos⟩

/-- The point of time that a text writes. -/
def ofText (s : String) : Except TimestampFault Timestamp :=
  (·.1) <$> readWhole.run s.toList

end Timestamp

end SchemaDesigner
