/-
Reading of a text as a document.

* `readNumeral`: a number in its written parts;
* `readScalar`: a value without brackets;
* `readValue`, `readItems`, `readMembers`: values, and what stands between brackets;
* `Document.ofText`: the document of a text, and whether anything follows it.

Reading never fails: a fault is part of the document. What follows a fault is not read.
-/
import SchemaDesigner.Json.Quoted

namespace SchemaDesigner.Json

/-- White space between the parts of a document. -/
def isSpace (c : Char) : Bool :=
  c == ' ' || c == '\n' || c == '\t' || c == '\r'

/-- The characters from the first one on that is no white space. -/
def skipSpaces (cs : List Char) : List Char :=
  cs.dropWhile isSpace

theorem length_skipSpaces_le (cs : List Char) : (skipSpaces cs).length ≤ cs.length :=
  (List.dropWhile_sublist isSpace).length_le

/-- What follows the first character that is no white space is shorter than all. -/
theorem length_lt_of_skipSpaces {cs r : List Char} {c : Char} (h : skipSpaces cs = c :: r) :
    r.length < cs.length := by
  have := length_skipSpaces_le cs
  rwa [h] at this

/-- What a reader leaves of some characters. -/
abbrev Rest (cs : List Char) := { rest : List Char // rest.length ≤ cs.length }

/-- Nothing is left of some characters. -/
def Rest.none (cs : List Char) : Rest cs := ⟨[], by simp⟩

/-- What is left of shorter characters. -/
def Rest.widen {cs ds : List Char} (h : cs.length ≤ ds.length) (r : Rest cs) : Rest ds :=
  ⟨r.1, Nat.le_trans r.2 h⟩

/-! ### Numbers -/

/-- The first digits of some characters, and what follows them. -/
def splitDigits (cs : List Char) : List Char × List Char :=
  (cs.takeWhile Char.isDigit, cs.dropWhile Char.isDigit)

/-- The faults where a digit is missing. -/
def digitFaults (cs : List Char) : Fault × Fault :=
  match cs with
  | [] => (.endInValue, .invalidNumber)
  | _ => (.invalidNumber, .invalidNumber)

/-- Whether some characters begin with a minus, and what follows it. -/
def readMinus : List Char → Bool × List Char
  | '-' :: r => (true, r)
  | r => (false, r)

/-- The digits in front of the point: a zero, or digits that do not begin with one. -/
def readWhole (cs : List Char) : Except (Fault × Fault) (List Char × List Char) :=
  match splitDigits cs with
  | ([], _) => .error (digitFaults cs)
  | ('0' :: _ :: _, _) => .error (.invalidNumber, .invalidNumber)
  | split => .ok split

/-- The digits behind a point, if there is one. -/
def readFraction (cs : List Char) :
    Except (Fault × Fault) (Option (List Char) × List Char) :=
  match cs with
  | '.' :: r => match splitDigits r with
    | ([], _) => .error (digitFaults r)
    | (digits, rest) => .ok (some digits, rest)
  | _ => .ok (none, cs)

/-- The sign of an exponent, which is not written in most cases. -/
def readExponentSign : List Char → Bool × List Char
  | '-' :: r => (true, r)
  | '+' :: r => (false, r)
  | r => (false, r)

/-- The exponent, if there is one. -/
def readExponent (cs : List Char) :
    Except (Fault × Fault) (Option (Bool × List Char) × List Char) :=
  match cs with
  | c :: r =>
    if c = 'e' ∨ c = 'E' then
      let (negative, r) := readExponentSign r
      match splitDigits r with
      | ([], _) => .error (digitFaults r)
      | (digits, rest) => .ok (some (negative, digits), rest)
    else .ok (none, cs)
  | [] => .ok (none, cs)

/-- The number that some characters begin with, and what follows it, or the faults for a reader
that keeps the number and for one that passes over it. -/
def readNumeral (cs : List Char) : Except (Fault × Fault) (Numeral × List Char) := do
  let (negative, r) := readMinus cs
  let (whole, r) ← readWhole r
  let (fraction, r) ← readFraction r
  let (exponent, r) ← readExponent r
  return (⟨negative, whole, fraction, exponent⟩, r)

/-! ### Values without brackets -/

/-- A word, of which the first letter was read already, and what follows it. -/
def readWord (word : List Char) (value : Document) (cs : List Char) : Document × List Char :=
  match word, cs with
  | [], r => (value, r)
  | _ :: _, [] => (.broken .endInValue .endInValue, [])
  | w :: ws, c :: r =>
    if w = c then readWord ws value r else (.broken .expectedWord .expectedWord, [])

/-- A value without brackets, and what follows it. -/
def readScalar (cs : List Char) : Document × List Char :=
  match cs with
  | [] => (.broken .endInValue .endInValue, [])
  | 'n' :: r => readWord ['u', 'l', 'l'] .null r
  | 't' :: r => readWord ['r', 'u', 'e'] (.bool true) r
  | 'f' :: r => readWord ['a', 'l', 's', 'e'] (.bool false) r
  | '"' :: r => match readText r with
    | .ok (text, rest) => (.string text, rest)
    | .error (kept, skipped) => (.broken kept skipped, [])
  | c :: _ =>
    if c = '-' ∨ c.isDigit then
      match readNumeral cs with
      | .ok (numeral, rest) => (.number numeral.number?, rest)
      | .error (kept, skipped) => (.broken kept skipped, [])
    else (.broken .expectedValue .expectedValue, [])

theorem length_splitDigits_le (cs : List Char) : (splitDigits cs).2.length ≤ cs.length := by
  exact (List.dropWhile_sublist _).length_le

theorem length_readMinus_le (cs : List Char) : (readMinus cs).2.length ≤ cs.length := by
  unfold readMinus
  split <;> simp

theorem length_readWhole_le {cs ds r : List Char} (h : readWhole cs = .ok (ds, r)) :
    r.length ≤ cs.length := by
  have := length_splitDigits_le cs
  unfold readWhole at h
  split at h <;> simp_all

theorem length_readFraction_le {cs r : List Char} {f : Option (List Char)}
    (h : readFraction cs = .ok (f, r)) : r.length ≤ cs.length := by
  unfold readFraction at h
  split at h
  · rename_i r'
    have := length_splitDigits_le r'
    split at h
    · simp at h
    · simp_all
      omega
  · simp_all

theorem length_readExponentSign_le (cs : List Char) :
    (readExponentSign cs).2.length ≤ cs.length := by
  unfold readExponentSign
  split <;> simp

theorem length_readExponent_le {cs r : List Char} {e : Option (Bool × List Char)}
    (h : readExponent cs = .ok (e, r)) : r.length ≤ cs.length := by
  unfold readExponent at h
  split at h
  · rename_i c r'
    have hs := length_readExponentSign_le r'
    have hd := length_splitDigits_le (readExponentSign r').2
    split at h
    · simp only at h
      split at h
      · simp at h
      · simp_all
        omega
    · simp_all
  · simp_all

theorem length_readNumeral_le {cs r : List Char} {n : Numeral}
    (h : readNumeral cs = .ok (n, r)) : r.length ≤ cs.length := by
  simp only [readNumeral, bind, Except.bind, pure, Except.pure] at h
  split at h
  · simp at h
  rename_i w hw
  split at h
  · simp at h
  rename_i f hf
  split at h
  · simp at h
  rename_i e he
  have h₁ := length_readWhole_le hw
  have h₂ := length_readFraction_le hf
  have h₃ := length_readExponent_le he
  have h₀ := length_readMinus_le cs
  simp only [Except.ok.injEq, Prod.mk.injEq] at h
  rw [← h.2]
  omega

theorem length_readWord_le (word : List Char) (value : Document) (cs : List Char) :
    (readWord word value cs).2.length ≤ cs.length := by
  fun_induction readWord word value cs <;> simp_all
  omega

theorem length_readScalar_le (cs : List Char) : (readScalar cs).2.length ≤ cs.length := by
  unfold readScalar
  split
  · simp
  · exact Nat.le_succ_of_le (length_readWord_le _ _ _)
  · exact Nat.le_succ_of_le (length_readWord_le _ _ _)
  · exact Nat.le_succ_of_le (length_readWord_le _ _ _)
  · split
    · rename_i h
      exact Nat.le_succ_of_le (length_readText_le h)
    · simp
  · split
    · split
      · rename_i h
        exact length_readNumeral_le h
      · simp
    · simp

/-! ### Values with brackets -/

/-- The greatest number of brackets around one another. -/
def greatestDepth : Nat := 127

/-- A value whose bracket is the `depth`th one around its inside. -/
def nested (depth : Nat) (value : Document) : Document :=
  if depth ≤ greatestDepth then value else .deep value

/-- What follows the character after a value is shorter than all. -/
theorem length_lt_of_next {cs r : List Char} {c : Char} (after : Rest cs)
    (h : skipSpaces after.1 = c :: r) : r.length < cs.length :=
  Nat.lt_of_lt_of_le (length_lt_of_skipSpaces h) after.2

/-- What follows the character after a member is shorter than all from its key on. -/
theorem length_lt_of_member {cs afterKey r s : List Char} {key : Except Fault String} {c d : Char}
    (hkey : readText cs = .ok (key, afterKey)) (hcolon : skipSpaces afterKey = c :: r)
    (after : Rest r) (h : skipSpaces after.1 = d :: s) : s.length < cs.length :=
  Nat.lt_trans (length_lt_of_next after h)
    (Nat.lt_of_lt_of_le (length_lt_of_skipSpaces hcolon) (length_readText_le hkey))

mutual

/-- A value inside of `depth` brackets, and what follows it. -/
def readValue (depth : Nat) (cs : List Char) : Document × Rest cs :=
  match h : skipSpaces cs with
  | '[' :: r =>
    let (items, rest) := readItems (depth + 1) r
    (nested (depth + 1) (.array items), rest.widen (Nat.le_of_lt (length_lt_of_skipSpaces h)))
  | '\x7b' :: r =>
    let (members, rest) := readMembers (depth + 1) r
    (nested (depth + 1) (.object members), rest.widen (Nat.le_of_lt (length_lt_of_skipSpaces h)))
  | cs' =>
    let scalar := readScalar cs'
    (scalar.1, ⟨scalar.2,
      Nat.le_trans (length_readScalar_le cs') (h ▸ length_skipSpaces_le cs)⟩)
termination_by (cs.length, 0)
decreasing_by
  all_goals exact Prod.Lex.left _ _ (length_lt_of_skipSpaces h)

/-- The items after an opening bracket. -/
def readItems (depth : Nat) (cs : List Char) : Items × Rest cs :=
  match h : skipSpaces cs with
  | [] => (.stop .endInArray .endInArray, Rest.none cs)
  | ']' :: r => (.close, ⟨r, Nat.le_of_lt (length_lt_of_skipSpaces h)⟩)
  | _ => readItem depth cs
termination_by (cs.length, 2)
decreasing_by exact Prod.Lex.right _ (by decide)

/-- An item and those after it. -/
def readItem (depth : Nat) (cs : List Char) : Items × Rest cs :=
  let (value, after) := readValue depth cs
  match h : skipSpaces after.1 with
  | [] => (.item value (.stop .endInArray .endInArray), Rest.none cs)
  | ']' :: r => (.item value .close, ⟨r, Nat.le_of_lt (length_lt_of_next after h)⟩)
  | ',' :: r =>
    match skipSpaces r with
    | [] => (.item value (.stop .endInValue .endInValue), Rest.none cs)
    | ']' :: _ => (.item value (.stop .trailingComma .expectedValue), Rest.none cs)
    | _ =>
      let (items, rest) := readItem depth r
      (.item value items, rest.widen (Nat.le_of_lt (length_lt_of_next after h)))
  | _ => (.item value (.stop .expectedArrayEnd .expectedArrayEnd), Rest.none cs)
termination_by (cs.length, 1)
decreasing_by
  · exact Prod.Lex.right _ (by decide)
  · exact Prod.Lex.left _ _ (length_lt_of_next after h)

/-- The members after an opening brace. -/
def readMembers (depth : Nat) (cs : List Char) : Members × Rest cs :=
  match h : skipSpaces cs with
  | [] => (.stop .endInObject .endInObject, Rest.none cs)
  | '\x7d' :: r => (.close, ⟨r, Nat.le_of_lt (length_lt_of_skipSpaces h)⟩)
  | '"' :: r =>
    let (members, rest) := readMember depth r
    (members, rest.widen (Nat.le_of_lt (length_lt_of_skipSpaces h)))
  | _ => (.stop .expectedKey .expectedKey, Rest.none cs)
termination_by (cs.length, 2)
decreasing_by exact Prod.Lex.left _ _ (length_lt_of_skipSpaces h)

/-- A member after the opening quote of its key, and those after it. -/
def readMember (depth : Nat) (cs : List Char) : Members × Rest cs :=
  match hkey : readText cs with
  | .error (kept, skipped) => (.stop kept skipped, Rest.none cs)
  | .ok (key, afterKey) =>
    match hcolon : skipSpaces afterKey with
    | ':' :: r =>
      let (value, after) := readValue depth r
      match h : skipSpaces after.1 with
      | [] => (.member key value (.stop .endInObject .endInObject), Rest.none cs)
      | '\x7d' :: r =>
        (.member key value .close, ⟨r, Nat.le_of_lt (length_lt_of_member hkey hcolon after h)⟩)
      | ',' :: r =>
        match hnext : skipSpaces r with
        | [] => (.member key value (.stop .endInValue .endInObject), Rest.none cs)
        | '\x7d' :: _ => (.member key value (.stop .trailingComma .expectedKey), Rest.none cs)
        | '"' :: r' =>
          let (members, rest) := readMember depth r'
          (.member key value members, rest.widen <| Nat.le_of_lt <|
            Nat.lt_trans (length_lt_of_skipSpaces hnext)
              (length_lt_of_member hkey hcolon after h))
        | _ => (.member key value (.stop .expectedKey .expectedKey), Rest.none cs)
      | _ => (.member key value (.stop .expectedObjectEnd .expectedObjectEnd), Rest.none cs)
    | [] => (.member key (.broken .endInObject .endInObject) .close, Rest.none cs)
    | _ => (.member key (.broken .expectedColon .expectedColon) .close, Rest.none cs)
termination_by (cs.length, 1)
decreasing_by
  · exact Prod.Lex.left _ _
      (Nat.lt_of_lt_of_le (length_lt_of_skipSpaces hcolon) (length_readText_le hkey))
  · exact Prod.Lex.left _ _
      (Nat.lt_trans (length_lt_of_skipSpaces hnext) (length_lt_of_member hkey hcolon after h))

end

/-- The document that a text begins with, and whether anything but white space follows it. -/
def Document.ofText (s : String) : Document × Bool :=
  let (value, rest) := readValue 0 s.toList
  (value, !(skipSpaces rest.1).isEmpty)

end SchemaDesigner.Json
