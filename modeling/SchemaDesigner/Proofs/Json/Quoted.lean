/-
Texts between quotes are read as they were before they were written.

* `escapedPiece`: the piece as which an escaped character is read;
* `readPieces_escapedChar`, `joinPieces_escapedPiece`: one character between quotes;
* `readText_escapedChars`: a whole text between quotes.
-/
import Mathlib.Tactic.Common
import SchemaDesigner.Json.Quoted

namespace SchemaDesigner.Json

/-- The piece as which an escaped character is read: control characters without a letter of their
own are written as units. -/
def escapedPiece (c : Char) : Piece :=
  if c.toNat < 0x20 ∧ c ∉ ['\x08', '\t', '\n', '\x0c', '\r'] then .unit c.toNat else .char c

/-! ### One character -/

/-- A unit below 32 is written with two zeros and two digits. -/
lemma readUnit_control {n : ℕ} (h : n < 0x20) (r : List Char) :
    readUnit ('0' :: '0' :: Nat.digitChar (n / 16) :: Nat.digitChar (n % 16) :: r) = .ok n := by
  have hall : ∀ n < 0x20,
      readUnit ['0', '0', Nat.digitChar (n / 16), Nat.digitChar (n % 16)] = .ok n := by
    decide
  exact hall n h

lemma readPieces_escapedChar (c : Char) (r : List Char) :
    readPieces (escapedChar c ++ r) = consPiece (escapedPiece c) (readPieces r) := by
  rw [escapedChar.eq_def]
  split
  case h_1 | h_2 | h_3 | h_4 | h_5 | h_6 | h_7 =>
    rw [List.cons_append, List.cons_append, List.nil_append, readPieces]
    · rfl
    · exact fun h => absurd h (by decide)
  case h_8 hquote hbackslash hb ht hn hf hr =>
    split_ifs with hcontrol
    · have hpiece : escapedPiece c = .unit c.toNat := by
        rw [escapedPiece, if_pos ⟨hcontrol, by simp_all⟩]
      rw [hpiece]
      simp only [List.cons_append, List.nil_append]
      rw [readPieces, readUnit_control hcontrol]
      rfl
    · have hpiece : escapedPiece c = .char c := by
        rw [escapedPiece, if_neg fun h => hcontrol h.1]
      rw [hpiece, List.cons_append, List.nil_append, readPieces, if_neg hcontrol]
      all_goals simp_all

/-- The pieces of escaped characters make up the characters. -/
lemma joinPieces_escapedPiece (cs : List Char) :
    joinPieces none (cs.map escapedPiece) = .ok cs := by
  induction cs with
  | nil => rfl
  | cons c cs ih =>
    rw [List.map_cons, escapedPiece]
    split_ifs with hcontrol
    · have hlow : isLowSurrogate c.toNat = false := by
        simp only [isLowSurrogate, Bool.and_eq_false_iff, decide_eq_false_iff_not]
        omega
      have hhigh : isHighSurrogate c.toNat = false := by
        simp only [isHighSurrogate, Bool.and_eq_false_iff, decide_eq_false_iff_not]
        omega
      rw [joinPieces.eq_def]
      simp only [hlow, hhigh, ih, Char.ofNat_toNat, Bool.false_eq_true, if_false]
      rfl
    · rw [joinPieces, ih]
      rfl

/-! ### Whole texts -/

lemma readPieces_escapedChars (cs r : List Char) :
    readPieces (cs.flatMap escapedChar ++ '"' :: r) = (cs.map escapedPiece, .ok r) := by
  induction cs with
  | nil =>
    rw [List.flatMap_nil, List.nil_append, readPieces]
    rfl
  | cons c cs ih =>
    rw [List.flatMap_cons, List.append_assoc, readPieces_escapedChar, ih]
    rfl

/-- What is written between quotes is read as it was. -/
lemma readText_escapedChars (s : String) (r : List Char) :
    readText (s.toList.flatMap escapedChar ++ '"' :: r) = .ok (.ok s, r) := by
  rw [readText, readPieces_escapedChars]
  simp only [piecesText, joinPieces_escapedPiece]
  exact congrArg (fun t => Except.ok (Except.ok t, r)) s.ofList_toList

end SchemaDesigner.Json
