/-
Reading of texts between quotes.

* `Piece`: a character, or a unit of 16 bits that an escape gives;
* `readPieces`: the pieces up to the closing quote, and what follows it;
* `joinPieces`: the characters of pieces, in which two surrogates make one character;
* `readText`: the text after an opening quote;
* `length_readText_le`: what follows is no longer than what was read.
-/
import SchemaDesigner.Json.Document

namespace SchemaDesigner.Json

/-- A part of a text between quotes. -/
inductive Piece
  | char (c : Char)
  | unit (n : Nat)
  deriving DecidableEq, Repr

/-! ### Pieces -/

/-- The value of a hexadecimal digit. -/
def hexValue? (c : Char) : Option Nat :=
  if c.isDigit then some (c.toNat - '0'.toNat)
  else if 'a' ≤ c ∧ c ≤ 'f' then some (c.toNat - 'a'.toNat + 10)
  else if 'A' ≤ c ∧ c ≤ 'F' then some (c.toNat - 'A'.toNat + 10)
  else none

/-- The number that four hexadecimal digits write. -/
def hexUnit? (cs : List Char) : Option Nat :=
  (cs.mapM hexValue?).map fun ds => ds.foldl (fun n d => 16 * n + d) 0

/-- The number of bytes of some characters. -/
def byteCount (cs : List Char) : Nat :=
  cs.foldl (fun n c => n + c.utf8Size) 0

/-- The unit written by the first four characters. The text ends too early if less than four bytes
are left. -/
def readUnit (cs : List Char) : Except Fault Nat :=
  let digits := cs.take 4
  if byteCount digits < 4 then .error .endInString
  else match hexUnit? digits with
    | some n => .ok n
    | none => .error .invalidUnit

/-- The character that a letter stands for after a backslash. -/
def escapeMeaning? : Char → Option Char
  | '"' => some '"'
  | '\\' => some '\\'
  | '/' => some '/'
  | 'b' => some '\x08'
  | 'f' => some '\x0c'
  | 'n' => some '\n'
  | 'r' => some '\r'
  | 't' => some '\t'
  | _ => none

/-- Puts a piece in front of what was read. -/
def consPiece (p : Piece) (read : List Piece × Except Fault (List Char)) :
    List Piece × Except Fault (List Char) :=
  (p :: read.1, read.2)

/-- The pieces up to the closing quote or a fault, and what follows the quote. -/
def readPieces (cs : List Char) : List Piece × Except Fault (List Char) :=
  match cs with
  | [] => ([], .error .endInString)
  | '"' :: r => ([], .ok r)
  | ['\\'] => ([], .error .endInString)
  | '\\' :: 'u' :: r =>
    match readUnit r with
    | .ok n => consPiece (.unit n) (readPieces (r.drop 4))
    | .error f => ([], .error f)
  | '\\' :: c :: r =>
    match escapeMeaning? c with
    | some e => consPiece (.char e) (readPieces r)
    | none => ([], .error .invalidEscape)
  | c :: r =>
    if c.toNat < 0x20 then ([], .error .controlCharacter) else consPiece (.char c) (readPieces r)
termination_by cs.length
decreasing_by all_goals simp only [List.length_cons, List.length_drop]; omega

theorem length_readPieces_le {cs r : List Char} (h : (readPieces cs).2 = .ok r) :
    r.length ≤ cs.length := by
  fun_induction readPieces cs <;> try (simp at h; done)
  case case2 => simp_all
  all_goals
    rename_i ih
    have := ih h
    simp only [List.length_cons, List.length_drop] at *
    omega

/-! ### Characters -/

/-- The first one of two surrogates. -/
def isHighSurrogate (n : Nat) : Bool :=
  0xD800 ≤ n && n ≤ 0xDBFF

/-- The second one of two surrogates. -/
def isLowSurrogate (n : Nat) : Bool :=
  0xDC00 ≤ n && n ≤ 0xDFFF

/-- The character of two surrogates. -/
def surrogatePair (high low : Nat) : Char :=
  Char.ofNat (0x10000 + (high - 0xD800) * 0x400 + (low - 0xDC00))

/-- The fault at the first one of two surrogates with which the pieces end: only a text that ends
and a second unit that is no number are worse than that there is no second unit. -/
def pairFault : Option Fault → Fault
  | some .endInString => .endInString
  | some .invalidUnit => .invalidUnit
  | _ => .missingSurrogate

/-- The characters of the pieces in front of a fault, if there is one. -/
def joinPieces (ending : Option Fault) : List Piece → Except Fault (List Char)
  | [] => match ending with
    | some f => .error f
    | none => .ok []
  | .char c :: ps => (c :: ·) <$> joinPieces ending ps
  | .unit n :: ps =>
    if isLowSurrogate n then .error .unpairedSurrogate
    else if isHighSurrogate n then
      match ps with
      | .unit m :: ps =>
        if isLowSurrogate m then (surrogatePair n m :: ·) <$> joinPieces ending ps
        else .error .unpairedSurrogate
      | .char _ :: _ => .error .missingSurrogate
      | [] => .error (pairFault ending)
    else (Char.ofNat n :: ·) <$> joinPieces ending ps

/-! ### Whole texts -/

/-- The text of the characters that pieces make. -/
def piecesText (ps : List Piece) : Except Fault String :=
  String.ofList <$> joinPieces none ps

/-- The fault for a reader of some pieces in front of a fault. -/
def piecesFault (f : Fault) (ps : List Piece) : Fault :=
  (error? (joinPieces (some f) ps)).getD f

/-- The text after an opening quote, with what follows it, or the faults for a reader that keeps
the text and for one that passes over it. -/
def readText (cs : List Char) : Except (Fault × Fault) (Except Fault String × List Char) :=
  match readPieces cs with
  | (ps, .ok rest) => .ok (piecesText ps, rest)
  | (ps, .error f) => .error (piecesFault f ps, f)

theorem length_readText_le {cs r : List Char} {s : Except Fault String}
    (h : readText cs = .ok (s, r)) : r.length ≤ cs.length := by
  unfold readText at h
  split at h
  · rename_i ps rest h'
    simp only [Except.ok.injEq, Prod.mk.injEq] at h
    exact length_readPieces_le (by rw [h', h.2])
  · simp at h

end SchemaDesigner.Json
