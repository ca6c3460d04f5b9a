/-
The tokens of texts that are put together from words, numbers, literals, symbols and blanks.

* `Stops`: a text that begins with a break, in front of which every token ends;
* `Reads`: a text has some tokens, whatever follows it after a break;
* `Reads.append`, `Reads.blank`, `Reads.symbol`: how texts are put together;
* `Reads.word`, `Reads.number`, `Reads.literal`, `Reads.prefixed`, `Reads.doubleQuoted`: the texts
  of single tokens;
* `Reads.comment`: a comment up to the end of its line has no token.
-/
import Mathlib.Tactic.Common
import SchemaDesigner.Script.Lexer
import SchemaDesigner.Script.Phrase

namespace SchemaDesigner.Script

open Text

/-! ### Steps of the scan -/

section Steps

variable {c : Char} {r rest : List Char} {t : Token}

lemma scan_nil : scan [] = [] := by
  rw [scan.eq_def]

/-- One step of the scan gives a token. -/
lemma scan_cons_of_some (h : next c r = (some t, rest)) : scan (c :: r) = t :: scan rest := by
  rw [scan.eq_def]
  dsimp only
  split
  · rename_i t' rest' h'
    obtain ⟨ht, hrest⟩ := Prod.mk.inj (h.symm.trans h')
    rw [Option.some.inj ht, hrest]
  · rename_i rest' h'
    cases (Prod.mk.inj (h.symm.trans h')).1

/-- One step of the scan passes over something. -/
lemma scan_cons_of_none (h : next c r = (none, rest)) : scan (c :: r) = scan rest := by
  rw [scan.eq_def]
  dsimp only
  split
  · rename_i t' rest' h'
    cases (Prod.mk.inj (h.symm.trans h')).1
  · rename_i rest' h'
    rw [(Prod.mk.inj (h.symm.trans h')).2]

end Steps

/-! ### Characters -/

/-- The code points of blanks. -/
def blankCodes : List ℕ :=
  List.range' 0x09 5 ++ List.range' 0x2000 11
    ++ [0x20, 0x85, 0xA0, 0x1680, 0x2028, 0x2029, 0x202F, 0x205F, 0x3000]

/-- The listed code points are those of all blanks. -/
lemma toNat_mem_blankCodes {c : Char} (h : isBlank c = true) : c.toNat ∈ blankCodes := by
  simp only [isBlank, Bool.or_eq_true, Bool.and_eq_true, decide_eq_true_eq, beq_iff_eq] at h
  simp only [blankCodes, List.mem_append, List.mem_range'_1, List.mem_cons, List.not_mem_nil]
  omega

/-- What holds of the ten digits holds of each character that is one. -/
lemma forall_digit {P : Char → Prop} (h : ∀ n ∈ List.range' 0x30 10, P (Char.ofNat n)) {c : Char}
    (hc : c.isDigit = true) : P c := by
  simp only [Char.isDigit, Bool.and_eq_true, decide_eq_true_eq, UInt32.le_iff_toNat_le] at hc
  have hmem : c.toNat ∈ List.range' 0x30 10 := by
    rw [List.mem_range'_1]
    exact ⟨hc.1, Nat.lt_succ_of_le hc.2⟩
  have hp := h c.toNat hmem
  rwa [Char.ofNat_toNat] at hp

/-- The characters in front of which every token ends. -/
def isBreak (c : Char) : Bool :=
  isBlank c || c == '(' || c == ')' || c == ',' || c == ';'

/-- The code points of blanks and of the symbols between tokens. -/
def breakCodes : List ℕ :=
  blankCodes ++ ['('.toNat, ')'.toNat, ','.toNat, ';'.toNat]

/-- What holds of the characters with these code points holds of all breaks. -/
lemma forall_break {P : Char → Prop} (h : ∀ n ∈ breakCodes, P (Char.ofNat n)) {c : Char}
    (hc : isBreak c = true) : P c := by
  have hmem : c.toNat ∈ breakCodes := by
    simp only [isBreak, Bool.or_eq_true, beq_iff_eq] at hc
    rw [breakCodes, List.mem_append]
    rcases hc with (((hc | rfl) | rfl) | rfl) | rfl
    · exact .inl (toNat_mem_blankCodes hc)
    all_goals exact .inr (by decide)
  have hp := h c.toNat hmem
  rwa [Char.ofNat_toNat] at hp

/-- No word goes on with a break. -/
lemma continuesWord_of_isBreak {c : Char} (h : isBreak c = true) : continuesWord c = false :=
  forall_break (P := fun c => continuesWord c = false) (by decide +kernel) h

/-- What may begin a word may also go on with it. -/
lemma continuesWord_of_beginsWord {c : Char} (h : beginsWord c = true) :
    continuesWord c = true := by
  rw [beginsWord, Bool.or_eq_true] at h
  rcases h with h | h <;> simp [continuesWord, h]

lemma isDigit_of_isBreak {c : Char} (h : isBreak c = true) : c.isDigit = false :=
  forall_break (P := fun c => c.isDigit = false) (by decide) h

/-! ### The first token -/

section Next

variable {c : Char} {r : List Char}

lemma next_blank (h : isBlank c = true) : next c r = (none, r) := by
  rw [next, if_pos h]

lemma next_symbol {t : Token} (h : symbol? c = some t) : next c r = (some t, r) := by
  have hmem : c ∈ ['(', ')', ',', ';', '.'] := by
    by_contra hc
    simp only [List.mem_cons, List.not_mem_nil, or_false, not_or] at hc
    rw [symbol?.eq_def] at h
    split at h <;> simp_all
  simp only [List.mem_cons, List.not_mem_nil, or_false] at hmem
  rcases hmem with rfl | rfl | rfl | rfl | rfl <;> cases h <;> rfl

/-- Each of the opening delimiters begins an identifier. -/
lemma next_closing {close : Char} (h : closing? c = some close) : next c r
    = (some (.ident (String.ofList (readDelimited close r).1)), (readDelimited close r).2) := by
  rw [closing?.eq_def] at h
  split at h
  · cases h
    rfl
  · cases h
    rfl
  · cases h
    rfl
  · cases h

lemma next_quote : next '\'' r
    = (some (.str (String.ofList (readLiteral r).1)), (readLiteral r).2) := rfl

lemma next_comment : next '-' ('-' :: r) = (none, afterLine ('-' :: r)) := rfl

/-- A character that begins no number, word or text between quotes is looked at no further than the
others of its kind. -/
lemma next_of_plain (hblank : isBlank c = false) (hhash : c ≠ '#')
    (hline : (c = '-' && r.head? = some '-') = false) (hblock : c ≠ '/')
    (hsymbol : symbol? c = none) (hclosing : closing? c = none) (hquote : c ≠ '\'') :
    next c r =
      if c.isDigit || ((c = '-' || c = '+') && r.head?.any Char.isDigit) then
        (some (.num (String.ofList (c :: (readNumber false r).1))), (readNumber false r).2)
      else if beginsWord c then
        (some (wordToken (String.ofList (c :: r.takeWhile continuesWord))
            (r.dropWhile continuesWord)).1,
          (wordToken (String.ofList (c :: r.takeWhile continuesWord))
            (r.dropWhile continuesWord)).2)
      else (none, r) := by
  rw [next, if_neg (by simp [hblank]), if_neg (by simp [hhash, hline]),
    if_neg (by simp [hblock]), hsymbol, hclosing]
  simp only [if_neg hquote]

lemma next_digit (h : c.isDigit = true) : next c r
    = (some (.num (String.ofList (c :: (readNumber false r).1))), (readNumber false r).2) := by
  have hplain : isBlank c = false ∧ c ≠ '#' ∧ c ≠ '-' ∧ c ≠ '/' ∧ symbol? c = none
      ∧ closing? c = none ∧ c ≠ '\'' :=
    forall_digit (P := fun c => isBlank c = false ∧ c ≠ '#' ∧ c ≠ '-' ∧ c ≠ '/' ∧ symbol? c = none
      ∧ closing? c = none ∧ c ≠ '\'') (by decide) h
  obtain ⟨hblank, hhash, hline, hblock, hsymbol, hclosing, hquote⟩ := hplain
  rw [next_of_plain hblank hhash (by simp [hline]) hblock hsymbol hclosing hquote,
    if_pos (by simp [h])]

/-- A sign in front of a digit begins a number. -/
lemma next_sign {d : Char} (h : c = '-' ∨ c = '+') (hd : d.isDigit = true) : next c (d :: r)
    = (some (.num (String.ofList (c :: (readNumber false (d :: r)).1))),
      (readNumber false (d :: r)).2) := by
  have hline : d ≠ '-' := by
    rintro rfl
    cases hd
  rcases h with rfl | rfl
  · rw [next_of_plain rfl (by decide) (by simp [hline]) (by decide) rfl rfl (by decide),
      if_pos (by simp [hd])]
  · rw [next_of_plain rfl (by decide) (by simp) (by decide) rfl rfl (by decide),
      if_pos (by simp [hd])]

/-- A word goes as far as its characters do, and may be the prefix of a literal. -/
lemma next_word (h : beginsWord c = true) : next c r
    = (some (wordToken (String.ofList (c :: r.takeWhile continuesWord))
        (r.dropWhile continuesWord)).1,
      (wordToken (String.ofList (c :: r.takeWhile continuesWord))
        (r.dropWhile continuesWord)).2) := by
  have hne : ∀ d, beginsWord d = false → c ≠ d := by
    rintro d hd rfl
    rw [h] at hd
    cases hd
  have hblank : isBlank c = false := by
    by_contra hc
    have hbreak : isBreak c = true := by simp [isBreak, Bool.of_not_eq_false hc]
    have hword := continuesWord_of_isBreak hbreak
    rw [continuesWord_of_beginsWord h] at hword
    cases hword
  have hdigit : c.isDigit = false := by
    by_contra hc
    have hword := forall_digit (P := fun c => beginsWord c = false) (by decide)
      (Bool.of_not_eq_false hc)
    exact hne c hword rfl
  have hsymbol : symbol? c = none := by
    rw [symbol?.eq_def]
    split <;> first | rfl | exact absurd rfl (hne _ (by decide))
  have hclosing : closing? c = none := by
    rw [closing?.eq_def]
    split <;> first | rfl | exact absurd rfl (hne _ (by decide))
  rw [next_of_plain hblank (hne _ (by decide)) (by simp [hne '-' (by decide)]) (hne _ (by decide))
    hsymbol hclosing (hne _ (by decide)), if_neg, if_pos h]
  simp [hdigit, hne '-' (by decide), hne '+' (by decide)]

end Next

/-! ### The end of a token -/

/-- The text begins with a break, unless it is empty. -/
def Stops (cs : List Char) : Prop :=
  ∀ c ∈ cs.head?, isBreak c = true

namespace Stops

variable {c : Char} {cs r : List Char}

lemma nil : Stops [] := by
  intro c hc
  cases hc

lemma cons (h : isBreak c = true) : Stops (c :: cs) := by
  intro d hd
  obtain rfl := Option.some.inj hd
  exact h

/-- A text that stops, with another one behind it, stops. -/
lemma append (hcs : Stops cs) (hr : Stops r) : Stops (cs ++ r) := by
  cases cs with
  | nil => exact hr
  | cons c cs => exact cons (hcs c rfl)

/-- A text that begins with a break stops. -/
lemma prepend {c : Char} {s s' : String} (hs' : s'.toList = c :: cs) (hc : isBreak c = true) :
    Stops (s' ++ s).toList := by
  rw [String.toList_append, hs']
  exact cons hc

lemma space (s : String) : Stops (" " ++ s).toList :=
  prepend (c := ' ') rfl rfl

lemma comma (s : String) : Stops ("," ++ s).toList :=
  prepend (c := ',') rfl rfl

lemma lparen (s : String) : Stops ("(" ++ s).toList :=
  prepend (c := '(') rfl rfl

lemma rparen (s : String) : Stops (")" ++ s).toList :=
  prepend (c := ')') rfl rfl

lemma closing : Stops ")".toList :=
  cons (c := ')') rfl

/-- In front of a break stands no character that is no break. -/
lemma head?_ne (h : Stops r) (hc : isBreak c = false) : r.head? ≠ some c := by
  intro hr
  have hbreak := h c hr
  rw [hc] at hbreak
  cases hbreak

end Stops

section Ends

variable {cs r : List Char}

/-- A word is cut off where its characters end. -/
lemma takeWhile_continuesWord (h : ∀ c ∈ cs, continuesWord c = true)
    (hr : ∀ c ∈ r.head?, continuesWord c = false) : (cs ++ r).takeWhile continuesWord = cs := by
  rw [List.takeWhile_append_of_pos h]
  cases r with
  | nil => simp
  | cons c r => simp [hr c rfl]

lemma dropWhile_continuesWord (h : ∀ c ∈ cs, continuesWord c = true)
    (hr : ∀ c ∈ r.head?, continuesWord c = false) : (cs ++ r).dropWhile continuesWord = r := by
  rw [List.dropWhile_append_of_pos h]
  cases r with
  | nil => simp
  | cons c r => simp [hr c rfl]

/-- Digits with at most one point among them, none if one was `seen` before. -/
def isDecimal (seen : Bool) : List Char → Bool
  | [] => true
  | c :: r => if c.isDigit then isDecimal seen r else c == '.' && !seen && isDecimal true r

/-- A number ends in front of a character that is no digit and no point. -/
lemma readNumber_append {seen : Bool} (h : isDecimal seen cs = true)
    (hr : ∀ c ∈ r.head?, c.isDigit = false ∧ c ≠ '.') : readNumber seen (cs ++ r) = (cs, r) := by
  induction cs generalizing seen with
  | nil =>
    cases r with
    | nil => rfl
    | cons c r =>
      obtain ⟨hdigit, hpoint⟩ := hr c rfl
      simp [readNumber, hdigit, hpoint]
  | cons c cs ih =>
    rw [isDecimal] at h
    rw [List.cons_append, readNumber]
    by_cases hdigit : c.isDigit = true
    · rw [if_pos hdigit] at h ⊢
      rw [ih h]
      rfl
    · rw [if_neg hdigit] at h ⊢
      simp only [Bool.and_eq_true, beq_iff_eq, Bool.not_eq_true'] at h
      rw [if_pos (by simp [h.1.1, h.1.2]), ih h.2]
      rfl

/-- The texts that a literal gives back as they are. A backslash takes the character after it along;
none of them takes a quote, and none is left at the end. -/
def isLiteral : List Char → Bool
  | [] => true
  | '\\' :: [] => false
  | '\\' :: c :: r => c != '\'' && isLiteral r
  | _ :: r => isLiteral r

/-- Literals without backslashes are among these. -/
lemma isLiteral_of_forall_ne (h : ∀ c ∈ cs, c ≠ '\\') : isLiteral cs = true := by
  fun_induction isLiteral cs with
  | case1 => rfl
  | case2 => exact absurd rfl (h '\\' List.mem_cons_self)
  | case3 c cs => exact absurd rfl (h '\\' List.mem_cons_self)
  | case4 c cs hnil hcons ih => exact ih fun d hd => h d (List.mem_cons_of_mem c hd)

lemma readLiteral_cons_of_ne {c : Char} (hquote : c ≠ '\'') (hslash : c ≠ '\\') :
    readLiteral (c :: r) = consRead c (readLiteral r) := by
  rw [readLiteral.eq_def]
  split <;> simp_all

lemma doubleChars_cons_self (q : Char) (cs : List Char) :
    doubleChars q (q :: cs) = q :: q :: doubleChars q cs := by
  simp [doubleChars]

lemma doubleChars_cons_of_ne {c q : Char} (hc : c ≠ q) (cs : List Char) :
    doubleChars q (c :: cs) = c :: doubleChars q cs := by
  simp [doubleChars, hc]

/-- The last case of `isLiteral` is about other characters than backslashes. -/
lemma ne_backslash {c : Char} (hnil : c = '\\' → cs = [] → False)
    (hcons : ∀ d r, c = '\\' → cs = d :: r → False) : c ≠ '\\' := by
  rintro rfl
  cases cs with
  | nil => exact hnil rfl rfl
  | cons d cs => exact hcons d cs rfl rfl

/-- A literal with its quotes doubled is read up to its closing quote. -/
lemma readLiteral_doubleChars (h : isLiteral cs = true) (hr : r.head? ≠ some '\'') :
    readLiteral (doubleChars '\'' cs ++ '\'' :: r) = (cs, r) := by
  fun_induction isLiteral cs with
  | case1 =>
    cases r with
    | nil => rfl
    | cons c r =>
      have hc : c ≠ '\'' := fun hc => hr (by rw [hc]; rfl)
      simp [doubleChars, readLiteral, hc]
  | case2 => cases h
  | case3 c cs ih =>
    simp only [Bool.and_eq_true, bne_iff_ne, ne_eq] at h
    rw [doubleChars_cons_of_ne (by decide), doubleChars_cons_of_ne h.1, List.cons_append,
      List.cons_append, readLiteral, ih h.2]
    rfl
  | case4 c cs hnil hcons ih =>
    by_cases hc : c = '\''
    · subst hc
      rw [doubleChars_cons_self, List.cons_append, List.cons_append, readLiteral, ih h]
      rfl
    · rw [doubleChars_cons_of_ne hc, List.cons_append,
        readLiteral_cons_of_ne hc (ne_backslash hnil hcons), ih h]
      rfl

/-- With one quote more in front, a text between quotes is read as another one. -/
lemma readLiteral_cons_doubleChars_ne (cs : List Char) :
    (readLiteral ('\'' :: (doubleChars '\'' cs ++ ['\'']))).1 ≠ cs := by
  induction cs with
  | nil => exact List.cons_ne_nil _ _
  | cons c cs ih =>
    by_cases hc : c = '\''
    · subst hc
      intro heq
      exact ih (List.cons.inj heq).2
    · have hclosed : readLiteral ('\'' :: c :: (doubleChars '\'' cs ++ ['\'']))
          = ([], c :: (doubleChars '\'' cs ++ ['\''])) := by
        simp [readLiteral, hc]
      rw [doubleChars_cons_of_ne hc, List.cons_append, hclosed]
      exact (List.cons_ne_nil _ _).symm

/-- A text with a backslash in front of a quote or at its end is read as another one. -/
lemma readLiteral_doubleChars_ne (h : isLiteral cs = false) :
    (readLiteral (doubleChars '\'' cs ++ ['\''])).1 ≠ cs := by
  fun_induction isLiteral cs with
  | case1 => cases h
  | case2 => decide
  | case3 c cs ih =>
    intro heq
    by_cases hc : c = '\''
    · subst hc
      exact readLiteral_cons_doubleChars_ne cs (List.cons.inj (List.cons.inj heq).2).2
    · have hrest : isLiteral cs = false := by simpa [hc] using h
      rw [doubleChars_cons_of_ne (by decide), doubleChars_cons_of_ne hc] at heq
      exact ih hrest (List.cons.inj (List.cons.inj heq).2).2
  | case4 c cs hnil hcons ih =>
    intro heq
    by_cases hc : c = '\''
    · subst hc
      exact ih h (List.cons.inj heq).2
    · rw [doubleChars_cons_of_ne hc, List.cons_append,
        readLiteral_cons_of_ne hc (ne_backslash hnil hcons)] at heq
      exact ih h (List.cons.inj heq).2

end Ends

/-! ### Texts and their tokens -/

/-- The text has the tokens, whatever follows it after a break. -/
def Reads (s : String) (ts : List Token) : Prop :=
  ∀ r, Stops r → scan (s.toList ++ r) = ts ++ scan r

/-- A word: a letter or an underscore, and what may follow these in a word. -/
def isWord (w : String) : Bool :=
  match w.toList with
  | [] => false
  | c :: cs => beginsWord c && cs.all continuesWord

/-- A word that is no keyword. -/
def IsBareWord (w : String) : Prop :=
  isWord w = true ∧ Keyword.ofWord? w = none

instance (w : String) : Decidable (IsBareWord w) :=
  inferInstanceAs (Decidable (_ ∧ _))

/-- A number: digits with at most one point among them, and a sign in front if there is one. -/
def isNumber (s : String) : Bool :=
  match s.toList with
  | [] => false
  | c :: r => (c.isDigit || ((c == '-' || c == '+') && r.head?.any Char.isDigit))
    && isDecimal false r

/-- The token of a word. -/
def Token.ofWord (w : String) : Token :=
  match Keyword.ofWord? w with
  | some k => .keyword k
  | none => .ident w

namespace Reads

variable {s s' w : String} {ts ts' : List Token}

/-- A text on its own has its tokens. -/
lemma tokenize_eq (h : Reads s ts) : tokenize s = ts := by
  have hscan := h [] Stops.nil
  rwa [List.append_nil, scan_nil, List.append_nil] at hscan

lemma empty : Reads "" [] :=
  fun _ _ => rfl

/-- A text may be followed by one that begins with a break. -/
lemma append (h : Reads s ts) (h' : Reads s' ts') (hs' : Stops s'.toList) :
    Reads (s ++ s') (ts ++ ts') := by
  intro r hr
  rw [String.toList_append, List.append_assoc, h _ (hs'.append hr), h' r hr, List.append_assoc]

/-- Blanks have no tokens. -/
lemma scan_blanks {cs r : List Char} (h : ∀ c ∈ cs, isBlank c = true) :
    scan (cs ++ r) = scan r := by
  induction cs with
  | nil => rfl
  | cons c cs ih =>
    rw [List.cons_append, scan_cons_of_none (next_blank (h c List.mem_cons_self))]
    exact ih fun d hd => h d (List.mem_cons_of_mem c hd)

/-- Blanks in front of a text do not matter. -/
lemma blank {b : String} (h : Reads s ts) (hb : isBlankText b = true) : Reads (b ++ s) ts := by
  intro r hr
  rw [String.toList_append, List.append_assoc, ← h r hr]
  exact scan_blanks (List.all_eq_true.mp hb)

/-- A symbol in front of a text is a token of its own. -/
lemma symbol {c : Char} {t : Token} (hc : symbol? c = some t) (h : Reads s ts) :
    Reads (String.singleton c ++ s) (t :: ts) := by
  intro r hr
  rw [String.toList_append, String.toList_singleton, List.singleton_append, List.cons_append,
    scan_cons_of_some (next_symbol hc), h r hr, List.cons_append]

lemma lparen (h : Reads s ts) : Reads ("(" ++ s) (.lparen :: ts) :=
  symbol (c := '(') rfl h

lemma rparen (h : Reads s ts) : Reads (")" ++ s) (.rparen :: ts) :=
  symbol (c := ')') rfl h

lemma comma (h : Reads s ts) : Reads ("," ++ s) (.comma :: ts) :=
  symbol (c := ',') rfl h

lemma semicolon (h : Reads s ts) : Reads (";" ++ s) (.semicolon :: ts) :=
  symbol (c := ';') rfl h

lemma closing : Reads ")" [.rparen] := by
  have hparen := empty.rparen
  rwa [String.append_empty] at hparen

/-- A blank in front of a text does not matter. -/
lemma space (h : Reads s ts) : Reads (" " ++ s) ts :=
  h.blank (b := " ") (by decide)

/-- Nor does a line feed. -/
lemma newline (h : Reads s ts) : Reads ("\n" ++ s) ts :=
  h.blank (b := "\n") (by decide)

/-- A word is no prefix of a literal if no quote follows. -/
lemma wordToken_of_ne (w : String) {r : List Char} (hr : r.head? ≠ some '\'') :
    wordToken w r = (Token.ofWord w, r) := by
  have hquote : ∀ r', r ≠ '\'' :: r' := by
    rintro r' rfl
    exact hr rfl
  cases hk : Keyword.ofWord? w with
  | some k => simp only [wordToken, Token.ofWord, hk]
  | none => simp only [wordToken, Token.ofWord, hk]

/-- A word has a first character, and the others go on with it. -/
lemma exists_of_isWord (h : isWord w = true) : ∃ c cs, w = String.ofList (c :: cs)
    ∧ beginsWord c = true ∧ ∀ d ∈ cs, continuesWord d = true := by
  rw [isWord] at h
  cases hw : w.toList with
  | nil => simp [hw] at h
  | cons c cs =>
    simp only [hw, Bool.and_eq_true, List.all_eq_true] at h
    exact ⟨c, cs, by rw [← hw, String.ofList_toList], h.1, h.2⟩

lemma continuesWord_of_mem (h : isWord w = true) {c : Char} (hc : c ∈ w.toList) :
    continuesWord c = true := by
  obtain ⟨d, cs, rfl, hd, hcs⟩ := exists_of_isWord h
  rw [String.toList_ofList] at hc
  rcases List.mem_cons.mp hc with rfl | hc
  · exact continuesWord_of_beginsWord hd
  · exact hcs c hc

/-- In front of a character that does not belong to it, a word is looked at as a whole. -/
lemma scan_word (h : isWord w = true) {r : List Char}
    (hr : ∀ c ∈ r.head?, continuesWord c = false) :
    scan (w.toList ++ r) = (wordToken w r).1 :: scan (wordToken w r).2 := by
  obtain ⟨c, cs, rfl, hc, hcs⟩ := exists_of_isWord h
  rw [String.toList_ofList, List.cons_append]
  have hnext := next_word (r := cs ++ r) hc
  rw [takeWhile_continuesWord hcs hr, dropWhile_continuesWord hcs hr] at hnext
  rw [scan_cons_of_some hnext]

/-- In front of a character that does not go on with it, a word is a token of its own. -/
lemma scan_word_append (h : isWord w = true) {r : List Char}
    (hr : ∀ c ∈ r.head?, continuesWord c = false) (hquote : r.head? ≠ some '\'') :
    scan (w.toList ++ r) = Token.ofWord w :: scan r := by
  rw [scan_word h hr, wordToken_of_ne w hquote]

/-- A word is read as one token. -/
lemma word (h : isWord w = true) : Reads w [Token.ofWord w] := by
  intro r hr
  exact scan_word_append h (fun c hc => continuesWord_of_isBreak (hr c hc)) (hr.head?_ne rfl)

lemma keyword {k : Keyword} (h : isWord w = true) (hk : Keyword.ofWord? w = some k) :
    Reads w [.keyword k] := by
  have hword := word h
  rwa [Token.ofWord, hk] at hword

/-- A word that is no keyword is read as an identifier. -/
lemma bareWord (h : IsBareWord w) : Reads w [.ident w] := by
  have hword := word h.1
  rwa [Token.ofWord, h.2] at hword

lemma toList_literal (s : String) :
    (Script.literal s).toList = '\'' :: (doubleChars '\'' s.toList ++ ['\'']) := by
  simp [Script.literal, Text.quoted, Text.doubled]

/-- A written literal is read back, unless a quote follows it. -/
lemma scan_literal_append (h : isLiteral s.toList = true) {r : List Char}
    (hr : r.head? ≠ some '\'') : scan ((Script.literal s).toList ++ r) = .str s :: scan r := by
  have hread := readLiteral_doubleChars h hr
  rw [toList_literal, List.cons_append, List.append_assoc, List.singleton_append,
    scan_cons_of_some next_quote, hread, String.ofList_toList]

lemma literal (h : isLiteral s.toList = true) : Reads (Script.literal s) [.str s] :=
  fun _ hr => scan_literal_append h (hr.head?_ne rfl)

/-- So is one with a word in front. -/
lemma scan_prefixed_append (hw : IsBareWord w) (h : isLiteral s.toList = true) {r : List Char}
    (hr : r.head? ≠ some '\'') :
    scan ((w ++ Script.literal s).toList ++ r) = .prefixed w s :: scan r := by
  have hread := readLiteral_doubleChars h hr
  rw [String.toList_append, List.append_assoc, toList_literal, List.cons_append,
    List.append_assoc, List.singleton_append,
    scan_word hw.1 (by rintro c hc; obtain rfl := Option.some.inj hc; decide), wordToken, hw.2]
  simp only [hread, String.ofList_toList]

lemma prefixed (hw : IsBareWord w) (h : isLiteral s.toList = true) :
    Reads (w ++ Script.literal s) [.prefixed w s] :=
  fun _ hr => scan_prefixed_append hw h (hr.head?_ne rfl)

/-- A number is read back, unless a digit or a point follows it. -/
lemma scan_number_append (h : isNumber s = true) {r : List Char}
    (hr : ∀ c ∈ r.head?, c.isDigit = false ∧ c ≠ '.') :
    scan (s.toList ++ r) = .num s :: scan r := by
  rw [isNumber] at h
  cases hs : s.toList with
  | nil => simp [hs] at h
  | cons c cs =>
    simp only [hs, Bool.and_eq_true, Bool.or_eq_true, beq_iff_eq] at h
    obtain ⟨hfirst, hrest⟩ := h
    have hread := readNumber_append hrest hr
    have hnext : next c (cs ++ r) = (some (.num s), r) := by
      rcases hfirst with hdigit | ⟨hsign, hdigit⟩
      · rw [next_digit hdigit, hread, ← hs, String.ofList_toList]
      · cases cs with
        | nil => cases hdigit
        | cons d cs =>
          rw [List.cons_append] at hread
          rw [List.cons_append, next_sign hsign hdigit, hread, ← hs, String.ofList_toList]
    rw [List.cons_append, scan_cons_of_some hnext]

lemma number (h : isNumber s = true) : Reads s [.num s] := by
  intro r hr
  refine scan_number_append h fun c hc => ⟨isDigit_of_isBreak (hr c hc), ?_⟩
  rintro rfl
  cases hr '.' hc

/-- A name between delimiters, as it is written. -/
lemma scan_delimited_append {c close : Char} (hc : closing? c = some close) (name : String)
    {r : List Char} (hr : r.head? ≠ some close) :
    scan ((String.singleton c ++ doubled close name ++ String.singleton close).toList ++ r)
      = .ident name :: scan r := by
  have hread := readDelimited_doubleChars close name.toList hr
  have hlist : (String.singleton c ++ doubled close name ++ String.singleton close).toList ++ r
      = c :: (doubleChars close name.toList ++ close :: r) := by
    simp [doubled]
  rw [hlist, scan_cons_of_some (next_closing hc), hread, String.ofList_toList]

/-- A name between double quotes. -/
lemma doubleQuoted (name : String) : Reads ("\"" ++ doubled '"' name ++ "\"") [.ident name] :=
  fun _ hr => scan_delimited_append (c := '"') rfl name (hr.head?_ne rfl)

/-- A name between brackets. -/
lemma bracketed (name : String) : Reads ("[" ++ doubled ']' name ++ "]") [.ident name] :=
  fun _ hr => scan_delimited_append (c := '[') rfl name (hr.head?_ne rfl)

lemma afterLine_append {cs r : List Char} (hcs : '\n' ∉ cs) : afterLine (cs ++ '\n' :: r) = r := by
  induction cs with
  | nil => rfl
  | cons c cs ih =>
    rw [List.mem_cons, not_or] at hcs
    rw [List.cons_append, afterLine, if_neg (Ne.symm hcs.1), ih hcs.2]

/-- A comment goes up to the end of its line. -/
lemma comment {a b : String} {cs : List Char} (ha : a.toList = '-' :: '-' :: cs)
    (hcs : '\n' ∉ cs) (hb : '\n' ∉ b.toList) (h : Reads s ts) :
    Reads (a ++ (b ++ ("\n" ++ s))) ts := by
  intro r hr
  have hlist : (a ++ (b ++ ("\n" ++ s))).toList ++ r
      = '-' :: '-' :: ((cs ++ b.toList) ++ '\n' :: (s.toList ++ r)) := by
    simp [ha]
  have hnone : '\n' ∉ '-' :: (cs ++ b.toList) := by
    rw [List.mem_cons, List.mem_append, not_or, not_or]
    exact ⟨by decide, hcs, hb⟩
  rw [hlist, scan_cons_of_none next_comment, ← List.cons_append, afterLine_append hnone, h r hr]

end Reads

end SchemaDesigner.Script
