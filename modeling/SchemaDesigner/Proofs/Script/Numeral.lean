/-
Numbers as defaults, with a sign, a fraction and an exponent, and what is kept of them.

* `Exponent`, `Numeral`: a number as it is written, in its parts;
* `Numeral.reads`: it is read as one token or as several, which the exponent and a leading point
  begin;
* `Numeral.readOptions_tokens_append`: only the first of these tokens counts as the default;
* `WrittenPlace.keeps_numeral`: what is kept of a number is the number exactly if a digit stands in
  front of the point and there is no exponent.
-/
import SchemaDesigner.Proofs.Script.Placement

namespace SchemaDesigner.Script

/-! ### Written numbers -/

/-- Digits, one at least. -/
def IsDigits (cs : List Char) : Prop :=
  cs ≠ [] ∧ ∀ c ∈ cs, c.isDigit = true

/-- A minus or a plus, or nothing. -/
def IsSign (sign : Option Char) : Prop :=
  ∀ c ∈ sign, c = '-' ∨ c = '+'

/-- An exponent in its written parts. -/
structure Exponent where
  letter : Char
  sign : Option Char
  digits : List Char
  isLetter : letter = 'e' ∨ letter = 'E'
  isSign : IsSign sign
  isDigits : IsDigits digits

/-- A number in its written parts: a sign, digits with a fraction or a fraction alone, and an
exponent. -/
structure Numeral where
  sign : Option Char
  whole : List Char
  fraction : Option (List Char)
  exponent : Option Exponent
  isSign : IsSign sign
  isWhole : ∀ c ∈ whole, c.isDigit = true
  isFraction : ∀ ds ∈ fraction, ∀ c ∈ ds, c.isDigit = true
  nonempty : whole ≠ [] ∨ ∃ ds ∈ fraction, ds ≠ []

/-- The characters of the exponent. -/
def Exponent.chars (e : Exponent) : List Char :=
  e.letter :: (e.sign.toList ++ e.digits)

/-- The tokens of the exponent: a sign in it begins a number. -/
def Exponent.tokens (e : Exponent) : List Token :=
  match e.sign with
  | none => [.ident (String.ofList e.chars)]
  | some c => [.ident (String.singleton e.letter), .num (String.ofList (c :: e.digits))]

namespace Numeral

variable (n : Numeral)

/-- The characters in front of the exponent, without the sign. -/
def digits : List Char :=
  n.whole ++ n.fraction.elim [] ('.' :: ·)

/-- The number as it is written. -/
def text : String :=
  String.ofList (n.sign.toList ++ (n.digits ++ n.exponent.elim [] Exponent.chars))

/-- The tokens in front of the exponent. No number begins with a point. -/
def digitTokens : List Token :=
  if n.whole = [] then [.dot, .num (String.ofList (n.fraction.getD []))]
  else [.num (String.ofList (n.sign.toList ++ n.digits))]

/-- The tokens of the number. -/
def tokens : List Token :=
  n.digitTokens ++ n.exponent.elim [] Exponent.tokens

/-- What is kept of the number as a default. -/
def kept : Option String :=
  if n.whole = [] then none else some (String.ofList (n.sign.toList ++ n.digits))

end Numeral

/-! ### Tokens -/

section Digits

variable {cs ds r : List Char} {sign : Option Char}

lemma isSign_none : IsSign none := by
  simp [IsSign]

lemma isDecimal_append (h : ∀ c ∈ ds, c.isDigit = true) (seen : Bool) (cs : List Char) :
    isDecimal seen (ds ++ cs) = isDecimal seen cs := by
  induction ds with
  | nil => rfl
  | cons d ds ih =>
    obtain ⟨hd, hds⟩ := List.forall_mem_cons.mp h
    rw [List.cons_append, isDecimal, if_pos hd, ih hds]

lemma isDecimal_of_forall (h : ∀ c ∈ ds, c.isDigit = true) (seen : Bool) :
    isDecimal seen ds = true := by
  rw [← List.append_nil ds, isDecimal_append h]
  rfl

/-- A sign and digits begin a number. -/
lemma isNumber_of_digits (hsign : IsSign sign) (hdigits : IsDigits ds)
    (hcs : isDecimal false cs = true) :
    isNumber (String.ofList (sign.toList ++ (ds ++ cs))) = true := by
  have hdecimal : isDecimal false (ds ++ cs) = true := by rw [isDecimal_append hdigits.2, hcs]
  rw [isNumber, String.toList_ofList]
  cases ds with
  | nil => exact absurd rfl hdigits.1
  | cons d ds =>
    have hd := hdigits.2 d List.mem_cons_self
    rw [List.cons_append] at hdecimal ⊢
    cases sign with
    | none =>
      rw [isDecimal, if_pos hd] at hdecimal
      simp [hd, hdecimal]
    | some c => rcases hsign c rfl with rfl | rfl <;> simp [hd, hdecimal]

lemma isNumber_of_isDigits (hsign : IsSign sign) (hdigits : IsDigits ds) :
    isNumber (String.ofList (sign.toList ++ ds)) = true := by
  have hnumber : isNumber (String.ofList (sign.toList ++ (ds ++ []))) = true :=
    isNumber_of_digits hsign hdigits rfl
  rwa [List.append_nil] at hnumber

end Digits

/-- A keyword has no digits. -/
lemma ofWord?_of_mem_digit {w : String} {d : Char} (hd : d.isDigit = true) (h : d ∈ w.toList) :
    Keyword.ofWord? w = none := by
  have hupper : d ∈ (Text.upper w).toList := by
    have hself : d ∈ Text.upperChars d :=
      forall_digit (P := fun d => d ∈ Text.upperChars d) (by decide) hd
    rw [Text.upper, String.toList_ofList]
    exact List.mem_flatMap.mpr ⟨d, h, hself⟩
  by_contra hword
  obtain ⟨k, hk⟩ := Option.ne_none_iff_exists'.mp hword
  have hnone : k.spellings.all (fun u => u.toList.all fun c => !c.isDigit) = true := by
    cases k <;> rfl
  simp only [List.all_eq_true, Bool.not_eq_true'] at hnone
  rw [hnone _ (Keyword.upper_mem_spellings hk) d hupper] at hd
  cases hd

lemma continuesWord_of_isDigit {c : Char} (h : c.isDigit = true) : continuesWord c = true :=
  forall_digit (P := fun c => continuesWord c = true) (by decide) h

namespace Exponent

variable (e : Exponent)

lemma beginsWord_letter : beginsWord e.letter = true := by
  rcases e.isLetter with h | h <;> rw [h] <;> decide

/-- The letter of an exponent is no keyword. -/
lemma ofWord_letter :
    Token.ofWord (String.singleton e.letter) = .ident (String.singleton e.letter) := by
  rcases e.isLetter with h | h <;> rw [h] <;> decide

/-- Without a sign, an exponent is a word. -/
lemma isBareWord_chars (h : e.sign = none) : IsBareWord (String.ofList e.chars) := by
  have hchars : e.chars = e.letter :: e.digits := by
    rw [chars, h]
    rfl
  rw [IsBareWord, isWord, String.toList_ofList, hchars]
  constructor
  · simp only [e.beginsWord_letter, Bool.true_and, List.all_eq_true]
    exact fun c hc => continuesWord_of_isDigit (e.isDigits.2 c hc)
  · obtain ⟨d, hd⟩ := List.exists_mem_of_ne_nil _ e.isDigits.1
    refine ofWord?_of_mem_digit (e.isDigits.2 d hd) ?_
    rw [String.toList_ofList]
    exact List.mem_cons_of_mem _ hd

lemma scan_append {r : List Char} (hr : Stops r) :
    scan (e.chars ++ r) = e.tokens ++ scan r := by
  cases hsign : e.sign with
  | none =>
    have hword := Reads.bareWord (e.isBareWord_chars hsign) r hr
    rw [String.toList_ofList] at hword
    rw [hword, tokens, hsign]
  | some c =>
    have hc := e.isSign c hsign
    have hword : scan (e.letter :: (c :: (e.digits ++ r)))
        = .ident (String.singleton e.letter) :: scan (c :: (e.digits ++ r)) := by
      have hletter : isWord (String.singleton e.letter) = true := by
        simp [isWord, e.beginsWord_letter]
      rw [← e.ofWord_letter, ← Reads.scan_word_append hletter]
      · simp
      · rintro d hd
        obtain rfl := Option.some.inj hd
        rcases hc with rfl | rfl <;> decide
      · rcases hc with rfl | rfl <;> simp
    have hnumber := isNumber_of_isDigits e.isSign e.isDigits
    rw [hsign, Option.toList_some, List.singleton_append] at hnumber
    have hdigits := Reads.number hnumber r hr
    rw [String.toList_ofList, List.cons_append] at hdigits
    rw [tokens, hsign, chars, hsign]
    simp only [Option.toList_some, List.cons_append, List.nil_append]
    rw [hword, hdigits]
    rfl

/-- The tokens of an exponent say nothing of a column. -/
lemma readOptions_tokens_append (rest : List Token) :
    readOptions (e.tokens ++ rest) = readOptions rest := by
  have hident : ∀ cs r, readOptions (.ident (String.ofList (e.letter :: cs)) :: r)
      = readOptions r := by
    intro cs r
    have hfold : foldName (String.ofList (e.letter :: cs)) = 'e' :: cs.map Char.toLower := by
      rw [foldName, String.toList_ofList, List.map_cons]
      rcases e.isLetter with h | h <;> rw [h] <;> rfl
    have hcounting : isCountingWord (String.ofList (e.letter :: cs)) = false := by
      rw [isCountingWord, namesMatch, namesMatch, hfold]
      rfl
    refine readOptions_cons_of_none ?_
    rw [readOption, hcounting]
    rfl
  rw [tokens]
  cases e.sign with
  | none => exact hident _ rest
  | some c => exact (hident [] _).trans (readOptions_cons_of_none rfl)

end Exponent

namespace Numeral

variable (n : Numeral)

lemma isDecimal_fraction : isDecimal false (n.fraction.elim [] ('.' :: ·)) = true := by
  cases h : n.fraction with
  | none => rfl
  | some ds => exact isDecimal_of_forall (n.isFraction ds h) true

/-- The number ends in front of its exponent, and in front of a break. -/
lemma no_number_exponent {r : List Char} (hr : Stops r) :
    ∀ c ∈ (n.exponent.elim [] Exponent.chars ++ r).head?, c.isDigit = false ∧ c ≠ '.' := by
  cases n.exponent with
  | none => exact (Ends.of_stops hr).no_number
  | some e =>
    intro c hc
    obtain rfl := Option.some.inj hc
    rcases e.isLetter with h | h <;> rw [h] <;> decide

lemma scan_exponent {r : List Char} (hr : Stops r) :
    scan (n.exponent.elim [] Exponent.chars ++ r)
      = n.exponent.elim [] Exponent.tokens ++ scan r := by
  cases n.exponent with
  | none => rfl
  | some e => exact e.scan_append hr

/-- A sign in front of a point begins no number. -/
lemma scan_sign_point {sign : Option Char} (h : IsSign sign) (r : List Char) :
    scan (sign.toList ++ '.' :: r) = .dot :: scan r := by
  have hpoint : scan ('.' :: r) = .dot :: scan r := scan_cons_of_some rfl
  cases sign with
  | none => exact hpoint
  | some c =>
    rw [← hpoint]
    refine scan_cons_of_none ?_
    rcases h c rfl with rfl | rfl <;> rfl

/-- Without digits in front of it there is a point with digits behind it. -/
lemma exists_isDigits_fraction (h : n.whole = []) : ∃ ds, n.fraction = some ds ∧ IsDigits ds := by
  obtain ⟨ds, hds, hne⟩ := n.nonempty.resolve_left (fun hne => hne h)
  exact ⟨ds, hds, hne, n.isFraction ds hds⟩

lemma scan_digits {r : List Char} (hr : ∀ c ∈ r.head?, c.isDigit = false ∧ c ≠ '.') :
    scan (n.sign.toList ++ (n.digits ++ r)) = n.digitTokens ++ scan r := by
  rw [digits, digitTokens]
  by_cases hwhole : n.whole = []
  · obtain ⟨ds, hds, hdigits⟩ := n.exists_isDigits_fraction hwhole
    have hnumber := isNumber_of_isDigits isSign_none hdigits
    rw [Option.toList_none, List.nil_append] at hnumber
    have hscan := Reads.scan_number_append hnumber hr
    rw [String.toList_ofList] at hscan
    rw [if_pos hwhole, hwhole, hds]
    calc scan (n.sign.toList ++ ([] ++ '.' :: ds ++ r))
        = .dot :: scan (ds ++ r) := scan_sign_point n.isSign (ds ++ r)
      _ = .dot :: .num (String.ofList ds) :: scan r := by rw [hscan]
  · have hnumber := isNumber_of_digits n.isSign ⟨hwhole, n.isWhole⟩ n.isDecimal_fraction
    have hscan := Reads.scan_number_append hnumber hr
    rw [String.toList_ofList, List.append_assoc] at hscan
    rw [if_neg hwhole, hscan]
    rfl

/-- The tokens of a number. -/
lemma reads : Reads n.text n.tokens := by
  intro r hr
  have hdigits := n.scan_digits (n.no_number_exponent hr)
  rw [n.scan_exponent hr] at hdigits
  rw [text, String.toList_ofList, tokens, List.append_assoc, List.append_assoc, List.append_assoc,
    hdigits]

lemma isPart_tokens : IsPart n.tokens := by
  have hdigits : IsPart n.digitTokens := by
    rw [digitTokens]
    split_ifs <;> rfl
  refine hdigits.append ?_
  cases n.exponent with
  | none => rfl
  | some e =>
    rw [Option.elim_some, Exponent.tokens]
    cases e.sign <;> rfl

/-- Only the first token of a number counts as the default, and a point counts as none. -/
lemma readOptions_tokens_append (rest : List Token) :
    readOptions (.keyword .default :: (n.tokens ++ rest))
      = .default n.kept :: readOptions rest := by
  have hexponent : readOptions (n.exponent.elim [] Exponent.tokens ++ rest) = readOptions rest := by
    cases n.exponent with
    | none => rfl
    | some e => exact e.readOptions_tokens_append rest
  rw [tokens, List.append_assoc, digitTokens, kept]
  by_cases hwhole : n.whole = []
  · rw [if_pos hwhole, if_pos hwhole]
    calc readOptions (.keyword .default :: ([.dot, .num _] ++ _))
        = .default none :: readOptions ([.dot, .num _] ++ _) := readOptions_cons_of_some rfl
      _ = .default none :: readOptions (.num _ :: _) :=
        congrArg _ (readOptions_cons_of_none rfl)
      _ = .default none :: readOptions _ := congrArg _ (readOptions_cons_of_none rfl)
      _ = .default none :: readOptions rest := congrArg _ hexponent
  · rw [if_neg hwhole, if_neg hwhole]
    exact (readOptions_cons_of_some rfl).trans (congrArg _ hexponent)

/-- A number is kept as it is written exactly if a digit stands in front of the point and there is
no exponent. -/
lemma kept_eq_some_text_iff : n.kept = some n.text ↔ n.whole ≠ [] ∧ n.exponent = none := by
  rw [kept]
  by_cases hwhole : n.whole = []
  · simp [hwhole]
  · rw [if_neg hwhole, Option.some.injEq, text, String.ofList_inj]
    cases n.exponent with
    | none => simp [hwhole]
    | some e => simp [Exponent.chars]

end Numeral

/-- What is kept of a number as a default is the text of the number exactly if a digit stands in
front of the point and there is no exponent. Otherwise the exponent is lost, and a number that
begins with a point is lost as a whole. -/
theorem WrittenPlace.keeps_numeral (p : WrittenPlace) (n : Numeral) :
    p.Keeps (parse (p.script n.text)) n.kept
      ∧ (p.Keeps (parse (p.script n.text)) (some n.text) ↔ n.whole ≠ [] ∧ n.exponent = none) := by
  have hkept : p.Keeps (parse (p.script n.text)) n.kept :=
    p.keeps_script n.reads n.isPart_tokens fun rest _ => n.readOptions_tokens_append rest
  rw [← n.kept_eq_some_text_iff]
  exact ⟨hkept, fun h => hkept.eq h, fun h => h ▸ hkept⟩

/-- A number with a sign and a fraction. -/
def sampleNumeral : Numeral where
  sign := some '-'
  whole := ['1', '2']
  fraction := some ['5', '0']
  exponent := none
  isSign := by simp [IsSign]
  isWhole := by simp
  isFraction := by simp
  nonempty := .inl (by decide)

/-- The number is kept with its sign and its last zero. -/
theorem keeps_sampleNumeral :
    sampleNumeral.text = "-12.50"
      ∧ samplePlace.Keeps (parse (samplePlace.script "-12.50")) (some "-12.50") :=
  ⟨rfl, (samplePlace.keeps_numeral sampleNumeral).2.mpr ⟨List.cons_ne_nil _ _, rfl⟩⟩

/-- An exponent is lost, and so is a number that begins with a point. -/
theorem defaults_parse_of_numerals :
    (parse "create table t (a double precision default 1e5, b double precision default -.5);").map
        (fun t => t.columns.map fun c => c.defaultValue)
      = [[some "1", none]] := by
  decide +kernel

end SchemaDesigner.Script
