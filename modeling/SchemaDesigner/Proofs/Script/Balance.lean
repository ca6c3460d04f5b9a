/-
Parentheses told by their number, and where a body ends.

* `nesting`: how many more parentheses some tokens open than they close;
* `StaysOpen`, `CoversCommas`: behind some open parentheses, the tokens close none that is not open,
  and each comma of theirs stands where one is open;
* `IsBalanced`: the parentheses among the tokens match, so that a closing one behind them matches
  one that stands in front of them;
* `isPart_iff`: the parts of a list are the balanced tokens without an outer comma in which no
  statement ends or begins;
* `IsSplit`, `splitBody_eq_some_iff_isSplit`: a body has parts exactly if the parenthesis in front
  of it is closed before the statement ends, and then those of the tokens between the two;
* `BreaksOff`, `splitBody_eq_none_iff`: else it breaks off where the statement ends.
-/
import SchemaDesigner.Proofs.Script.Nesting

namespace SchemaDesigner.Script

/-! ### Tokens as a body sees them -/

/-- The tokens that no body goes on with: its statement ends, or the next one begins. -/
def Token.breaksBody : Token → Bool
  | .keyword .create | .semicolon => true
  | _ => false

/-- By how many a token changes the number of open parentheses. -/
def Token.weight : Token → ℤ
  | .lparen => 1
  | .rparen => -1
  | _ => 0

namespace Token

variable {t : Token}

/-- For a body a token is a parenthesis, a comma, the end of a statement or without a meaning. -/
lemma isPlain_or (t : Token) : t.isPlain = true ∨ t = .lparen ∨ t = .rparen ∨ t = .comma
    ∨ t = .keyword .create ∨ t = .semicolon := by
  cases t with
  | keyword k => cases k <;> simp [isPlain]
  | _ => simp [isPlain]

lemma weight_of_isPlain (h : t.isPlain = true) : t.weight = 0 := by
  cases t <;> first | rfl | cases h

lemma breaksBody_of_isPlain (h : t.isPlain = true) : t.breaksBody = false := by
  cases t with
  | keyword k => cases k <;> first | rfl | cases h
  | semicolon => cases h
  | _ => rfl

/-- Only the word CREATE and a semicolon break a body off. -/
lemma eq_of_breaksBody (h : t.breaksBody = true) : t = .keyword .create ∨ t = .semicolon := by
  rcases t.isPlain_or with hplain | rfl | rfl | rfl | rfl | rfl
  · rw [breaksBody_of_isPlain hplain] at h
    cases h
  · cases h
  · cases h
  · cases h
  · exact .inl rfl
  · exact .inr rfl

end Token

/-! ### Nesting -/

/-- The number of parentheses that the tokens open, less the number of those that they close. -/
def nesting (ts : List Token) : ℤ :=
  ts.count .lparen - ts.count .rparen

@[simp] lemma nesting_nil : nesting [] = 0 :=
  rfl

lemma nesting_cons (t : Token) (ts : List Token) : nesting (t :: ts) = t.weight + nesting ts := by
  cases t <;> simp [nesting, Token.weight] <;> omega

/-- What two lists of tokens leave open adds up. -/
lemma nesting_append (ts us : List Token) : nesting (ts ++ us) = nesting ts + nesting us := by
  simp only [nesting, List.count_append]
  omega

/-- Behind `d` open parentheses, the tokens close none that is not open. -/
def StaysOpen (d : ℤ) (ts : List Token) : Prop :=
  ∀ read, read <+: ts → 0 ≤ d + nesting read

/-- Behind `d` open parentheses, each comma among the tokens stands where one is still open. -/
def CoversCommas (d : ℤ) (ts : List Token) : Prop :=
  ∀ read, read ++ [.comma] <+: ts → 0 < d + nesting read

section Nesting

variable {d : ℤ} {t : Token} {ts us : List Token}

@[simp] lemma staysOpen_nil : StaysOpen d [] ↔ 0 ≤ d := by
  simp [StaysOpen]

lemma staysOpen_cons : StaysOpen d (t :: ts) ↔ 0 ≤ d ∧ StaysOpen (d + t.weight) ts := by
  constructor
  · intro h
    refine ⟨by simpa using h [] List.nil_prefix, fun read hread => ?_⟩
    have hnext := h (t :: read) (List.cons_prefix_cons.mpr ⟨rfl, hread⟩)
    rw [nesting_cons] at hnext
    omega
  · rintro ⟨hd, h⟩ read hread
    rcases List.prefix_cons_iff.mp hread with rfl | ⟨read, rfl, hprefix⟩
    · simpa using hd
    · have hrest := h read hprefix
      rw [nesting_cons]
      omega

lemma StaysOpen.nonneg (h : StaysOpen d ts) : 0 ≤ d := by
  simpa using h [] List.nil_prefix

/-- A second list of tokens starts behind what the first one leaves open. -/
lemma staysOpen_append :
    StaysOpen d (ts ++ us) ↔ StaysOpen d ts ∧ StaysOpen (d + nesting ts) us := by
  induction ts generalizing d with
  | nil => simpa using StaysOpen.nonneg
  | cons t ts ih =>
    rw [List.cons_append, staysOpen_cons, staysOpen_cons, ih, nesting_cons,
      Int.add_assoc, and_assoc]

@[simp] lemma coversCommas_nil : CoversCommas d [] := by
  simp [CoversCommas]

lemma coversCommas_cons :
    CoversCommas d (t :: ts) ↔ (t = .comma → 0 < d) ∧ CoversCommas (d + t.weight) ts := by
  constructor
  · intro h
    refine ⟨fun ht => by simpa using h [] (by simp [ht]), fun read hread => ?_⟩
    have hnext := h (t :: read) (List.cons_prefix_cons.mpr ⟨rfl, hread⟩)
    rw [nesting_cons] at hnext
    omega
  · rintro ⟨hd, h⟩ read hread
    rcases List.prefix_cons_iff.mp hread with hnil | ⟨read', hread', hprefix⟩
    · simp at hnil
    · cases read with
      | nil =>
        obtain ⟨ht, -⟩ := List.cons.inj hread'
        simpa using hd ht.symm
      | cons u read =>
        obtain ⟨rfl, rfl⟩ := List.cons.inj hread'
        have hrest := h read hprefix
        rw [nesting_cons]
        omega

end Nesting

/-- The parentheses among the tokens match: none is closed that they do not open, and none is left
open. -/
structure IsBalanced (ts : List Token) : Prop where
  staysOpen : StaysOpen 0 ts
  nesting_eq : nesting ts = 0

namespace IsBalanced

variable {ts us : List Token}

/-- Balanced tokens behind balanced ones are balanced. -/
lemma append (h : IsBalanced ts) (hus : IsBalanced us) : IsBalanced (ts ++ us) where
  staysOpen := by
    rw [staysOpen_append, h.nesting_eq]
    exact ⟨h.staysOpen, hus.staysOpen⟩
  nesting_eq := by rw [nesting_append, h.nesting_eq, hus.nesting_eq, Int.add_zero]

lemma comma (h : IsBalanced ts) : IsBalanced (.comma :: ts) where
  staysOpen := staysOpen_cons.mpr ⟨Int.le_refl 0, h.staysOpen⟩
  nesting_eq := by rw [nesting_cons, h.nesting_eq]; rfl

/-- Balanced tokens with commas between them are balanced. -/
lemma joined {first : List Token} {others : List (List Token)}
    (h : ∀ p ∈ first :: others, IsBalanced p) : IsBalanced (joined first others) := by
  induction others generalizing first with
  | nil => simpa [Script.joined] using h
  | cons p ps ih =>
    obtain ⟨hfirst, hothers⟩ := List.forall_mem_cons.mp h
    rw [joined_cons]
    exact hfirst.append (ih hothers).comma

end IsBalanced

/-- No closing parenthesis among the tokens matches an opening one in front of all of them, if and
only if they never close more than they have opened. -/
lemma staysOpen_iff_forall_not_isBalanced {ts : List Token} :
    StaysOpen 0 ts ↔ ∀ inside, inside ++ [.rparen] <+: ts → ¬IsBalanced inside := by
  constructor
  · intro h inside hinside hbalanced
    have hclosed := h _ hinside
    rw [nesting_append, hbalanced.nesting_eq, nesting_cons] at hclosed
    simp [Token.weight] at hclosed
  · -- the first parenthesis that is closed too often would be the matching one
    intro h
    induction ts using List.reverseRecOn with
    | nil => simp
    | append_singleton ts t ih =>
      have hts := ih fun inside hinside => h inside (hinside.trans (List.prefix_append _ _))
      have hnonneg := hts ts List.prefix_rfl
      rw [staysOpen_append, staysOpen_cons, staysOpen_nil]
      refine ⟨hts, hnonneg, ?_⟩
      by_cases ht : t = .rparen
      · subst ht
        have hopen : nesting ts ≠ 0 := fun hzero => h ts List.prefix_rfl ⟨hts, hzero⟩
        simp only [Token.weight]
        omega
      · have hweight : 0 ≤ t.weight := by cases t <;> simp_all [Token.weight]
        omega

/-! ### Parts and bodies -/

/-- Behind `d` open parentheses, the tokens close none that is not open, and no statement ends or
begins in them. -/
structure IsUnclosed (d : ℤ) (ts : List Token) : Prop where
  unbroken : ∀ t ∈ ts, t.breaksBody = false
  staysOpen : StaysOpen d ts

/-- Behind `d` open parentheses, the tokens close these and their own, without a comma outside of
them and without the end of a statement. -/
structure IsWhole (d : ℤ) (ts : List Token) : Prop extends IsUnclosed d ts where
  coversCommas : CoversCommas d ts
  closed : d + nesting ts = 0

section Parts

variable {d : ℤ} {t : Token} {ts : List Token}

lemma isUnclosed_nil : IsUnclosed d [] ↔ 0 ≤ d :=
  ⟨fun h => staysOpen_nil.mp h.staysOpen, fun h => ⟨by simp, staysOpen_nil.mpr h⟩⟩

lemma isUnclosed_cons :
    IsUnclosed d (t :: ts) ↔ t.breaksBody = false ∧ 0 ≤ d ∧ IsUnclosed (d + t.weight) ts := by
  constructor
  · rintro ⟨hunbroken, hopen⟩
    obtain ⟨ht, hts⟩ := List.forall_mem_cons.mp hunbroken
    obtain ⟨hd, hrest⟩ := staysOpen_cons.mp hopen
    exact ⟨ht, hd, hts, hrest⟩
  · rintro ⟨ht, hd, hts, hrest⟩
    exact ⟨List.forall_mem_cons.mpr ⟨ht, hts⟩, staysOpen_cons.mpr ⟨hd, hrest⟩⟩

lemma isWhole_nil : IsWhole d [] ↔ d = 0 := by
  constructor
  · intro h
    simpa using h.closed
  · rintro rfl
    exact ⟨isUnclosed_nil.mpr (Int.le_refl 0), coversCommas_nil, rfl⟩

lemma isWhole_cons : IsWhole d (t :: ts)
    ↔ t.breaksBody = false ∧ 0 ≤ d ∧ (t = .comma → 0 < d) ∧ IsWhole (d + t.weight) ts := by
  constructor
  · rintro ⟨hunclosed, hcommas, hclosed⟩
    obtain ⟨ht, hd, hts⟩ := isUnclosed_cons.mp hunclosed
    obtain ⟨hcomma, hrest⟩ := coversCommas_cons.mp hcommas
    rw [nesting_cons, ← Int.add_assoc] at hclosed
    exact ⟨ht, hd, hcomma, hts, hrest, hclosed⟩
  · rintro ⟨ht, hd, hcomma, hts, hrest, hclosed⟩
    refine ⟨isUnclosed_cons.mpr ⟨ht, hd, hts⟩, coversCommas_cons.mpr ⟨hcomma, hrest⟩, ?_⟩
    rwa [nesting_cons, ← Int.add_assoc]

end Parts

/-- The check of a part, token by token, says what holds of its tokens as a whole. -/
lemma isClosed_iff_isWhole (depth : ℕ) (ts : List Token) :
    isClosed depth ts = true ↔ IsWhole depth ts := by
  fun_induction isClosed depth ts with
  | case1 depth => simp [isWhole_nil]
  | case2 | case3 => simp [isWhole_cons, Token.breaksBody]
  | case4 depth r ih => simp [isWhole_cons, Token.breaksBody, Token.weight, ih]
  | case5 depth r ih =>
    cases depth with
    | zero =>
      -- the parenthesis is closed without being open
      have hneg : ¬IsWhole (-1) r := fun h => absurd h.staysOpen.nonneg (by decide)
      simp [isWhole_cons, Token.weight, hneg]
    | succ depth =>
      simp only [Nat.add_sub_cancel] at ih
      have hnonneg : (0 : ℤ) ≤ depth + 1 := by omega
      have hdepth : (depth : ℤ) + 1 + -1 = depth := by omega
      simp [isWhole_cons, Token.breaksBody, Token.weight, ih, hnonneg, hdepth]
  | case6 depth r ih =>
    simp [isWhole_cons, Token.breaksBody, Token.weight, ih, Nat.pos_iff_ne_zero]
  | case7 depth t r hcreate hsemicolon hlparen hrparen hcomma ih =>
    have hplain := Token.isPlain_of_ne hcreate hlparen hrparen hcomma hsemicolon
    have hcovered : t = .comma → 0 < depth := fun ht => absurd ht hcomma
    simpa [isWhole_cons, Token.breaksBody_of_isPlain hplain, Token.weight_of_isPlain hplain, ih]
      using fun _ => hcovered

/-- The parts of a list are the balanced tokens without a comma outside of their parentheses, in
which no statement ends or begins. -/
lemma isPart_iff {ts : List Token} : IsPart ts
    ↔ (∀ t ∈ ts, t.breaksBody = false) ∧ IsBalanced ts ∧ CoversCommas 0 ts := by
  rw [IsPart, isClosed_iff_isWhole]
  constructor
  · rintro ⟨⟨hunbroken, hopen⟩, hcommas, hclosed⟩
    exact ⟨hunbroken, ⟨hopen, (Int.zero_add _).symm.trans hclosed⟩, hcommas⟩
  · rintro ⟨hunbroken, ⟨hopen, hclosed⟩, hcommas⟩
    exact ⟨⟨hunbroken, hopen⟩, hcommas, (Int.zero_add _).trans hclosed⟩

/-- Joined parts are those with commas between them. -/
lemma intercalate_comma_cons (first : List Token) (others : List (List Token)) :
    [Token.comma].intercalate (first :: others) = joined first others := by
  induction others generalizing first with
  | nil => simp [joined]
  | cons p ps ih => rw [List.intercalate_cons_cons, ih, joined_cons, List.append_assoc]; rfl

/-- The tokens between two matching parentheses and the parts between their outer commas. -/
structure IsSplit (inside : List Token) (parts : List (List Token)) : Prop where
  /-- No statement ends or begins between the parentheses. -/
  unbroken : ∀ t ∈ inside, t.breaksBody = false
  /-- The parentheses match. -/
  balanced : IsBalanced inside
  ne_nil : parts ≠ []
  /-- The parts with a comma between each two of them are the tokens. -/
  intercalate_eq : [Token.comma].intercalate parts = inside
  parts_balanced : ∀ p ∈ parts, IsBalanced p
  parts_coverCommas : ∀ p ∈ parts, CoversCommas 0 p

/-- No body breaks off in joined parts exactly if none does in one of them. -/
lemma unbroken_joined {first : List Token} {others : List (List Token)} :
    (∀ t ∈ joined first others, t.breaksBody = false)
      ↔ ∀ p ∈ first :: others, ∀ t ∈ p, t.breaksBody = false := by
  induction others generalizing first with
  | nil => simp [joined]
  | cons p ps ih =>
    rw [joined_cons, List.forall_mem_append, List.forall_mem_cons, ih,
      List.forall_mem_cons (a := first)]
    exact and_congr_right fun _ => and_iff_right rfl

/-- The parts between the outer commas are those whose joining gives the tokens. -/
lemma isSplit_cons_iff {inside first : List Token} {others : List (List Token)} :
    IsSplit inside (first :: others)
      ↔ (∀ p ∈ first :: others, IsPart p) ∧ inside = joined first others := by
  simp only [isPart_iff]
  constructor
  · rintro ⟨hunbroken, -, -, hjoined, hbalanced, hcommas⟩
    rw [intercalate_comma_cons] at hjoined
    subst hjoined
    exact ⟨fun p hp => ⟨unbroken_joined.mp hunbroken p hp, hbalanced p hp, hcommas p hp⟩, rfl⟩
  · rintro ⟨hparts, rfl⟩
    exact {
      unbroken := unbroken_joined.mpr fun p hp => (hparts p hp).1
      balanced := .joined fun p hp => (hparts p hp).2.1
      ne_nil := List.cons_ne_nil _ _
      intercalate_eq := intercalate_comma_cons first others
      parts_balanced := fun p hp => (hparts p hp).2.1
      parts_coverCommas := fun p hp => (hparts p hp).2.2 }

/-- A body has parts if and only if the parenthesis in front of it is closed before the statement
ends. The parts are then those of the tokens up to the matching parenthesis. -/
theorem splitBody_eq_some_iff_isSplit {ts rest : List Token} {parts : List (List Token)} :
    splitBody 0 ts = (some parts, rest)
      ↔ ∃ inside, ts = inside ++ .rparen :: rest ∧ IsSplit inside parts := by
  cases parts with
  | nil =>
    constructor
    · intro h
      obtain ⟨first, others, hparts, -⟩ := isSplitInto_of_splitBody (congrArg Prod.fst h)
      cases hparts
    · rintro ⟨inside, -, hsplit⟩
      exact absurd rfl hsplit.ne_nil
  | cons first others =>
    rw [splitBody_eq_some_iff]
    constructor
    · rintro ⟨hparts, hts⟩
      exact ⟨joined first others, hts, isSplit_cons_iff.mpr ⟨hparts, rfl⟩⟩
    · rintro ⟨inside, rfl, hsplit⟩
      obtain ⟨hparts, rfl⟩ := isSplit_cons_iff.mp hsplit
      exact ⟨hparts, rfl⟩

/-! ### Bodies that break off -/

/-- Some tokens, with the one that comes next, are those of a body up to where it breaks off: the
parenthesis in front of them is not closed by any of them, and there the statement ends. -/
structure BreaksOff (read : List Token) (next : Option Token) : Prop where
  /-- No statement ends or begins before. -/
  unbroken : ∀ t ∈ read, t.breaksBody = false
  /-- No parenthesis matches the one in front of the tokens. -/
  unmatched : ∀ inside, inside ++ [.rparen] <+: read → ¬IsBalanced inside
  /-- The next token ends the statement or begins another one, if there is one. -/
  breaks : ∀ t ∈ next, t.breaksBody = true

/-- A statement ends where a body breaks off. -/
lemma breaksBody_of_splitBody_eq_none {depth : ℕ} {ts : List Token}
    (h : (splitBody depth ts).1 = none) :
    ∀ t ∈ (splitBody depth ts).2.head?, t.breaksBody = true := by
  rcases head?_of_splitBody_eq_none h with hhead | hhead | hhead <;> rw [hhead]
  · exact fun t ht => by cases ht
  · exact fun t ht => by cases ht; rfl
  · exact fun t ht => by cases ht; rfl

lemma cast_pred_eq_add_weight {depth : ℕ} (h : depth ≠ 0) :
    ((depth - 1 : ℕ) : ℤ) = depth + Token.rparen.weight := by
  simp only [Token.weight]
  omega

/-- One token more in front of tokens that close nothing. -/
lemma exists_isUnclosed_cons {d : ℤ} {t : Token} {r rest : List Token}
    (ht : t.breaksBody = false) (hd : 0 ≤ d)
    (h : ∃ read, r = read ++ rest ∧ IsUnclosed (d + t.weight) read) :
    ∃ read, t :: r = read ++ rest ∧ IsUnclosed d read := by
  obtain ⟨read, rfl, hread⟩ := h
  exact ⟨t :: read, rfl, isUnclosed_cons.mpr ⟨ht, hd, hread⟩⟩

/-- Of a body that breaks off, all is read up to there, and the parenthesis in front of it stays
open. -/
lemma exists_isUnclosed_of_splitBody {depth : ℕ} {ts : List Token}
    (h : (splitBody depth ts).1 = none) :
    ∃ read, ts = read ++ (splitBody depth ts).2 ∧ IsUnclosed depth read := by
  fun_induction splitBody depth ts with
  | case1 depth | case2 depth r | case3 depth r =>
    exact ⟨[], rfl, isUnclosed_nil.mpr (Int.natCast_nonneg depth)⟩
  | case4 depth r ih =>
    exact exists_isUnclosed_cons rfl (Int.natCast_nonneg depth) (ih (Option.map_eq_none_iff.mp h))
  | case5 r => cases h
  | case6 depth r hdepth ih =>
    rw [cast_pred_eq_add_weight hdepth] at ih
    exact exists_isUnclosed_cons rfl (Int.natCast_nonneg depth) (ih (Option.map_eq_none_iff.mp h))
  | case7 r ih =>
    exact exists_isUnclosed_cons rfl (Int.le_refl 0) (ih (Option.map_eq_none_iff.mp h))
  | case8 depth r hdepth ih =>
    exact exists_isUnclosed_cons rfl (Int.natCast_nonneg depth) (ih (Option.map_eq_none_iff.mp h))
  | case9 depth t r hcreate hsemicolon hlparen hrparen hcomma ih =>
    have hplain := Token.isPlain_of_ne hcreate hlparen hrparen hcomma hsemicolon
    refine exists_isUnclosed_cons (Token.breaksBody_of_isPlain hplain) (Int.natCast_nonneg depth) ?_
    rw [Token.weight_of_isPlain hplain, Int.add_zero]
    exact ih (Option.map_eq_none_iff.mp h)

/-- Where a statement ends, a body breaks off. -/
lemma splitBody_of_breaksBody (depth : ℕ) {rest : List Token}
    (hrest : ∀ t ∈ rest.head?, t.breaksBody = true) : splitBody depth rest = (none, rest) := by
  cases rest with
  | nil => rfl
  | cons t r =>
    rcases Token.eq_of_breaksBody (hrest t rfl) with rfl | rfl
    · rfl
    · rfl

/-- So it does behind tokens that do not close it. -/
lemma splitBody_append_of_isUnclosed {depth : ℕ} {read rest : List Token}
    (h : IsUnclosed depth read) (hrest : ∀ t ∈ rest.head?, t.breaksBody = true) :
    splitBody depth (read ++ rest) = (none, rest) := by
  induction read generalizing depth with
  | nil => exact splitBody_of_breaksBody depth hrest
  | cons t read ih =>
    obtain ⟨ht, hdepth, hread⟩ := isUnclosed_cons.mp h
    rcases t.isPlain_or with hplain | rfl | rfl | rfl | rfl | rfl
    · rw [Token.weight_of_isPlain hplain, Int.add_zero] at hread
      have hpass : splitBody depth (t :: (read ++ rest)) = _ :=
        Passes.of_isPlain hplain (read ++ rest)
      rw [List.cons_append, hpass, ih hread]
      rfl
    · rw [List.cons_append, splitBody, ih hread]
      rfl
    · -- what follows needs an open parenthesis fewer, so there is one
      have hpos : depth ≠ 0 := by
        rintro rfl
        exact absurd hread.staysOpen.nonneg (by decide)
      rw [← cast_pred_eq_add_weight hpos] at hread
      rw [List.cons_append, splitBody, if_neg hpos, ih hread]
      rfl
    · have hcomma : IsUnclosed depth read := (Int.add_zero (depth : ℤ)) ▸ hread
      rw [List.cons_append, splitBody]
      split_ifs with hzero
      · subst hzero
        rw [ih hcomma]
        rfl
      · rw [ih hcomma]
        rfl
    · cases ht
    · cases ht

/-- A body has no parts if and only if its statement ends before the parenthesis in front of it is
closed. What follows it then begins with the end of the statement. -/
theorem splitBody_eq_none_iff {ts rest : List Token} :
    splitBody 0 ts = (none, rest) ↔ ∃ read, ts = read ++ rest ∧ BreaksOff read rest.head? := by
  constructor
  · intro h
    have hnone := congrArg Prod.fst h
    obtain ⟨read, hts, hunbroken, hopen⟩ := exists_isUnclosed_of_splitBody hnone
    have hbreaks := breaksBody_of_splitBody_eq_none hnone
    rw [h] at hts hbreaks
    exact ⟨read, hts, hunbroken, staysOpen_iff_forall_not_isBalanced.mp hopen, hbreaks⟩
  · rintro ⟨read, rfl, hunbroken, hunmatched, hbreaks⟩
    have hopen := staysOpen_iff_forall_not_isBalanced.mpr hunmatched
    exact splitBody_append_of_isUnclosed ⟨hunbroken, hopen⟩ hbreaks

end SchemaDesigner.Script
