/-
Parentheses among tokens, and the lists of parts between them.

* `openParens`, `IsShut`: how many parentheses are open behind some tokens, and that none is;
* `IsPart`: tokens that make up one part of a list, with the parentheses in them closed;
* `Closes`: the derivation of this, on which what is read of a part is told by induction;
* `Group`: a list of parts in parentheses;
* `splitBody_eq_some_iff`: a body is split into parts exactly if it is written as their list;
* `ReadsApart`: a reader that reads some tokens as if the others did not come behind them, as the
  readers of parentheses do if these are closed.
-/
import SchemaDesigner.Proofs.Script.Endings
import SchemaDesigner.Proofs.Script.Legible

namespace SchemaDesigner.Script

/-! ### Open parentheses -/

/-- The number of parentheses that are open behind the tokens, if `depth` are open in front of them.
A closing one where none is open counts for nothing. -/
def openParens (depth : ℕ) : List Token → ℕ
  | [] => depth
  | .lparen :: r => openParens (depth + 1) r
  | .rparen :: r => openParens (depth - 1) r
  | _ :: r => openParens depth r

/-- The tokens leave no parenthesis open. -/
def IsShut (ts : List Token) : Prop :=
  openParens 0 ts = 0

instance (ts : List Token) : Decidable (IsShut ts) :=
  inferInstanceAs (Decidable (_ = _))

lemma openParens_cons_of_ne {t : Token} (h : t ≠ .lparen) (h' : t ≠ .rparen) (depth : ℕ)
    (r : List Token) : openParens depth (t :: r) = openParens depth r := by
  cases t with
  | lparen => exact absurd rfl h
  | rparen => exact absurd rfl h'
  | _ => rfl

/-- A second list of tokens starts behind what the first one leaves open. -/
lemma openParens_append (depth : ℕ) (ts us : List Token) :
    openParens depth (ts ++ us) = openParens (openParens depth ts) us := by
  fun_induction openParens depth ts with
  | case1 => rfl
  | case2 depth r ih | case3 depth r ih => exact ih
  | case4 depth t r h h' ih =>
    rw [List.cons_append, openParens_cons_of_ne h h']
    exact ih

/-- With more parentheses open in front, no fewer are open behind. -/
lemma openParens_mono {depth depth' : ℕ} (h : depth ≤ depth') (ts : List Token) :
    openParens depth ts ≤ openParens depth' ts := by
  induction ts generalizing depth depth' with
  | nil => exact h
  | cons t r ih =>
    cases t with
    | lparen => exact ih (Nat.succ_le_succ h)
    | rparen => exact ih (Nat.sub_le_sub_right h 1)
    | _ => exact ih h

namespace IsShut

variable {ts us : List Token}

/-- What is left of tokens that leave no parenthesis open leaves none open either. -/
lemma of_suffix (h : IsShut ts) (hsuffix : us <:+ ts) : IsShut us := by
  obtain ⟨read, rfl⟩ := hsuffix
  rw [IsShut, openParens_append] at h
  exact Nat.le_zero.mp ((openParens_mono (Nat.zero_le _) us).trans h.le)

/-- Behind its first token, a shut list of tokens is shut. -/
lemma tail {t : Token} (h : IsShut (t :: ts)) : IsShut ts :=
  h.of_suffix (List.suffix_cons t ts)

end IsShut

/-! ### Parts -/

/-- The tokens close `depth` parentheses and those that they open, without a comma outside of them
and without the end of a statement. -/
def isClosed (depth : ℕ) : List Token → Bool
  | [] => depth == 0
  | .keyword .create :: _ | .semicolon :: _ => false
  | .lparen :: r => isClosed (depth + 1) r
  | .rparen :: r => depth != 0 && isClosed (depth - 1) r
  | .comma :: r => depth != 0 && isClosed depth r
  | _ :: r => isClosed depth r

/-- The tokens make up one part of a list: their parentheses are closed, no comma stands outside of
these, and no statement ends or begins in them. -/
def IsPart (ts : List Token) : Prop :=
  isClosed 0 ts = true

instance (ts : List Token) : Decidable (IsPart ts) :=
  inferInstanceAs (Decidable (_ = _))

/-- The same as a derivation, token by token. -/
inductive Closes : ℕ → List Token → Prop
  | nil : Closes 0 []
  | lparen {depth : ℕ} {r : List Token} (h : Closes (depth + 1) r) : Closes depth (.lparen :: r)
  | rparen {depth : ℕ} {r : List Token} (h : Closes depth r) : Closes (depth + 1) (.rparen :: r)
  | comma {depth : ℕ} {r : List Token} (h : Closes (depth + 1) r) :
    Closes (depth + 1) (.comma :: r)
  | plain {depth : ℕ} {t : Token} {r : List Token} (ht : t.isPlain = true) (h : Closes depth r) :
    Closes depth (t :: r)

lemma Token.isPlain_of_ne {t : Token} (hcreate : t ≠ .keyword .create) (hlparen : t ≠ .lparen)
    (hrparen : t ≠ .rparen) (hcomma : t ≠ .comma) (hsemicolon : t ≠ .semicolon) :
    t.isPlain = true := by
  cases t with
  | keyword k =>
    cases k with
    | create => exact absurd rfl hcreate
    | _ => rfl
  | lparen => exact absurd rfl hlparen
  | rparen => exact absurd rfl hrparen
  | comma => exact absurd rfl hcomma
  | semicolon => exact absurd rfl hsemicolon
  | ident | str | prefixed | num | dot => rfl

lemma Token.ne_of_isPlain {t u : Token} (ht : t.isPlain = true) (hu : u.isPlain = false) :
    t ≠ u := by
  rintro rfl
  exact Bool.noConfusion (ht.symm.trans hu)

/-- What passes the check has a derivation. -/
lemma closes_of_isClosed {depth : ℕ} {ts : List Token} (h : isClosed depth ts = true) :
    Closes depth ts := by
  fun_induction isClosed depth ts with
  | case1 depth =>
    obtain rfl := beq_iff_eq.mp h
    exact .nil
  | case2 | case3 => cases h
  | case4 depth r ih => exact .lparen (ih h)
  | case5 depth r ih =>
    obtain ⟨hdepth, hr⟩ := Bool.and_eq_true_iff.mp h
    obtain ⟨depth, rfl⟩ := Nat.exists_eq_succ_of_ne_zero (bne_iff_ne.mp hdepth)
    exact .rparen (ih hr)
  | case6 depth r ih =>
    obtain ⟨hdepth, hr⟩ := Bool.and_eq_true_iff.mp h
    obtain ⟨depth, rfl⟩ := Nat.exists_eq_succ_of_ne_zero (bne_iff_ne.mp hdepth)
    exact .comma (ih hr)
  | case7 depth t r hcreate hsemicolon hlparen hrparen hcomma ih =>
    exact .plain (Token.isPlain_of_ne hcreate hlparen hrparen hcomma hsemicolon) (ih h)

lemma IsPart.closes {ts : List Token} (h : IsPart ts) : Closes 0 ts :=
  closes_of_isClosed h

lemma afterParens_cons_of_ne {t : Token} (h : t ≠ .lparen) (h' : t ≠ .rparen) (depth : ℕ)
    (r : List Token) : afterParens depth (t :: r) = afterParens depth r := by
  cases t with
  | lparen => exact absurd rfl h
  | rparen => exact absurd rfl h'
  | _ => rfl

namespace Closes

variable {depth : ℕ} {ts : List Token}

/-- Behind tokens that close `depth` parentheses, the check goes on with the others. -/
lemma isClosed_append (h : Closes depth ts) (base : ℕ) (us : List Token) :
    isClosed (base + depth) (ts ++ us) = isClosed base us := by
  induction h with
  | nil => rfl
  | lparen _ ih | rparen _ ih | comma _ ih => exact ih
  | @plain depth t r ht _ ih =>
    rw [List.cons_append, isClosed, ih]
    all_goals exact fun h => absurd h (Token.ne_of_isPlain ht rfl)

lemma openParens_eq (h : Closes depth ts) (base : ℕ) : openParens (base + depth) ts = base := by
  induction h with
  | nil => rfl
  | lparen _ ih | rparen _ ih | comma _ ih => exact ih
  | @plain depth t r ht _ ih =>
    rwa [openParens_cons_of_ne (Token.ne_of_isPlain ht rfl) (Token.ne_of_isPlain ht rfl)]

/-- Tokens that close some parentheses are passed over. -/
lemma afterParens_append (h : Closes depth ts) (base : ℕ) (rest : List Token) :
    afterParens (base + depth) (ts ++ rest) = afterParens base rest := by
  induction h with
  | nil => rfl
  | lparen _ ih | rparen _ ih | comma _ ih => exact ih
  | @plain depth t r ht _ ih =>
    rwa [List.cons_append,
      afterParens_cons_of_ne (Token.ne_of_isPlain ht rfl) (Token.ne_of_isPlain ht rfl)]

/-- They go to the front of the part in which the parentheses were opened. -/
lemma splitBody_append (h : Closes depth ts) (base : ℕ) (rest : List Token) :
    splitBody (base + depth) (ts ++ rest)
      = ((splitBody base rest).1.map (ts.foldr consPart ·), (splitBody base rest).2) := by
  induction h with
  | nil => exact Passes.nil rest
  | @lparen depth r _ ih =>
    rw [List.cons_append, splitBody, Nat.add_assoc, ih, Option.map_map]
    rfl
  | @rparen depth r _ ih =>
    rw [List.cons_append, splitBody, if_neg (by omega), ← Nat.add_assoc,
      Nat.add_sub_cancel, ih, Option.map_map]
    rfl
  | @comma depth r _ ih =>
    rw [List.cons_append, splitBody, if_neg (by omega), ih, Option.map_map]
    rfl
  | @plain depth t r ht _ ih =>
    have hfirst : Passes (base + depth) [t] := Passes.of_isPlain ht
    rw [List.cons_append, ← List.singleton_append, hfirst (r ++ rest), ih, Option.map_map]
    rfl

end Closes

namespace IsPart

variable {ts us : List Token} {t : Token}

/-- A part stays together in a body. -/
lemma passes (h : IsPart ts) (depth : ℕ) : Passes depth ts :=
  h.closes.splitBody_append depth

/-- A part leaves no parenthesis open. -/
lemma isShut (h : IsPart ts) : IsShut ts :=
  h.closes.openParens_eq 0

lemma append (h : IsPart ts) (hus : IsPart us) : IsPart (ts ++ us) :=
  (h.closes.isClosed_append 0 us).trans hus

/-- A token without a meaning for parts may stand in front of one. -/
lemma cons (ht : t.isPlain = true) (h : IsPart ts) : IsPart (t :: ts) :=
  ((Closes.plain ht .nil).isClosed_append 0 ts).trans h

lemma flatMap {α : Type} {f : α → List Token} {l : List α} (h : ∀ a ∈ l, IsPart (f a)) :
    IsPart (l.flatMap f) := by
  induction l with
  | nil => rfl
  | cons a l ih =>
    obtain ⟨ha, hl⟩ := List.forall_mem_cons.mp h
    exact ha.append (ih hl)

end IsPart

/-! ### Lists of parts -/

/-- The parts with commas between them. -/
def joined (first : List Token) (others : List (List Token)) : List Token :=
  first ++ others.flatMap fun p => .comma :: p

lemma joined_cons (first p : List Token) (ps : List (List Token)) :
    joined first (p :: ps) = first ++ .comma :: joined p ps := by
  rw [joined, joined, List.flatMap_cons, List.cons_append]

/-- What passes over parts and over commas passes over a list of parts. -/
lemma eq_of_joined {α : Type} {f : List Token → α}
    (hpart : ∀ p, IsPart p → ∀ r, f (p ++ r) = f r) (hcomma : ∀ r, f (.comma :: r) = f r)
    {first : List Token} {others : List (List Token)} (h : ∀ p ∈ first :: others, IsPart p)
    (rest : List Token) : f (joined first others ++ rest) = f rest := by
  induction others generalizing first with
  | nil =>
    rw [joined, List.flatMap_nil, List.append_nil]
    exact hpart first (h first List.mem_cons_self) rest
  | cons p ps ih =>
    rw [joined_cons, List.append_assoc, List.cons_append, hpart first (h first List.mem_cons_self),
      hcomma]
    exact ih fun q hq => h q (List.mem_cons_of_mem first hq)

/-- A list of parts is split into these. -/
lemma splitBody_joined {first : List Token} {others : List (List Token)}
    (h : ∀ p ∈ first :: others, IsPart p) (rest : List Token) :
    splitBody 0 (joined first others ++ .rparen :: rest) = (some (first :: others), rest) := by
  induction others generalizing first with
  | nil =>
    have hend : splitBody 0 (.rparen :: rest) = (some [[]], rest) := rfl
    have hfirst := (h first List.mem_cons_self).passes 0 (.rparen :: rest)
    rw [hend, Option.map_some, foldr_consPart_cons, List.append_nil] at hfirst
    rwa [joined, List.flatMap_nil, List.append_nil]
  | cons p ps ih =>
    have hnext : splitBody 0 (.comma :: (joined p ps ++ .rparen :: rest))
        = (some ([] :: p :: ps), rest) := by
      rw [splitBody, if_pos rfl, ih fun q hq => h q (List.mem_cons_of_mem first hq)]
      rfl
    rw [joined_cons, List.append_assoc, List.cons_append,
      (h first List.mem_cons_self).passes 0, hnext, Option.map_some, foldr_consPart_cons,
      List.append_nil]

/-- The tokens, without those behind them, are what is split into the parts. The first part closes
`depth` parentheses as well. -/
def IsSplitInto (depth : ℕ) (ts rest : List Token) (parts : List (List Token)) : Prop :=
  ∃ first others, parts = first :: others ∧ isClosed depth first = true
    ∧ (∀ p ∈ others, IsPart p) ∧ ts = joined first others ++ .rparen :: rest

/-- A token that does not end the first part goes to its front. -/
lemma IsSplitInto.cons {depth depth' : ℕ} {t : Token} {r rest : List Token}
    {parts : List (List Token)} (h : IsSplitInto depth' r rest parts)
    (ht : ∀ ts, isClosed depth' ts = true → isClosed depth (t :: ts) = true) :
    IsSplitInto depth (t :: r) rest (consPart t parts) := by
  obtain ⟨first, others, rfl, hfirst, hothers, rfl⟩ := h
  exact ⟨t :: first, others, rfl, ht first hfirst, hothers, rfl⟩

/-- A body that is split into parts is written as their list. -/
lemma isSplitInto_of_splitBody {depth : ℕ} {ts : List Token} {parts : List (List Token)}
    (h : (splitBody depth ts).1 = some parts) :
    IsSplitInto depth ts (splitBody depth ts).2 parts := by
  fun_induction splitBody depth ts generalizing parts with
  | case1 | case2 | case3 => cases h
  | case4 depth r ih =>
    obtain ⟨ps, hps, rfl⟩ := Option.map_eq_some_iff.mp h
    exact (ih hps).cons fun ts hts => hts
  | case5 r =>
    cases h
    exact ⟨[], [], rfl, rfl, fun p hp => absurd hp List.not_mem_nil, rfl⟩
  | case6 depth r hdepth ih =>
    obtain ⟨ps, hps, rfl⟩ := Option.map_eq_some_iff.mp h
    refine (ih hps).cons fun ts hts => ?_
    rw [isClosed, hts, Bool.and_true, bne_iff_ne]
    exact hdepth
  | case7 r ih =>
    obtain ⟨ps, hps, rfl⟩ := Option.map_eq_some_iff.mp h
    obtain ⟨first, others, rfl, hfirst, hothers, hr⟩ := ih hps
    refine ⟨[], first :: others, rfl, rfl, List.forall_mem_cons.mpr ⟨hfirst, hothers⟩, ?_⟩
    rw [joined_cons, List.nil_append, List.cons_append, ← hr]
  | case8 depth r hdepth ih =>
    obtain ⟨ps, hps, rfl⟩ := Option.map_eq_some_iff.mp h
    refine (ih hps).cons fun ts hts => ?_
    rw [isClosed, hts, Bool.and_true, bne_iff_ne]
    exact hdepth
  | case9 depth t r hcreate hsemicolon hlparen hrparen hcomma ih =>
    obtain ⟨ps, hps, rfl⟩ := Option.map_eq_some_iff.mp h
    refine (ih hps).cons fun ts hts => ?_
    rwa [isClosed]
    all_goals assumption

/-- What a body is split into are parts. -/
lemma isPart_of_splitBody {ts : List Token} {parts : List (List Token)}
    (h : (splitBody 0 ts).1 = some parts) : ∀ p ∈ parts, IsPart p := by
  obtain ⟨first, others, rfl, hfirst, hothers, -⟩ := isSplitInto_of_splitBody h
  exact List.forall_mem_cons.mpr ⟨hfirst, hothers⟩

/-- Tokens that stay together in a body are a part of one. -/
lemma Passes.isPart {ts : List Token} (h : Passes 0 ts) : IsPart ts := by
  have hend : splitBody 0 [.rparen] = (some [[]], []) := rfl
  have hparts := h [.rparen]
  rw [hend, Option.map_some, foldr_consPart_cons, List.append_nil] at hparts
  exact isPart_of_splitBody (congrArg Prod.fst hparts) ts List.mem_cons_self

/-- A body is split into parts exactly if it is written as their list. -/
theorem splitBody_eq_some_iff {ts rest first : List Token} {others : List (List Token)} :
    splitBody 0 ts = (some (first :: others), rest)
      ↔ (∀ p ∈ first :: others, IsPart p) ∧ ts = joined first others ++ .rparen :: rest := by
  constructor
  · intro h
    have hsplit := isSplitInto_of_splitBody (congrArg Prod.fst h)
    rw [h] at hsplit
    obtain ⟨_, _, hparts, hfirst, hothers, hts⟩ := hsplit
    obtain ⟨rfl, rfl⟩ := List.cons.inj hparts
    exact ⟨List.forall_mem_cons.mpr ⟨hfirst, hothers⟩, hts⟩
  · rintro ⟨hparts, rfl⟩
    exact splitBody_joined hparts rest

/-! ### Reading up to a closing parenthesis -/

/-- The reader reads some tokens as if the others did not come behind them. -/
def ReadsApart {α : Type} (read : List Token → α × List Token) (ts us : List Token) : Prop :=
  read (ts ++ us) = ((read ts).1, (read ts).2 ++ us)

section ReadsApart

variable {depth : ℕ} {ts : List Token}

lemma afterParens_append (h : openParens (depth + 1) ts = 0) (us : List Token) :
    afterParens depth (ts ++ us) = afterParens depth ts ++ us := by
  fun_induction afterParens depth ts with
  | case1 depth => cases h
  | case2 depth r ih => exact ih h
  | case3 r => rfl
  | case4 depth r hdepth ih =>
    have hopen : openParens (depth - 1 + 1) r = 0 := by
      rwa [Nat.sub_one_add_one hdepth]
    rw [List.cons_append, afterParens, if_neg hdepth, ih hopen]
  | case5 depth t r hlparen hrparen ih =>
    rw [openParens_cons_of_ne hlparen hrparen] at h
    rw [List.cons_append, afterParens_cons_of_ne hlparen hrparen, ih h]

/-- A token that is no parenthesis adds a text, maybe an empty one, to a size. -/
lemma exists_sizeText_cons {t : Token} (h : t ≠ .lparen) (h' : t ≠ .rparen) :
    ∃ s, ∀ depth r, sizeText depth (t :: r) = prependRead s (sizeText depth r) := by
  cases t with
  | lparen => exact absurd rfl h
  | rparen => exact absurd rfl h'
  | comma => exact ⟨",", fun _ _ => rfl⟩
  | num s | ident s => exact ⟨s, fun _ _ => rfl⟩
  | str s => exact ⟨literal s, fun _ _ => rfl⟩
  | keyword | prefixed | semicolon | dot =>
    refine ⟨"", fun depth r => ?_⟩
    rw [prependRead, String.empty_append]
    rfl

/-- A size ends at its own closing parenthesis. -/
lemma readsApart_sizeText (h : openParens (depth + 1) ts = 0) (us : List Token) :
    ReadsApart (sizeText depth) ts us := by
  rw [ReadsApart]
  induction ts generalizing depth with
  | nil => cases h
  | cons t r ih =>
    by_cases hlparen : t = .lparen
    · subst hlparen
      rw [List.cons_append, sizeText, ih h]
      rfl
    by_cases hrparen : t = .rparen
    · subst hrparen
      cases depth with
      | zero => rfl
      | succ depth =>
        rw [List.cons_append, sizeText, if_neg (Nat.succ_ne_zero depth), Nat.add_sub_cancel, ih h]
        rfl
    obtain ⟨s, hs⟩ := exists_sizeText_cons hlparen hrparen
    rw [openParens_cons_of_ne hlparen hrparen] at h
    rw [List.cons_append, hs, hs, ih h]
    rfl

/-- A size ends where its parentheses do. -/
lemma snd_sizeText (depth : ℕ) (ts : List Token) :
    (sizeText depth ts).2 = afterParens depth ts := by
  induction ts generalizing depth with
  | nil => rfl
  | cons t r ih =>
    by_cases hlparen : t = .lparen
    · subst hlparen
      exact ih (depth + 1)
    by_cases hrparen : t = .rparen
    · subst hrparen
      cases depth with
      | zero => rfl
      | succ depth => exact ih depth
    obtain ⟨s, hs⟩ := exists_sizeText_cons hlparen hrparen
    rw [hs, afterParens_cons_of_ne hlparen hrparen]
    exact ih depth

/-- A token that is no parenthesis adds a text, maybe an empty one, to an expression. -/
lemma exists_parenText_cons {t : Token} (h : t ≠ .lparen) (h' : t ≠ .rparen) (afterWord : Bool) :
    ∃ s b, ∀ depth r, parenText depth afterWord (t :: r) = prependRead s (parenText depth b r) := by
  by_cases hcomma : t = .comma
  · subst hcomma
    exact ⟨",", false, fun _ _ => rfl⟩
  cases hword : t.word? with
  | none =>
    refine ⟨"", afterWord, fun depth r => ?_⟩
    rw [parenText, hword, prependRead, String.empty_append]
    all_goals assumption
  | some w =>
    refine ⟨if afterWord then " " ++ w else w, true, fun depth r => ?_⟩
    rw [parenText, hword]
    all_goals assumption

/-- So does what stands in the parentheses of a default. -/
lemma readsApart_parenText (h : openParens (depth + 1) ts = 0) (afterWord : Bool)
    (us : List Token) : ReadsApart (parenText (depth + 1) afterWord) ts us := by
  rw [ReadsApart]
  induction ts generalizing depth afterWord with
  | nil => cases h
  | cons t r ih =>
    by_cases hlparen : t = .lparen
    · subst hlparen
      rw [List.cons_append, parenText, ih h]
      rfl
    by_cases hrparen : t = .rparen
    · subst hrparen
      cases depth with
      | zero => rfl
      | succ depth =>
        rw [List.cons_append, parenText, if_neg (by omega), Nat.add_sub_cancel, ih h]
        rfl
    obtain ⟨s, b, hs⟩ := exists_parenText_cons hlparen hrparen afterWord
    rw [openParens_cons_of_ne hlparen hrparen] at h
    rw [List.cons_append, hs, hs, ih h]
    rfl

/-- An expression ends where its parentheses do. -/
lemma snd_parenText (depth : ℕ) (afterWord : Bool) (ts : List Token) :
    (parenText (depth + 1) afterWord ts).2 = afterParens depth ts := by
  induction ts generalizing depth afterWord with
  | nil => rfl
  | cons t r ih =>
    by_cases hlparen : t = .lparen
    · subst hlparen
      exact ih (depth + 1) false
    by_cases hrparen : t = .rparen
    · subst hrparen
      cases depth with
      | zero => rfl
      | succ depth =>
        rw [parenText, if_neg (by omega)]
        exact ih depth false
    obtain ⟨s, b, hs⟩ := exists_parenText_cons hlparen hrparen afterWord
    rw [hs, afterParens_cons_of_ne hlparen hrparen]
    exact ih depth b

/-- A list of columns is read up to the first closing parenthesis, whichever it closes. -/
lemma readsApart_readIdents (h : openParens (depth + 1) ts = 0) (us : List Token) :
    ReadsApart readIdents ts us := by
  rw [ReadsApart]
  fun_induction readIdents ts generalizing depth with
  | case1 => cases h
  | case2 r => rfl
  | case3 name r ih =>
    rw [List.cons_append, readIdents, ih h]
  | case4 t r hrparen hident ih =>
    have hrest : readIdents (r ++ us) = ((readIdents r).1, (readIdents r).2 ++ us) := by
      by_cases hlparen : t = .lparen
      · subst hlparen
        exact ih h
      · rw [openParens_cons_of_ne hlparen hrparen] at h
        exact ih h
    rw [List.cons_append, readIdents, hrest]
    all_goals assumption

end ReadsApart

/-! ### Groups -/

/-- A list of parts in parentheses. -/
structure Group where
  first : List Token
  others : List (List Token)
  isPart : ∀ p ∈ first :: others, IsPart p

namespace Group

variable (g : Group)

/-- The parts of the list. -/
def parts : List (List Token) :=
  g.first :: g.others

/-- The tokens behind the opening parenthesis. -/
def inside : List Token :=
  joined g.first g.others ++ [.rparen]

/-- The tokens of the list with its parentheses. -/
def tokens : List Token :=
  .lparen :: g.inside

/-- A group is split into its parts. -/
lemma splitBody_inside (rest : List Token) :
    splitBody 0 (g.inside ++ rest) = (some g.parts, rest) := by
  rw [inside, List.append_assoc]
  exact splitBody_joined g.isPart rest

lemma isPart_tokens : IsPart g.tokens :=
  eq_of_joined (f := isClosed 1) (fun _ hp => hp.closes.isClosed_append 1) (fun _ => rfl) g.isPart
    [.rparen]

lemma afterParens_inside (rest : List Token) : afterParens 0 (g.inside ++ rest) = rest := by
  rw [inside, List.append_assoc]
  exact eq_of_joined (f := afterParens 0) (fun _ hp => hp.closes.afterParens_append 0)
    (fun _ => rfl) g.isPart (.rparen :: rest)

lemma openParens_inside (depth : ℕ) : openParens (depth + 1) g.inside = depth :=
  g.isPart_tokens.closes.openParens_eq depth

lemma sizeText_inside (rest : List Token) :
    sizeText 0 (g.inside ++ rest) = ((sizeText 0 g.inside).1, rest) := by
  have hend := g.afterParens_inside []
  rw [List.append_nil, ← snd_sizeText] at hend
  rw [readsApart_sizeText (g.openParens_inside 0), hend, List.nil_append]

/-- The text of a group does not depend on what follows. -/
lemma parenText_tokens (rest : List Token) :
    parenText 0 false (g.tokens ++ rest) = ((parenText 0 false g.tokens).1, rest) := by
  have hend := g.afterParens_inside []
  rw [List.append_nil, ← snd_parenText 0 false] at hend
  rw [tokens, List.cons_append, parenText, parenText,
    readsApart_parenText (g.openParens_inside 0), hend, List.nil_append]
  rfl

end Group

end SchemaDesigner.Script
