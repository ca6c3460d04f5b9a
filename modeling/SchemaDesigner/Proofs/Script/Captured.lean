/-
Defaults of scripts without backslashes and delimited names: they are kept as they are, wherever
they are put.

* `outside`, `IsUndelimited`: the characters outside of literals and comments, and texts that have
  no delimiters of names among these;
* `IsUndelimited.hasOperands_scan`: the words of such a text are operands of expressions;
* `exists_isExpression`: parentheses are written again as an expression;
* `isPlainDefault_of_mem_tablesOf`, `isPlainDefault_of_mem_parse`: so each default of such a script
  is an operand, a call or an expression in parentheses;
* `WrittenPlace.keeps_of_mem_parse`: put in another place, it is the default there.
-/
import SchemaDesigner.Proofs.Script.Origin
import SchemaDesigner.Proofs.Script.Placement

namespace SchemaDesigner.Script

/-! ### Characters outside of literals and comments -/

/-- The characters of a text outside of its literals and comments. -/
def outside : List Char → List Char
  | [] => []
  | c :: r =>
    if c = '\'' then outside (readLiteral r).2
    else if c = '#' || (c = '-' && r.head? = some '-') then outside (afterLine r)
    else if c = '/' && r.head? = some '*' then outside (afterBlock r.tail)
    else c :: outside r
termination_by cs => cs.length
decreasing_by
  · exact Nat.lt_succ_of_le (length_readLiteral_le r)
  · exact Nat.lt_succ_of_le (length_afterLine_le r)
  · exact Nat.lt_succ_of_le ((length_afterBlock_le _).trans (by simp))
  · exact Nat.lt_succ_self _

/-- The characters that begin no literal and no comment. -/
def beginsNothing (c : Char) : Bool :=
  c != '\'' && c != '#' && c != '-' && c != '/'

lemma outside_cons_of_plain {c : Char} (h : beginsNothing c = true) (r : List Char) :
    outside (c :: r) = c :: outside r := by
  simp only [beginsNothing, Bool.and_eq_true, bne_iff_ne, ne_eq] at h
  rw [outside, if_neg h.1.1.1, if_neg (by simp [h.1.1.2, h.1.2]), if_neg (by simp [h.2])]

lemma outside_append {cs : List Char} (h : ∀ c ∈ cs, beginsNothing c = true) (r : List Char) :
    outside (cs ++ r) = cs ++ outside r := by
  induction cs with
  | nil => rfl
  | cons c cs ih =>
    obtain ⟨hc, hcs⟩ := List.forall_mem_cons.mp h
    rw [List.cons_append, outside_cons_of_plain hc, ih hcs, List.cons_append]

lemma beginsNothing_of_isBlank {c : Char} (h : Text.isBlank c = true) : beginsNothing c = true :=
  forall_break (P := fun c => beginsNothing c = true) (by decide) (by simp [isBreak, h])

lemma beginsNothing_of_continuesWord {c : Char} (h : continuesWord c = true) :
    beginsNothing c = true := by
  have hne : ∀ d, continuesWord d = false → c ≠ d := by
    rintro d hd rfl
    exact Bool.noConfusion (hd.symm.trans h)
  simp [beginsNothing, hne '\'' (by decide), hne '#' (by decide), hne '-' (by decide),
    hne '/' (by decide)]

lemma beginsNothing_of_isDecimal {seen : Bool} {cs : List Char} (h : isDecimal seen cs = true) :
    ∀ c ∈ cs, beginsNothing c = true := by
  fun_induction isDecimal seen cs with
  | case1 => exact fun c hc => absurd hc List.not_mem_nil
  | case2 seen c r hdigit ih =>
    have hc := forall_digit (P := fun c => beginsNothing c = true) (by decide) hdigit
    exact List.forall_mem_cons.mpr ⟨hc, ih h⟩
  | case3 seen c r hdigit ih =>
    simp only [Bool.and_eq_true, beq_iff_eq] at h
    obtain ⟨⟨rfl, -⟩, hr⟩ := h
    exact List.forall_mem_cons.mpr ⟨rfl, ih hr⟩

lemma readNumber_append_self (seen : Bool) (cs : List Char) :
    (readNumber seen cs).1 ++ (readNumber seen cs).2 = cs := by
  fun_induction readNumber seen cs <;> simp_all

lemma isDecimal_readNumber (seen : Bool) (cs : List Char) :
    isDecimal seen (readNumber seen cs).1 = true := by
  fun_induction readNumber seen cs <;> simp_all [isDecimal]

lemma outside_readNumber (cs : List Char) : outside (readNumber false cs).2 ⊆ outside cs := by
  have hdigits := beginsNothing_of_isDecimal (isDecimal_readNumber false cs)
  have happend := outside_append hdigits (readNumber false cs).2
  rw [readNumber_append_self] at happend
  rw [happend]
  exact List.subset_append_right _ _

lemma outside_wordToken (w : String) (cs : List Char) :
    outside (wordToken w cs).2 ⊆ outside cs := by
  rw [wordToken.eq_def]
  split
  · exact List.Subset.refl _
  · split
    · rw [outside, if_pos rfl]
      exact List.Subset.refl _
    · exact List.Subset.refl _

lemma outside_dropWhile (cs : List Char) : outside (cs.dropWhile continuesWord) ⊆ outside cs := by
  have hword : ∀ c ∈ cs.takeWhile continuesWord, beginsNothing c = true := fun c hc =>
    beginsNothing_of_continuesWord (List.mem_takeWhile_imp hc)
  have happend := outside_append hword (cs.dropWhile continuesWord)
  rw [List.takeWhile_append_dropWhile] at happend
  rw [happend]
  exact List.subset_append_right _ _

/-- A token and a comment take away whole literals and comments only, unless a delimiter begins the
token. -/
lemma outside_next {c : Char} (hc : closing? c = none) (r : List Char) :
    outside (next c r).2 ⊆ outside (c :: r) := by
  by_cases hquote : c = '\''
  · subst hquote
    rw [next_quote, outside, if_pos rfl]
    exact List.Subset.refl _
  rw [outside, if_neg hquote, next.eq_def]
  split
  · rename_i hblank
    have hplain := outside_cons_of_plain (beginsNothing_of_isBlank hblank) r
    rw [outside, if_neg hquote] at hplain
    rw [hplain]
    exact List.subset_cons_self _ _
  split
  · exact List.Subset.refl _
  split
  · exact List.Subset.refl _
  split
  · exact List.subset_cons_self _ _
  · rename_i hclosing
    cases hc.symm.trans hclosing
  · split
    · exact List.subset_cons_of_subset _ (outside_readNumber r)
    split
    · exact List.subset_cons_of_subset _ (List.Subset.trans (outside_wordToken _ _)
        (outside_dropWhile r))
    · exact List.subset_cons_self _ _

/-- The text has no backslashes, and no delimiters of names outside of its literals and comments. -/
structure IsUndelimited (cs : List Char) : Prop where
  noBackslash : '\\' ∉ cs
  noDelimiter : ∀ c ∈ outside cs, closing? c = none

namespace IsUndelimited

variable {c : Char} {r rest : List Char} {o : Option Token} {t : Token}

lemma closing?_eq_none (h : IsUndelimited (c :: r)) : closing? c = none := by
  by_cases hplain : beginsNothing c = true
  · refine h.noDelimiter c ?_
    rw [outside_cons_of_plain hplain]
    exact List.mem_cons_self
  · have hc : c = '\'' ∨ c = '#' ∨ c = '-' ∨ c = '/' := by
      simpa [beginsNothing, or_assoc, imp_iff_not_or] using hplain
    rcases hc with rfl | rfl | rfl | rfl <;> rfl

/-- What follows a token of such a text is such a text. -/
lemma of_next (h : IsUndelimited (c :: r)) (hnext : next c r = (o, rest)) : IsUndelimited rest := by
  have hsuffix := next_suffix c r
  have houtside := outside_next h.closing?_eq_none r
  rw [hnext] at hsuffix houtside
  exact ⟨fun hmem => h.noBackslash (List.mem_cons_of_mem c (hsuffix.subset hmem)),
    fun d hd => h.noDelimiter d (houtside hd)⟩

end IsUndelimited

/-! ### Words -/

lemma readLiteral_subset (cs : List Char) : (readLiteral cs).1 ⊆ cs := by
  fun_induction readLiteral cs with
  | case1 | case3 => exact List.nil_subset _
  | case2 r ih => exact List.cons_subset_cons _ (List.subset_cons_of_subset _ ih)
  | case4 c r ih => exact List.cons_subset_cons _ (List.cons_subset_cons _ ih)
  | case5 c r hquotes hquote hslash ih => exact List.cons_subset_cons _ ih

/-- A literal without backslashes is written again as it was. -/
lemma isLiteral_readLiteral {cs : List Char} (h : '\\' ∉ cs) :
    isLiteral (String.ofList (readLiteral cs).1).toList = true := by
  rw [String.toList_ofList]
  refine isLiteral_of_forall_ne ?_
  rintro c hc rfl
  exact h (readLiteral_subset cs hc)

lemma isNumber_readNumber {c : Char} {r : List Char}
    (h : (c.isDigit || ((c = '-' || c = '+') && r.head?.any Char.isDigit)) = true) :
    isNumber (String.ofList (c :: (readNumber false r).1)) = true := by
  have hhead : r.head?.any Char.isDigit = true →
      (readNumber false r).1.head?.any Char.isDigit = true := by
    cases r with
    | nil => exact id
    | cons d r =>
      intro hd
      have hdigit : d.isDigit = true := hd
      rw [readNumber, if_pos hdigit]
      exact hdigit
  rw [isNumber, String.toList_ofList]
  simp only [isDecimal_readNumber, Bool.and_true, Bool.or_eq_true, Bool.and_eq_true, beq_iff_eq,
    decide_eq_true_eq] at h ⊢
  exact h.imp id fun hsign => ⟨hsign.1, hhead hsign.2⟩

lemma isWord_takeWhile {c : Char} (h : beginsWord c = true) (r : List Char) :
    isWord (String.ofList (c :: r.takeWhile continuesWord)) = true := by
  rw [isWord, String.toList_ofList]
  simp [h]

/-- The words among the tokens are operands. -/
def HasOperands (ts : List Token) : Prop :=
  ∀ t ∈ ts, ∀ w, t.word? = some w → IsOperand w t

/-- The token is an operand, or it has no written form in an expression. -/
def Token.isOperand : Token → Bool
  | .ident w => decide (IsBareWord w)
  | .num s => isNumber s
  | .str s => isLiteral s.toList
  | .prefixed w s => decide (IsBareWord w) && isLiteral s.toList
  | _ => true

/-- The check of a token says what it is meant to say. -/
lemma isOperand_iff {t : Token} :
    t.isOperand = true ↔ ∀ w, t.word? = some w → IsOperand w t := by
  constructor
  · rintro h w hw
    cases t with
    | ident name =>
      obtain rfl := Option.some.inj hw
      exact .word (of_decide_eq_true h)
    | num digits =>
      obtain rfl := Option.some.inj hw
      exact .number h
    | str text =>
      obtain rfl := Option.some.inj hw
      exact .literal h
    | prefixed word text =>
      obtain rfl := Option.some.inj hw
      obtain ⟨hword, htext⟩ := Bool.and_eq_true_iff.mp h
      exact .prefixed (of_decide_eq_true hword) htext
    | keyword k =>
      cases k with
      | null =>
        obtain rfl := Option.some.inj hw
        exact .null
      | _ => cases hw
    | lparen | rparen | comma | semicolon | dot => cases hw
  · intro h
    cases hword : t.word? with
    | some w =>
      cases h w hword with
      | word hbare => exact decide_eq_true hbare
      | number hnumber => exact hnumber
      | literal hliteral => exact hliteral
      | prefixed hbare hliteral =>
        rw [Token.isOperand, hliteral, Bool.and_true]
        exact decide_eq_true hbare
      | null => rfl
    | none =>
      cases t with
      | ident | num | str | prefixed => cases hword
      | keyword | lparen | rparen | comma | semicolon | dot => rfl

instance (ts : List Token) : Decidable (HasOperands ts) :=
  decidable_of_iff (∀ t ∈ ts, t.isOperand = true) (forall₂_congr fun _ _ => isOperand_iff)

lemma HasOperands.of_subset {ts us : List Token} (h : HasOperands ts) (hus : us ⊆ ts) :
    HasOperands us :=
  fun t ht => h t (hus ht)

/-- The words of a text without delimiters are operands. -/
lemma IsUndelimited.isOperand {c : Char} {r rest : List Char} {t : Token}
    (h : IsUndelimited (c :: r)) (hnext : next c r = (some t, rest)) {w : String}
    (hw : t.word? = some w) : IsOperand w t := by
  have hslash : '\\' ∉ r := fun hmem => h.noBackslash (List.mem_cons_of_mem c hmem)
  obtain ⟨-, hsymbol | ⟨close, hclose, -⟩ | rfl | ⟨hnumber, rfl⟩ | ⟨hbegins, ht⟩⟩ :=
    next_cases hnext
  · have hnone : ∀ t ∈ [Token.lparen, .rparen, .comma, .semicolon, .dot], t.word? = none := by
      decide
    rw [hnone t (eq_of_symbol? hsymbol)] at hw
    cases hw
  · cases h.closing?_eq_none.symm.trans hclose
  · obtain rfl := Option.some.inj hw
    exact .literal (isLiteral_readLiteral hslash)
  · obtain rfl := Option.some.inj hw
    exact .number (isNumber_readNumber hnumber)
  · have hword := isWord_takeWhile hbegins r
    rw [wordToken.eq_def] at ht
    split at ht
    · rename_i k hk
      subst ht
      cases k with
      | null =>
        obtain rfl := Option.some.inj hw
        exact .null
      | _ => cases hw
    · rename_i hk
      split at ht
      · rename_i r' hr'
        subst ht
        obtain rfl := Option.some.inj hw
        refine .prefixed ⟨hword, hk⟩ (isLiteral_readLiteral fun hmem => hslash ?_)
        have hsuffix := List.dropWhile_suffix continuesWord (l := r)
        rw [hr'] at hsuffix
        exact hsuffix.subset (List.mem_cons_of_mem _ hmem)
      · subst ht
        obtain rfl := Option.some.inj hw
        exact .word ⟨hword, hk⟩

/-- So are all words of such a text. -/
lemma IsUndelimited.hasOperands_scan {cs : List Char} (h : IsUndelimited cs) :
    HasOperands (scan cs) :=
  forall_mem_scan_of_step (fun _ _ _ _ hcs hnext => hcs.of_next hnext)
    (fun _ _ _ _ hcs hnext _ hw => hcs.isOperand hnext hw) h

/-! ### Expressions -/

/-- Behind more parentheses is what is behind the first ones and then behind the others. -/
lemma afterParens_afterParens (depth k : ℕ) (ts : List Token) :
    afterParens depth (afterParens k ts) = afterParens (depth + k + 1) ts := by
  fun_induction afterParens k ts with
  | case1 => rfl
  | case2 k r ih => exact ih
  | case3 r => rfl
  | case4 k r hk ih =>
    rw [ih, afterParens, if_neg (by omega)]
    congr 1
    omega
  | case5 k t r hlparen hrparen ih => rw [ih, afterParens_cons_of_ne hlparen hrparen]

lemma openParens_afterParens {depth k : ℕ} {ts : List Token}
    (h : openParens (depth + k + 1) ts = 0) : openParens depth (afterParens k ts) = 0 := by
  fun_induction afterParens k ts with
  | case1 => cases h
  | case2 k r ih => exact ih h
  | case3 r => exact h
  | case4 k r hk ih =>
    have hpred : depth + k + 1 - 1 = depth + (k - 1) + 1 := by omega
    rw [openParens, hpred] at h
    exact ih h
  | case5 k t r hlparen hrparen ih =>
    rw [openParens_cons_of_ne hlparen hrparen] at h
    exact ih h

/-- A parenthesis is written with what is in it and with what is behind it. -/
lemma parenText_lparen_eq {depth : ℕ} {r : List Token} {s s' : String}
    (hinner : parenText (depth + 2) false r
      = prependRead s (parenText (depth + 2) false (.rparen :: afterParens 0 r)))
    (hrest : parenText (depth + 1) false (afterParens 0 r)
      = prependRead s' (parenText (depth + 1) false (.rparen :: afterParens 1 r))) (b : Bool) :
    parenText (depth + 1) b (.lparen :: r) = prependRead ("(" ++ (s ++ (")" ++ s')))
      (parenText (depth + 1) false (.rparen :: afterParens 1 r)) := by
  have hclose : parenText (depth + 2) false (.rparen :: afterParens 0 r)
      = prependRead ")" (parenText (depth + 1) false (afterParens 0 r)) := by
    rw [parenText, if_neg (by omega)]
    rfl
  calc parenText (depth + 1) b (.lparen :: r)
      = prependRead "(" (parenText (depth + 2) false r) := rfl
    _ = prependRead "(" (prependRead s (prependRead ")" (prependRead s'
        (parenText (depth + 1) false (.rparen :: afterParens 1 r))))) := by
      rw [hinner, hclose, hrest]
    _ = prependRead ("(" ++ (s ++ (")" ++ s')))
        (parenText (depth + 1) false (.rparen :: afterParens 1 r)) := by
      simp only [IsExpression.prependRead_prependRead]

/-- Up to the parenthesis that closes the last open one, tokens are written as an expression. -/
lemma exists_isExpression {depth : ℕ} {ts : List Token} (hts : HasOperands ts)
    (hopen : openParens (depth + 1) ts = 0) (b : Bool) :
    ∃ s us, IsExpression b s us ∧ parenText (depth + 1) b ts
      = prependRead s (parenText (depth + 1) false (.rparen :: afterParens 0 ts)) := by
  -- by their number, as what is behind the end of inner parentheses is no part of what is in them
  induction hlength : ts.length using Nat.strong_induction_on generalizing depth ts b with
  | _ n ih =>
    cases ts with
    | nil => cases hopen
    | cons t r =>
      have hr : HasOperands r := (List.forall_mem_cons.mp hts).2
      have hlt : r.length < n := hlength ▸ Nat.lt_succ_self _
      by_cases hlparen : t = .lparen
      · subst hlparen
        obtain ⟨s, us, hs, hinner⟩ := ih _ hlt hr hopen false rfl
        obtain ⟨s', us', hs', hrest⟩ := ih (afterParens 0 r).length
          ((length_afterParens_le 0 r).trans_lt hlt) (hr.of_subset (afterParens_suffix 0 r).subset)
          (openParens_afterParens hopen) false rfl
        rw [afterParens_afterParens] at hrest
        exact ⟨_, _, .paren hs hs', parenText_lparen_eq hinner hrest b⟩
      by_cases hrparen : t = .rparen
      · subst hrparen
        refine ⟨"", [], .nil, ?_⟩
        rw [prependRead, String.empty_append]
        rfl
      rw [openParens_cons_of_ne hlparen hrparen] at hopen
      rw [afterParens_cons_of_ne hlparen hrparen]
      by_cases hcomma : t = .comma
      · subst hcomma
        obtain ⟨s, us, hs, htext⟩ := ih _ hlt hr hopen false rfl
        refine ⟨"," ++ s, .comma :: us, .comma hs, ?_⟩
        rw [← IsExpression.prependRead_prependRead, ← htext]
        rfl
      cases hword : t.word? with
      | some w =>
        obtain ⟨s, us, hs, htext⟩ := ih _ hlt hr hopen true rfl
        have hoperand := hts t List.mem_cons_self w hword
        refine ⟨_, _, .operand hoperand hs, ?_⟩
        rw [IsExpression.parenText_operand hoperand, htext, IsExpression.prependRead_prependRead]
      | none =>
        obtain ⟨s, us, hs, htext⟩ := ih _ hlt hr hopen b rfl
        refine ⟨s, us, hs, ?_⟩
        rw [← htext, parenText, hword]
        all_goals assumption

/-- Parentheses that are closed are written as an expression in parentheses. -/
lemma exists_isExpression_paren {r : List Token} (hr : HasOperands r) (hopen : openParens 1 r = 0) :
    ∃ s us, IsExpression false s us ∧ (parenText 0 false (.lparen :: r)).1 = "(" ++ (s ++ ")") := by
  obtain ⟨s, us, hs, htext⟩ := exists_isExpression hr hopen false
  refine ⟨s, us, hs, ?_⟩
  rw [parenText, htext]
  rfl

/-! ### Defaults -/

/-- What is read as a default is an operand, a call or an expression in parentheses. -/
lemma isPlainDefault_of_readDefault {ts : List Token} {v : String} (hts : HasOperands ts)
    (hshut : IsShut ts) (h : (readDefault ts).1 = some v) : IsPlainDefault v := by
  rw [readDefault.eq_def] at h
  split at h
  case h_5 w r =>
    obtain ⟨hw, hr⟩ := List.forall_mem_cons.mp hts
    obtain ⟨s, us, hs, htext⟩ := exists_isExpression_paren (List.forall_mem_cons.mp hr).2 hshut
    obtain rfl := Option.some.inj h
    rw [htext]
    cases hw w rfl with
    | word hword => exact .call hword hs
  case h_7 r =>
    obtain ⟨s, us, hs, htext⟩ := exists_isExpression_paren (List.forall_mem_cons.mp hts).2 hshut
    obtain rfl := Option.some.inj h
    rw [htext]
    exact .paren hs
  case h_8 => cases h
  all_goals
    obtain rfl := Option.some.inj h
    exact .operand (hts _ List.mem_cons_self _ rfl)

lemma readDefault_of_readOption {t : Token} {r : List Token} {v : Option String}
    (h : (readOption t r).1 = some (.default v)) : (readDefault r).1 = v := by
  rw [readOption.eq_def] at h
  split at h
  case h_4 => exact ColumnOption.default.inj (Option.some.inj h)
  case h_6 =>
    obtain ⟨ref, -, hdefault⟩ := Option.map_eq_some_iff.mp h
    cases hdefault
  case h_2 | h_8 => split at h <;> cases h
  all_goals cases h

lemma isPlainDefault_of_mem_readOptions {ts : List Token} {v : String} (hts : HasOperands ts)
    (hshut : IsShut ts) (h : .default (some v) ∈ readOptions ts) : IsPlainDefault v := by
  refine forall_mem_readOptions (P := fun o => o = .default (some v) → IsPlainDefault v)
    (fun t r o hsuffix hread ho => ?_) _ h rfl
  subst ho
  have hr : r <:+ ts := (List.suffix_cons t r).trans hsuffix
  exact isPlainDefault_of_readDefault (hts.of_subset hr.subset) (hshut.of_suffix hr)
    (readDefault_of_readOption hread)

lemma isPlainDefault_of_readColumn? {ts : List Token} {c : ColumnDef} {v : String}
    (hts : HasOperands ts) (hshut : IsShut ts) (hc : readColumn? ts = some c)
    (hv : c.defaultValue = some v) : IsPlainDefault v := by
  obtain ⟨name, first, r, rfl⟩ := exists_of_readColumn? hc
  have hrest : (readSize (readType first r).2.2).2 <:+ .ident name :: .ident first :: r :=
    (((readSize_suffix _).trans (readType_suffix first r)).trans (List.suffix_cons _ r)).trans
      (List.suffix_cons _ _)
  rw [readColumn?_cons] at hc
  obtain rfl := Option.some.inj hc
  rw [defaultValue_foldl_apply] at hv
  rcases mem_of_lastDefault hv with hnone | hmem
  · cases hnone
  · exact isPlainDefault_of_mem_readOptions (hts.of_subset hrest.subset) (hshut.of_suffix hrest)
      hmem

/-- The defaults of tables whose tokens have operands as words are operands, calls and expressions
in parentheses. -/
lemma isPlainDefault_of_mem_tablesOf {ts : List Token} (h : HasOperands ts) {t : TableDef}
    (ht : t ∈ tablesOf ts) : ∀ c ∈ t.columns, ∀ v ∈ c.defaultValue, IsPlainDefault v := by
  refine forall_mem_definitions (P := fun t => ∀ c ∈ t.columns, ∀ v ∈ c.defaultValue,
    IsPlainDefault v) ?_ t (mem_of_mem_keepFirst t ht)
  intro name body parts t hbody hparts ht
  refine forall_mem_columns_of_tableOf? ht (fun c hc v hv => ?_) (fun c b _ hc => hc)
    (fun c b hc => ?_) (fun c hc => hc) fun column r _ c hc => hc
  · obtain ⟨p, hp, hread⟩ := exists_readColumn?_of_mem_columnsOf hc
    have hsuffix := dropConstraintName_suffix p
    have hoperands : HasOperands (dropConstraintName p) :=
      h.of_subset (List.Subset.trans hsuffix.subset (subset_of_mem_splitBody hbody hparts p hp))
    have hshut := (isPart_of_splitBody hparts p hp).isShut.of_suffix hsuffix
    exact isPlainDefault_of_readColumn? hoperands hshut hread hv
  · cases b <;> exact hc

/-- So are those of a script without backslashes and delimited names. -/
lemma isPlainDefault_of_mem_parse {s : String} (h : IsUndelimited s.toList) {t : TableDef}
    (ht : t ∈ parse s) : ∀ c ∈ t.columns, ∀ v ∈ c.defaultValue, IsPlainDefault v :=
  isPlainDefault_of_mem_tablesOf h.hasOperands_scan ht

/-! ### In another place -/

namespace WrittenPlace

variable (p : WrittenPlace)

/-- What is read back where it stands as a default is kept in any place. -/
lemma keeps_of_isLegibleDefault {v : String} (h : IsLegibleDefault v) :
    p.Keeps (parse (p.script v)) (some v) := by
  obtain ⟨ts, hreads, hpasses, hdefault⟩ := h
  have hnil : ts ≠ [] := by
    rintro rfl
    cases hdefault
  refine p.keeps_script hreads hpasses.isPart fun rest hrest => readOptions_cons_of_some ?_
  have happend := readsApart_readDefault hpasses.isPart.isShut (head?_ne_lparen hrest)
    (fun hts => absurd hts hnil)
  rw [readOption, happend, hdefault]
  rfl

/-- A default of a script without backslashes and delimited names is kept as it is, wherever it is
put as a default. -/
theorem keeps_of_mem_parse {s : String} (h : IsUndelimited s.toList) {t : TableDef}
    (ht : t ∈ parse s) {c : ColumnDef} (hc : c ∈ t.columns) {v : String}
    (hv : c.defaultValue = some v) : p.Keeps (parse (p.script v)) (some v) :=
  p.keeps_of_isLegibleDefault (isPlainDefault_of_mem_parse h ht c hc v hv).legible

end WrittenPlace

/-- A call with parentheses, literals, signs and a dot in it, and keywords and operators that are
dropped. A delimiter stands in a literal, and one in a comment. -/
def capturedScript : String :=
  "create table u (a text default f( 1 , (x not 'it''s \"' + y) -2, n'b' . 5/*[*/));"

/-- The default in it, as it is kept. -/
def capturedDefault : String :=
  "f(1,(x 'it''s \"' y)-2,n'b' 5)"

/-- The delimiters in the literal and in the comment do not count. -/
lemma isUndelimited_capturedScript : IsUndelimited capturedScript.toList where
  noBackslash := by decide
  noDelimiter := by
    have houtside : (outside capturedScript.toList).all (fun c => (closing? c).isNone) = true := by
      decide +kernel
    exact fun c hc => Option.isNone_iff_eq_none.mp (List.all_eq_true.mp houtside c hc)

/-- What is kept has no blanks but those between operands. -/
lemma parse_capturedScript : parse capturedScript
    = [⟨"u", [{ name := "a", type := .text, defaultValue := some capturedDefault }]⟩] := by
  decide +kernel

/-- In another place it is kept once more as it is. -/
theorem keeps_capturedDefault :
    samplePlace.Keeps (parse (samplePlace.script capturedDefault)) (some capturedDefault) := by
  have ht : ⟨"u", [{ name := "a", type := .text, defaultValue := some capturedDefault }]⟩
      ∈ parse capturedScript := by
    rw [parse_capturedScript]
    exact List.mem_singleton_self _
  exact samplePlace.keeps_of_mem_parse isUndelimited_capturedScript ht (List.mem_singleton_self _)
    rfl

end SchemaDesigner.Script
