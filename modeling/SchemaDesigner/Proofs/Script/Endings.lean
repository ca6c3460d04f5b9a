/-
What follows is an ending of what was there: no reader of characters or tokens makes up any.

* `next_suffix`: what follows a token of a text is an ending of the text;
* `forall_mem_scan_of_step`, `forall_mem_scan`: what holds of the token with which an ending begins
  holds of all tokens;
* `readName_suffix`, `readReference_suffix`, `readOption_suffix`, …: what follows a phrase is an
  ending of the tokens;
* `forall_mem_readOptions`: what holds of the option with which an ending begins holds of all
  options;
* `forall_mem_splitBody`: the parts of a body have the tokens of the body;
* `readCreate_suffix`: what follows a definition is an ending of the tokens.
-/
import Mathlib.Tactic.Common
import SchemaDesigner.Script.Definition

namespace SchemaDesigner.Script

open Text

/-! ### Characters -/

/-- What follows a line comment is an ending of the text. -/
lemma afterLine_suffix (cs : List Char) : afterLine cs <:+ cs := by
  fun_induction afterLine cs <;> simp_all [List.suffix_cons_iff]

/-- So is what follows a block comment, be it closed or not. -/
lemma afterBlock_suffix (cs : List Char) : afterBlock cs <:+ cs := by
  fun_induction afterBlock cs <;> simp_all [List.suffix_cons_iff]

/-- A literal takes away a beginning of the text, whether its closing quote is found or not. -/
lemma readLiteral_suffix (cs : List Char) : (readLiteral cs).2 <:+ cs := by
  fun_induction readLiteral cs <;> simp_all [List.suffix_cons_iff]

lemma readNumber_suffix (seen : Bool) (cs : List Char) : (readNumber seen cs).2 <:+ cs := by
  fun_induction readNumber seen cs <;> simp_all [List.suffix_cons_iff]

/-- So does a name between delimiters. -/
lemma readDelimited_suffix (close : Char) (cs : List Char) :
    (readDelimited close cs).2 <:+ cs := by
  fun_induction readDelimited close cs <;> simp_all [List.suffix_cons_iff]

/-- A word that is a prefix takes the literal behind it along, and other words take nothing more. -/
lemma wordToken_suffix (word : String) (rest : List Char) :
    (wordToken word rest).2 <:+ rest := by
  rw [wordToken.eq_def]
  split
  · exact List.suffix_rfl
  · split
    · exact (readLiteral_suffix _).trans (List.suffix_cons _ _)
    · exact List.suffix_rfl

/-- What follows the first token, or what stands in its place, is an ending of the text. -/
lemma next_suffix (c : Char) (r : List Char) : (next c r).2 <:+ r := by
  rw [next.eq_def]
  split
  · exact List.suffix_rfl
  split
  · exact afterLine_suffix r
  split
  · exact (afterBlock_suffix _).trans (List.tail_suffix r)
  split
  · exact List.suffix_rfl
  · exact readDelimited_suffix _ r
  · split
    · exact readLiteral_suffix r
    split
    · exact readNumber_suffix false r
    split
    · exact (wordToken_suffix _ _).trans (List.dropWhile_suffix _)
    · exact List.suffix_rfl

/-- What the rest of a text keeps holds wherever a token begins. -/
lemma forall_mem_scan_of_step {Q : List Char → Prop} {P : Token → Prop} {cs : List Char}
    (hstep : ∀ c r o rest, Q (c :: r) → next c r = (o, rest) → Q rest)
    (htoken : ∀ c r t rest, Q (c :: r) → next c r = (some t, rest) → P t) (h : Q cs) :
    ∀ t ∈ scan cs, P t := by
  fun_induction scan cs with
  | case1 => exact fun t ht => absurd ht List.not_mem_nil
  | case2 c r t rest hnext ih =>
    exact List.forall_mem_cons.mpr ⟨htoken c r t rest h hnext, ih (hstep c r _ rest h hnext)⟩
  | case3 c r rest hnext ih => exact ih (hstep c r _ rest h hnext)

/-- What holds of the token with which an ending begins holds of all tokens. -/
lemma forall_mem_scan {P : Token → Prop} {cs : List Char}
    (h : ∀ c r t rest, c :: r <:+ cs → next c r = (some t, rest) → P t) : ∀ t ∈ scan cs, P t := by
  refine forall_mem_scan_of_step (Q := (· <:+ cs)) (fun c r o rest hsuffix hnext => ?_) h
    List.suffix_rfl
  have hrest := next_suffix c r
  rw [hnext] at hrest
  exact (hrest.trans (List.suffix_cons c r)).trans hsuffix

/-! ### Phrases -/

/-- Qualifiers are used up pair by pair, also where the last part is missing. -/
lemma readQualified_suffix (name : String) (ts : List Token) :
    (readQualified name ts).2 <:+ ts := by
  fun_induction readQualified name ts <;> simp_all [List.suffix_cons_iff]

/-- What follows a name with its qualifiers is an ending of the tokens. -/
lemma readName_suffix (ts : List Token) : (readName ts).2 <:+ ts := by
  rw [readName.eq_def]
  split
  · exact (readQualified_suffix _ _).trans (List.suffix_cons _ _)
  · exact List.suffix_rfl

/-- What follows a list of identifiers is an ending, also when it is never closed. -/
lemma readIdents_suffix (ts : List Token) : (readIdents ts).2 <:+ ts := by
  fun_induction readIdents ts <;> simp_all [List.suffix_cons_iff]

lemma readColumnList_suffix (ts : List Token) : (readColumnList ts).2 <:+ ts := by
  rw [readColumnList.eq_def]
  split
  · exact (readIdents_suffix _).trans (List.suffix_cons _ _)
  · exact List.suffix_rfl

/-- A reference that is given up midway leaves an ending as well. -/
lemma readReference_suffix (ts : List Token) : (readReference ts).2 <:+ ts := by
  have hname := readName_suffix ts
  rw [readReference.eq_def]
  split
  · rename_i rest hread
    rwa [hread] at hname
  · rename_i table rest hread
    rw [hread] at hname
    have hlist := (readColumnList_suffix rest).trans hname
    split
    · rename_i hcolumns
      rwa [hcolumns] at hlist
    · rename_i hcolumns
      rwa [hcolumns] at hlist

/-- Parentheses are passed over as a whole. -/
lemma afterParens_suffix (depth : ℕ) (ts : List Token) : afterParens depth ts <:+ ts := by
  fun_induction afterParens depth ts <;> simp_all [List.suffix_cons_iff]

lemma parenText_suffix (depth : ℕ) (afterWord : Bool) (ts : List Token) :
    (parenText depth afterWord ts).2 <:+ ts := by
  fun_induction parenText depth afterWord ts <;> simp_all [prependRead, List.suffix_cons_iff]

/-- The text of a size uses its tokens up to the closing parenthesis. -/
lemma sizeText_suffix (depth : ℕ) (ts : List Token) : (sizeText depth ts).2 <:+ ts := by
  fun_induction sizeText depth ts <;> simp_all [prependRead, List.suffix_cons_iff]

lemma readSize_suffix (ts : List Token) : (readSize ts).2 <:+ ts := by
  rw [readSize.eq_def]
  split
  · exact (sizeText_suffix 0 _).trans (List.suffix_cons _ _)
  · exact List.suffix_rfl

/-- A default uses up its tokens, and none if there is no default. -/
lemma readDefault_suffix (ts : List Token) : (readDefault ts).2 <:+ ts := by
  rw [readDefault.eq_def]
  split
  case h_5 => exact (parenText_suffix _ _ _).trans (List.suffix_cons _ _)
  case h_7 => exact parenText_suffix _ _ _
  all_goals first | exact List.suffix_cons _ _ | exact List.suffix_rfl

/-! ### Options and columns -/

/-- A word that may be missing takes one token at most. -/
lemma dropKeyword_suffix (k : Keyword) (ts : List Token) : dropKeyword k ts <:+ ts := by
  rw [dropKeyword.eq_def]
  split
  · split
    · exact List.suffix_cons _ _
    · exact List.suffix_rfl
  · exact List.suffix_rfl

lemma dropParens_suffix (ts : List Token) : dropParens ts <:+ ts := by
  rw [dropParens.eq_def]
  split
  · exact (afterParens_suffix _ _).trans (List.suffix_cons _ _)
  · exact List.suffix_rfl

/-- What follows an option, or a token that begins none, is an ending of the tokens. -/
lemma readOption_suffix (t : Token) (r : List Token) : (readOption t r).2 <:+ r := by
  rw [readOption.eq_def]
  split
  · exact dropKeyword_suffix _ r
  · split
    · exact List.suffix_cons _ _
    · exact List.suffix_rfl
  · exact dropKeyword_suffix _ r
  · exact readDefault_suffix r
  · exact List.suffix_rfl
  · exact readReference_suffix r
  · exact afterParens_suffix _ r
  · split
    · exact dropParens_suffix r
    · exact List.suffix_rfl
  · exact List.suffix_rfl

/-- What holds of the option with which an ending begins holds of all options. -/
lemma forall_mem_readOptions {P : ColumnOption → Prop} {ts : List Token}
    (h : ∀ t r o, t :: r <:+ ts → (readOption t r).1 = some o → P o) :
    ∀ o ∈ readOptions ts, P o := by
  have hrest : ∀ {t r o rest}, readOption t r = (o, rest) → rest <:+ t :: r := by
    intro t r o rest hread
    have hsuffix := readOption_suffix t r
    rw [hread] at hsuffix
    exact hsuffix.trans (List.suffix_cons t r)
  fun_induction readOptions ts with
  | case1 => exact fun o ho => absurd ho List.not_mem_nil
  | case2 t r o rest hread ih =>
    have hlater := ih fun t' r' o' hsuffix => h t' r' o' (hsuffix.trans (hrest hread))
    exact List.forall_mem_cons.mpr ⟨h t r o List.suffix_rfl (congrArg Prod.fst hread), hlater⟩
  | case3 t r rest hread ih =>
    exact ih fun t' r' o' hsuffix => h t' r' o' (hsuffix.trans (hrest hread))

/-- A type takes its second word along if the two words spell one. -/
lemma readType_suffix (first : String) (ts : List Token) : (readType first ts).2.2 <:+ ts := by
  rw [readType.eq_def]
  split
  · exact List.suffix_rfl
  · split
    · split
      · exact List.suffix_cons _ _
      · exact List.suffix_rfl
    · exact List.suffix_rfl

/-! ### Constraints -/

lemma dropIdent_suffix (ts : List Token) : dropIdent ts <:+ ts := by
  rw [dropIdent.eq_def]
  split
  · exact List.suffix_cons _ _
  · exact List.suffix_rfl

/-- The name of a constraint is dropped from the front. -/
lemma dropConstraintName_suffix (ts : List Token) : dropConstraintName ts <:+ ts := by
  rw [dropConstraintName.eq_def]
  split
  · exact (dropIdent_suffix _).trans (List.suffix_cons _ _)
  · exact List.suffix_rfl

/-- A list that is not of one column is used up as well. -/
lemma readSingleColumn_suffix (ts : List Token) : (readSingleColumn ts).2 <:+ ts := by
  have hlist := readColumnList_suffix ts
  rw [readSingleColumn.eq_def]
  split
  · rename_i hcolumns
    rwa [hcolumns] at hlist
  · rename_i hcolumns
    rwa [hcolumns] at hlist

/-! ### Definitions -/

/-- What follows a body, or the place where it breaks off, is an ending of the tokens. -/
lemma splitBody_suffix (depth : ℕ) (ts : List Token) : (splitBody depth ts).2 <:+ ts := by
  fun_induction splitBody depth ts <;> simp_all [List.suffix_cons_iff]

/-- The rest of a statement is passed over up to its end. -/
lemma afterStatement_suffix (ts : List Token) : afterStatement ts <:+ ts := by
  fun_induction afterStatement ts <;> simp_all [List.suffix_cons_iff]

lemma dropCondition_suffix (ts : List Token) : dropCondition ts <:+ ts := by
  rw [dropCondition.eq_def]
  split
  · exact ((dropKeyword_suffix _ _).trans (dropKeyword_suffix _ _)).trans (List.suffix_cons _ _)
  · exact List.suffix_rfl

/-- What follows the definition of a table is an ending of the tokens, also where it is given up. -/
lemma readTable_suffix (ts : List Token) : (readTable ts).2 <:+ ts := by
  have hname := (readName_suffix (dropCondition ts)).trans (dropCondition_suffix ts)
  rw [readTable.eq_def]
  split
  · rename_i name body hread
    rw [hread] at hname
    have hbody := ((splitBody_suffix 0 body).trans (List.suffix_cons _ _)).trans hname
    split
    · rename_i parts rest hsplit
      rw [hsplit] at hbody
      exact (afterStatement_suffix rest).trans hbody
    · rename_i rest hsplit
      rwa [hsplit] at hbody
  · rename_i rest _ hread
    rw [hread] at hname
    exact (afterStatement_suffix _).trans hname

/-- So is what follows the word that begins a definition. -/
lemma readCreate_suffix (ts : List Token) : (readCreate ts).2 <:+ ts := by
  have hdrop := List.dropWhile_suffix isModifier (l := ts)
  rw [readCreate.eq_def]
  split
  · rename_i r hts
    rw [hts] at hdrop
    exact ((readTable_suffix r).trans (List.suffix_cons _ _)).trans hdrop
  · exact (afterStatement_suffix _).trans hdrop

/-- What holds of a token and of the tokens of the parts holds after the token went to the front. -/
lemma forall_mem_consPart {P : Token → Prop} {t : Token} {ps : List (List Token)} (ht : P t)
    (h : ∀ p ∈ ps, ∀ u ∈ p, P u) : ∀ p ∈ consPart t ps, ∀ u ∈ p, P u := by
  cases ps with
  | nil => simpa [consPart] using ht
  | cons p ps =>
    rw [List.forall_mem_cons] at h
    rw [consPart, List.forall_mem_cons, List.forall_mem_cons]
    exact ⟨⟨ht, h.1⟩, h.2⟩

/-- What holds of the tokens of a body holds of those of its parts. -/
lemma forall_mem_splitBody {P : Token → Prop} {depth : ℕ} {ts : List Token}
    {parts : List (List Token)} (h : ∀ t ∈ ts, P t) (hparts : (splitBody depth ts).1 = some parts) :
    ∀ p ∈ parts, ∀ t ∈ p, P t := by
  fun_induction splitBody depth ts generalizing parts with
  | case1 | case2 | case3 => cases hparts
  | case5 =>
    cases hparts
    simp
  | case7 r ih =>
    obtain ⟨ps, hps, rfl⟩ := Option.map_eq_some_iff.mp hparts
    rw [List.forall_mem_cons] at h ⊢
    exact ⟨fun t ht => absurd ht List.not_mem_nil, ih h.2 hps⟩
  | case4 _ _ ih | case6 _ _ _ ih | case8 _ _ _ ih | case9 _ _ _ _ _ _ _ _ ih =>
    obtain ⟨ps, hps, rfl⟩ := Option.map_eq_some_iff.mp hparts
    rw [List.forall_mem_cons] at h
    exact forall_mem_consPart h.1 (ih h.2 hps)

end SchemaDesigner.Script
