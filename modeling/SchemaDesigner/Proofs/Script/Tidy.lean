/-
Tidy scripts: the types, the sizes and the defaults in them are read back as they are written.

* `isWord_upper`: a word stays a word in upper case, if each of its characters becomes a single one;
* `isPlainType_readType`: the type of a column is known or such a word;
* `keepsApart`, `IsSizeExpression`: sizes in which no two words stand side by side, and their texts;
* `exists_isSizeExpression`: such a size is written again as it was read;
* `IsTidy`: a script whose words are operands that stay words in upper case, with such sizes;
* `IsTidy.isLegible`: so all columns of such a script are legible, in any dialect.
-/
import Mathlib.Data.List.Infix
import SchemaDesigner.Proofs.Script.Captured
import SchemaDesigner.Proofs.Text.Letter

namespace SchemaDesigner.Script

/-! ### Types -/

section Types

variable {w : String}

/-- A word stays a word in upper case, if each of its characters becomes a single one. -/
lemma isWord_upper (h : isWord w = true)
    (hsingle : ∀ c ∈ w.toList, (Text.upperChars c).length = 1) : isWord (Text.upper w) = true := by
  have hkeeps : ∀ c ∈ w.toList, ∃ d, Text.upperChars c = [d]
      ∧ (d = c ∨ Text.isLetter d = true) := by
    intro c hc
    obtain ⟨d, hd⟩ := List.length_eq_one_iff.mp (hsingle c hc)
    exact ⟨d, hd, Text.eq_or_isLetter_of_upperChars hd⟩
  rw [isWord] at h
  rw [isWord, Text.upper, String.toList_ofList]
  cases hw : w.toList with
  | nil => rw [hw] at h; cases h
  | cons c cs =>
    rw [hw] at h hkeeps
    obtain ⟨hbegins, hcontinues⟩ := Bool.and_eq_true_iff.mp h
    obtain ⟨⟨d, hd, hfirst⟩, hrest⟩ := List.forall_mem_cons.mp hkeeps
    rw [List.flatMap_cons, hd, List.singleton_append, Bool.and_eq_true, List.all_flatMap]
    refine ⟨?_, ?_⟩
    · rcases hfirst with rfl | hletter
      · exact hbegins
      · rw [beginsWord, hletter, Bool.true_or]
    · rw [List.all_eq_true] at hcontinues ⊢
      intro c' hc'
      obtain ⟨d', hd', hother⟩ := hrest c' hc'
      rw [hd', List.all_cons, List.all_nil, Bool.and_true]
      rcases hother with rfl | hletter
      · exact hcontinues d' hc'
      · rw [continuesWord, hletter, Bool.true_or, Bool.true_or, Bool.true_or]

/-- The token is no identifier in which a character has several ones as its upper case. -/
def Token.hasPlainCase : Token → Bool
  | .ident w => w.toList.all fun c => (Text.upperChars c).length == 1
  | _ => true

/-- A word that is no keyword stays one in upper case. -/
lemma isBareWord_upper (h : IsBareWord w) (hcase : (Token.ident w).hasPlainCase = true) :
    IsBareWord (Text.upper w) := by
  refine ⟨isWord_upper h.1 fun c hc => ?_, ?_⟩
  · exact beq_iff_eq.mp (List.all_eq_true.mp hcase c hc)
  · have hkeyword := h.2
    rwa [Keyword.ofWord?, Text.upper_upper, ← Keyword.ofWord?]

/-- The type that one such word spells is a known one or that word in upper case. -/
lemma isPlainType_oneWordType (h : IsBareWord w) (hcase : (Token.ident w).hasPlainCase = true)
    (hserial : ColumnType.ofSerial? w = none) : IsPlainType (oneWordType w) := by
  have hupper := isBareWord_upper h hcase
  rw [oneWordType]
  split_ifs with hchar
  · exact .known (by decide)
  rw [ColumnType.ofName, trim_of_isWord h.1]
  rcases ColumnType.mem_known_or_ofUpper_eq (Text.upper w) with hknown | hother
  · exact .known hknown
  rw [hother]
  refine .other hupper ?_ ?_ hchar
  · rw [ColumnType.ofName, trim_of_isWord hupper.1, Text.upper_upper, hother]
  · rwa [ColumnType.ofSerial?, Text.upper_upper, ← ColumnType.ofSerial?]

/-- The type of a column that begins with such a word is a plain one. -/
lemma isPlainType_readType (h : IsBareWord w) (hcase : (Token.ident w).hasPlainCase = true)
    (ts : List Token) : IsPlainType (readType w ts).1 := by
  rcases mem_known_or_readType_eq w ts with hknown | ⟨hserial, hone⟩
  · exact .known hknown
  · rw [hone]
    exact isPlainType_oneWordType h hcase hserial

end Types

/-! ### Sizes -/

/-- The token is a word of a size. The others but commas and parentheses are dropped there. -/
def Token.isSizeItem : Token → Bool
  | .num _ | .ident _ | .str _ => true
  | _ => false

/-- Between any two words, up to the parenthesis that closes at `depth` open ones more, there is a
comma or a parenthesis. -/
def keepsApart (depth : ℕ) (afterWord : Bool) : List Token → Bool
  | [] => true
  | .lparen :: r => keepsApart (depth + 1) false r
  | .rparen :: r => depth == 0 || keepsApart (depth - 1) false r
  | .comma :: r => keepsApart depth false r
  | t :: r =>
    if t.isSizeItem then !afterWord && keepsApart depth true r else keepsApart depth afterWord r

/-- An inner parenthesis that closes is kept. -/
lemma sizeText_rparen_succ (depth : ℕ) (r : List Token) :
    sizeText (depth + 1) (.rparen :: r) = prependRead ")" (sizeText depth r) := by
  rw [sizeText, if_neg (Nat.succ_ne_zero depth), Nat.add_sub_cancel]

/-- Sizes as they are written, with their tokens: no words stand side by side. -/
inductive IsSizeExpression : (afterWord : Bool) → String → List Token → Prop
  | nil {b : Bool} : IsSizeExpression b "" []
  | item {s rest : String} {t : Token} {ts : List Token} (h : IsSizeItem s t)
    (hrest : IsSizeExpression true rest ts) : IsSizeExpression false (s ++ rest) (t :: ts)
  | comma {b : Bool} {rest : String} {ts : List Token} (hrest : IsSizeExpression false rest ts) :
    IsSizeExpression b ("," ++ rest) (.comma :: ts)
  | paren {b : Bool} {inner rest : String} {ts us : List Token}
    (h : IsSizeExpression false inner ts) (hrest : IsSizeExpression false rest us) :
    IsSizeExpression b ("(" ++ (inner ++ (")" ++ rest))) ((.lparen :: ts ++ [.rparen]) ++ us)

namespace IsSizeExpression

variable {b : Bool} {s : String} {ts : List Token}

/-- A size is written like an expression, as no blanks are needed in it. -/
lemma isExpression (h : IsSizeExpression b s ts) : IsExpression b s ts := by
  induction h with
  | nil => exact .nil
  | item h _ ih => exact .operand h.operand ih
  | comma _ ih => exact .comma ih
  | paren _ _ ihinner ihrest => exact .paren ihinner ihrest

/-- Up to the parenthesis that closes it, a size is read as it is written. -/
lemma sizeText_eq (h : IsSizeExpression b s ts) (depth : ℕ) (rest : List Token) :
    sizeText depth (ts ++ .rparen :: rest) = prependRead s (sizeText depth (.rparen :: rest)) := by
  induction h generalizing depth rest with
  | nil => rw [List.nil_append, prependRead, String.empty_append]
  | @item s rest' t ts h _ ih =>
    rw [List.cons_append, h.sizeText_eq, ih, IsExpression.prependRead_prependRead]
  | comma _ ih =>
    rw [List.cons_append, ← IsExpression.prependRead_prependRead, ← ih]
    rfl
  | @paren b inner rest' ts us _ _ ihinner ihrest =>
    have hopen : sizeText depth (.lparen :: ts ++ [.rparen] ++ us ++ .rparen :: rest)
        = prependRead "(" (sizeText (depth + 1) (ts ++ .rparen :: (us ++ .rparen :: rest))) := by
      rw [List.append_assoc, List.append_assoc, List.cons_append]
      rfl
    rw [hopen, ihinner, sizeText_rparen_succ, ihrest]
    simp only [IsExpression.prependRead_prependRead]

/-- A size without words side by side is read back as it is written. -/
lemma legible (h : IsSizeExpression b s ts) : IsLegibleSize s := by
  refine ⟨ts, h.isExpression.reads, h.isExpression.passes 0, fun rest => ?_⟩
  rw [h.sizeText_eq, sizeText, if_pos rfl, prependRead, String.append_empty]

end IsSizeExpression

/-- An operand that is kept in a size is written there as it is elsewhere. -/
lemma IsOperand.sizeItem {w : String} {t : Token} (h : IsOperand w t) (ht : t.isSizeItem = true) :
    IsSizeItem w t := by
  cases h with
  | word hword => exact .word hword
  | number hnumber => exact .number hnumber
  | literal hliteral => exact .literal hliteral
  | prefixed | null => cases ht

/-- So are all words of a size, if the words there are operands. -/
lemma HasOperands.exists_isSizeItem {t : Token} {r : List Token} (h : HasOperands (t :: r))
    (ht : t.isSizeItem = true) : ∃ w, IsSizeItem w t := by
  have hword : ∃ w, t.word? = some w := by
    cases t with
    | num | ident | str => exact ⟨_, rfl⟩
    | _ => cases ht
  obtain ⟨w, hw⟩ := hword
  exact ⟨w, (h t List.mem_cons_self w hw).sizeItem ht⟩

section KeepsApart

variable {depth k : ℕ} {b : Bool} {t : Token} {r ts : List Token}

/-- Only words and dropped tokens do not separate. -/
lemma keepsApart_cons_of_ne (hlparen : t ≠ .lparen) (hrparen : t ≠ .rparen) (hcomma : t ≠ .comma) :
    keepsApart depth b (t :: r) = if t.isSizeItem then !b && keepsApart depth true r
      else keepsApart depth b r := by
  rw [keepsApart]
  all_goals assumption

/-- The other tokens are dropped from a size. -/
lemma sizeText_cons_of_ne (hlparen : t ≠ .lparen) (hrparen : t ≠ .rparen) (hcomma : t ≠ .comma)
    (hitem : t.isSizeItem ≠ true) : sizeText depth (t :: r) = sizeText depth r := by
  cases t with
  | lparen => exact absurd rfl hlparen
  | rparen => exact absurd rfl hrparen
  | comma => exact absurd rfl hcomma
  | num | ident | str => exact absurd rfl hitem
  | keyword | prefixed | semicolon | dot => rfl

/-- What is kept apart is so without the first token. -/
lemma exists_keepsApart_tail (hlparen : t ≠ .lparen) (hrparen : t ≠ .rparen)
    (h : keepsApart depth b (t :: r) = true) : ∃ b', keepsApart depth b' r = true := by
  by_cases hcomma : t = .comma
  · subst hcomma
    exact ⟨false, h⟩
  rw [keepsApart_cons_of_ne hlparen hrparen hcomma] at h
  split_ifs at h
  · exact ⟨true, (Bool.and_eq_true_iff.mp h).2⟩
  · exact ⟨b, h⟩

/-- What is kept apart is so behind inner parentheses. -/
lemma keepsApart_afterParens (h : keepsApart (depth + k + 1) b ts = true) :
    keepsApart depth false (afterParens k ts) = true := by
  fun_induction afterParens k ts generalizing b with
  | case1 => rfl
  | case2 k r ih => exact ih h
  | case3 r => simpa [keepsApart] using h
  | case4 k r hk ih =>
    have hpred : depth + k + 1 - 1 = depth + (k - 1) + 1 := by omega
    rw [keepsApart, hpred] at h
    exact ih (by simpa using h)
  | case5 k t r hlparen hrparen ih =>
    obtain ⟨b', hr⟩ := exists_keepsApart_tail hlparen hrparen h
    exact ih hr

/-- A parenthesis in a size is read with what is in it and with what is behind it. -/
lemma sizeText_lparen_eq {s s' : String}
    (hinner : sizeText (depth + 1) r
      = prependRead s (sizeText (depth + 1) (.rparen :: afterParens 0 r)))
    (hrest : sizeText depth (afterParens 0 r)
      = prependRead s' (sizeText depth (.rparen :: afterParens 1 r))) :
    sizeText depth (.lparen :: r)
      = prependRead ("(" ++ (s ++ (")" ++ s'))) (sizeText depth (.rparen :: afterParens 1 r)) := by
  calc sizeText depth (.lparen :: r)
      = prependRead "(" (sizeText (depth + 1) r) := rfl
    _ = prependRead "(" (prependRead s (prependRead ")" (prependRead s'
        (sizeText depth (.rparen :: afterParens 1 r))))) := by
      rw [hinner, sizeText_rparen_succ, hrest]
    _ = prependRead ("(" ++ (s ++ (")" ++ s'))) (sizeText depth (.rparen :: afterParens 1 r)) := by
      simp only [IsExpression.prependRead_prependRead]

/-- Up to the parenthesis that closes the last open one, operands that are kept apart are read as
they are written. -/
lemma exists_isSizeExpression (hts : HasOperands ts) (hopen : openParens (depth + 1) ts = 0)
    (hapart : keepsApart depth b ts = true) :
    ∃ s us, IsSizeExpression b s us
      ∧ sizeText depth ts = prependRead s (sizeText depth (.rparen :: afterParens 0 ts)) := by
  -- by their number, as for expressions
  induction hlength : ts.length using Nat.strong_induction_on generalizing depth ts b with
  | _ n ih =>
    cases ts with
    | nil => cases hopen
    | cons t r =>
      have hr : HasOperands r := (List.forall_mem_cons.mp hts).2
      have hlt : r.length < n := hlength ▸ Nat.lt_succ_self _
      by_cases hlparen : t = .lparen
      · subst hlparen
        obtain ⟨s, us, hs, hinner⟩ := ih _ hlt hr hopen hapart rfl
        obtain ⟨s', us', hs', hrest⟩ := ih (afterParens 0 r).length
          ((length_afterParens_le 0 r).trans_lt hlt) (hr.of_subset (afterParens_suffix 0 r).subset)
          (openParens_afterParens hopen) (keepsApart_afterParens hapart) rfl
        rw [afterParens_afterParens] at hrest
        exact ⟨_, _, .paren hs hs', sizeText_lparen_eq hinner hrest⟩
      by_cases hrparen : t = .rparen
      · subst hrparen
        refine ⟨"", [], .nil, ?_⟩
        rw [prependRead, String.empty_append]
        rfl
      rw [openParens_cons_of_ne hlparen hrparen] at hopen
      rw [afterParens_cons_of_ne hlparen hrparen]
      by_cases hcomma : t = .comma
      · subst hcomma
        obtain ⟨s, us, hs, htext⟩ := ih _ hlt hr hopen hapart rfl
        refine ⟨"," ++ s, .comma :: us, .comma hs, ?_⟩
        rw [← IsExpression.prependRead_prependRead, ← htext]
        rfl
      rw [keepsApart_cons_of_ne hlparen hrparen hcomma] at hapart
      split_ifs at hapart with hitem
      · obtain ⟨w, hw⟩ := hts.exists_isSizeItem hitem
        rw [Bool.and_eq_true, Bool.not_eq_true'] at hapart
        obtain ⟨rfl, hapart⟩ := hapart
        obtain ⟨s, us, hs, htext⟩ := ih _ hlt hr hopen hapart rfl
        refine ⟨_, _, .item hw hs, ?_⟩
        rw [hw.sizeText_eq, htext, IsExpression.prependRead_prependRead]
      · obtain ⟨s, us, hs, htext⟩ := ih _ hlt hr hopen hapart rfl
        refine ⟨s, us, hs, ?_⟩
        rw [sizeText_cons_of_ne hlparen hrparen hcomma hitem, htext]

/-- A size of operands that are kept apart is read back as it is written. -/
lemma isLegibleSize_sizeText (hts : HasOperands ts) (hopen : openParens 1 ts = 0)
    (hapart : keepsApart 0 false ts = true) : IsLegibleSize (sizeText 0 ts).1 := by
  obtain ⟨s, us, hs, htext⟩ := exists_isSizeExpression hts hopen hapart
  rw [sizeText, if_pos rfl, prependRead, String.append_empty] at htext
  rw [htext]
  exact hs.legible

end KeepsApart

/-! ### Columns -/

/-- What follows an opening parenthesis. -/
def afterOpening : List Token → List Token
  | .lparen :: r => r
  | _ => []

/-- What follows the parenthesis that opens the size of a column, if it has a size. -/
def sizeTokens : List Token → List Token
  | .ident _ :: .ident first :: r => afterOpening (readType first r).2.2
  | _ => []

/-- No option changes the type and the size. -/
lemma type_size_foldl_apply (os : List ColumnOption) (c : ColumnDef) :
    (os.foldl ColumnOption.apply c).type = c.type
      ∧ (os.foldl ColumnOption.apply c).size = c.size := by
  refine List.foldlRecOn (motive := fun c' : ColumnDef => c'.type = c.type ∧ c'.size = c.size) os _
    ⟨rfl, rfl⟩ fun c' hc' o _ => ?_
  cases o <;> exact hc'

section ReadColumn

variable {ts : List Token} {c : ColumnDef}

/-- What is read as a size is read back as it is written, if its words are kept apart. -/
lemma isLegibleSize_of_readSize (hts : HasOperands ts) (hshut : IsShut ts)
    (hapart : keepsApart 0 false (afterOpening ts) = true) {s : String}
    (hs : (readSize ts).1 = some s) : IsLegibleSize s := by
  rw [readSize.eq_def] at hs
  split at hs
  · obtain rfl := Option.some.inj (eq_some_of_nonEmpty? hs)
    exact isLegibleSize_sizeText (List.forall_mem_cons.mp hts).2 hshut hapart
  · cases hs

/-- A column whose tokens stay words in upper case has a plain type. -/
lemma isPlainType_of_readColumn? (hts : HasOperands ts)
    (hcase : ∀ t ∈ ts, t.hasPlainCase = true) (hc : readColumn? ts = some c) :
    IsPlainType c.type := by
  obtain ⟨name, first, r, rfl⟩ := exists_of_readColumn? hc
  have hmem : .ident first ∈ .ident name :: .ident first :: r :=
    List.mem_cons_of_mem _ List.mem_cons_self
  have hfirst : IsBareWord first := by
    cases hts _ hmem first rfl with
    | word hword => exact hword
  rw [readColumn?_cons] at hc
  obtain rfl := Option.some.inj hc
  rw [(type_size_foldl_apply _ _).1]
  exact isPlainType_readType hfirst (hcase _ hmem) r

/-- A column in whose size the words are kept apart has a legible size, if any. -/
lemma isLegibleSize_of_readColumn? (hts : HasOperands ts) (hshut : IsShut ts)
    (hapart : keepsApart 0 false (sizeTokens ts) = true) (hc : readColumn? ts = some c) {s : String}
    (hs : c.size = some s) : IsLegibleSize s := by
  obtain ⟨name, first, r, rfl⟩ := exists_of_readColumn? hc
  have hsuffix : (readType first r).2.2 <:+ .ident name :: .ident first :: r :=
    ((readType_suffix first r).trans (List.suffix_cons _ r)).trans (List.suffix_cons _ _)
  rw [readColumn?_cons] at hc
  obtain rfl := Option.some.inj hc
  rw [(type_size_foldl_apply _ _).2] at hs
  exact isLegibleSize_of_readSize (hts.of_subset hsuffix.subset) (hshut.of_suffix hsuffix) hapart hs

end ReadColumn

/-! ### Scripts -/

/-- In all columns that a body in parentheses may hold, the words of sizes are kept apart. -/
def keepsSizesApart (ts : List Token) : Bool :=
  ts.tails.all fun
    | .lparen :: body => ((splitBody 0 body).1.getD []).all fun p =>
      keepsApart 0 false (sizeTokens (dropConstraintName p))
    | _ => true

/-- The words of the script are operands, those that are identifiers stay words in upper case, and
no words stand side by side in a size. -/
structure IsTidy (s : String) : Prop where
  operands : HasOperands (tokenize s)
  case : ∀ t ∈ tokenize s, t.hasPlainCase = true
  sizes : keepsSizesApart (tokenize s) = true

instance (s : String) : Decidable (IsTidy s) :=
  decidable_of_iff (HasOperands (tokenize s) ∧ (∀ t ∈ tokenize s, t.hasPlainCase = true)
    ∧ keepsSizesApart (tokenize s) = true)
    ⟨fun ⟨hoperands, hcase, hsizes⟩ => ⟨hoperands, hcase, hsizes⟩,
      fun h => ⟨h.operands, h.case, h.sizes⟩⟩

namespace IsTidy

variable {s : String} {t : TableDef}

/-- The words of a size are kept apart in each part of a body of the script. -/
lemma keepsApart_sizeTokens (h : IsTidy s) {body : List Token} {parts : List (List Token)}
    (hbody : .lparen :: body <:+ tokenize s) (hparts : (splitBody 0 body).1 = some parts) :
    ∀ p ∈ parts, keepsApart 0 false (sizeTokens (dropConstraintName p)) = true := by
  have hall := List.all_eq_true.mp h.sizes _ ((List.mem_tails _ _).mpr hbody)
  dsimp only at hall
  rw [hparts] at hall
  exact List.all_eq_true.mp hall

/-- The types of a tidy script are plain, and its sizes legible. -/
lemma legible_type_size (h : IsTidy s) (ht : t ∈ parse s) :
    ∀ c ∈ t.columns, IsPlainType c.type ∧ ∀ size ∈ c.size, IsLegibleSize size := by
  refine forall_mem_definitions (P := fun t => ∀ c ∈ t.columns,
    IsPlainType c.type ∧ ∀ size ∈ c.size, IsLegibleSize size) ?_ t (mem_of_mem_keepFirst t ht)
  intro name body parts t hbody hparts ht
  refine forall_mem_columns_of_tableOf? ht (fun c hc => ?_) (fun c b _ hc => hc)
    (fun c b hc => ?_) (fun c hc => hc) fun column r _ c hc => hc
  · obtain ⟨p, hp, hread⟩ := exists_readColumn?_of_mem_columnsOf hc
    have hsuffix := dropConstraintName_suffix p
    have hsub : dropConstraintName p ⊆ tokenize s :=
      List.Subset.trans hsuffix.subset (subset_of_mem_splitBody hbody hparts p hp)
    have hoperands := h.operands.of_subset hsub
    have hshut := (isPart_of_splitBody hparts p hp).isShut.of_suffix hsuffix
    have hapart := h.keepsApart_sizeTokens hbody hparts p hp
    exact ⟨isPlainType_of_readColumn? hoperands (fun u hu => h.case u (hsub hu)) hread,
      fun size hsize => isLegibleSize_of_readColumn? hoperands hshut hapart hread hsize⟩
  · cases b <;> exact hc

/-- All columns of a tidy script are legible. -/
lemma isLegible (h : IsTidy s) (d : Dialect) (ht : t ∈ parse s) :
    ∀ c ∈ t.columns, IsLegible d c := by
  intro c hc
  obtain ⟨htype, hsize⟩ := h.legible_type_size ht c hc
  refine ⟨fun _ => htype.legible, fun _ size hsome => ?_, fun v hsome => ?_⟩
  · exact hsize size (eq_some_of_nonEmpty? hsome)
  · exact (isPlainDefault_of_mem_tablesOf h.operands ht c hc v (eq_some_of_nonEmpty? hsome)).legible

end IsTidy

end SchemaDesigner.Script
