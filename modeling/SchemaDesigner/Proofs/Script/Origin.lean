/-
Where the texts of a definition come from: the tokens of its script, and thus the script itself.

* `Token.IsSolid`: a token is no name and no number of blanks only;
* `isBlankText_of_readSize`, `isBlankText_of_readDefault`: solid tokens spell no blank size and no
  blank default;
* `Reference.IsSpelledBy`, `ColumnDef.IsSpelledBy`: a reference has its names among some tokens, and
  a column was written with them;
* `isSpelledBy_of_mem_parse`: so were all columns of a script without blank names;
* `isPartOf_of_mem_tokenize`: a name without closing delimiters stands in the script.
-/
import SchemaDesigner.Proofs.Script.Keys
import SchemaDesigner.Proofs.Script.Spelling
import SchemaDesigner.Proofs.Wire.Column

namespace SchemaDesigner

namespace Script

open Text

/-! ### Texts that say something -/

/-- The token is no name and no number of blanks only. -/
def Token.IsSolid : Token → Prop
  | .ident text | .num text => isBlankText text = false
  | _ => True

instance (t : Token) : Decidable t.IsSolid :=
  match t with
  | .ident _ | .num _ => inferInstanceAs (Decidable (_ = _))
  | .keyword _ | .str _ | .prefixed _ _ | .lparen | .rparen | .comma | .semicolon | .dot =>
    isTrue trivial

/-- A text in two pieces is blank exactly if both are. -/
lemma isBlankText_append (s t : String) :
    isBlankText (s ++ t) = (isBlankText s && isBlankText t) := by
  rw [isBlankText, String.toList_append, List.all_append]
  rfl

lemma isBlankText_append_left {s : String} (h : isBlankText s = false) (t : String) :
    isBlankText (s ++ t) = false := by
  rw [isBlankText_append, h, Bool.false_and]

lemma isBlankText_append_right (s : String) {t : String} (h : isBlankText t = false) :
    isBlankText (s ++ t) = false := by
  rw [isBlankText_append, h, Bool.and_false]

/-- A literal has its quotes at least. -/
lemma isBlankText_literal (s : String) : isBlankText (literal s) = false :=
  isBlankText_append_left (isBlankText_append_left (by decide) _) _

/-- A size is empty or says something, if its tokens are solid. -/
lemma sizeText_eq_empty_or {depth : ℕ} {ts : List Token} (h : ∀ t ∈ ts, t.IsSolid) :
    (sizeText depth ts).1 = "" ∨ isBlankText (sizeText depth ts).1 = false := by
  fun_induction sizeText depth ts with
  | case1 | case3 => exact .inl rfl
  | case2 | case4 | case5 => exact .inr (isBlankText_append_left (by decide) _)
  | case6 _ _ _ ih | case7 _ _ _ ih =>
    exact .inr (isBlankText_append_left (h _ List.mem_cons_self) _)
  | case8 => exact .inr (isBlankText_append_left (isBlankText_literal _) _)
  | case9 _ _ _ _ _ _ _ _ _ ih => exact ih (List.forall_mem_cons.mp h).2

/-- What solid tokens spell as a size is not blank. -/
lemma isBlankText_of_readSize {ts : List Token} {text : String} (h : ∀ t ∈ ts, t.IsSolid)
    (htext : (readSize ts).1 = some text) : isBlankText text = false := by
  rw [readSize.eq_def] at htext
  split at htext
  · rw [List.forall_mem_cons] at h
    have hfilter : nonEmpty? (some (sizeText 0 _).1) = some text := htext
    rw [nonEmpty?, Option.filter_eq_some_iff, bne_iff_ne] at hfilter
    obtain ⟨hsize, hne⟩ := hfilter
    obtain rfl := Option.some.inj hsize
    exact (sizeText_eq_empty_or h.2).resolve_left hne
  · cases htext

/-- Nor is what they spell as a default. -/
lemma isBlankText_of_readDefault {ts : List Token} {text : String} (h : ∀ t ∈ ts, t.IsSolid)
    (htext : (readDefault ts).1 = some text) : isBlankText text = false := by
  rw [readDefault.eq_def] at htext
  split at htext
  · obtain rfl := Option.some.inj htext
    exact isBlankText_literal _
  · obtain rfl := Option.some.inj htext
    exact isBlankText_append_right _ (isBlankText_literal _)
  · obtain rfl := Option.some.inj htext
    exact h _ List.mem_cons_self
  · obtain rfl := Option.some.inj htext
    decide
  · obtain rfl := Option.some.inj htext
    exact isBlankText_append_left (h _ List.mem_cons_self) _
  · obtain rfl := Option.some.inj htext
    exact h _ List.mem_cons_self
  · obtain rfl := Option.some.inj htext
    exact isBlankText_append_left (by decide) _
  · cases htext

/-! ### Names among tokens -/

/-- The last part of a qualified name is the part read so far or one of the tokens. -/
lemma mem_of_readQualified {name part : String} {ts : List Token}
    (h : (readQualified name ts).1 = some part) : part = name ∨ .ident part ∈ ts := by
  fun_induction readQualified name ts with
  | case1 name next r ih =>
    rcases ih h with rfl | hmem
    · exact .inr (List.mem_cons_of_mem _ List.mem_cons_self)
    · exact .inr (List.mem_cons_of_mem _ (List.mem_cons_of_mem _ hmem))
  | case2 => cases h
  | case3 => exact .inl (Option.some.inj h).symm

/-- The name that is read is one of the tokens. -/
lemma mem_of_readName {ts : List Token} {name : String} (h : (readName ts).1 = some name) :
    .ident name ∈ ts := by
  rw [readName.eq_def] at h
  split at h
  · rcases mem_of_readQualified h with rfl | hmem
    · exact List.mem_cons_self
    · exact List.mem_cons_of_mem _ hmem
  · cases h

/-- All listed names are among the tokens. -/
lemma mem_of_readIdents {ts : List Token} {names : List String}
    (h : (readIdents ts).1 = some names) : ∀ name ∈ names, .ident name ∈ ts := by
  fun_induction readIdents ts generalizing names with
  | case1 => cases h
  | case2 =>
    obtain rfl := Option.some.inj h
    exact fun name hname => absurd hname List.not_mem_nil
  | case3 name r ih =>
    obtain ⟨rest, hrest, rfl⟩ := Option.map_eq_some_iff.mp h
    exact List.forall_mem_cons.mpr
      ⟨List.mem_cons_self, fun n hn => List.mem_cons_of_mem _ (ih hrest n hn)⟩
  | case4 t r _ _ ih => exact fun n hn => List.mem_cons_of_mem _ (ih h n hn)

lemma mem_of_readColumnList {ts : List Token} {names : List String}
    (h : (readColumnList ts).1 = some names) : ∀ name ∈ names, .ident name ∈ ts := by
  rw [readColumnList.eq_def] at h
  split at h
  · exact fun name hname => List.mem_cons_of_mem _ (mem_of_readIdents h name hname)
  · cases h

end Script

/-- The two names of the reference are among the tokens. -/
def Reference.IsSpelledBy (ts : List Script.Token) (r : Reference) : Prop :=
  .ident r.table ∈ ts ∧ .ident r.column ∈ ts

/-- The type of the column is the one that its name means, its size and its default are not blank,
and its reference has its names among the tokens. -/
structure ColumnDef.IsSpelledBy (ts : List Script.Token) (c : ColumnDef) : Prop where
  type : ColumnType.ofName c.type.name = c.type
  size : ∀ text ∈ c.size, Text.isBlankText text = false
  defaultValue : ∀ text ∈ c.defaultValue, Text.isBlankText text = false
  reference : ∀ r ∈ c.reference, r.IsSpelledBy ts

namespace Script

variable {ts us : List Token}

/-- A reference has its two names among the tokens that it is read from. -/
lemma isSpelledBy_of_readReference {r : Reference} (h : (readReference ts).1 = some r) :
    r.IsSpelledBy ts := by
  have hrest := readName_suffix ts
  rw [readReference.eq_def] at h
  split at h
  · cases h
  · rename_i table rest hname
    rw [hname] at hrest
    split at h
    · rename_i column rest' hcolumns
      obtain rfl := Option.some.inj h
      exact ⟨mem_of_readName (congrArg Prod.fst hname), hrest.subset
        (mem_of_readColumnList (congrArg Prod.fst hcolumns) column List.mem_cons_self)⟩
    · cases h

/-! ### Options -/

/-- The option gives no blank default and no reference but one with names among the tokens. -/
def ColumnOption.IsSpelledBy (ts : List Token) : ColumnOption → Prop
  | .default value => ∀ text ∈ value, Text.isBlankText text = false
  | .references r => r.IsSpelledBy ts
  | _ => True

/-- So has each option, and its default is not blank. -/
lemma isSpelledBy_of_readOption {t : Token} {r : List Token} {o : ColumnOption}
    (hr : ∀ u ∈ r, u.IsSolid) (hsub : r ⊆ us) (h : (readOption t r).1 = some o) :
    o.IsSpelledBy us := by
  rw [readOption.eq_def] at h
  split at h
  case h_4 =>
    obtain rfl := Option.some.inj h
    exact fun text htext => isBlankText_of_readDefault hr htext
  case h_6 =>
    obtain ⟨ref, href, rfl⟩ := Option.map_eq_some_iff.mp h
    obtain ⟨htable, hcolumn⟩ := isSpelledBy_of_readReference href
    exact ⟨hsub htable, hsub hcolumn⟩
  case h_2 | h_8 =>
    split at h
    · obtain rfl := Option.some.inj h
      trivial
    · cases h
  case h_1 | h_3 | h_5 =>
    obtain rfl := Option.some.inj h
    trivial
  all_goals cases h

lemma isSpelledBy_of_mem_readOptions (hts : ∀ t ∈ ts, t.IsSolid) (hsub : ts ⊆ us) :
    ∀ o ∈ readOptions ts, o.IsSpelledBy us := by
  refine forall_mem_readOptions fun t r o hsuffix hread => ?_
  have hr : r ⊆ ts := (List.cons_subset.mp hsuffix.subset).2
  exact isSpelledBy_of_readOption (fun u hu => hts u (hr hu)) (List.Subset.trans hr hsub) hread

/-- An option among the same tokens keeps a column spelled by them. -/
lemma isSpelledBy_apply {c : ColumnDef} {o : ColumnOption} (hc : c.IsSpelledBy ts)
    (ho : o.IsSpelledBy ts) : (o.apply c).IsSpelledBy ts := by
  obtain ⟨htype, hsize, hdefault, hreference⟩ := hc
  cases o with
  | default value => exact ⟨htype, hsize, ho, hreference⟩
  | references r => exact ⟨htype, hsize, hdefault, fun r' hr' => Option.some.inj hr' ▸ ho⟩
  | primaryKey | notNull | unique | autoIncrement => exact ⟨htype, hsize, hdefault, hreference⟩

/-! ### Columns -/

/-- The types behind the serial ones are known. -/
lemma mem_known_of_ofSerial? {word : String} {type : ColumnType}
    (h : ColumnType.ofSerial? word = some type) : type ∈ ColumnType.known := by
  rw [ColumnType.ofSerial?.eq_def] at h
  split at h
  all_goals first
    | (obtain rfl := Option.some.inj h; decide)
    | cases h

/-- So are the types spelled by two words. -/
lemma mem_known_of_twoWordType? {first second : String} {type : ColumnType}
    (h : twoWordType? first second = some type) : type ∈ ColumnType.known := by
  rw [twoWordType?.eq_def] at h
  split at h
  all_goals first
    | (obtain rfl := Option.some.inj h; decide)
    | cases h

/-- A type that begins with a word is known, or the one that the word alone spells. -/
lemma mem_known_or_readType_eq (first : String) (ts : List Token) :
    (readType first ts).1 ∈ ColumnType.known
      ∨ ColumnType.ofSerial? first = none ∧ (readType first ts).1 = oneWordType first := by
  rw [readType.eq_def]
  split
  · rename_i type hserial
    exact .inl (mem_known_of_ofSerial? hserial)
  · rename_i hserial
    split
    · split
      · rename_i type htype
        exact .inl (mem_known_of_twoWordType? htype)
      · exact .inr ⟨hserial, rfl⟩
    · exact .inr ⟨hserial, rfl⟩

/-- The type of a column is read from its own name. -/
lemma ofName_name_readType (first : String) (ts : List Token) :
    ColumnType.ofName (readType first ts).1.name = (readType first ts).1 := by
  obtain hknown | ⟨-, hone⟩ := mem_known_or_readType_eq first ts
  · exact ColumnType.ofName_name_of_known _ hknown
  rw [hone, oneWordType]
  split_ifs
  · exact ColumnType.ofName_name_of_known _ (by decide)
  · exact ColumnType.ofName_name_ofName first

/-- What is read as a column, part by part. -/
lemma readColumn?_cons (name first : String) (r : List Token) :
    readColumn? (.ident name :: .ident first :: r)
      = some ((readOptions (readSize (readType first r).2.2).2).foldl ColumnOption.apply
        { name, type := (readType first r).1, size := (readSize (readType first r).2.2).1
          autoIncrement := (readType first r).2.1 }) := rfl

/-- A column begins with its name and with the first word of its type. -/
lemma exists_of_readColumn? {c : ColumnDef} (h : readColumn? ts = some c) :
    ∃ name first r, ts = .ident name :: .ident first :: r := by
  rw [readColumn?.eq_def] at h
  split at h
  · exact ⟨_, _, _, rfl⟩
  · cases h

/-- A column is spelled by its tokens, if these are solid. -/
lemma isSpelledBy_of_readColumn? {c : ColumnDef} (hts : ∀ t ∈ ts, t.IsSolid) (hsub : ts ⊆ us)
    (h : readColumn? ts = some c) : c.IsSpelledBy us := by
  obtain ⟨name, first, r, rfl⟩ := exists_of_readColumn? h
  have htype := (readType_suffix first r).subset
  have hrest := List.Subset.trans (readSize_suffix (readType first r).2.2).subset htype
  rw [List.forall_mem_cons, List.forall_mem_cons] at hts
  rw [List.cons_subset, List.cons_subset] at hsub
  rw [readColumn?_cons] at h
  obtain rfl := Option.some.inj h
  refine List.foldlRecOn _ _ ⟨ofName_name_readType first r, fun text htext => ?_, ?_, ?_⟩
    fun c hc o ho => isSpelledBy_apply hc ?_
  · exact isBlankText_of_readSize (fun t ht => hts.2.2 t (htype ht)) htext
  · simp
  · simp
  · exact isSpelledBy_of_mem_readOptions (fun t ht => hts.2.2 t (hrest ht))
      (List.Subset.trans hrest hsub.2.2) o ho

/-- A reference that a constraint gives has its names among the tokens of the constraint. -/
lemma isSpelledBy_of_readConstraint? {name : String} {r : Reference}
    (h : readConstraint? ts = some (.foreignKey name r)) : r.IsSpelledBy ts := by
  rw [readConstraint?.eq_def] at h
  split at h
  case h_5 r' =>
    have hrest := (readSingleColumn_suffix (dropIdent r')).trans (dropIdent_suffix r')
    split at h
    · rename_i column rest hcolumn
      rw [hcolumn] at hrest
      obtain ⟨ref, href, hname⟩ := Option.map_eq_some_iff.mp h
      obtain ⟨-, rfl⟩ := Constraint.foreignKey.inj hname
      obtain ⟨htable, hcolumn⟩ := isSpelledBy_of_readReference href
      have hsub : rest ⊆ .keyword .foreign :: .keyword .key :: r' := fun t ht =>
        List.mem_cons_of_mem _ (List.mem_cons_of_mem _
          (hrest.subset (List.mem_cons_of_mem _ ht)))
      exact ⟨hsub htable, hsub hcolumn⟩
    · cases h
  case h_6 => cases h
  all_goals
    obtain ⟨column, -, hname⟩ := Option.map_eq_some_iff.mp h
    cases hname

/-! ### Definitions -/

/-- A constraint among the elements of some parts has been read from one of these, behind its name
if it has one. -/
lemma exists_readConstraint?_of_mem_constraintsOf {parts : List (List Token)} {k : Constraint}
    (h : k ∈ constraintsOf (parts.filterMap Element.ofTokens?)) :
    ∃ p ∈ parts, readConstraint? (dropConstraintName p) = some k := by
  obtain ⟨e, he, hk⟩ := List.mem_filterMap.mp h
  obtain ⟨p, hp, hread⟩ := List.mem_filterMap.mp he
  cases e with
  | column c => cases hk
  | constraint k' =>
    obtain rfl := Option.some.inj hk
    refine ⟨p, hp, ?_⟩
    rw [Element.ofTokens?] at hread
    split at hread
    · obtain ⟨c, -, hc⟩ := Option.map_eq_some_iff.mp hread
      cases hc
    · obtain ⟨k, hread, hkk⟩ := Option.map_eq_some_iff.mp hread
      rw [hread, Element.constraint.inj hkk]

/-- The columns of a script whose tokens are solid are spelled by these. -/
lemma isSpelledBy_of_mem_definitions (hts : ∀ t ∈ ts, t.IsSolid) :
    ∀ t ∈ definitions ts, ∀ c ∈ t.columns, c.IsSpelledBy ts := by
  refine forall_mem_definitions fun name body parts t hbody hparts ht => ?_
  have hsub : ∀ p ∈ parts, dropConstraintName p ⊆ ts := fun p hp =>
    List.Subset.trans (dropConstraintName_suffix p).subset
      (subset_of_mem_splitBody hbody hparts p hp)
  refine forall_mem_columns_of_tableOf? ht (fun c hc => ?_) (fun c b _ hc => ?_)
    (fun c b hc => ?_) (fun c hc => ?_) fun column r hr c hc => ?_
  · obtain ⟨p, hp, hread⟩ := exists_readColumn?_of_mem_columnsOf hc
    exact isSpelledBy_of_readColumn? (fun u hu => hts u (hsub p hp hu)) (hsub p hp) hread
  · exact ⟨hc.type, hc.size, hc.defaultValue, hc.reference⟩
  · cases b <;> exact ⟨hc.type, hc.size, hc.defaultValue, hc.reference⟩
  · exact ⟨hc.type, hc.size, hc.defaultValue, hc.reference⟩
  · obtain ⟨p, hp, hread⟩ := exists_readConstraint?_of_mem_constraintsOf hr
    obtain ⟨htable, hcolumn⟩ := isSpelledBy_of_readConstraint? hread
    refine ⟨hc.type, hc.size, hc.defaultValue, fun r' hr' => ?_⟩
    obtain rfl := Option.some.inj hr'
    exact ⟨hsub p hp htable, hsub p hp hcolumn⟩

/-! ### Tokens of a text -/

section Text

variable {s name text : String}

/-- What the first token of a text can be, and which character it begins with. -/
lemma next_cases {c : Char} {r rest : List Char} {t : Token} (h : next c r = (some t, rest)) :
    Text.isBlank c = false ∧ (symbol? c = some t
      ∨ (∃ close, closing? c = some close
        ∧ t = .ident (String.ofList (Text.readDelimited close r).1))
      ∨ t = .str (String.ofList (readLiteral r).1)
      ∨ ((c.isDigit || ((c = '-' || c = '+') && r.head?.any Char.isDigit)) = true
        ∧ t = .num (String.ofList (c :: (readNumber false r).1)))
      ∨ (beginsWord c = true
        ∧ t = (wordToken (String.ofList (c :: r.takeWhile continuesWord))
          (r.dropWhile continuesWord)).1)) := by
  rw [next.eq_def] at h
  split at h
  · cases (Prod.mk.inj h).1
  rename_i hblank
  refine ⟨Bool.eq_false_iff.mpr hblank, ?_⟩
  split at h
  · cases (Prod.mk.inj h).1
  split at h
  · cases (Prod.mk.inj h).1
  split at h
  · rename_i hsymbol
    exact .inl (hsymbol.trans (Prod.mk.inj h).1)
  · rename_i close _ hclosing
    exact .inr (.inl ⟨close, hclosing, (Option.some.inj (Prod.mk.inj h).1).symm⟩)
  · refine .inr (.inr ?_)
    split at h
    · exact .inl (Option.some.inj (Prod.mk.inj h).1).symm
    split at h
    · rename_i hnumber
      exact .inr (.inl ⟨hnumber, (Option.some.inj (Prod.mk.inj h).1).symm⟩)
    split at h
    · rename_i hword
      refine .inr (.inr ⟨hword, ?_⟩)
      generalize wordToken _ _ = p at h ⊢
      exact (Option.some.inj (Prod.mk.inj h).1).symm
    · cases (Prod.mk.inj h).1

/-- The symbols are parentheses, commas, semicolons and dots. -/
lemma eq_of_symbol? {c : Char} {t : Token} (h : symbol? c = some t) :
    t ∈ [Token.lparen, .rparen, .comma, .semicolon, .dot] := by
  rw [symbol?.eq_def] at h
  split at h <;> simp_all

/-- A number begins with a sign or a digit. -/
lemma isBlankText_of_num_mem_tokenize (h : .num text ∈ tokenize s) :
    Text.isBlankText text = false := by
  refine forall_mem_scan (P := fun t => ∀ text, t = .num text → Text.isBlankText text = false) ?_
    _ h _ rfl
  rintro c r t rest - hnext text rfl
  obtain ⟨hblank, hsymbol | ⟨close, -, hname⟩ | htext | ⟨-, hnumber⟩ | ⟨-, hword⟩⟩ :=
    next_cases hnext
  · simpa using eq_of_symbol? hsymbol
  · cases hname
  · cases htext
  · rw [Token.num.inj hnumber]
    refine Text.isBlankText_eq_false_of_mem (c := c) ?_ hblank
    rw [String.toList_ofList]
    exact List.mem_cons_self
  · rw [wordToken.eq_def] at hword
    split at hword
    · cases hword
    · split at hword <;> cases hword

/-- The text has no closing delimiter of an identifier. -/
def HasNoClosing (text : String) : Prop :=
  ∀ c close, closing? c = some close → close ∉ text.toList

/-- A text in which the closing delimiter was not written twice is a beginning of what was read. -/
lemma isPrefix_readDelimited {close : Char} {cs : List Char}
    (h : close ∉ (Text.readDelimited close cs).1) : (Text.readDelimited close cs).1 <+: cs := by
  fun_induction Text.readDelimited close cs with
  | case1 | case2 | case5 => exact List.nil_prefix
  | case3 c => exact List.prefix_rfl
  | case4 => exact absurd List.mem_cons_self h
  | case6 c d r hc ih =>
    exact (List.prefix_cons_inj c).mpr (ih fun hmem => h (List.mem_cons_of_mem c hmem))

/-- A name in which no delimiter had to be written twice stands in the script. -/
lemma isPartOf_of_mem_tokenize (h : .ident name ∈ tokenize s) (hname : HasNoClosing name) :
    IsPartOf name s := by
  refine forall_mem_scan (P := fun t => ∀ name, t = .ident name → HasNoClosing name →
    IsPartOf name s) ?_ _ h _ rfl hname
  rintro c r t rest hsuffix hnext name rfl hclosing
  obtain ⟨-, hsymbol | ⟨close, hopen, hname⟩ | htext | ⟨-, hnumber⟩ | ⟨-, hword⟩⟩ :=
    next_cases hnext
  · simpa using eq_of_symbol? hsymbol
  · obtain rfl := Token.ident.inj hname
    have hnone := hclosing c close hopen
    rw [String.toList_ofList] at hnone
    rw [IsPartOf, String.toList_ofList]
    exact (isPrefix_readDelimited hnone).isInfix.trans
      ((List.suffix_cons c r).trans hsuffix).isInfix
  · cases htext
  · cases hnumber
  · rw [wordToken.eq_def] at hword
    split at hword
    · cases hword
    · split at hword
      · cases hword
      · obtain rfl := Token.ident.inj hword
        rw [IsPartOf, String.toList_ofList]
        exact (List.prefix_cons_inj c |>.mpr (List.takeWhile_prefix _)).isInfix.trans
          hsuffix.isInfix

end Text

end Script

end SchemaDesigner
