/-
Types, sizes and defaults that are read back as they are written.

* `Passes`: tokens that stay together when a body is split into its parts;
* `IsLegibleType`, `IsLegibleSize`, `IsLegibleDefault`: what is read back as it is written;
* `isLegibleDefault_literal_iff`: which literals are read back;
* `IsOperand`, `IsExpression`: the words of an expression, and expressions as the reader of defaults
  writes them;
* `IsPlainType.legible`, `IsPlainSize.legible`, `IsPlainDefault.legible`: the known types and other
  words, lists of sizes, and single words, calls and parenthesised expressions are legible.
-/
import SchemaDesigner.Proofs.Name
import SchemaDesigner.Proofs.Script.Scan
import SchemaDesigner.Script.Element
import SchemaDesigner.Script.Body
import SchemaDesigner.Script.Render

namespace SchemaDesigner.Script

/-! ### Tokens of one part -/

/-- The tokens stay together in a body at the depth: they go to the front of the part that is found
after them. -/
def Passes (depth : ℕ) (ts : List Token) : Prop :=
  ∀ rest, splitBody depth (ts ++ rest)
    = ((splitBody depth rest).1.map (ts.foldr consPart ·), (splitBody depth rest).2)

/-- The tokens that have no meaning for the parts of a body. -/
def Token.isPlain : Token → Bool
  | .keyword .create | .lparen | .rparen | .comma | .semicolon => false
  | _ => true

/-- Tokens that go to the front one by one go there together. -/
lemma foldr_consPart_cons (ts p : List Token) (ps : List (List Token)) :
    ts.foldr consPart (p :: ps) = (ts ++ p) :: ps := by
  induction ts with
  | nil => rfl
  | cons t ts ih =>
    rw [List.foldr_cons, ih]
    rfl

namespace Passes

variable {depth : ℕ} {ts us : List Token} {t : Token}

lemma nil : Passes depth [] := by
  intro rest
  rw [List.nil_append]
  cases h : splitBody depth rest with
  | mk parts rest' => cases parts <;> rfl

/-- Tokens that stay together may stand behind each other. -/
lemma append (h : Passes depth ts) (h' : Passes depth us) : Passes depth (ts ++ us) := by
  intro rest
  rw [List.append_assoc, h, h' rest, Option.map_map]
  simp only [List.foldr_append]
  rfl

lemma of_isPlain (h : t.isPlain = true) : Passes depth [t] := by
  intro rest
  cases t with
  | keyword k => cases k <;> first | rfl | cases h
  | lparen | rparen | comma | semicolon => cases h
  | ident | str | prefixed | num | dot => rfl

/-- A comma inside parentheses does not end the part. -/
lemma comma : Passes (depth + 1) [.comma] :=
  fun _ => rfl

/-- Parentheses keep together what is between them. -/
lemma paren (h : Passes (depth + 1) ts) : Passes depth (.lparen :: ts ++ [.rparen]) := by
  intro rest
  have hclose : splitBody (depth + 1) (.rparen :: rest)
      = ((splitBody depth rest).1.map (consPart .rparen), (splitBody depth rest).2) := rfl
  have hopen : splitBody depth (.lparen :: ts ++ [.rparen] ++ rest)
      = ((splitBody (depth + 1) (ts ++ .rparen :: rest)).1.map (consPart .lparen),
        (splitBody (depth + 1) (ts ++ .rparen :: rest)).2) := by
    rw [List.append_assoc, List.cons_append, List.singleton_append]
    rfl
  rw [hopen, h, hclose, Option.map_map, Option.map_map]
  simp only [List.foldr_append, List.foldr_cons, List.foldr_nil]
  rfl

end Passes

/-! ### What is read back -/

/-- The name of the type is read as one word, and that word means the type. -/
structure IsLegibleType (t : ColumnType) : Prop where
  reads : Reads t.name [.ident t.name]
  notSerial : ColumnType.ofSerial? t.name = none
  means : oneWordType t.name = t

/-- The text is read back when it stands in parentheses after a type. -/
def IsLegibleSize (s : String) : Prop :=
  ∃ ts, Reads s ts ∧ Passes 1 ts ∧ ∀ rest, sizeText 0 (ts ++ .rparen :: rest) = (s, rest)

/-- The text is read back when it stands as a default. -/
def IsLegibleDefault (s : String) : Prop :=
  ∃ ts, Reads s ts ∧ Passes 0 ts ∧ readDefault ts = (some s, [])

/-! ### Operands -/

/-- The words of an expression, with their tokens: words that are no keywords, numbers, literals
with or without a prefix, and `NULL`. -/
inductive IsOperand : String → Token → Prop
  | word {w : String} (h : IsBareWord w) : IsOperand w (.ident w)
  | number {s : String} (h : isNumber s = true) : IsOperand s (.num s)
  | literal {s : String} (h : isLiteral s.toList = true) : IsOperand (literal s) (.str s)
  | prefixed {w s : String} (hw : IsBareWord w) (h : isLiteral s.toList = true) :
    IsOperand (w ++ Script.literal s) (.prefixed w s)
  | null : IsOperand "NULL" (.keyword .null)

namespace IsOperand

variable {s : String} {t : Token}

lemma reads (h : IsOperand s t) : Reads s [t] := by
  cases h with
  | word h => exact .bareWord h
  | number h => exact .number h
  | literal h => exact .literal h
  | prefixed hw h => exact .prefixed hw h
  | null => exact .word (by decide)

lemma isPlain (h : IsOperand s t) : t.isPlain = true := by
  cases h <;> rfl

/-- A single operand is read as a default. -/
lemma legible (h : IsOperand s t) : IsLegibleDefault s :=
  ⟨[t], h.reads, .of_isPlain h.isPlain, by cases h <;> rfl⟩

end IsOperand

/-- A literal tells the text in it. -/
lemma literal_inj {s u : String} (h : literal u = literal s) : u = s := by
  have hends : ∀ cs, Text.readDelimited '\'' (Text.doubleChars '\'' cs ++ ['\'']) = (cs, []) :=
    fun cs => Text.readDelimited_doubleChars '\'' cs (by simp)
  have hlist := congrArg String.toList h
  rw [Reads.toList_literal, Reads.toList_literal] at hlist
  have hread := congrArg (fun cs => (Text.readDelimited '\'' cs).1) (List.cons.inj hlist).2
  simp only [hends] at hread
  exact String.toList_inj.mp hread

/-- A literal is read back exactly if no backslash in it takes a quote along, be it the last one. -/
theorem isLegibleDefault_literal_iff {s : String} :
    IsLegibleDefault (literal s) ↔ isLiteral s.toList = true := by
  refine ⟨fun ⟨ts, hreads, _, hdefault⟩ => ?_, fun h => (IsOperand.literal h).legible⟩
  have hscan := hreads [] Stops.nil
  rw [List.append_nil, scan_nil, List.append_nil, Reads.toList_literal,
    scan_cons_of_some next_quote] at hscan
  rw [← hscan, readDefault] at hdefault
  have hsame := literal_inj (Option.some.inj (Prod.mk.inj hdefault).1)
  by_contra hliteral
  refine readLiteral_doubleChars_ne (Bool.of_not_eq_true hliteral) ?_
  exact String.ofList_inj.mp (hsame.trans String.ofList_toList.symm)

/-! ### Expressions -/

/-- Expressions as the reader of defaults writes them, with their tokens: one blank stands between
operands that follow each other, and no other blanks. -/
inductive IsExpression : (afterOperand : Bool) → String → List Token → Prop
  | nil {b : Bool} : IsExpression b "" []
  | operand {b : Bool} {s rest : String} {t : Token} {ts : List Token} (h : IsOperand s t)
    (hrest : IsExpression true rest ts) :
    IsExpression b ((if b then " " ++ s else s) ++ rest) (t :: ts)
  | comma {b : Bool} {rest : String} {ts : List Token} (hrest : IsExpression false rest ts) :
    IsExpression b ("," ++ rest) (.comma :: ts)
  | paren {b : Bool} {inner rest : String} {ts us : List Token} (h : IsExpression false inner ts)
    (hrest : IsExpression false rest us) :
    IsExpression b ("(" ++ (inner ++ (")" ++ rest))) ((.lparen :: ts ++ [.rparen]) ++ us)

namespace IsExpression

variable {b : Bool} {s : String} {ts : List Token}

/-- What follows an operand begins with a break. -/
lemma stops (h : IsExpression true s ts) : Stops s.toList := by
  cases h with
  | nil => exact Stops.nil
  | @operand _ w rest t ts h hrest =>
    rw [if_pos rfl, String.append_assoc]
    exact Stops.space _
  | comma hrest => exact Stops.comma _
  | paren h hrest => exact Stops.lparen _

/-- An expression is read as its tokens. -/
lemma reads (h : IsExpression b s ts) : Reads s ts := by
  induction h with
  | nil => exact .empty
  | @operand b s rest t ts h hrest ih =>
    have htokens : Reads (s ++ rest) ([t] ++ ts) := h.reads.append ih hrest.stops
    cases b with
    | true =>
      rw [if_pos rfl, String.append_assoc]
      exact htokens.space
    | false => exact htokens
  | comma hrest ih => exact ih.comma
  | @paren b inner rest ts us h hrest ihinner ihrest =>
    have hclosed := ihinner.append ihrest.rparen (Stops.rparen rest)
    rw [List.append_assoc, List.cons_append, List.singleton_append]
    exact hclosed.lparen

lemma passes (h : IsExpression b s ts) (depth : ℕ) : Passes (depth + 1) ts := by
  induction h generalizing depth with
  | nil => exact .nil
  | @operand b s rest t ts h hrest ih => exact (Passes.of_isPlain h.isPlain).append (ih depth)
  | @comma b rest ts hrest ih => exact Passes.comma.append (ih depth)
  | paren h hrest ihinner ihrest => exact (ihinner (depth + 1)).paren.append (ihrest depth)

/-- The reader of a default keeps an operand, with a blank in front behind another one. -/
lemma parenText_operand {w : String} {t : Token} (h : IsOperand w t) (depth : ℕ) (b : Bool)
    (rest : List Token) : parenText depth b (t :: rest)
      = prependRead (if b then " " ++ w else w) (parenText depth true rest) := by
  cases h <;> rfl

lemma prependRead_prependRead (s s' : String) (p : String × List Token) :
    prependRead s (prependRead s' p) = prependRead (s ++ s') p := by
  rw [prependRead, prependRead, prependRead, String.append_assoc]

/-- Up to the parenthesis that closes it, an expression is written as it is. -/
lemma parenText_eq (h : IsExpression b s ts) (depth : ℕ) (rest : List Token) :
    parenText (depth + 1) b (ts ++ .rparen :: rest)
      = prependRead s (parenText (depth + 1) false (.rparen :: rest)) := by
  induction h generalizing depth rest with
  | nil => rw [List.nil_append, prependRead, String.empty_append]; rfl
  | @operand b s rest t ts h hrest ih =>
    rw [List.cons_append, parenText_operand h, ih, prependRead_prependRead]
  | @comma b rest ts hrest ih =>
    rw [List.cons_append, ← prependRead_prependRead, ← ih]
    rfl
  | @paren b inner rest' ts us h hrest ihinner ihrest =>
    have hinner := ihinner (depth + 1) (us ++ .rparen :: rest)
    have hclose : parenText (depth + 2) false (.rparen :: (us ++ .rparen :: rest))
        = prependRead ")" (parenText (depth + 1) false (us ++ .rparen :: rest)) := by
      rw [parenText, if_neg (by omega)]
      rfl
    calc parenText (depth + 1) b (.lparen :: ts ++ [.rparen] ++ us ++ .rparen :: rest)
        = prependRead "(" (parenText (depth + 2) false
            (ts ++ .rparen :: (us ++ .rparen :: rest))) := by
          rw [List.append_assoc, List.append_assoc, List.cons_append]
          rfl
      _ = _ := by
          rw [hinner, hclose, ihrest, prependRead_prependRead, prependRead_prependRead,
            prependRead_prependRead, String.append_assoc, String.append_assoc]

/-- An expression in parentheses is written as it is. -/
lemma parenText_paren (h : IsExpression false s ts) (b : Bool) (rest : List Token) :
    parenText 0 b (.lparen :: ts ++ .rparen :: rest) = ("(" ++ (s ++ ")"), rest) := by
  have hinner := h.parenText_eq 0 rest
  have hopen : parenText 0 b (.lparen :: ts ++ .rparen :: rest)
      = prependRead "(" (parenText 1 false (ts ++ .rparen :: rest)) := rfl
  rw [hopen, hinner]
  rfl

end IsExpression

/-! ### Plain types -/

/-- The known types, and the words in upper case that mean a type of their own. -/
inductive IsPlainType : ColumnType → Prop
  | known {t : ColumnType} (h : t ∈ ColumnType.known) : IsPlainType t
  | other {u : String} (hword : IsBareWord u) (hname : ColumnType.ofName u = .other u)
    (hserial : ColumnType.ofSerial? u = none) (hne : u ≠ "CHARACTER") : IsPlainType (.other u)

/-- A word has no blanks. -/
lemma isBlank_of_isWord {w : String} (h : isWord w = true) {c : Char} (hc : c ∈ w.toList) :
    Text.isBlank c = false := by
  have hcontinues := Reads.continuesWord_of_mem h hc
  by_contra hblank
  have hbreak : isBreak c = true := by simp [isBreak, Bool.of_not_eq_false hblank]
  rw [continuesWord_of_isBreak hbreak] at hcontinues
  cases hcontinues

lemma trim_of_isWord {w : String} (h : isWord w = true) : Text.trim w = w := by
  have hstart : Text.trimStart w.toList = w.toList := by
    rw [Text.trimStart, List.dropWhile_eq_self_iff]
    intro hpos
    simp [isBlank_of_isWord h (List.getElem_mem hpos)]
  have hend : Text.trimEnd w.toList = w.toList := by
    rw [Text.trimEnd_eq_rdropWhile, List.rdropWhile_eq_self_iff]
    intro hne
    simp [isBlank_of_isWord h (List.getLast_mem hne)]
  rw [Text.trim, hstart, hend, String.ofList_toList]

/-- A name that means another type than the known ones is the name of that type. -/
lemma eq_of_ofUpper_eq_other {u v : String} (h : ColumnType.ofUpper v = .other u) : v = u := by
  rw [ColumnType.ofUpper] at h
  split_ifs at h
  cases hfind : ColumnType.known.find? fun t => t.name == v with
  | none =>
    rw [hfind] at h
    exact ColumnType.other.inj h
  | some t =>
    rw [hfind, Option.getD_some] at h
    have hknown : ∀ t ∈ ColumnType.known, t.isOther = false := by decide
    have hother := hknown t (List.mem_of_find?_eq_some hfind)
    rw [h] at hother
    cases hother

/-- Plain types are legible. -/
lemma IsPlainType.legible {t : ColumnType} (h : IsPlainType t) : IsLegibleType t := by
  cases h with
  | known h =>
    have hall : ∀ t ∈ ColumnType.known, IsBareWord t.name
        ∧ ColumnType.ofSerial? t.name = none ∧ oneWordType t.name = t := by
      decide +kernel
    obtain ⟨hword, hserial, hmeans⟩ := hall t h
    exact ⟨.bareWord hword, hserial, hmeans⟩
  | @other u hword hname hserial hne =>
    have hupper : Text.upper u = u := by
      have hname' := hname
      rw [ColumnType.ofName, trim_of_isWord hword.1] at hname'
      exact eq_of_ofUpper_eq_other hname'
    refine ⟨.bareWord hword, hserial, ?_⟩
    show oneWordType u = .other u
    rw [oneWordType, hupper, if_neg hne, hname]

/-! ### Plain sizes -/

/-- The parts of a size, with their tokens: numbers, words that are no keywords, and literals. -/
inductive IsSizeItem : String → Token → Prop
  | number {s : String} (h : isNumber s = true) : IsSizeItem s (.num s)
  | word {w : String} (h : IsBareWord w) : IsSizeItem w (.ident w)
  | literal {s : String} (h : isLiteral s.toList = true) : IsSizeItem (literal s) (.str s)

/-- Lists of parts with a comma after each but the last. -/
inductive IsPlainSize : String → Prop
  | single {s : String} {t : Token} (h : IsSizeItem s t) : IsPlainSize s
  | cons {s rest : String} {t : Token} (h : IsSizeItem s t) (hrest : IsPlainSize rest) :
    IsPlainSize (s ++ ("," ++ rest))

namespace IsSizeItem

variable {s : String} {t : Token}

lemma operand (h : IsSizeItem s t) : IsOperand s t := by
  cases h with
  | number h => exact .number h
  | word h => exact .word h
  | literal h => exact .literal h

lemma sizeText_eq (h : IsSizeItem s t) (depth : ℕ) (rest : List Token) :
    sizeText depth (t :: rest) = prependRead s (sizeText depth rest) := by
  cases h <;> rfl

end IsSizeItem

/-- Plain sizes are legible. -/
lemma IsPlainSize.legible {s : String} (h : IsPlainSize s) : IsLegibleSize s := by
  induction h with
  | @single s t h =>
    refine ⟨[t], h.operand.reads, .of_isPlain h.operand.isPlain, fun rest => ?_⟩
    rw [List.singleton_append, h.sizeText_eq, prependRead, sizeText, if_pos rfl,
      String.append_empty]
  | @cons s rest t h hrest ih =>
    obtain ⟨ts, hreads, hpasses, htext⟩ := ih
    refine ⟨t :: .comma :: ts, ?_, ?_, fun tail => ?_⟩
    · exact h.operand.reads.append hreads.comma (Stops.comma rest)
    · exact (Passes.of_isPlain h.operand.isPlain).append (Passes.comma.append hpasses)
    · rw [List.cons_append, List.cons_append, h.sizeText_eq, sizeText, htext]
      rfl

/-! ### Plain defaults -/

/-- The defaults of a single operand, of a call, and of an expression in parentheses. -/
inductive IsPlainDefault : String → Prop
  | operand {s : String} {t : Token} (h : IsOperand s t) : IsPlainDefault s
  | call {w s : String} {ts : List Token} (hw : IsBareWord w) (h : IsExpression false s ts) :
    IsPlainDefault (w ++ ("(" ++ (s ++ ")")))
  | paren {s : String} {ts : List Token} (h : IsExpression false s ts) :
    IsPlainDefault ("(" ++ (s ++ ")"))

/-- An expression in parentheses has its tokens in parentheses. -/
lemma IsExpression.reads_paren {b : Bool} {s : String} {ts : List Token}
    (h : IsExpression b s ts) : Reads ("(" ++ (s ++ ")")) (.lparen :: ts ++ [.rparen]) := by
  have hclosed := h.reads.append Reads.closing Stops.closing
  exact hclosed.lparen

/-- Plain defaults are legible. -/
lemma IsPlainDefault.legible {s : String} (h : IsPlainDefault s) : IsLegibleDefault s := by
  cases h with
  | operand h => exact h.legible
  | @call w s ts hw h =>
    refine ⟨.ident w :: (.lparen :: ts ++ [.rparen]), ?_, ?_, ?_⟩
    · exact (Reads.bareWord hw).append h.reads_paren (Stops.lparen _)
    · exact (Passes.of_isPlain (t := .ident w) rfl).append (h.passes 0).paren
    · have htext := h.parenText_paren false []
      simp only [List.cons_append] at htext ⊢
      rw [readDefault, htext]
  | @paren s ts h =>
    refine ⟨.lparen :: ts ++ [.rparen], h.reads_paren, (h.passes 0).paren, ?_⟩
    have htext := h.parenText_paren false []
    simp only [List.cons_append] at htext ⊢
    rw [readDefault, htext]

end SchemaDesigner.Script
