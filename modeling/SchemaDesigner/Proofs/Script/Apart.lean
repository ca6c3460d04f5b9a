/-
What stands in front of the word REFERENCES is read apart from the reference, if no parenthesis is
left open in front of it.

* `readsApart_readName`, `dropConstraintName_append`: names are read apart from what follows if they
  do not reach to the end, and from a reference in any case;
* `readsApart_readDefault`: a default is read apart from what follows, unless that is a parenthesis;
* `readOptions_append_references`: options in front of a reference come first, whatever they are;
* `readColumn?_append_references`: a column with a reference is the column without it, under the
  options that begin with the reference;
* `ofTokens?_congr_reference`: of a reference, only what it is read as counts for an element.
-/
import SchemaDesigner.Proofs.Script.Nesting
import SchemaDesigner.Proofs.Script.Origin

namespace SchemaDesigner.Script

variable {ts us : List Token}

/-! ### Names -/

/-- A name ends in front of the word REFERENCES. -/
lemma readsApart_readQualified {name : String}
    (h : (readQualified name ts).2 = [] → ∃ r, us = .keyword .references :: r) :
    ReadsApart (readQualified name) ts us := by
  fun_induction readQualified name ts with
  | case1 name part r ih => exact ih h
  | case2 name r hpart =>
    cases r with
    | nil =>
      obtain ⟨r, rfl⟩ := h rfl
      rfl
    | cons t r =>
      cases t with
      | ident part => exact absurd rfl (hpart part r)
      | _ => rfl
  | case3 name ts hpart hdot =>
    cases ts with
    | nil =>
      obtain ⟨r, rfl⟩ := h rfl
      rfl
    | cons t r =>
      cases t with
      | dot => exact absurd rfl (hdot r)
      | _ => rfl

/-- A name is read apart from what follows, if it does not reach to the end or a reference
follows. -/
lemma readsApart_readName (h : (readName ts).2 = [] → ∃ r, us = .keyword .references :: r) :
    ReadsApart readName ts us := by
  cases ts with
  | nil =>
    obtain ⟨r, rfl⟩ := h rfl
    rfl
  | cons t r =>
    cases t with
    | ident name => exact readsApart_readQualified h
    | _ => rfl

lemma dropIdent_append (h : dropIdent ts = [] → ∃ r, us = .keyword .references :: r) :
    dropIdent (ts ++ us) = dropIdent ts ++ us := by
  cases ts with
  | nil =>
    obtain ⟨r, rfl⟩ := h rfl
    rfl
  | cons t r => cases t <;> rfl

/-- So does the name of a constraint. -/
lemma dropConstraintName_append
    (h : dropConstraintName ts = [] → ∃ r, us = .keyword .references :: r) :
    dropConstraintName (ts ++ us) = dropConstraintName ts ++ us := by
  cases ts with
  | nil =>
    obtain ⟨r, rfl⟩ := h rfl
    rfl
  | cons t r =>
    cases t with
    | keyword k =>
      cases k with
      | constraint => exact dropIdent_append h
      | _ => rfl
    | _ => rfl

/-! ### Phrases -/

/-- A default is read apart from what follows, unless that is a parenthesis, or the default is yet
to come. -/
lemma readsApart_readDefault (h : IsShut ts) (hus : us.head? ≠ some .lparen)
    (hnil : ts = [] → readDefault us = (none, us)) : ReadsApart readDefault ts us := by
  have hparen : ∀ {r}, openParens 1 r = 0 → ReadsApart (parenText 0 false) (.lparen :: r) us := by
    intro r hr
    rw [ReadsApart, List.cons_append, parenText, readsApart_parenText hr]
    rfl
  cases ts with
  | nil => exact hnil rfl
  | cons t r =>
    cases t with
    | ident s =>
      cases r with
      | nil =>
        cases us with
        | nil => rfl
        | cons u us =>
          cases u with
          | lparen => exact absurd rfl hus
          | _ => rfl
      | cons t' r' =>
        cases t' with
        | lparen =>
          rw [ReadsApart, List.cons_append, List.cons_append, readDefault, ← List.cons_append,
            hparen h]
          rfl
        | _ => rfl
    | lparen =>
      rw [ReadsApart, List.cons_append, readDefault, ← List.cons_append, hparen h]
      rfl
    | keyword k => cases k <;> rfl
    | _ => rfl

section Phrases

variable (us)

lemma readColumnList_append_references (h : IsShut ts) :
    ReadsApart readColumnList ts (.keyword .references :: us) := by
  cases ts with
  | nil => rfl
  | cons t r =>
    cases t with
    | lparen => exact readsApart_readIdents h _
    | _ => rfl

lemma readReference_append_references (h : IsShut ts) :
    ReadsApart readReference ts (.keyword .references :: us) := by
  have hname : ReadsApart readName ts (.keyword .references :: us) :=
    readsApart_readName fun _ => ⟨us, rfl⟩
  have hrest := h.of_suffix (readName_suffix ts)
  have hlist := readColumnList_append_references us hrest
  rw [ReadsApart, readReference, hname, readReference]
  generalize readName ts = p at hlist
  obtain ⟨name, rest⟩ := p
  cases name with
  | none => rfl
  | some table =>
    dsimp only at hlist ⊢
    rw [hlist]
    generalize readColumnList rest = q
    obtain ⟨columns, rest'⟩ := q
    rcases columns with _ | _ | ⟨column, _ | _⟩ <;> rfl

lemma readSize_append_references (h : IsShut ts) :
    ReadsApart readSize ts (.keyword .references :: us) := by
  cases ts with
  | nil => rfl
  | cons t r =>
    cases t with
    | lparen =>
      rw [ReadsApart, List.cons_append, readSize, readsApart_sizeText h]
      rfl
    | _ => rfl

lemma readDefault_append_references (h : IsShut ts) :
    ReadsApart readDefault ts (.keyword .references :: us) :=
  readsApart_readDefault h (by simp) fun _ => rfl

lemma dropKeyword_append_references {k : Keyword} (hk : k ≠ .references) (ts : List Token) :
    dropKeyword k (ts ++ .keyword .references :: us)
      = dropKeyword k ts ++ .keyword .references :: us := by
  cases ts with
  | nil => exact if_neg hk.symm
  | cons t r =>
    cases t with
    | keyword k' =>
      rw [List.cons_append, dropKeyword, dropKeyword]
      split_ifs <;> rfl
    | _ => rfl

lemma dropParens_append_references (h : IsShut ts) :
    dropParens (ts ++ .keyword .references :: us)
      = dropParens ts ++ .keyword .references :: us := by
  cases ts with
  | nil => rfl
  | cons t r =>
    cases t with
    | lparen => exact afterParens_append h _
    | _ => rfl

/-- An option of shut tokens is read as if no reference came behind it. -/
lemma readOption_append_references {t : Token} (h : IsShut (t :: ts)) :
    ReadsApart (readOption t) ts (.keyword .references :: us) := by
  have hkey := dropKeyword_append_references us (k := .key) (by decide) ts
  cases t with
  | keyword k =>
    cases k with
    | primary | unique => exact congrArg (Prod.mk _) hkey
    | not =>
      cases ts with
      | nil => rfl
      | cons t' r =>
        cases t' with
        | keyword k' => cases k' <;> rfl
        | _ => rfl
    | default =>
      rw [ReadsApart, readOption, readDefault_append_references us h.tail]
      rfl
    | references =>
      rw [ReadsApart, readOption, readReference_append_references us h.tail]
      rfl
    | _ => rfl
  | lparen => exact congrArg (Prod.mk _) (afterParens_append h _)
  | ident w =>
    rw [ReadsApart, readOption, readOption]
    split_ifs
    · exact congrArg (Prod.mk _) (dropParens_append_references us h.tail)
    · rfl
  | _ => rfl

lemma readType_append_references (first : String) (ts : List Token) :
    readType first (ts ++ .keyword .references :: us)
      = ((readType first ts).1, (readType first ts).2.1,
        (readType first ts).2.2 ++ .keyword .references :: us) := by
  cases hserial : ColumnType.ofSerial? first with
  | some type => simp [readType, hserial]
  | none =>
    cases ts with
    | nil => simp [readType, hserial]
    | cons t r =>
      cases t with
      | ident second => cases htwo : twoWordType? first second <;> simp [readType, hserial, htwo]
      | _ => simp [readType, hserial]

end Phrases

/-! ### Options and columns -/

lemma readOptions_cons_of_none {t : Token} {r rest : List Token}
    (h : readOption t r = (none, rest)) : readOptions (t :: r) = readOptions rest := by
  rw [readOptions.eq_def]
  dsimp only
  split
  · rename_i o' rest' h'
    cases (Prod.mk.inj (h.symm.trans h')).1
  · rename_i rest' h'
    rw [(Prod.mk.inj (h.symm.trans h')).2]

/-- Options in front of a reference come first, whatever they are. -/
lemma readOptions_append_references (h : IsShut ts) (us : List Token) :
    readOptions (ts ++ .keyword .references :: us)
      = readOptions ts ++ readOptions (.keyword .references :: us) := by
  fun_induction readOptions ts with
  | case1 => rfl
  | case2 t r o rest hread ih =>
    have hrest := h.tail.of_suffix (readOption_suffix t r)
    have happend := readOption_append_references us h
    rw [ReadsApart, hread] at happend
    rw [hread] at hrest
    rw [List.cons_append, readOptions_cons_of_some happend, ih hrest, List.cons_append]
  | case3 t r rest hread ih =>
    have hrest := h.tail.of_suffix (readOption_suffix t r)
    have happend := readOption_append_references us h
    rw [ReadsApart, hread] at happend
    rw [hread] at hrest
    rw [List.cons_append, readOptions_cons_of_none happend, ih hrest]

/-- A column with a reference is the column in front of it under the options that begin with the
reference. -/
lemma readColumn?_append_references (h : IsShut ts) (us : List Token) :
    readColumn? (ts ++ .keyword .references :: us)
      = (readColumn? ts).map fun c =>
        (readOptions (.keyword .references :: us)).foldl ColumnOption.apply c := by
  cases ts with
  | nil => rfl
  | cons t ts =>
    cases t with
    | ident name =>
      cases ts with
      | nil => rfl
      | cons t r =>
        cases t with
        | ident first =>
          have hrest : IsShut (readType first r).2.2 :=
            h.tail.tail.of_suffix (readType_suffix first r)
          have hoptions : IsShut (readSize (readType first r).2.2).2 :=
            hrest.of_suffix (readSize_suffix _)
          rw [List.cons_append, List.cons_append, readColumn?_cons, readColumn?_cons,
            readType_append_references, readSize_append_references us hrest,
            readOptions_append_references hoptions, List.foldl_append]
          rfl
        | _ => rfl
    | _ => rfl

/-- At the word REFERENCES an option begins: a reference, if it is complete. -/
lemma readOptions_references (us : List Token) :
    readOptions (.keyword .references :: us)
      = ((readReference us).1.map .references).toList ++ readOptions (readReference us).2 := by
  cases href : (readReference us).1 with
  | none =>
    refine readOptions_cons_of_none ?_
    rw [readOption, href]
    rfl
  | some r =>
    refine readOptions_cons_of_some ?_
    rw [readOption, href]
    rfl

/-! ### Elements -/

/-- A single column in parentheses is read apart from what follows, as a list of columns is. -/
lemma readsApart_readSingleColumn (h : ReadsApart readColumnList ts us) :
    ReadsApart readSingleColumn ts us := by
  rw [ReadsApart, readSingleColumn, h, readSingleColumn]
  generalize readColumnList ts = p
  obtain ⟨columns, rest⟩ := p
  rcases columns with _ | _ | ⟨column, _ | _⟩ <;> rfl

/-- The columns of a key are read as if no reference came behind them. -/
lemma readSingleColumn_append_references (h : IsShut ts) (us : List Token) :
    ReadsApart readSingleColumn ts (.keyword .references :: us) :=
  readsApart_readSingleColumn (readColumnList_append_references us h)

variable {us' : List Token}

/-- A reference behind a column in parentheses does not count for the column. -/
lemma readSingleColumn_congr_reference (h : IsShut ts) (us us' : List Token) :
    (readSingleColumn (dropIdent (ts ++ .keyword .references :: us))).1
      = (readSingleColumn (dropIdent (ts ++ .keyword .references :: us'))).1 := by
  have hrest := h.of_suffix (dropIdent_suffix ts)
  rw [dropIdent_append fun _ => ⟨us, rfl⟩, dropIdent_append fun _ => ⟨us', rfl⟩,
    readSingleColumn_append_references hrest us, readSingleColumn_append_references hrest us']

/-- Of a reference, only what it is read as counts for a foreign key. -/
lemma readConstraint?_foreign_congr (h : IsShut ts) (hus : readReference us = readReference us') :
    readConstraint? (.keyword .foreign :: .keyword .key :: (ts ++ .keyword .references :: us))
      = readConstraint?
        (.keyword .foreign :: .keyword .key :: (ts ++ .keyword .references :: us')) := by
  have hrest := h.of_suffix (dropIdent_suffix ts)
  have htarget := hrest.of_suffix (readSingleColumn_suffix (dropIdent ts))
  rw [readConstraint?, readConstraint?, dropIdent_append fun _ => ⟨us, rfl⟩,
    dropIdent_append fun _ => ⟨us', rfl⟩, readSingleColumn_append_references hrest us,
    readSingleColumn_append_references hrest us']
  generalize readSingleColumn (dropIdent ts) = p at htarget
  obtain ⟨column, rest⟩ := p
  cases column with
  | none => rfl
  | some column =>
    cases rest with
    | nil =>
      dsimp only [List.nil_append]
      rw [hus]
    | cons t rest =>
      cases t with
      | keyword k =>
        cases k with
        | references =>
          have hread := readReference_append_references us htarget.tail
          have hread' := readReference_append_references us' htarget.tail
          dsimp only [List.cons_append]
          rw [hread, hread']
        | _ => rfl
      | _ => rfl

/-- Of a reference, only what it is read as counts for a constraint. -/
lemma readConstraint?_congr_reference (h : IsShut ts)
    (hus : readReference us = readReference us') :
    readConstraint? (ts ++ .keyword .references :: us)
      = readConstraint? (ts ++ .keyword .references :: us') := by
  have hunique : ∀ {r}, IsShut r →
      (readSingleColumn (dropIdent (r ++ .keyword .references :: us))).1.map Constraint.unique
        = (readSingleColumn (dropIdent (r ++ .keyword .references :: us'))).1.map .unique :=
    fun hr => congrArg _ (readSingleColumn_congr_reference hr us us')
  cases ts with
  | nil => rfl
  | cons t r =>
    cases t with
    | keyword k =>
      cases k with
      | primary =>
        cases r with
        | nil => rfl
        | cons t' r' =>
          cases t' with
          | keyword k' =>
            cases k' with
            | key =>
              have hcolumn := readSingleColumn_append_references h.tail.tail us
              have hcolumn' := readSingleColumn_append_references h.tail.tail us'
              rw [List.cons_append, List.cons_append, readConstraint?, hcolumn,
                List.cons_append, List.cons_append, readConstraint?, hcolumn']
            | _ => rfl
          | _ => rfl
      | unique =>
        cases r with
        | nil => rfl
        | cons t' r' =>
          cases t' with
          | keyword k' =>
            cases k' with
            | key | index => exact hunique h.tail.tail
            | _ => exact hunique h.tail
          | _ => exact hunique h.tail
      | foreign =>
        cases r with
        | nil => rfl
        | cons t' r' =>
          cases t' with
          | keyword k' =>
            cases k' with
            | key => exact readConstraint?_foreign_congr h.tail.tail hus
            | _ => rfl
          | _ => rfl
      | _ => rfl
    | _ => rfl

/-- Of a reference, only what it is read as counts for an element. -/
lemma ofTokens?_congr_reference (h : IsShut ts) (hus : readReference us = readReference us') :
    Element.ofTokens? (ts ++ .keyword .references :: us)
      = Element.ofTokens? (ts ++ .keyword .references :: us') := by
  have hname := h.of_suffix (dropConstraintName_suffix ts)
  have hoptions : readOptions (.keyword .references :: us)
      = readOptions (.keyword .references :: us') := by
    rw [readOptions_references, readOptions_references, hus]
  have hconstraint := readConstraint?_congr_reference hname hus
  have hcolumn : readColumn? (dropConstraintName ts ++ .keyword .references :: us)
      = readColumn? (dropConstraintName ts ++ .keyword .references :: us') := by
    rw [readColumn?_append_references hname, readColumn?_append_references hname, hoptions]
  rw [Element.ofTokens?, Element.ofTokens?, dropConstraintName_append fun _ => ⟨us, rfl⟩,
    dropConstraintName_append fun _ => ⟨us', rfl⟩]
  generalize dropConstraintName ts = rest at hconstraint hcolumn
  cases rest with
  | nil => exact congrArg (Option.map Element.constraint) hconstraint
  | cons t r =>
    cases t with
    | ident name => exact congrArg (Option.map Element.column) hcolumn
    | _ => exact congrArg (Option.map Element.constraint) hconstraint

end SchemaDesigner.Script
