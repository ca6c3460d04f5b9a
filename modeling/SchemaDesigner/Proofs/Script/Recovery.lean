/-
Where statements end: a script may be cut there and its parts be read one by one.

* `Breaks`: a statement ends between two lists of tokens, whatever the first one leaves open;
* `readName_append`, `splitBody_append`, `afterStatement_append`: no reader looks past the end of a
  statement;
* `readCreate_append`: what follows the word CREATE is read up to the end of its statement at most;
* `definitions_append`: tokens cut at the end of a statement define what the two parts define;
* `tablesOf_append`: their tables are those of the first part, followed by those of the second part
  under new names.
-/
import SchemaDesigner.Proofs.Script.Import
import SchemaDesigner.Proofs.Script.Table

namespace SchemaDesigner.Script

/-- A statement ends between the two: a semicolon closes it, or the next one begins. -/
def Breaks (a b : List Token) : Prop :=
  a.getLast? = some .semicolon ∨ b.head? = some (.keyword .create)

section Readers

variable {a b : List Token} {t : Token}

namespace Breaks

/-- In front of the next statement nothing has to be left. -/
lemma exists_of_nil (h : Breaks [] b) : ∃ r, b = .keyword .create :: r := by
  rcases h with h | h
  · cases h
  · exact List.head?_eq_some_iff.mp h

/-- One token less leaves nothing, or the end where it was. -/
lemma rest (h : Breaks (t :: a) b) : a = [] ∨ Breaks a b := by
  cases a with
  | nil => exact .inl rfl
  | cons u a => exact .inr (h.imp_left fun hlast => by rwa [List.getLast?_cons_cons] at hlast)

/-- The token that closes the statement is a semicolon, so another one can be taken away. -/
lemma tail (h : Breaks (t :: a) b) (ht : t ≠ .semicolon) : Breaks a b := by
  rcases h.rest with rfl | hrest
  · rcases h with h | h
    · exact absurd (Option.some.inj h) ht
    · exact .inr h
  · exact hrest

end Breaks

/-! ### Names -/

lemma readQualified_append (name : String) (h : Breaks a b) :
    readQualified name (a ++ b) = ((readQualified name a).1, (readQualified name a).2 ++ b)
      ∧ Breaks (readQualified name a).2 b := by
  fun_induction readQualified name a with
  | case1 name part r ih => exact ih ((h.tail (by simp)).tail (by simp))
  | case2 name r hpart =>
    have hrest := h.tail (by simp)
    refine ⟨?_, hrest⟩
    cases r with
    | nil =>
      obtain ⟨r, rfl⟩ := hrest.exists_of_nil
      rfl
    | cons t r => cases t <;> first | rfl | exact absurd rfl (hpart _ _)
  | case3 name ts hpart hdot =>
    refine ⟨?_, h⟩
    cases ts with
    | nil =>
      obtain ⟨r, rfl⟩ := h.exists_of_nil
      rfl
    | cons t ts => cases t <;> first | rfl | exact absurd rfl (hdot _)

lemma readName_append (h : Breaks a b) :
    readName (a ++ b) = ((readName a).1, (readName a).2 ++ b) ∧ Breaks (readName a).2 b := by
  cases a with
  | nil =>
    obtain ⟨r, rfl⟩ := h.exists_of_nil
    exact ⟨rfl, h⟩
  | cons t a =>
    cases t with
    | ident name => exact readQualified_append name (h.tail (by simp))
    | _ => exact ⟨rfl, h⟩

lemma dropKeyword_append {k : Keyword} (hk : k ≠ .create) (h : Breaks a b) :
    dropKeyword k (a ++ b) = dropKeyword k a ++ b ∧ Breaks (dropKeyword k a) b := by
  cases a with
  | nil =>
    obtain ⟨r, rfl⟩ := h.exists_of_nil
    exact ⟨if_neg hk.symm, h⟩
  | cons t a =>
    cases t with
    | keyword k' =>
      rw [List.cons_append, dropKeyword, dropKeyword]
      split_ifs
      · exact ⟨rfl, h.tail (by simp)⟩
      · exact ⟨rfl, h⟩
    | _ => exact ⟨rfl, h⟩

lemma dropCondition_append (h : Breaks a b) :
    dropCondition (a ++ b) = dropCondition a ++ b ∧ Breaks (dropCondition a) b := by
  cases a with
  | nil =>
    obtain ⟨r, rfl⟩ := h.exists_of_nil
    exact ⟨rfl, h⟩
  | cons t a =>
    cases t with
    | keyword k =>
      cases k with
      | ifWord =>
        obtain ⟨hnot, hafterNot⟩ := dropKeyword_append (k := .not) (by decide) (h.tail (by simp))
        obtain ⟨hexist, hafter⟩ := dropKeyword_append (k := .exist) (by decide) hafterNot
        refine ⟨?_, hafter⟩
        rw [List.cons_append, dropCondition, dropCondition, hnot, hexist]
      | _ => exact ⟨rfl, h⟩
    | _ => exact ⟨rfl, h⟩

lemma dropWhile_isModifier_append (h : Breaks a b) :
    (a ++ b).dropWhile isModifier = a.dropWhile isModifier ++ b
      ∧ Breaks (a.dropWhile isModifier) b := by
  induction a with
  | nil =>
    obtain ⟨r, rfl⟩ := h.exists_of_nil
    exact ⟨rfl, h⟩
  | cons t a ih =>
    cases ht : isModifier t with
    | true =>
      have hne : t ≠ .semicolon := by
        rintro rfl
        cases ht
      rw [List.cons_append, List.dropWhile_cons_of_pos ht, List.dropWhile_cons_of_pos ht]
      exact ih (h.tail hne)
    | false =>
      have hstop : ¬isModifier t = true := Bool.not_eq_true _ ▸ ht
      rw [List.cons_append, List.dropWhile_cons_of_neg hstop, List.dropWhile_cons_of_neg hstop]
      exact ⟨rfl, h⟩

/-! ### Bodies and statements -/

lemma splitBody_append (depth : ℕ) (h : Breaks a b) :
    splitBody depth (a ++ b) = ((splitBody depth a).1, (splitBody depth a).2 ++ b)
      ∧ Breaks (splitBody depth a).2 b := by
  fun_induction splitBody depth a with
  | case1 =>
    obtain ⟨r, rfl⟩ := h.exists_of_nil
    exact ⟨rfl, h⟩
  | case2 => exact ⟨rfl, h⟩
  | case3 => exact ⟨rfl, h⟩
  | case4 depth r ih =>
    obtain ⟨heq, hrest⟩ := ih (h.tail (by simp))
    refine ⟨?_, hrest⟩
    rw [List.cons_append, splitBody, heq]
  | case5 r => exact ⟨rfl, h.tail (by simp)⟩
  | case6 depth r hdepth ih =>
    obtain ⟨heq, hrest⟩ := ih (h.tail (by simp))
    refine ⟨?_, hrest⟩
    rw [List.cons_append, splitBody, if_neg hdepth, heq]
  | case7 r ih =>
    obtain ⟨heq, hrest⟩ := ih (h.tail (by simp))
    refine ⟨?_, hrest⟩
    rw [List.cons_append, splitBody, if_pos rfl, heq]
  | case8 depth r hdepth ih =>
    obtain ⟨heq, hrest⟩ := ih (h.tail (by simp))
    refine ⟨?_, hrest⟩
    rw [List.cons_append, splitBody, if_neg hdepth, heq]
  | case9 depth t r hcreate hsemicolon hlparen hrparen hcomma ih =>
    obtain ⟨heq, hrest⟩ := ih (h.tail hsemicolon)
    refine ⟨?_, hrest⟩
    rw [List.cons_append, splitBody.eq_7 _ _ _ hcreate hsemicolon hlparen hrparen hcomma, heq]

/-- After a statement nothing is left, or the end where it was. -/
lemma afterStatement_append (h : Breaks a b) :
    afterStatement (a ++ b) = afterStatement a ++ b
      ∧ (afterStatement a = [] ∨ Breaks (afterStatement a) b) := by
  fun_induction afterStatement a with
  | case1 =>
    obtain ⟨r, rfl⟩ := h.exists_of_nil
    exact ⟨rfl, .inl rfl⟩
  | case2 r => exact ⟨rfl, h.rest⟩
  | case3 r => exact ⟨rfl, .inr h⟩
  | case4 t r hsemicolon hcreate ih =>
    rw [List.cons_append, afterStatement_cons hsemicolon hcreate]
    exact ih (h.tail hsemicolon)

lemma readTable_append (h : Breaks a b) :
    readTable (a ++ b) = ((readTable a).1, (readTable a).2 ++ b)
      ∧ ((readTable a).2 = [] ∨ Breaks (readTable a).2 b) := by
  obtain ⟨hcondition, hafter⟩ := dropCondition_append h
  obtain ⟨hname, hrest⟩ := readName_append hafter
  rw [readTable, readTable, hcondition, hname]
  generalize readName (dropCondition a) = p at hrest
  obtain ⟨name, ts⟩ := p
  obtain ⟨hskip, hskipped⟩ := afterStatement_append hrest
  have habandoned := congrArg (Prod.mk (none : Option TableDef)) hskip
  cases name with
  | none => exact ⟨habandoned, hskipped⟩
  | some name =>
    cases ts with
    | nil =>
      obtain ⟨r, rfl⟩ := hrest.exists_of_nil
      exact ⟨habandoned, hskipped⟩
    | cons t ts =>
      cases t with
      | lparen =>
        obtain ⟨hbody, hbroken⟩ := splitBody_append 0 (hrest.tail (by simp))
        dsimp only [List.cons_append]
        rw [hbody]
        generalize splitBody 0 ts = q at hbroken
        obtain ⟨parts, us⟩ := q
        cases parts with
        | none => exact ⟨rfl, .inr hbroken⟩
        | some parts =>
          obtain ⟨hoptions, hend⟩ := afterStatement_append hbroken
          exact ⟨congrArg (Prod.mk _) hoptions, hend⟩
      | _ => exact ⟨habandoned, hskipped⟩

/-- Whatever follows the word CREATE, it is read up to the end of the statement at most. -/
lemma readCreate_append (h : Breaks a b) :
    readCreate (a ++ b) = ((readCreate a).1, (readCreate a).2 ++ b)
      ∧ ((readCreate a).2 = [] ∨ Breaks (readCreate a).2 b) := by
  obtain ⟨hmodifiers, hrest⟩ := dropWhile_isModifier_append h
  rw [readCreate, readCreate, hmodifiers]
  generalize a.dropWhile isModifier = ts at hrest
  obtain ⟨hskip, hskipped⟩ := afterStatement_append hrest
  have hother := congrArg (Prod.mk (none : Option TableDef)) hskip
  cases ts with
  | nil =>
    obtain ⟨r, rfl⟩ := hrest.exists_of_nil
    exact ⟨hother, hskipped⟩
  | cons t ts =>
    cases t with
    | keyword k =>
      cases k with
      | table => exact readTable_append (hrest.tail (by simp))
      | _ => exact ⟨hother, hskipped⟩
    | _ => exact ⟨hother, hskipped⟩

end Readers

/-! ### Definitions -/

lemma definitions_cons {t : Token} {r : List Token} (ht : t ≠ .keyword .create) :
    definitions (t :: r) = definitions r := by
  rw [definitions.eq_def]
  split <;> simp_all

/-- Tokens that are cut at the end of a statement define what the two parts define. -/
theorem definitions_append {a b : List Token} (h : a = [] ∨ Breaks a b) :
    definitions (a ++ b) = definitions a ++ definitions b := by
  fun_induction definitions a with
  | case1 => rw [List.nil_append, List.nil_append]
  | case2 r d rest hread ih =>
    have hbreaks := h.resolve_left (List.cons_ne_nil _ _)
    obtain ⟨happend, hend⟩ := readCreate_append (hbreaks.tail (by simp))
    rw [hread] at happend hend
    rw [List.cons_append, definitions_create_of_some happend, ih hend, List.cons_append]
  | case3 r rest hread ih =>
    have hbreaks := h.resolve_left (List.cons_ne_nil _ _)
    obtain ⟨happend, hend⟩ := readCreate_append (hbreaks.tail (by simp))
    rw [hread] at happend hend
    rw [List.cons_append, definitions_create_of_none happend, ih hend]
  | case4 t r hcreate ih =>
    rw [List.cons_append, definitions_cons hcreate]
    exact ih (h.resolve_left (List.cons_ne_nil _ _)).rest

/-- Whatever stands in front of a semicolon or of the word CREATE, whole statements or broken ones:
the tables in front come first, and behind them those that come after, unless a table in front has
their name already. -/
theorem tablesOf_append {a b : List Token}
    (h : a = [] ∨ a.getLast? = some .semicolon ∨ b.head? = some (.keyword .create)) :
    tablesOf (a ++ b)
      = tablesOf a
        ++ (tablesOf b).filter fun t => !(tablesOf a).any fun u => namesMatch u.name t.name := by
  have hkept := @keepFirst_append _ (fun t u : TableDef => namesMatch t.name u.name)
    (fun htu huv => namesMatch_trans htu huv) (definitions a) (definitions b)
  rw [← definitions_append h] at hkept
  exact hkept

/-- A table, and one whose definition is never closed. -/
def sampleFront : List Token :=
  tokenize "create table t (a int); create table u (b int, c decimal(10"

/-- A second table of the same name, and another one. -/
def sampleBack : List Token :=
  tokenize "create table T (d int); create table v (e int);"

/-- The open definition is given up where the next statement begins, and of the two tables of one
name the first counts. -/
theorem tablesOf_append_sample : sampleBack.head? = some (.keyword .create)
    ∧ (tablesOf (sampleFront ++ sampleBack)).map (fun t => t.name) = ["t", "v"]
    ∧ tablesOf (sampleFront ++ sampleBack)
      = tablesOf sampleFront
        ++ (tablesOf sampleBack).filter fun t =>
          !(tablesOf sampleFront).any fun u => namesMatch u.name t.name := by
  have hcreate : sampleBack.head? = some (.keyword .create) := by decide +kernel
  exact ⟨hcreate, by decide +kernel, tablesOf_append (.inr (.inr hcreate))⟩

end SchemaDesigner.Script
