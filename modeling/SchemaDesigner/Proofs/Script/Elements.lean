/-
The table that elements make up, where these are the columns and the references of a table.

* `keepFirst_eq_self`: of different things none is left out;
* `withReferences`: a column under the references of the columns of its name;
* `foldl_applyConstraint`: constraints for references change each column by itself;
* `tableOf?_elements`: columns without references, followed by the references, make up the columns
  with them.
-/
import SchemaDesigner.Proofs.Script.Column
import SchemaDesigner.Script.Definition

namespace SchemaDesigner.Script

/-! ### Lists of different things -/

/-- Of different things none is left out. -/
lemma keepFirst_eq_self {α : Type} {same : α → α → Bool} {l : List α}
    (h : l.Pairwise fun a b => same a b = false) : keepFirst same l = l := by
  have hgeneral : ∀ l kept : List α, (kept ++ l).Pairwise (fun a b => same a b = false) →
      l.foldl (fun kept a => if kept.any (same · a) then kept else kept ++ [a]) kept
        = kept ++ l := by
    intro l
    induction l with
    | nil => exact fun kept _ => (List.append_nil kept).symm
    | cons a l ih =>
      intro kept hkept
      have hnew : kept.any (same · a) = false := by
        rw [List.any_eq_false]
        intro b hb
        have hba := (List.pairwise_append.mp hkept).2.2 b hb a List.mem_cons_self
        simp [hba]
      rw [List.append_cons] at hkept
      rw [List.foldl_cons, hnew, if_neg Bool.false_ne_true, ih _ hkept, ← List.append_cons]
  exact hgeneral l [] h

/-- With distinct names, the first column of a name is the only one. -/
lemma modifyNamed_eq_map {cs : List ColumnDef} (h : DistinctNames (cs.map fun c => c.name))
    (name : String) (f : ColumnDef → ColumnDef) :
    modifyNamed name f cs = cs.map fun c => if namesMatch c.name name then f c else c := by
  rw [modifyNamed]
  cases hfind : cs.findIdx? fun c => namesMatch c.name name with
  | none =>
    rw [List.findIdx?_eq_none_iff] at hfind
    refine ((List.map_congr_left fun c hc => ?_).trans (List.map_id' cs)).symm
    rw [hfind c hc, if_neg Bool.false_ne_true]
  | some i =>
    obtain ⟨hlt, hi, -⟩ := List.findIdx?_eq_some_iff_getElem.mp hfind
    refine List.ext_getElem? fun k => ?_
    rw [List.getElem?_map, List.getElem?_modify]
    cases hk : cs[k]? with
    | none => rfl
    | some c =>
      refine congrArg some ?_
      show (if i = k then f c else c) = if namesMatch c.name name then f c else c
      by_cases hik : i = k
      · subst hik
        rw [List.getElem?_eq_getElem hlt] at hk
        rw [← Option.some.inj hk, hi, if_pos rfl, if_pos rfl]
      · rw [if_neg hik, if_neg]
        intro hmatch
        have hfirst : (cs.map fun c => c.name)[i]? = some cs[i].name := by
          rw [List.getElem?_map, List.getElem?_eq_getElem hlt]
          rfl
        have hother : (cs.map fun c => c.name)[k]? = some c.name := by
          rw [List.getElem?_map, hk]
          rfl
        exact hik (h.eq_of_match hfirst hother (namesMatch_trans hi (namesMatch_symm hmatch)))

/-! ### References -/

/-- The column with the last reference, if there is one, among those of columns of its name. -/
def withReferences (refs : List (String × Reference)) (c : ColumnDef) : ColumnDef :=
  { c with
    reference := refs.foldl (fun r p => if namesMatch c.name p.1 then some p.2 else r) c.reference }

/-- Constraints for references change each column by itself, if the names are distinct. -/
lemma foldl_applyConstraint {refs : List (String × Reference)} {cs : List ColumnDef}
    (h : DistinctNames (cs.map fun c => c.name)) :
    (refs.map fun p => Constraint.foreignKey p.1 p.2).foldl applyConstraint cs
      = cs.map (withReferences refs) := by
  induction refs generalizing cs with
  | nil => exact (List.map_id' cs).symm
  | cons p refs ih =>
    have hfirst : applyConstraint cs (.foreignKey p.1 p.2) = cs.map (withReferences [p]) := by
      rw [applyConstraint, modifyNamed_eq_map h]
      refine List.map_congr_left fun c _ => ?_
      simp only [withReferences, List.foldl_cons, List.foldl_nil]
      split_ifs <;> rfl
    have hnames : DistinctNames ((cs.map (withReferences [p])).map fun c => c.name) := by
      rw [List.map_map]
      exact h
    rw [List.map_cons, List.foldl_cons, hfirst, ih hnames, List.map_map]
    rfl

/-- The names of the referring columns with their references. -/
def namedReferences (cs : List Column) : List (String × Reference) :=
  cs.filterMap fun c => c.reference.map fun r => (c.name, r)

/-- References of columns of other names do not matter. -/
lemma foldl_namedReferences_of_ne {cs : List Column} {name : String} {r : Option Reference}
    (h : ∀ c ∈ cs, namesMatch name c.name = false) :
    (namedReferences cs).foldl (fun r p => if namesMatch name p.1 then some p.2 else r) r = r := by
  induction cs with
  | nil => rfl
  | cons c cs ih =>
    have hrest := ih fun d hd => h d (List.mem_cons_of_mem c hd)
    have hc := h c List.mem_cons_self
    rw [namedReferences] at hrest ⊢
    cases hr : c.reference with
    | none => rwa [List.filterMap_cons_none (by rw [hr]; rfl)]
    | some r' =>
      rw [List.filterMap_cons_some (b := (c.name, r')) (by rw [hr]; rfl), List.foldl_cons, hc,
        if_neg Bool.false_ne_true]
      exact hrest

/-- With distinct names, each column gets its own reference. -/
lemma foldl_namedReferences {cs : List Column} (h : DistinctNames (cs.map fun c => c.name))
    {c : Column} (hc : c ∈ cs) : (namedReferences cs).foldl
      (fun r p => if namesMatch c.name p.1 then some p.2 else r) none = c.reference := by
  induction cs with
  | nil => cases hc
  | cons d cs ih =>
    obtain ⟨hd, hrest⟩ := List.pairwise_cons.mp h
    rw [List.forall_mem_map] at hd
    rcases List.mem_cons.mp hc with rfl | hmem
    · have hother := foldl_namedReferences_of_ne (r := c.reference) hd
      rw [namedReferences] at hother ⊢
      cases hr : c.reference with
      | none =>
        rw [List.filterMap_cons_none (by rw [hr]; rfl)]
        rwa [hr] at hother
      | some r =>
        rw [List.filterMap_cons_some (b := (c.name, r)) (by rw [hr]; rfl), List.foldl_cons,
          namesMatch_refl, if_pos rfl]
        rwa [hr] at hother
    · have hne : namesMatch c.name d.name = false := by
        rw [← Bool.not_eq_true]
        intro hmatch
        exact absurd (namesMatch_symm hmatch) (by simp [hd c hmem])
      have hfind := ih hrest hmem
      rw [namedReferences] at hfind ⊢
      cases hr : d.reference with
      | none => rwa [List.filterMap_cons_none (by rw [hr]; rfl)]
      | some r =>
        rw [List.filterMap_cons_some (b := (d.name, r)) (by rw [hr]; rfl), List.foldl_cons, hne,
          if_neg Bool.false_ne_true]
        exact hfind

/-! ### Primary keys -/

/-- What does not depend on the primary key is kept of the columns. -/
lemma map_firstKeyOnly_of_eq {β : Type} {f : ColumnDef → β}
    (hf : ∀ c b, f { c with primaryKey := b } = f c) (seen : Bool) (cs : List ColumnDef) :
    (firstKeyOnly seen cs).map f = cs.map f := by
  induction cs generalizing seen with
  | nil => rfl
  | cons c cs ih =>
    rw [firstKeyOnly]
    split_ifs
    · rw [List.map_cons, List.map_cons, ih, hf]
    · rw [List.map_cons, List.map_cons, ih]

lemma names_firstKeyOnly (seen : Bool) (cs : List ColumnDef) :
    (firstKeyOnly seen cs).map (fun c => c.name) = cs.map fun c => c.name :=
  map_firstKeyOnly_of_eq (fun _ _ => rfl) seen cs

lemma map_firstKeyOnly {refs : List (String × Reference)} (seen : Bool) (cs : List ColumnDef) :
    (firstKeyOnly seen cs).map (withReferences refs)
      = firstKeyOnly seen (cs.map (withReferences refs)) := by
  induction cs generalizing seen with
  | nil => rfl
  | cons c cs ih =>
    have hkey : (withReferences refs c).primaryKey = c.primaryKey := rfl
    rw [List.map_cons, firstKeyOnly, firstKeyOnly, hkey]
    split_ifs
    · rw [List.map_cons, ih]
      rfl
    · rw [List.map_cons, ih]

/-! ### Tables -/

section Elements

variable (cs : List ColumnDef) (ks : List Constraint)

lemma columnsOf_append : columnsOf (cs.map Element.column ++ ks.map Element.constraint)
    = keepFirst (fun a b => namesMatch a.name b.name) cs := by
  rw [columnsOf]
  congr 1
  simp [List.filterMap_append, List.filterMap_map]

lemma constraintsOf_append :
    constraintsOf (cs.map Element.column ++ ks.map Element.constraint) = ks := by
  rw [constraintsOf]
  simp [List.filterMap_append, List.filterMap_map]

end Elements

/-- Columns without references, followed by the references, make up the columns with them. -/
lemma tableOf?_elements (name : String) {cs : List Column} {f : Column → ColumnDef}
    (h : DistinctNames (cs.map fun c => c.name)) (hne : cs ≠ []) (hname : ∀ c, (f c).name = c.name)
    (href : ∀ c, (f c).reference = c.reference) :
    tableOf? name ((cs.map fun c => (f c).withoutReference).map Element.column
        ++ ((namedReferences cs).map fun p => .foreignKey p.1 p.2).map Element.constraint)
      = some ⟨name, firstKeyOnly false (cs.map f)⟩ := by
  have hnames : (cs.map fun c => (f c).withoutReference).map (fun c => c.name)
      = cs.map fun c => c.name := by
    simp [ColumnDef.withoutReference, hname]
  have hdistinct : DistinctNames ((cs.map fun c => (f c).withoutReference).map
      fun c => c.name) := hnames ▸ h
  have hkept : keepFirst (fun a b => namesMatch a.name b.name)
      (cs.map fun c => (f c).withoutReference) = cs.map fun c => (f c).withoutReference :=
    keepFirst_eq_self (List.pairwise_map.mp hdistinct)
  have hfirst : DistinctNames ((firstKeyOnly false
      (cs.map fun c => (f c).withoutReference)).map fun c => c.name) := by
    rw [names_firstKeyOnly]
    exact hdistinct
  have hcolumns : (cs.map fun c => (f c).withoutReference).map
      (withReferences (namedReferences cs)) = cs.map f := by
    rw [List.map_map]
    refine List.map_congr_left fun c hc => ?_
    have hown := foldl_namedReferences h hc
    rw [← hname c, ← href c] at hown
    exact congrArg (fun r => ({ f c with reference := r } : ColumnDef)) hown
  rw [tableOf?, columnsOf_append, constraintsOf_append, hkept, foldl_applyConstraint hfirst,
    map_firstKeyOnly, hcolumns]
  cases hcs : firstKeyOnly false (cs.map f) with
  | nil =>
    have hlength := congrArg List.length (names_firstKeyOnly false (cs.map f))
    rw [hcs] at hlength
    simp only [List.map_nil, List.length_nil, List.length_map] at hlength
    exact absurd (List.eq_nil_of_length_eq_zero hlength.symm) hne
  | cons c rest => rfl

end SchemaDesigner.Script
