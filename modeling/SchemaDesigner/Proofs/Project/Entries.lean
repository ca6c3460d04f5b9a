/-
Tables under their keys, in the order of these.

* `SortedByKey`: each key comes before those behind it;
* `sortedByKey_sortedEntries`, `mem_of_mem_sortedEntries`: sorting gives such a list, of entries
  that were there;
* `SortedByKey.sortedEntries_eq`: entries in order stay as they are;
* `sortedEntries_perm`: of entries with distinct keys none gets lost.
-/
import Mathlib.Data.List.Induction
import SchemaDesigner.Project

namespace SchemaDesigner

variable {es : List (String × Table)} {e : String × Table} {key : String} {t : Table}

/-- Each key comes before those behind it. -/
def SortedByKey (es : List (String × Table)) : Prop :=
  es.Pairwise fun a b => a.1 < b.1

/-! ### One more entry -/

lemma mem_of_mem_insertEntry (h : e ∈ insertEntry key t es) : e = (key, t) ∨ e ∈ es := by
  fun_induction insertEntry key t es with
  | case1 => exact .inl (List.mem_singleton.mp h)
  | case2 k u es hbefore => exact List.mem_cons.mp h
  | case3 u es hbefore => exact (List.mem_cons.mp h).imp_right (List.mem_cons_of_mem _)
  | case4 k u es hbefore hne ih =>
    obtain rfl | h := List.mem_cons.mp h
    · exact .inr List.mem_cons_self
    · exact (ih h).imp_right (List.mem_cons_of_mem _)

lemma sortedByKey_insertEntry (h : SortedByKey es) (key : String) (t : Table) :
    SortedByKey (insertEntry key t es) := by
  fun_induction insertEntry key t es with
  | case1 => exact List.pairwise_singleton _ _
  | case2 k u es hbefore =>
    have hlt : key < k := of_decide_eq_true hbefore
    refine List.pairwise_cons.mpr ⟨List.forall_mem_cons.mpr ⟨hlt, fun e he => ?_⟩, h⟩
    exact String.lt_trans hlt ((List.pairwise_cons.mp h).1 e he)
  | case3 u es hbefore => exact List.pairwise_cons.mpr (List.pairwise_cons.mp h)
  | case4 k u es hbefore hne ih =>
    obtain ⟨hfirst, hes⟩ := List.pairwise_cons.mp h
    have hlt : k < key := Std.lt_of_le_of_ne (String.not_lt.mp (of_decide_eq_false
      (Bool.eq_false_iff.mpr hbefore))) (Ne.symm hne)
    refine List.pairwise_cons.mpr ⟨fun e he => ?_, ih hes⟩
    obtain rfl | he := mem_of_mem_insertEntry he
    · exact hlt
    · exact hfirst e he

/-- A key that comes last is put at the end. -/
lemma insertEntry_eq_append (h : ∀ e ∈ es, e.1 < key) (t : Table) :
    insertEntry key t es = es ++ [(key, t)] := by
  induction es with
  | nil => rfl
  | cons e es ih =>
    obtain ⟨hlt, hes⟩ := List.forall_mem_cons.mp h
    have hbefore : keyBefore key e.1 = false := decide_eq_false (String.lt_asymm hlt)
    have hne : key ≠ e.1 := fun heq => String.lt_irrefl key (heq ▸ hlt)
    rw [insertEntry, hbefore, if_neg Bool.false_ne_true, if_neg hne, ih hes, List.cons_append]

lemma insertEntry_perm (h : ∀ e ∈ es, e.1 ≠ key) (t : Table) :
    (insertEntry key t es).Perm ((key, t) :: es) := by
  fun_induction insertEntry key t es with
  | case1 => exact .refl _
  | case2 k u es hbefore => exact .refl _
  | case3 u es hbefore => exact absurd rfl (h _ List.mem_cons_self)
  | case4 k u es hbefore hne ih =>
    exact ((ih fun e he => h e (List.mem_cons_of_mem _ he)).cons _).trans (.swap _ _ _)

/-! ### All entries -/

/-- Entries are put in one after another. -/
lemma sortedEntries_concat (es : List (String × Table)) (e : String × Table) :
    sortedEntries (es ++ [e]) = insertEntry e.1 e.2 (sortedEntries es) := by
  rw [sortedEntries, List.foldl_append]
  rfl

/-- The entries of a map are in the order of their keys, whatever order they came in. -/
theorem sortedByKey_sortedEntries (es : List (String × Table)) :
    SortedByKey (sortedEntries es) := by
  induction es using List.reverseRecOn with
  | nil => exact .nil
  | append_singleton es e ih =>
    rw [sortedEntries_concat]
    exact sortedByKey_insertEntry ih _ _

lemma mem_of_mem_sortedEntries (h : e ∈ sortedEntries es) : e ∈ es := by
  induction es using List.reverseRecOn with
  | nil => exact h
  | append_singleton es e' ih =>
    rw [sortedEntries_concat] at h
    obtain rfl | h := mem_of_mem_insertEntry h
    · exact List.mem_append_right _ List.mem_cons_self
    · exact List.mem_append_left _ (ih h)

/-- Entries in order stay as they are. -/
theorem SortedByKey.sortedEntries_eq (h : SortedByKey es) : sortedEntries es = es := by
  induction es using List.reverseRecOn with
  | nil => rfl
  | append_singleton es e ih =>
    obtain ⟨hes, -, hlast⟩ := List.pairwise_append.mp h
    rw [sortedEntries_concat, ih hes,
      insertEntry_eq_append fun a ha => hlast a ha e List.mem_cons_self]

/-- Of entries with distinct keys none gets lost. -/
theorem sortedEntries_perm (h : (es.map Prod.fst).Nodup) : (sortedEntries es).Perm es := by
  induction es using List.reverseRecOn with
  | nil => exact .refl _
  | append_singleton es e ih =>
    rw [List.map_append, List.nodup_append] at h
    obtain ⟨hes, -, hnew⟩ := h
    have hperm := ih hes
    have hne : ∀ a ∈ sortedEntries es, a.1 ≠ e.1 := fun a ha =>
      hnew a.1 (List.mem_map_of_mem (hperm.mem_iff.mp ha)) e.1 List.mem_cons_self
    rw [sortedEntries_concat]
    exact ((insertEntry_perm hne e.2).trans (hperm.cons e)).trans
      (List.perm_append_singleton e es).symm

end SchemaDesigner
