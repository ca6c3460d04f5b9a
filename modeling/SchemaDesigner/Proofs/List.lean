/-
Lists of which one element is changed, erased or singled out, lists made side by side, and lists
along which a state is passed.

* `map_modify_of_eq`, `map_modify_eq_map`, `countP_modify_of_eq`, `forall_mem_modify`,
  `modify_eq_set`, `mem_modify_of_mem`, `eq_or_of_mem_modify`: a list with one element changed;
* `mem_eraseIdx_of_mem`: a list without one element;
* `countP_mapIdx_le_one`, `eq_of_countP_le_one`, `find?_eq_some_iff_of_unique`: a list in which only
  one element may have a property;
* `flatMap_filter_eq`: what belongs to the elements that are left of a list;
* `forall₂_filterMap`, `forall₂_flatMap`: lists whose elements correspond;
* `forall_mem_mapM`, `map_mapM`: what a function with a state gives along a list.
-/
import Mathlib.Data.List.Forall2
import Mathlib.Tactic.SplitIfs

namespace SchemaDesigner

/-! ### One element changed -/

section Modify

variable {α β : Type} {l : List α} {i : ℕ} {a b : α} {f : α → α}

/-- What a change keeps of each element is kept of the list. -/
lemma map_modify_of_eq {g : α → β} (h : ∀ a, g (f a) = g a) :
    (l.modify i f).map g = l.map g := by
  refine List.ext_getElem? fun k => ?_
  simp only [List.getElem?_map, List.getElem?_modify, Option.map_eq_map, Option.map_map]
  congr 1
  funext a
  by_cases hk : i = k <;> simp [hk, h]

/-- A list with one element changed, seen by one function, is the old list, seen by another. -/
lemma map_modify_eq_map {g h : α → β} (hi : ∀ a, l[i]? = some a → g (f a) = h a)
    (hne : ∀ k a, k ≠ i → l[k]? = some a → g a = h a) : (l.modify i f).map g = l.map h := by
  refine List.ext_getElem? fun k => ?_
  rw [List.getElem?_map, List.getElem?_map, List.getElem?_modify]
  cases hk : l[k]? with
  | none => rfl
  | some a =>
    by_cases hik : i = k
    · subst hik
      simpa using hi a hk
    · simpa [hik] using hne k a (Ne.symm hik) hk

/-- A change that keeps a property of each element keeps the number of those that have it. -/
lemma countP_modify_of_eq {p : α → Bool} (h : ∀ a, p (f a) = p a) :
    (l.modify i f).countP p = l.countP p := by
  have hcount : ∀ l : List α, l.countP p = (l.map p).count true := by
    intro l
    rw [List.count, List.countP_map]
    congr 1
    funext a
    exact (beq_true (p a)).symm
  rw [hcount, map_modify_of_eq h, ← hcount]

lemma forall_mem_modify {P : α → Prop} (h : ∀ a ∈ l, P a)
    (hf : ∀ a, l[i]? = some a → P (f a)) : ∀ a ∈ l.modify i f, P a := by
  intro a ha
  obtain ⟨k, hk⟩ := List.mem_iff_getElem?.mp ha
  rw [List.getElem?_modify, Option.map_eq_map, Option.map_eq_some_iff] at hk
  obtain ⟨b, hb, rfl⟩ := hk
  by_cases hik : i = k
  · subst hik
    simpa using hf b hb
  · simpa [hik] using h b (List.mem_of_getElem? hb)

/-- A change at a known place sets what it makes of the element there. -/
lemma modify_eq_set (h : l[i]? = some a) : l.modify i f = l.set i (f a) := by
  rw [List.modify_eq_set_getElem?, h]
  rfl

lemma mem_modify_of_getElem? (h : l[i]? = some a) : f a ∈ l.modify i f := by
  refine List.mem_of_getElem? (i := i) ?_
  rw [List.getElem?_modify_eq, h]
  rfl

/-- An element stays in a list if it is not the one that is changed. -/
lemma mem_modify_of_mem (hb : b ∈ l) (h : l[i]? = some a) : b = a ∨ b ∈ l.modify i f := by
  obtain ⟨k, hk⟩ := List.mem_iff_getElem?.mp hb
  by_cases hik : i = k
  · subst hik
    exact .inl (Option.some.inj (hk.symm.trans h))
  · refine .inr (List.mem_of_getElem? (i := k) ?_)
    rw [List.getElem?_modify_ne f l hik, hk]

/-- An element of a changed list is the new one or stands at another place. -/
lemma eq_or_of_mem_modify (hb : b ∈ l.modify i f) (h : l[i]? = some a) :
    b = f a ∨ ∃ k, k ≠ i ∧ l[k]? = some b := by
  obtain ⟨k, hk⟩ := List.mem_iff_getElem?.mp hb
  by_cases hik : i = k
  · subst hik
    rw [List.getElem?_modify_eq, h] at hk
    exact .inl (Option.some.inj hk).symm
  · rw [List.getElem?_modify_ne f l hik] at hk
    exact .inr ⟨k, Ne.symm hik, hk⟩

/-- An element stays in a list if it is not the one that is erased. -/
lemma mem_eraseIdx_of_mem (hb : b ∈ l) (h : l[i]? = some a) : b = a ∨ b ∈ l.eraseIdx i := by
  obtain ⟨k, hk⟩ := List.mem_iff_getElem?.mp hb
  by_cases hik : k = i
  · subst hik
    exact .inl (Option.some.inj (hk.symm.trans h))
  · exact .inr (List.mem_eraseIdx_iff_getElem?.mpr ⟨k, hik, hk⟩)

end Modify

/-! ### One element singled out -/

/-- One element at most has a property that only the one at the place `j` may have. -/
lemma countP_mapIdx_le_one {α β : Type} {f : ℕ → α → β} {p : β → Bool} {j : ℕ}
    (h : ∀ i a, i ≠ j → p (f i a) = false) (l : List α) : (l.mapIdx f).countP p ≤ 1 := by
  induction l generalizing f j with
  | nil => exact Nat.zero_le 1
  | cons a l ih =>
    rw [List.mapIdx_cons]
    cases j with
    | zero =>
      have hrest : (l.mapIdx fun i b => f (i + 1) b).countP p = 0 := by
        rw [List.countP_eq_zero]
        intro b hb
        obtain ⟨k, hk, rfl⟩ := List.mem_mapIdx.mp hb
        rw [h (k + 1) l[k] (Nat.succ_ne_zero k)]
        exact Bool.false_ne_true
      rw [List.countP_cons, hrest]
      split_ifs <;> omega
    | succ j =>
      have hfirst : ¬p (f 0 a) = true := by
        rw [h 0 a (Nat.succ_ne_zero j).symm]
        exact Bool.false_ne_true
      rw [List.countP_cons_of_neg hfirst]
      exact ih fun i b hi => h (i + 1) b fun heq => hi (Nat.succ.inj heq)

/-- Where a property is that of one element at most, it tells its place. -/
lemma eq_of_countP_le_one {α : Type} {p : α → Bool} {l : List α} {i j : ℕ} {a b : α}
    (h : l.countP p ≤ 1) (hi : l[i]? = some a) (hj : l[j]? = some b) (ha : p a = true)
    (hb : p b = true) : i = j := by
  induction l generalizing i j with
  | nil => cases hi
  | cons c l ih =>
    have hrest : ∀ {k : ℕ} {d e : α}, (c :: l)[0]? = some d → l[k]? = some e → p d = true →
        p e = true → False := by
      intro k d e hd he hpd hpe
      obtain rfl := Option.some.inj hd
      rw [List.countP_cons_of_pos hpd] at h
      have hpos := List.countP_pos_iff.mpr ⟨e, List.mem_of_getElem? he, hpe⟩
      omega
    cases i with
    | zero =>
      cases j with
      | zero => rfl
      | succ j => exact (hrest hi hj ha hb).elim
    | succ i =>
      cases j with
      | zero => exact (hrest hj hi hb ha).elim
      | succ j =>
        rw [ih (Nat.le_trans (List.sublist_cons_self c l).countP_le h) hi hj]

/-- Where one element at most passes a test, the first that does is that one. -/
lemma find?_eq_some_iff_of_unique {α : Type} {p : α → Bool} {l : List α} {a : α}
    (h : ∀ a ∈ l, ∀ b ∈ l, p a = true → p b = true → a = b) :
    l.find? p = some a ↔ a ∈ l ∧ p a = true := by
  constructor
  · exact fun ha => ⟨List.mem_of_find?_eq_some ha, List.find?_some ha⟩
  · rintro ⟨ha, hpa⟩
    obtain ⟨b, hb⟩ := Option.isSome_iff_exists.mp (List.find?_isSome.mpr ⟨a, ha, hpa⟩)
    rw [hb, h b (List.mem_of_find?_eq_some hb) a ha (List.find?_some hb) hpa]

/-! ### Some elements left -/

/-- Elements that are left take along what belongs to them. -/
lemma flatMap_filter_eq {α β : Type} {p : α → Bool} {q : β → Bool} {g : α → List β} {l : List α}
    (h : ∀ a ∈ l, ∀ b ∈ g a, q b = p a) : (l.filter p).flatMap g = (l.flatMap g).filter q := by
  induction l with
  | nil => rfl
  | cons a l ih =>
    obtain ⟨ha, hl⟩ := List.forall_mem_cons.mp h
    rw [List.flatMap_cons, List.filter_append, ← ih hl]
    cases hp : p a with
    | true =>
      rw [List.filter_cons_of_pos hp, List.flatMap_cons,
        List.filter_eq_self.mpr fun b hb => (ha b hb).trans hp]
    | false =>
      have hnone : (g a).filter q = [] :=
        List.filter_eq_nil_iff.mpr fun b hb => by simp [ha b hb, hp]
      rw [List.filter_cons_of_neg (by simp [hp]), hnone, List.nil_append]

/-! ### Elements side by side -/

section Forall

variable {α β γ : Type} {R : β → γ → Prop}

lemma forall₂_filterMap {f : γ → Option β} {l : List γ} (h : ∀ a ∈ l, ∃ b, f a = some b ∧ R b a) :
    List.Forall₂ R (l.filterMap f) l := by
  induction l with
  | nil => exact .nil
  | cons a l ih =>
    obtain ⟨b, hb, hab⟩ := h a List.mem_cons_self
    rw [List.filterMap_cons_some hb]
    exact .cons hab (ih fun c hc => h c (List.mem_cons_of_mem a hc))

lemma forall₂_flatMap {f : α → List β} {g : α → List γ} {l : List α}
    (h : ∀ a ∈ l, List.Forall₂ R (f a) (g a)) : List.Forall₂ R (l.flatMap f) (l.flatMap g) := by
  induction l with
  | nil => exact .nil
  | cons a l ih =>
    rw [List.flatMap_cons, List.flatMap_cons]
    exact List.rel_append (h a List.mem_cons_self) (ih fun b hb => h b (List.mem_cons_of_mem a hb))

end Forall

/-! ### A state passed along -/

section MapM

variable {α β γ σ : Type} {f : α → StateM σ β}

/-- What holds of all that a function can give holds of what it gives along a list. -/
lemma forall_mem_mapM {P : β → Prop} (h : ∀ a s, P (f a s).1) (l : List α) (s : σ) :
    ∀ b ∈ (l.mapM f s).1, P b := by
  induction l generalizing s with
  | nil => exact fun b hb => absurd hb List.not_mem_nil
  | cons a l ih =>
    rw [List.mapM_cons]
    exact List.forall_mem_cons.mpr ⟨h a s, ih (f a s).2⟩

/-- What does not depend on the state, of all that a function gives, does not along a list. -/
lemma map_mapM {g : β → γ} {k : α → γ} (h : ∀ a s, g (f a s).1 = k a) (l : List α) (s : σ) :
    (l.mapM f s).1.map g = l.map k := by
  induction l generalizing s with
  | nil => rfl
  | cons a l ih =>
    rw [List.mapM_cons]
    exact congrArg₂ List.cons (h a s) (ih (f a s).2)

end MapM

end SchemaDesigner
