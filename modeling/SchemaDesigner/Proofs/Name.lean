/-
Names of tables and columns as a designed schema has them.

* `DistinctNames`: names of which no two match;
* `DistinctNames.iff_nodup`: matching goes by the folded name, so such names fold to different ones;
* `DistinctNames.set`, `DistinctNames.set_of_match`, `DistinctNames.replace`: a name may give way to
  one that is new and to one that matches it;
* `DistinctNames.eq_of_match`, `DistinctNames.find?_eq_some_iff`,
  `DistinctNames.eraseIdx_eq_filter`: such a name tells a place, an element and the rest;
* `Text.isBlankText_eq_of_match`, `Text.isBlankText_trim`: names that match are blank together, and
  a trimmed name is blank only if it is empty;
* `Text.upper_eq_of_match`: and they have the same upper case;
* `IsProperName`, `IsProperName.trim`: a name that is not empty and has no outer blanks, as
  trimming leaves it.
-/
import Mathlib.Data.List.DropRight
import Mathlib.Data.List.Nodup
import SchemaDesigner.Name
import SchemaDesigner.Proofs.List
import SchemaDesigner.Text.Blank
import SchemaDesigner.Text.Upper

namespace SchemaDesigner

lemma namesMatch_congr {a b c : String} (h : namesMatch a b = true) :
    namesMatch a c = namesMatch b c := by
  rw [namesMatch, namesMatch, namesMatch_iff.mp h]

/-! ### Names that differ -/

/-- No two of the names match. -/
def DistinctNames (names : List String) : Prop :=
  names.Pairwise fun a b => namesMatch a b = false

instance (names : List String) : Decidable (DistinctNames names) :=
  inferInstanceAs (Decidable (List.Pairwise _ _))

namespace DistinctNames

variable {names : List String} {name : String}

lemma iff_nodup : DistinctNames names ↔ (names.map foldName).Nodup := by
  rw [DistinctNames, List.Nodup, List.pairwise_map]
  simp only [namesMatch, beq_eq_false_iff_ne]

lemma perm_iff {names' : List String} (h : names.Perm names') :
    DistinctNames names ↔ DistinctNames names' := by
  rw [iff_nodup, iff_nodup]
  exact (h.map foldName).nodup_iff

/-- A name follows at the end if none matches it. -/
lemma append (h : DistinctNames names) (hn : ∀ a ∈ names, namesMatch a name = false) :
    DistinctNames (names ++ [name]) := by
  refine List.pairwise_append.mpr ⟨h, List.pairwise_singleton _ _, fun a ha b hb => ?_⟩
  rw [List.mem_singleton.mp hb]
  exact hn a ha

lemma sublist {names' : List String} (h : DistinctNames names') (hs : names.Sublist names') :
    DistinctNames names :=
  List.Pairwise.sublist hs h

/-- A new name may take any place. -/
lemma set (h : DistinctNames names) (i : ℕ) (hn : ∀ a ∈ names, namesMatch a name = false) :
    DistinctNames (names.set i name) := by
  rw [iff_nodup, List.map_set]
  refine List.Nodup.set (iff_nodup.mp h) fun hmem => ?_
  obtain ⟨a, ha, hfold⟩ := List.mem_map.mp hmem
  exact absurd (namesMatch_iff.mpr hfold) (by simp [hn a ha])

/-- A name may change into one that matches it. -/
lemma set_of_match {i : ℕ} {old : String} (h : DistinctNames names) (hi : names[i]? = some old)
    (hm : namesMatch old name = true) : DistinctNames (names.set i name) := by
  rw [iff_nodup, List.map_set, ← namesMatch_iff.mp hm]
  have hold : (names.map foldName)[i]? = some (foldName old) := by
    rw [List.getElem?_map, hi]
    rfl
  obtain ⟨hlt, hget⟩ := List.getElem?_eq_some_iff.mp hold
  rw [← hget, List.set_getElem_self]
  exact iff_nodup.mp h

/-- A name may change into any other that is new if it does not match. -/
lemma replace {i : ℕ} {old new : String}
    (h : DistinctNames names) (hi : names[i]? = some old)
    (hn : namesMatch old new = false → ∀ a ∈ names, namesMatch a new = false) :
    DistinctNames (names.set i new) := by
  cases hm : namesMatch old new with
  | true => exact h.set_of_match hi hm
  | false => exact h.set i (hn hm)

/-- Other names are distinct if they match only where the old ones did. -/
lemma map {f : String → String} (h : DistinctNames names)
    (hf : ∀ a ∈ names, ∀ b ∈ names, namesMatch (f a) (f b) = true → namesMatch a b = true) :
    DistinctNames (names.map f) := by
  refine List.pairwise_map.mpr (List.Pairwise.imp_of_mem (fun ha hb hab => ?_) h)
  rw [← Bool.not_eq_true] at hab ⊢
  exact mt (hf _ ha _ hb) hab

/-- Places with matching names are the same place. -/
lemma eq_of_match {i j : ℕ} {a b : String} (h : DistinctNames names) (hi : names[i]? = some a)
    (hj : names[j]? = some b) (hm : namesMatch a b = true) : i = j := by
  have hlt : i < (names.map foldName).length := by
    rw [List.length_map]
    exact (List.getElem?_eq_some_iff.mp hi).1
  refine (List.getElem?_inj hlt (iff_nodup.mp h)).mp ?_
  rw [List.getElem?_map, List.getElem?_map, hi, hj, Option.map_some, Option.map_some,
    namesMatch_iff.mp hm]

/-- Of things with distinct names, those with matching names are the same. -/
lemma eq_of_mem {α : Type} {f : α → String} {l : List α} {a b : α} (h : DistinctNames (l.map f))
    (ha : a ∈ l) (hb : b ∈ l) (hm : namesMatch (f a) (f b) = true) : a = b := by
  obtain ⟨i, hi⟩ := List.mem_iff_getElem?.mp ha
  obtain ⟨j, hj⟩ := List.mem_iff_getElem?.mp hb
  have hij : i = j := h.eq_of_match (by rw [List.getElem?_map, hi]; rfl)
    (by rw [List.getElem?_map, hj]; rfl) hm
  rw [hij, hj] at hi
  exact (Option.some.inj hi).symm

/-- Among things with distinct names, the one that a name denotes is the only one of that name. -/
lemma find?_eq_some_iff {α : Type} {f : α → String} {l : List α} {a : α}
    {name : String} (h : DistinctNames (l.map f)) :
    l.find? (fun b => namesMatch (f b) name) = some a ↔ a ∈ l ∧ namesMatch (f a) name = true :=
  find?_eq_some_iff_of_unique fun _ hb _ hc hbname hcname =>
    h.eq_of_mem hb hc (namesMatch_trans hbname (namesMatch_symm hcname))

/-- To erase one of the things with distinct names is to leave out those of its name. -/
lemma eraseIdx_eq_filter {α : Type} {f : α → String} {l : List α} {i : ℕ} {a : α}
    (h : DistinctNames (l.map f)) (hi : l[i]? = some a) :
    l.eraseIdx i = l.filter fun b => !namesMatch (f b) (f a) := by
  induction l generalizing i with
  | nil => cases hi
  | cons b l ih =>
    obtain ⟨hfirst, hrest⟩ := List.pairwise_cons.mp h
    cases i with
    | zero =>
      obtain rfl := Option.some.inj hi
      rw [List.eraseIdx_cons_zero, List.filter_cons_of_neg (by simp), eq_comm, List.filter_eq_self]
      intro c hc
      rw [Bool.not_eq_true', ← Bool.not_eq_true]
      intro hm
      exact absurd (namesMatch_symm hm) (by simp [hfirst (f c) (List.mem_map_of_mem hc)])
    | succ i =>
      have hb : namesMatch (f b) (f a) = false :=
        hfirst (f a) (List.mem_map_of_mem (List.mem_of_getElem? hi))
      rw [List.eraseIdx_cons_succ, List.filter_cons_of_pos (by simp [hb]), ih hrest hi]

end DistinctNames

/-! ### Names without outer blanks -/

namespace Text

lemma trimEnd_eq_rdropWhile (cs : List Char) : trimEnd cs = cs.rdropWhile isBlank := rfl

/-- What is trimmed at both ends does not begin with a blank. -/
lemma trimStart_trimEnd_trimStart (cs : List Char) :
    trimStart (trimEnd (trimStart cs)) = trimEnd (trimStart cs) := by
  rw [trimEnd_eq_rdropWhile, trimStart, List.dropWhile_eq_self_iff]
  intro hpos hblank
  have hpre := List.rdropWhile_prefix isBlank (l := trimStart cs)
  have hlen := lt_of_lt_of_le hpos hpre.length_le
  have hget := hpre.getElem hpos
  have hfirst := List.dropWhile_get_zero_not isBlank cs hlen
  rw [hget] at hblank
  exact hfirst hblank

@[simp]
lemma trim_trim (s : String) : trim (trim s) = trim s := by
  rw [trim, trim, String.toList_ofList, trimStart_trimEnd_trimStart,
    trimEnd_eq_rdropWhile, trimEnd_eq_rdropWhile, List.rdropWhile_idempotent]

end Text

/-! ### Blank names -/

namespace Text

/-- The visible characters of ASCII are not blank. -/
lemma isBlank_of_visible {c : Char} (hfirst : 0x21 ≤ c.toNat) (hlast : c.toNat ≤ 0x7E) :
    isBlank c = false := by
  simp only [isBlank, Bool.or_eq_false_iff, Bool.and_eq_false_iff, decide_eq_false_iff_not,
    beq_eq_false_iff_ne]
  omega

/-- What holds of the characters below a bound, code point by code point, holds of each of them. -/
lemma forall_char_lt {P : Char → Prop} {bound : ℕ} (h : ∀ n < bound, P (Char.ofNat n)) {c : Char}
    (hc : c.toNat < bound) : P c := by
  have hp := h c.toNat hc
  rwa [Char.ofNat_toNat] at hp

/-- A function of characters that makes no difference between the cases of ASCII letters makes none
between a character and its lower case. -/
lemma apply_toLower {α : Type} (f : Char → α)
    (h : ∀ n < 128, f (Char.ofNat n).toLower = f (Char.ofNat n)) (c : Char) :
    f c.toLower = f c := by
  by_cases hascii : c.toNat < 128
  · exact forall_char_lt (P := fun c => f c.toLower = f c) h hascii
  · have hsame : c.toLower = c := by
      refine dif_neg fun hupper => hascii ?_
      have hlast : c.toNat ≤ 90 := hupper.2
      omega
    rw [hsame]

lemma isBlank_toLower (c : Char) : isBlank c.toLower = isBlank c :=
  apply_toLower isBlank (by decide) c

/-- Names that match are both blank or both not. -/
lemma isBlankText_eq_of_match {a b : String} (h : namesMatch a b = true) :
    isBlankText a = isBlankText b := by
  have hfold : ∀ s, isBlankText s = (foldName s).all isBlank := by
    intro s
    rw [isBlankText, foldName, List.all_map]
    congr 1
    funext c
    exact (isBlank_toLower c).symm
  rw [hfold, hfold, namesMatch_iff.mp h]

lemma trim_eq_empty {s : String} (h : isBlankText s = true) : trim s = "" := by
  have hstart : trimStart s.toList = [] :=
    List.dropWhile_eq_nil_iff.mpr (List.all_eq_true.mp h)
  rw [trim, hstart]
  rfl

/-- What trimming leaves of a name is not blank, unless nothing is left. -/
lemma isBlankText_trim {s : String} (h : trim s ≠ "") : isBlankText (trim s) = false := by
  rw [Bool.eq_false_iff]
  intro hblank
  exact h (trim_trim s ▸ trim_eq_empty hblank)

end Text

/-- A name that says something and has no blanks around it. -/
def IsProperName (name : String) : Prop :=
  name ≠ "" ∧ Text.trim name = name

lemma IsProperName.trim {s : String} (h : Text.trim s ≠ "") : IsProperName (Text.trim s) :=
  ⟨h, Text.trim_trim s⟩

/-! ### Upper case of names -/

namespace Text

lemma upperChars_toLower (c : Char) : upperChars c.toLower = upperChars c :=
  apply_toLower upperChars (by decide) c

/-- Names that match have the same upper case. -/
lemma upper_eq_of_match {a b : String} (h : namesMatch a b = true) : upper a = upper b := by
  have hfold : ∀ s, upper s = String.ofList ((foldName s).flatMap upperChars) := by
    intro s
    rw [upper, foldName, List.flatMap_map]
    congr 2
    funext c
    exact (upperChars_toLower c).symm
  rw [hfold, hfold, namesMatch_iff.mp h]

end Text

end SchemaDesigner
