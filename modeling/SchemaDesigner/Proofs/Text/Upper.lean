/-
Upper case is reached in one step and keeps blanks apart from other characters.

* `CaseRun.isApart`: two runs have no character in common, as their ends or their steps show;
* `changingRuns`, `blankRuns`: the characters that upper case changes, and the blank ones;
* `upperChars_of_mem_upperChars`: what a character becomes stays as it is and is not blank, unless
  the character was;
* `upper_upper`, `trim_upper`: the same for texts;
* `ColumnType.ofName_name_ofName`: a type that was read from a name is read from its own name.
-/
import Mathlib.Data.Nat.ModEq
import SchemaDesigner.ColumnType
import SchemaDesigner.Proofs.Name

namespace SchemaDesigner

namespace Text

/-! ### Runs without common characters -/

namespace CaseRun

/-- The ends or the steps of the runs show that no code point belongs to both. -/
def isApart (r q : CaseRun) : Bool :=
  r.last.blt q.first || q.last.blt r.first
    || ((r.step % q.step).beq 0 && !(r.first % q.step).beq (q.first % q.step))

/-- The characters that those of a run become. The step of a single one is 0. -/
def image (r : CaseRun) : CaseRun where
  first := (r.first + r.shift).toNat
  last := (r.last + r.shift).toNat
  step := if r.first == r.last then 0 else r.step
  shift := 0

/-- A single character. -/
def single (n : ℕ) : CaseRun :=
  ⟨n, n, 0, 0⟩

variable {r q : CaseRun} {n : ℕ}

lemma has_iff : r.has n = true ↔ r.first ≤ n ∧ n ≤ r.last ∧ r.step ∣ n - r.first := by
  rw [has, Bool.and_eq_true, Bool.and_eq_true, decide_eq_true_iff, decide_eq_true_iff, beq_iff_eq,
    Nat.dvd_iff_mod_eq_zero, and_assoc]

lemma has_single (n : ℕ) : (single n).has n = true :=
  has_iff.mpr ⟨le_refl n, le_refl n, (Nat.sub_self n).symm ▸ dvd_zero 0⟩

/-- Members of a run are congruent by any divisor of its step. -/
lemma mod_eq_of_has (h : r.has n = true) {k : ℕ} (hk : k ∣ r.step) : n % k = r.first % k := by
  obtain ⟨hfirst, -, hstep⟩ := has_iff.mp h
  exact ((Nat.modEq_iff_dvd' hfirst).mpr (hk.trans hstep)).symm

lemma isApart_spec (h : r.isApart q = true) (hr : r.has n = true) : q.has n = false := by
  rw [Bool.eq_false_iff]
  intro hq
  obtain ⟨hrfirst, hrlast, -⟩ := has_iff.mp hr
  obtain ⟨hqfirst, hqlast, -⟩ := has_iff.mp hq
  rw [isApart, Bool.or_eq_true, Bool.or_eq_true, Nat.blt_eq, Nat.blt_eq] at h
  obtain (h | h) | h := h
  · omega
  · omega
  · rw [Bool.and_eq_true, Nat.beq_eq, Bool.not_eq_true'] at h
    have hmod := (mod_eq_of_has hr (Nat.dvd_of_mod_eq_zero h.1)).symm.trans
      (mod_eq_of_has hq dvd_rfl)
    rw [hmod, Nat.beq_refl] at h
    exact absurd h.2 Bool.true_eq_false.mp

/-- A member of a run moves to a member of the image. -/
lemma has_image (h : r.has n = true) (hshift : 0 ≤ r.first + r.shift) :
    r.image.has (n + r.shift).toNat = true := by
  obtain ⟨hfirst, hlast, hstep⟩ := has_iff.mp h
  refine has_iff.mpr ⟨?_, ?_, ?_⟩
  · simp only [image]
    omega
  · simp only [image]
    omega
  · have hsub : (n + r.shift).toNat - r.image.first = n - r.first := by
      simp only [image]
      omega
    rw [hsub, image]
    split_ifs with hsingle
    · rw [beq_iff_eq] at hsingle
      rw [Nat.sub_eq_zero_of_le (hlast.trans hsingle.ge)]
    · exact hstep

end CaseRun

/-! ### The characters that upper case changes -/

/-- The characters that upper case changes. -/
def changingRuns : List CaseRun :=
  ⟨'a'.toNat, 'z'.toNat, 1, 0⟩ :: upperRuns ++ upperExpansions.map fun e => CaseRun.single e.1

/-- The blank characters. -/
def blankRuns : List CaseRun :=
  [⟨0x09, 0x0D, 1, 0⟩, ⟨0x20, 0x20, 1, 0⟩, ⟨0x85, 0x85, 1, 0⟩, ⟨0xA0, 0xA0, 1, 0⟩,
   ⟨0x1680, 0x1680, 1, 0⟩, ⟨0x2000, 0x200A, 1, 0⟩, ⟨0x2028, 0x2029, 1, 0⟩,
   ⟨0x202F, 0x202F, 1, 0⟩, ⟨0x205F, 0x205F, 1, 0⟩, ⟨0x3000, 0x3000, 1, 0⟩]

/-- A run is apart from all characters that change and all blank ones, and its code points are those
of characters. -/
def isSettled (r : CaseRun) : Bool :=
  (changingRuns ++ blankRuns).all r.isApart
    && (r.last.blt 0xD800 || ((0xDFFF).blt r.first && r.last.blt 0x110000))

variable {c d : Char} {r : CaseRun}

lemma isBlank_eq_any (c : Char) : isBlank c = blankRuns.any fun r => r.has c.toNat := by
  rw [Bool.eq_iff_iff]
  simp only [blankRuns, List.any_cons, List.any_nil, Bool.or_false, CaseRun.has, isBlank,
    Bool.or_eq_true, Bool.and_eq_true, decide_eq_true_eq, beq_iff_eq]
  omega

/-- The other characters of ASCII are in upper case. -/
lemma toUpper_of_not_has (h : (CaseRun.mk 'a'.toNat 'z'.toNat 1 0).has c.toNat = false) :
    c.toUpper = c := by
  refine dif_neg fun hletter => ?_
  rw [Bool.eq_false_iff, ne_eq, CaseRun.has_iff] at h
  exact h ⟨hletter.1, hletter.2, one_dvd _⟩

lemma upperChars_of_not_changing (h : ∀ r ∈ changingRuns, r.has c.toNat = false) :
    upperChars c = [c] := by
  obtain ⟨⟨hascii, hruns⟩, hexpansions⟩ : (_ ∧ _) ∧ _ := by
    rwa [changingRuns, List.forall_mem_append, List.forall_mem_cons] at h
  have hlookup : upperExpansions.lookup c.toNat = none := by
    rw [List.lookup_eq_none_iff]
    intro e he
    rw [bne_iff_ne]
    intro heq
    have hsingle := hexpansions _ (List.mem_map_of_mem he)
    rw [← heq, CaseRun.has_single] at hsingle
    cases hsingle
  have hfind : upperRuns.find? (·.has c.toNat) = none := by
    rw [List.find?_eq_none]
    exact fun r hr => Bool.eq_false_iff.mp (hruns r hr)
  rw [upperChars, hlookup, hfind, toUpper_of_not_has hascii, ite_self]

/-! ### What characters become -/

/-- The runs move to characters that stay as they are. -/
lemma isSettled_image :
    ∀ r ∈ upperRuns, 0 ≤ r.first + r.shift ∧ isSettled r.image = true := by
  decide +kernel

/-- The expansions have two characters or more, which stay as they are. -/
lemma isSettled_expansion :
    ∀ e ∈ upperExpansions, 1 < e.2.length ∧ ∀ n ∈ e.2, isSettled (.single n) = true := by
  decide +kernel

/-- No character that upper case changes is blank. -/
lemma isApart_changing : ∀ r ∈ blankRuns, ∀ q ∈ changingRuns, r.isApart q = true := by
  decide +kernel

/-- The members of a settled run are code points of characters. -/
lemma toNat_ofNat_of_isSettled {n : ℕ} (h : isSettled r = true) (hn : r.has n = true) :
    (Char.ofNat n).toNat = n := by
  obtain ⟨hfirst, hlast, -⟩ := CaseRun.has_iff.mp hn
  simp only [isSettled, Bool.or_eq_true, Bool.and_eq_true, Nat.blt_eq] at h
  have hchar : n.isValidChar := by
    rw [Nat.isValidChar]
    omega
  rw [Char.ofNat, dif_pos hchar]
  rfl

/-- The members of a settled run are neither changed nor blank. -/
lemma upperChars_of_isSettled {n : ℕ} (h : isSettled r = true) (hn : r.has n = true) :
    upperChars (Char.ofNat n) = [Char.ofNat n] ∧ isBlank (Char.ofNat n) = false := by
  have hapart : ∀ q ∈ changingRuns ++ blankRuns, r.isApart q = true := by
    rw [isSettled, Bool.and_eq_true] at h
    exact List.all_eq_true.mp h.1
  have hnot : ∀ q ∈ changingRuns ++ blankRuns, q.has (Char.ofNat n).toNat = false := by
    intro q hq
    rw [toNat_ofNat_of_isSettled h hn]
    exact CaseRun.isApart_spec (hapart q hq) hn
  rw [List.forall_mem_append] at hnot
  refine ⟨upperChars_of_not_changing hnot.1, ?_⟩
  rw [isBlank_eq_any, List.any_eq_false]
  exact fun q hq => Bool.eq_false_iff.mp (hnot.2 q hq)

/-- A blank character is its own upper case. -/
lemma upperChars_of_isBlank (h : isBlank c = true) : upperChars c = [c] := by
  rw [isBlank_eq_any, List.any_eq_true] at h
  obtain ⟨r, hr, hc⟩ := h
  exact upperChars_of_not_changing fun q hq => CaseRun.isApart_spec (isApart_changing r hr q hq) hc

lemma mem_upperExpansions {n : ℕ} {ns : List ℕ} (h : upperExpansions.lookup n = some ns) :
    (n, ns) ∈ upperExpansions := by
  obtain ⟨before, after, hl, -⟩ := List.lookup_eq_some_iff.mp h
  rw [hl]
  exact List.mem_append_right before List.mem_cons_self

/-- What a character becomes stays as it is, and it is blank only if the character was. -/
lemma upperChars_of_mem_upperChars (h : d ∈ upperChars c) :
    upperChars d = [d] ∧ (isBlank c = false → isBlank d = false) := by
  have hc := upperChars.eq_1 c
  split_ifs at hc with hascii
  · obtain rfl := List.mem_singleton.mp (hc ▸ h)
    exact forall_char_lt (P := fun c => upperChars c.toUpper = [c.toUpper]
      ∧ (isBlank c = false → isBlank c.toUpper = false)) (by decide) hascii
  split at hc
  · rename_i ns hns
    obtain ⟨n, hn, rfl⟩ := List.mem_map.mp (hc ▸ h)
    have hsettled := (isSettled_expansion _ (mem_upperExpansions hns)).2 n hn
    have hd := upperChars_of_isSettled hsettled (CaseRun.has_single n)
    exact ⟨hd.1, fun _ => hd.2⟩
  split at hc
  · rename_i r hr
    obtain rfl := List.mem_singleton.mp (hc ▸ h)
    have hmem := List.mem_of_find?_eq_some hr
    have hhas : r.has c.toNat = true := by simpa using List.find?_some hr
    obtain ⟨hshift, hsettled⟩ := isSettled_image r hmem
    have hd := upperChars_of_isSettled hsettled (CaseRun.has_image hhas hshift)
    exact ⟨hd.1, fun _ => hd.2⟩
  · obtain rfl := List.mem_singleton.mp (hc ▸ h)
    exact ⟨hc, id⟩

lemma upperChars_ne_nil (c : Char) : upperChars c ≠ [] := by
  rw [upperChars]
  split_ifs
  · exact List.cons_ne_nil _ _
  split
  · rename_i ns hns
    have hlength := (isSettled_expansion _ (mem_upperExpansions hns)).1
    exact fun h => List.ne_nil_of_length_pos (Nat.zero_lt_of_lt hlength) (List.map_eq_nil_iff.mp h)
  · split <;> exact List.cons_ne_nil _ _

/-! ### Whole texts -/

lemma trimStart_flatMap_upperChars (cs : List Char) :
    trimStart (cs.flatMap upperChars) = (trimStart cs).flatMap upperChars := by
  induction cs with
  | nil => rfl
  | cons c cs ih =>
    rw [List.flatMap_cons, trimStart, trimStart, List.dropWhile_cons]
    cases hc : isBlank c with
    | true =>
      rw [upperChars_of_isBlank hc, List.singleton_append, List.dropWhile_cons, hc]
      exact ih
    | false =>
      obtain ⟨d, ds, hds⟩ := List.exists_cons_of_ne_nil (upperChars_ne_nil c)
      have hd : isBlank d = false :=
        (upperChars_of_mem_upperChars (hds ▸ List.mem_cons_self)).2 hc
      rw [hds, List.cons_append, List.dropWhile_cons, hd, if_neg Bool.false_ne_true,
        if_neg Bool.false_ne_true, List.flatMap_cons, hds, List.cons_append]

lemma trimEnd_flatMap_upperChars (cs : List Char) :
    trimEnd (cs.flatMap upperChars) = (trimEnd cs).flatMap upperChars := by
  rw [trimEnd_eq_rdropWhile, trimEnd_eq_rdropWhile]
  induction cs using List.reverseRecOn with
  | nil => rfl
  | append_singleton cs c ih =>
    rw [List.flatMap_append, List.flatMap_singleton]
    cases hc : isBlank c with
    | true =>
      rw [upperChars_of_isBlank hc, List.rdropWhile_concat_pos _ _ _ hc,
        List.rdropWhile_concat_pos _ _ _ hc, ih]
    | false =>
      have hne := Bool.eq_false_iff.mp hc
      have hlast : isBlank ((upperChars c).getLast (upperChars_ne_nil c)) = false :=
        (upperChars_of_mem_upperChars (List.getLast_mem _)).2 hc
      rw [List.rdropWhile_concat_neg _ _ _ hne, List.flatMap_append, List.flatMap_singleton,
        ← List.dropLast_append_getLast (upperChars_ne_nil c), ← List.append_assoc,
        List.rdropWhile_concat_neg _ _ _ (Bool.eq_false_iff.mp hlast)]

@[simp]
theorem upper_upper (s : String) : upper (upper s) = upper s := by
  rw [upper, upper, String.toList_ofList, List.flatMap_assoc]
  congr 1
  refine List.flatMap_congr fun c _ => ?_
  rw [List.flatMap_congr fun d hd => (upperChars_of_mem_upperChars hd).1]
  exact List.flatMap_singleton' _

/-- It makes no difference whether blanks are dropped before or after. -/
theorem trim_upper (s : String) : trim (upper s) = upper (trim s) := by
  rw [trim, upper, upper, trim, String.toList_ofList, String.toList_ofList,
    trimStart_flatMap_upperChars, trimEnd_flatMap_upperChars]

end Text

namespace ColumnType

/-- A name in upper case means one of the known types, or the type of that name. -/
lemma mem_known_or_ofUpper_eq (u : String) : ofUpper u ∈ known ∨ ofUpper u = other u := by
  rw [ofUpper]
  split_ifs
  · exact .inl (by decide)
  cases hfind : known.find? fun t => t.name == u with
  | none => exact .inr rfl
  | some t => exact .inl (List.mem_of_find?_eq_some hfind)

/-- The names of the known types are in upper case and without outer blanks. -/
lemma ofName_name_of_known : ∀ t ∈ known, ofName t.name = t := by
  decide +kernel

/-- A type that was read from a name is read from its own name. -/
theorem ofName_name_ofName (s : String) : ofName (ofName s).name = ofName s := by
  obtain hknown | hother := mem_known_or_ofUpper_eq (Text.upper (Text.trim s))
  · exact ofName_name_of_known _ hknown
  · rw [ofName, ofName, hother, name, Text.trim_upper, Text.trim_trim, Text.upper_upper, hother]

end ColumnType

end SchemaDesigner
