/-
Letters in upper case: a character that becomes a single other one becomes a letter.

* `isLetterCode`: the code points of letters, of ASCII only those in upper case;
* `CaseRun.isOfLetters`: a run of letters, by its ends or member by member;
* `isOfLetters_image`: the runs of upper case end among letters;
* `eq_or_isLetter_of_upperChars`: so a single character that another one becomes is a letter.
-/
import SchemaDesigner.Proofs.Text.Upper
import SchemaDesigner.Text.Letter

namespace SchemaDesigner.Text

/-- Whether a code point is that of a letter: in upper case from ASCII, or listed beyond. -/
def isLetterCode (n : ℕ) : Bool :=
  ('A'.toNat ≤ n && n ≤ 'Z'.toNat) || (0x80 ≤ n && letterRanges.has n)

lemma isLetter_of_isLetterCode {c : Char} (h : isLetterCode c.toNat = true) :
    isLetter c = true := by
  rw [isLetterCode, Bool.or_eq_true, Bool.and_eq_true, Bool.and_eq_true, decide_eq_true_iff,
    decide_eq_true_iff, decide_eq_true_iff] at h
  obtain ⟨hfirst, hlast⟩ | ⟨hbeyond, hlisted⟩ := h
  · exact forall_char_lt (P := fun c => 'A'.toNat ≤ c.toNat → isLetter c = true) (by decide)
      (Nat.lt_succ_of_le hlast) hfirst
  · rwa [isLetter, if_neg hbeyond.not_gt]

/-- The run lies in a range of letters beyond ASCII, or its members are letters one by one. -/
def CaseRun.isOfLetters (r : CaseRun) : Bool :=
  (0x80 ≤ r.first && letterRanges.any fun q => q.1.ble r.first && r.last.ble q.2)
    || (List.range (r.last + 1 - r.first)).all fun k =>
      !r.has (r.first + k) || isLetterCode (r.first + k)

/-- The members of such a run are letters. -/
lemma CaseRun.isLetterCode_of_has {r : CaseRun} (hr : r.isOfLetters = true) {n : ℕ}
    (h : r.has n = true) : isLetterCode n = true := by
  obtain ⟨hfirst, hlast, -⟩ := CaseRun.has_iff.mp h
  rw [isOfLetters, Bool.or_eq_true, Bool.and_eq_true, decide_eq_true_iff, List.any_eq_true,
    List.all_eq_true] at hr
  obtain ⟨hbeyond, q, hq, hwithin⟩ | hmembers := hr
  · rw [Bool.and_eq_true, Nat.ble_eq, Nat.ble_eq] at hwithin
    have hlisted : letterRanges.has n = true :=
      (letterRanges.has_iff n).mpr ⟨q, hq, hwithin.1.trans hfirst, hlast.trans hwithin.2⟩
    rw [isLetterCode, hlisted, decide_eq_true (hbeyond.trans hfirst), Bool.and_true, Bool.or_true]
  · obtain ⟨k, rfl⟩ := Nat.exists_eq_add_of_le hfirst
    have hk := hmembers k (List.mem_range.mpr (by omega))
    rwa [h, Bool.not_true, Bool.false_or] at hk

/-- What upper case makes of the members of a run are letters. -/
lemma isOfLetters_image : ∀ r ∈ upperRuns, r.image.isOfLetters = true := by
  decide +kernel

/-- The single character that another one becomes in upper case is a letter. -/
lemma eq_or_isLetter_of_upperChars {c d : Char} (h : upperChars c = [d]) :
    d = c ∨ isLetter d = true := by
  have hc := upperChars.eq_1 c
  rw [h] at hc
  split_ifs at hc with hascii
  · rw [List.singleton_inj.mp hc]
    exact forall_char_lt (P := fun c => c.toUpper = c ∨ isLetter c.toUpper = true) (by decide) hascii
  split at hc
  · rename_i ns hns
    have hlength := (isSettled_expansion _ (mem_upperExpansions hns)).1
    rw [← List.length_map Char.ofNat, ← hc] at hlength
    cases hlength.ne rfl
  split at hc
  · rename_i r hr
    have hmem := List.mem_of_find?_eq_some hr
    have hhas : r.has c.toNat = true := by simpa using List.find?_some hr
    obtain ⟨hshift, hsettled⟩ := isSettled_image r hmem
    have himage := CaseRun.has_image hhas hshift
    right
    apply isLetter_of_isLetterCode
    rw [List.singleton_inj.mp hc, toNat_ofNat_of_isSettled hsettled himage]
    exact CaseRun.isLetterCode_of_has (isOfLetters_image r hmem) himage
  · exact .inl (List.singleton_inj.mp hc)

end SchemaDesigner.Text
