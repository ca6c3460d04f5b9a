/-
Pairs of texts that are told by one text, with a separator between the two.

* `IsLaterCut`: a pair that arises from another one by cutting the same text at a later separator;
* `append_separator_inj_iff`: two pairs give the same text if and only if they are the same or one
  of them is a later cut than the other;
* `nodup_map_separated_iff`: texts made of distinct pairs are distinct if and only if no pair is a
  later cut than another one.
-/
import Mathlib.Data.List.Nodup

namespace SchemaDesigner.Text

/-- The pair `a` cuts the text of `b` at a later separator. -/
def IsLaterCut (separator : String) (a b : String × String) : Prop :=
  ∃ p : String, a.1 = b.1 ++ separator ++ p ∧ b.2 = p ++ separator ++ a.2

variable {separator : String}

/-- What a later cut has more in front of it is what its first part goes on with. -/
lemma isLaterCut_iff {a b : String × String} : IsLaterCut separator a b
    ↔ a.1 = b.1 ++ separator ++ String.ofList (a.1.toList.drop (b.1 ++ separator).length)
      ∧ b.2 = String.ofList (a.1.toList.drop (b.1 ++ separator).length) ++ separator ++ a.2 := by
  refine ⟨fun ⟨p, hfirst, hsecond⟩ => ?_, fun h => ⟨_, h⟩⟩
  have hrest : String.ofList (a.1.toList.drop (b.1 ++ separator).length) = p := by
    rw [hfirst, String.toList_append, ← String.length_toList, List.drop_left, String.ofList_toList]
  rw [hrest]
  exact ⟨hfirst, hsecond⟩

instance (a b : String × String) : Decidable (IsLaterCut separator a b) :=
  decidable_of_iff _ isLaterCut_iff.symm

lemma IsLaterCut.append_eq {a b : String × String} (h : IsLaterCut separator a b) :
    a.1 ++ separator ++ a.2 = b.1 ++ separator ++ b.2 := by
  obtain ⟨p, hfirst, hsecond⟩ := h
  rw [hfirst, hsecond]
  simp only [String.append_assoc]

/-- A later cut leaves more in front of it. -/
lemma IsLaterCut.length_lt (hsep : separator.length = 1) {a b : String × String}
    (h : IsLaterCut separator a b) : b.1.length < a.1.length := by
  obtain ⟨p, hfirst, -⟩ := h
  rw [hfirst, String.length_append, String.length_append, hsep]
  omega

/-- If the first part of a pair goes on where that of the other one ends, it is a later cut. -/
lemma eq_or_isLaterCut {c : Char} (hsep : separator.toList = [c]) {a b : String × String}
    {p : List Char} (hfirst : a.1.toList = b.1.toList ++ p)
    (hsecond : c :: b.2.toList = p ++ c :: a.2.toList) : a = b ∨ IsLaterCut separator a b := by
  cases p with
  | nil =>
    rw [List.append_nil] at hfirst
    exact .inl (Prod.ext (String.toList_inj.mp hfirst)
      (String.toList_inj.mp (List.cons.inj hsecond).2.symm))
  | cons d p =>
    obtain ⟨rfl, hrest⟩ := List.cons.inj hsecond
    refine .inr ⟨String.ofList p, String.toList_inj.mp ?_, String.toList_inj.mp ?_⟩
    · simp [hsep, hfirst]
    · simp [hsep, hrest]

/-- A text with one separator in it may be cut at each character that is like the separator. -/
lemma append_separator_inj_iff (hsep : separator.length = 1) {a b : String × String} :
    a.1 ++ separator ++ a.2 = b.1 ++ separator ++ b.2
      ↔ a = b ∨ IsLaterCut separator a b ∨ IsLaterCut separator b a := by
  obtain ⟨c, hc⟩ := List.length_eq_one_iff.mp (String.length_toList.trans hsep)
  constructor
  · intro h
    have hchars : b.1.toList ++ c :: b.2.toList = a.1.toList ++ c :: a.2.toList := by
      have htext := congrArg String.toList h.symm
      simpa [hc] using htext
    rcases List.append_eq_append_iff.mp hchars with ⟨p, hfirst, hsecond⟩ | ⟨p, hfirst, hsecond⟩
    · exact (eq_or_isLaterCut hc hfirst hsecond).imp_right .inl
    · rcases eq_or_isLaterCut hc hfirst hsecond with hsame | hlater
      · exact .inl hsame.symm
      · exact .inr (.inr hlater)
  · rintro (rfl | h | h)
    · rfl
    · exact h.append_eq
    · exact h.append_eq.symm

/-- Texts of distinct pairs are distinct unless one pair is a later cut than another one. -/
lemma nodup_map_separated_iff {α : Type} {key : α → String × String} {l : List α}
    (hkeys : (l.map key).Nodup) (hsep : separator.length = 1) (front : String) :
    (l.map fun a => front ++ (key a).1 ++ separator ++ (key a).2).Nodup
      ↔ ∀ a ∈ l, ∀ b ∈ l, ¬IsLaterCut separator (key a) (key b) := by
  have htext : ∀ a b, front ++ (key a).1 ++ separator ++ (key a).2
        = front ++ (key b).1 ++ separator ++ (key b).2
      ↔ key a = key b ∨ IsLaterCut separator (key a) (key b)
        ∨ IsLaterCut separator (key b) (key a) := by
    intro a b
    rw [← append_separator_inj_iff hsep]
    simp only [String.append_assoc, String.append_right_inj]
  rw [List.nodup_map_iff_inj_on hkeys.of_map]
  constructor
  · intro h a ha b hb hlater
    have hsame := h a ha b hb ((htext a b).mpr (.inr (.inl hlater)))
    exact absurd (hlater.length_lt hsep) (by simp [hsame])
  · intro h a ha b hb hsame
    rcases (htext a b).mp hsame with hkey | hlater | hlater
    · exact List.inj_on_of_nodup_map hkeys ha hb hkey
    · exact absurd hlater (h a ha b hb)
    · exact absurd hlater (h b hb a ha)

end SchemaDesigner.Text
