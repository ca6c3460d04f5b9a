/-
Numbers as they are written are read whatever follows them, as far as it ends a value.

* `EndsValue`: the end of the text, white space, a comma or a closing bracket;
* `readNumeral_append`: what ends a value does not change a number in front of it;
* `IsReadBack`: a number that its written form gives back;
* `IsReadBack.readScalar_append`: such a number is read as itself whatever ends it.
-/
import Mathlib.Tactic.Common
import SchemaDesigner.Json.Reader

namespace SchemaDesigner.Json

/-- The characters begin with what may follow a value. -/
def EndsValue (r : List Char) : Prop :=
  ∀ c ∈ r.head?, isSpace c = true ∨ c = ',' ∨ c = ']' ∨ c = '\x7d'

/-! ### What ends a value belongs to no number -/

namespace EndsValue

variable {r : List Char}

lemma nil : EndsValue [] := fun _ h => by cases h

lemma cons {c : Char} (h : isSpace c = true ∨ c = ',' ∨ c = ']' ∨ c = '\x7d') (r : List Char) :
    EndsValue (c :: r) := by
  rintro d hd
  rwa [← Option.some.inj hd]

/-- No character that goes on with a number ends a value. -/
lemma ne_of_head (h : EndsValue r) {c : Char} {s : List Char} (hr : r = c :: s) :
    c.isDigit = false ∧ c ≠ '-' ∧ c ≠ '.' ∧ c ≠ 'e' ∧ c ≠ 'E' := by
  have hc := h c (by rw [hr]; rfl)
  simp only [isSpace, Bool.or_eq_true, beq_iff_eq] at hc
  obtain (((rfl | rfl) | rfl) | rfl) | rfl | rfl | rfl := hc <;> decide

/-- What ends a value ends its digits. -/
lemma splitDigits_append (h : EndsValue r) (cs : List Char) :
    splitDigits (cs ++ r) = ((splitDigits cs).1, (splitDigits cs).2 ++ r) := by
  induction cs with
  | nil =>
    cases r with
    | nil => rfl
    | cons c s =>
      rw [List.nil_append, splitDigits, List.takeWhile_cons, List.dropWhile_cons,
        (h.ne_of_head rfl).1]
      rfl
  | cons c cs ih =>
    simp only [splitDigits, Prod.mk.injEq] at ih
    simp only [splitDigits, List.cons_append, List.takeWhile_cons, List.dropWhile_cons]
    split_ifs
    · rw [ih.1, ih.2]
    · rfl

lemma readMinus_append (h : EndsValue r) (cs : List Char) :
    readMinus (cs ++ r) = ((readMinus cs).1, (readMinus cs).2 ++ r) := by
  cases cs with
  | nil =>
    cases r with
    | nil => rfl
    | cons c s =>
      rw [List.nil_append, readMinus.eq_def]
      split
      · rename_i heq
        exact absurd (List.cons.inj heq).1 (h.ne_of_head rfl).2.1
      · rfl
  | cons c cs =>
    rw [List.cons_append, readMinus.eq_def, readMinus.eq_def]
    by_cases hc : c = '-'
    · subst hc
      rfl
    · simp [hc]

variable {cs rest : List Char}

/-- A whole number is read as digits, of which there is one at least and the first is zero only if
it is the only one. -/
lemma readWhole_eq_ok {ds : List Char} : readWhole cs = .ok (ds, rest) ↔
    splitDigits cs = (ds, rest) ∧ ds ≠ [] ∧ ∀ d es, ds ≠ '0' :: d :: es := by
  rw [readWhole]
  generalize splitDigits cs = split
  split
  · exact ⟨nofun, fun ⟨h, hne, _⟩ => absurd (Prod.mk.inj h).1.symm hne⟩
  · exact ⟨nofun, fun ⟨h, _, hzero⟩ => absurd (Prod.mk.inj h).1.symm (hzero _ _)⟩
  · rename_i hnil hzero
    rw [Except.ok.injEq]
    refine ⟨fun h => ⟨h, ?_, ?_⟩, fun h => h.1⟩
    · rintro rfl
      exact hnil rest h
    · rintro d es rfl
      exact hzero d es rest h

/-- A whole number is read whatever ends the value. -/
lemma readWhole_append (h : EndsValue r) {ds : List Char}
    (hcs : readWhole cs = .ok (ds, rest)) : readWhole (cs ++ r) = .ok (ds, rest ++ r) := by
  obtain ⟨hsplit, hdigits⟩ := readWhole_eq_ok.mp hcs
  refine readWhole_eq_ok.mpr ⟨?_, hdigits⟩
  rw [h.splitDigits_append, hsplit]

/-- So is a fraction. -/
lemma readFraction_append (h : EndsValue r) {fraction : Option (List Char)}
    (hcs : readFraction cs = .ok (fraction, rest)) :
    readFraction (cs ++ r) = .ok (fraction, rest ++ r) := by
  rw [readFraction.eq_def] at hcs
  split at hcs
  · rename_i s
    rw [List.cons_append, readFraction, h.splitDigits_append]
    generalize splitDigits s = split at hcs
    obtain ⟨_ | ⟨d, ds⟩, after⟩ := split
    · cases hcs
    · obtain ⟨rfl, rfl⟩ := Prod.mk.inj (Except.ok.inj hcs)
      rfl
  · rename_i hpoint
    obtain ⟨rfl, rfl⟩ := Prod.mk.inj (Except.ok.inj hcs)
    rw [readFraction.eq_def]
    split
    · rename_i s heq
      cases cs with
      | nil => exact absurd rfl (h.ne_of_head heq).2.2.1
      | cons c cs =>
        obtain ⟨rfl, -⟩ := List.cons.inj heq
        exact absurd rfl (hpoint cs)
    · rfl

lemma readExponentSign_cons (c : Char) (cs r : List Char) : readExponentSign (c :: cs ++ r)
    = ((readExponentSign (c :: cs)).1, (readExponentSign (c :: cs)).2 ++ r) := by
  rw [List.cons_append, readExponentSign.eq_def, readExponentSign.eq_def]
  by_cases hminus : c = '-'
  · subst hminus
    rfl
  · by_cases hplus : c = '+'
    · subst hplus
      rfl
    · simp [hminus, hplus]

/-- So is an exponent. -/
lemma readExponent_append (h : EndsValue r) {exponent : Option (Bool × List Char)}
    (hcs : readExponent cs = .ok (exponent, rest)) :
    readExponent (cs ++ r) = .ok (exponent, rest ++ r) := by
  cases cs with
  | nil =>
    obtain ⟨rfl, rfl⟩ := Prod.mk.inj (Except.ok.inj hcs)
    cases r with
    | nil => rfl
    | cons c s =>
      obtain ⟨-, -, -, hlower, hupper⟩ := h.ne_of_head rfl
      rw [List.nil_append, readExponent, if_neg (not_or.mpr ⟨hlower, hupper⟩)]
  | cons c cs =>
    rw [readExponent] at hcs
    rw [List.cons_append, readExponent]
    split_ifs at hcs ⊢ with hletter
    · cases cs with
      | nil => cases hcs
      | cons d cs =>
        rw [readExponentSign_cons]
        dsimp only at hcs ⊢
        rw [h.splitDigits_append]
        generalize splitDigits (readExponentSign (d :: cs)).2 = split at hcs
        obtain ⟨_ | ⟨e, es⟩, after⟩ := split
        · cases hcs
        · obtain ⟨rfl, rfl⟩ := Prod.mk.inj (Except.ok.inj hcs)
          rfl
    · obtain ⟨rfl, rfl⟩ := Prod.mk.inj (Except.ok.inj hcs)
      rfl

/-- A number is read whatever ends it. -/
lemma readNumeral_append (h : EndsValue r) {numeral : Numeral}
    (hcs : readNumeral cs = .ok (numeral, rest)) :
    readNumeral (cs ++ r) = .ok (numeral, rest ++ r) := by
  simp only [readNumeral, bind, Except.bind, pure, Except.pure] at hcs ⊢
  rw [h.readMinus_append]
  split at hcs
  · cases hcs
  rename_i whole hwhole
  split at hcs
  · cases hcs
  rename_i fraction hfraction
  split at hcs
  · cases hcs
  rename_i exponent hexponent
  rw [h.readWhole_append hwhole]
  dsimp only
  rw [h.readFraction_append hfraction]
  dsimp only
  rw [h.readExponent_append hexponent]
  obtain ⟨rfl, rfl⟩ := Prod.mk.inj (Except.ok.inj hcs)
  rfl

end EndsValue

/-! ### Numbers that are read back -/

/-- The written form of the number is read as the number itself. -/
def IsReadBack (x : Float) : Prop :=
  ∃ numeral, readNumeral (numberText x).toList = .ok (numeral, [])
    ∧ numeral.number? = some (.float x)

instance (x : Float) : Decidable (IsReadBack x) :=
  match h : readNumeral (numberText x).toList with
  | .ok (numeral, []) =>
    decidable_of_iff (numeral.number? = some (.float x)) <| by
      constructor
      · exact fun hx => ⟨numeral, h, hx⟩
      · rintro ⟨numeral', h', hx⟩
        cases h.symm.trans h'
        exact hx
  | .ok (_, _ :: _) => .isFalse fun ⟨_, h', _⟩ => by cases h.symm.trans h'
  | .error _ => .isFalse fun ⟨_, h', _⟩ => by cases h.symm.trans h'

/-- A number begins with a minus or with a digit. -/
lemma exists_of_readNumeral {cs rest : List Char} {numeral : Numeral}
    (h : readNumeral cs = .ok (numeral, rest)) :
    ∃ c r, cs = c :: r ∧ (c = '-' ∨ c.isDigit = true) := by
  cases cs with
  | nil => cases h
  | cons c r =>
    refine ⟨c, r, rfl, ?_⟩
    by_contra hc
    obtain ⟨hminus, hdigit⟩ := not_or.mp hc
    have hrest : readMinus (c :: r) = (false, c :: r) := by
      rw [readMinus.eq_def]
      simp [hminus]
    have hwhole : readWhole (c :: r) = .error (digitFaults (c :: r)) := by
      rw [readWhole, splitDigits, List.takeWhile_cons_of_neg hdigit]
    rw [readNumeral, hrest] at h
    simp only [hwhole] at h
    cases h

/-- A number that is read back is so whatever ends it. -/
lemma IsReadBack.readScalar_append {x : Float} (h : IsReadBack x) {r : List Char}
    (hr : EndsValue r) :
    readScalar ((numberText x).toList ++ r) = (.number (some (.float x)), r) := by
  obtain ⟨numeral, hnumeral, hnumber⟩ := h
  obtain ⟨c, s, hcs, hc⟩ := exists_of_readNumeral hnumeral
  have happend := hr.readNumeral_append hnumeral
  rw [hcs, List.cons_append] at happend ⊢
  have hne : ∀ d : Char, d ≠ '-' → d.isDigit = false → c ≠ d := by
    rintro d hminus hdigit rfl
    exact hc.elim hminus fun h => absurd h (by rw [hdigit]; exact Bool.false_ne_true)
  rw [readScalar, if_pos hc, happend]
  · simp only [hnumber, List.nil_append]
  all_goals exact hne _ (by decide) (by decide)

end SchemaDesigner.Json
