/-
The sizes that count when types are compared, and the order in which compatibility puts columns.

* `WritesNumber`: a text is a number in decimal digits, behind a sign and between any blanks;
* `ColumnDef.HasLength`, `ColumnDef.HasPrecision`: the size that counts, told from the text;
* `ColumnDef.stringLength_eq_iff`, `ColumnDef.decimalSize_eq_iff`: these are the sizes compared;
* `ColumnDef.incompatibility?_eq_none_iff`: what the check asks for;
* `ColumnDef.comparesNumbers_iff`: lengths are compared as the numbers that they write, unless one
  of the two is beyond 32 bits and the default in its place tells something else;
* `ColumnDef.preorder_incompatibility?`: compatibility is a preorder, in which columns of the same
  type and the same size that counts are equivalent.
-/
import SchemaDesigner.Compatibility
import SchemaDesigner.Proofs.Name

namespace SchemaDesigner

/-! ### Numbers in a text -/

/-- The text is a number in decimal digits, one at least, right behind a sign, which may be empty,
with nothing but blanks around it. -/
def WritesNumber (sign : List Char) (s : String) (n : ℕ) : Prop :=
  ∃ front digits back : List Char, s.toList = front ++ (sign ++ digits ++ back)
    ∧ (∀ c ∈ front ++ back, Text.isBlank c = true)
    ∧ digits ≠ [] ∧ (∀ c ∈ digits, c.isDigit = true) ∧ Nat.ofDigitChars 10 digits 0 = n

/-- The same, told from the parts of a text by computation. -/
lemma writesNumber_of_all {sign front digits back : List Char} {s : String}
    (hs : s.toList = front ++ (sign ++ digits ++ back))
    (hblank : (front ++ back).all Text.isBlank = true) (hne : digits ≠ [])
    (hdigits : digits.all Char.isDigit = true) :
    WritesNumber sign s (Nat.ofDigitChars 10 digits 0) :=
  ⟨front, digits, back, hs, List.all_eq_true.mp hblank, hne, List.all_eq_true.mp hdigits, rfl⟩

namespace Text

variable {s : String} {front core back : List Char}

/-- Trimming takes the blanks from both sides of what has none. -/
lemma toList_trim_of_between (hs : s.toList = front ++ (core ++ back))
    (hblank : ∀ c ∈ front ++ back, isBlank c = true) (hcore : ∀ c ∈ core, isBlank c = false)
    (hne : core ≠ []) : (trim s).toList = core := by
  obtain ⟨hfront, hback⟩ := List.forall_mem_append.mp hblank
  have hstart : trimStart s.toList = core ++ back := by
    obtain ⟨c, cs, rfl⟩ := List.exists_cons_of_ne_nil hne
    rw [trimStart, hs, List.dropWhile_append_of_pos hfront, List.cons_append,
      List.dropWhile_cons_of_neg (by simp [hcore c List.mem_cons_self])]
  rw [trim, String.toList_ofList, hstart, trimEnd_eq_rdropWhile, List.rdropWhile,
    List.reverse_append, List.dropWhile_append_of_pos (by simpa using hback)]
  have hlast : core.reverse.dropWhile isBlank = core.reverse := by
    rw [List.dropWhile_eq_self_iff]
    intro hpos hblank
    have hlast := hcore _ (List.mem_reverse.mp (List.getElem_mem hpos))
    rw [hlast] at hblank
    cases hblank
  rw [hlast, List.reverse_reverse]

/-- What trimming takes away is blank. -/
lemma exists_between_trim (s : String) : ∃ front back : List Char,
    s.toList = front ++ ((trim s).toList ++ back) ∧ ∀ c ∈ front ++ back, isBlank c = true := by
  refine ⟨s.toList.takeWhile isBlank, (trimStart s.toList).rtakeWhile isBlank, ?_, ?_⟩
  · rw [trim, String.toList_ofList, trimEnd_eq_rdropWhile, List.rdropWhile_append_rtakeWhile,
      trimStart, List.takeWhile_append_dropWhile]
  · rw [List.forall_mem_append]
    exact ⟨fun c => List.mem_takeWhile_imp, fun c => List.mem_rtakeWhile_imp⟩

end Text

/-- The characters of a number are not blank. -/
lemma isBlank_of_mem_number {sign digits : List Char} (hsign : sign = [] ∨ sign = ['+'])
    (hdigits : ∀ c ∈ digits, c.isDigit = true) :
    ∀ c ∈ sign ++ digits, Text.isBlank c = false := by
  rw [List.forall_mem_append]
  constructor
  · rcases hsign with rfl | rfl
    · exact List.forall_mem_nil _
    · exact List.forall_mem_singleton.mpr (by decide)
  · intro c hc
    have hdigit := hdigits c hc
    simp only [Char.isDigit, Bool.and_eq_true, decide_eq_true_eq, UInt32.le_iff_toNat_le] at hdigit
    exact Text.isBlank_of_visible (le_trans (by decide) hdigit.1) (le_trans hdigit.2 (by decide))

/-- What is read as a number is one, with or without a plus sign. -/
lemma unsigned?_eq_some_iff {cs : List Char} {n : ℕ} : unsigned? cs = some n ↔
    ∃ sign digits : List Char, (sign = [] ∨ sign = ['+']) ∧ cs = sign ++ digits ∧ digits ≠ []
      ∧ (∀ c ∈ digits, c.isDigit = true) ∧ Nat.ofDigitChars 10 digits 0 = n := by
  have hread : ∀ digits : List Char,
      (if digits ≠ [] ∧ digits.all Char.isDigit then some (Decimal.digitsValue digits) else none)
          = some n
        ↔ digits ≠ [] ∧ (∀ c ∈ digits, c.isDigit = true) ∧ Nat.ofDigitChars 10 digits 0 = n := by
    intro digits
    rw [Option.ite_none_right_eq_some, List.all_eq_true, Option.some.injEq, and_assoc]
    rfl
  have hplain : ∀ digits : List Char, digits.head? ≠ some '+' → (unsigned? digits = some n
      ↔ digits ≠ [] ∧ (∀ c ∈ digits, c.isDigit = true) ∧ Nat.ofDigitChars 10 digits 0 = n) := by
    intro digits hhead
    rw [← hread, unsigned?.eq_def]
    dsimp only
    split
    · exact absurd rfl hhead
    · rfl
  constructor
  · intro h
    by_cases hhead : cs.head? = some '+'
    · obtain ⟨digits, hcs⟩ := List.head?_eq_some_iff.mp hhead
      rw [hcs] at h
      exact ⟨['+'], digits, .inr rfl, hcs, (hread digits).mp h⟩
    · exact ⟨[], cs, .inl rfl, rfl, (hplain cs hhead).mp h⟩
  · rintro ⟨sign, digits, hsign, hcs, hdigits⟩
    rcases hsign with rfl | rfl <;> rw [hcs]
    · refine (hplain digits fun hhead => ?_).mpr hdigits
      -- no digit is a plus sign
      cases hdigits.2.1 '+' (List.mem_of_head? hhead)
    · exact (hread digits).mpr hdigits

/-- A number is read from the texts that write it, whatever blanks are around it. -/
lemma unsigned?_trim_eq_some_iff {s : String} {n : ℕ} :
    unsigned? (Text.trim s).toList = some n ↔ WritesNumber [] s n ∨ WritesNumber ['+'] s n := by
  constructor
  · intro h
    obtain ⟨sign, digits, hsign, htrim, hdigits⟩ := unsigned?_eq_some_iff.mp h
    obtain ⟨front, back, hs, hblank⟩ := Text.exists_between_trim s
    rw [htrim] at hs
    rcases hsign with rfl | rfl
    · exact .inl ⟨front, digits, back, hs, hblank, hdigits⟩
    · exact .inr ⟨front, digits, back, hs, hblank, hdigits⟩
  · have hread : ∀ {sign : List Char}, sign = [] ∨ sign = ['+'] → WritesNumber sign s n →
        unsigned? (Text.trim s).toList = some n := by
      rintro sign hsign ⟨front, digits, back, hs, hblank, hne, hdigits, hn⟩
      have hcore := isBlank_of_mem_number hsign hdigits
      rw [Text.toList_trim_of_between hs hblank hcore (List.append_ne_nil_of_right_ne_nil sign hne)]
      exact unsigned?_eq_some_iff.mpr ⟨sign, digits, hsign, rfl, hne, hdigits, hn⟩
    rintro (h | h)
    · exact hread (.inl rfl) h
    · exact hread (.inr rfl) h

/-! ### Sizes that count -/

/-- The text writes a number of 32 bits, which a plus sign may precede. -/
def WritesLength (s : String) (n : ℕ) : Prop :=
  (WritesNumber [] s n ∨ WritesNumber ['+'] s n) ∧ n < lengthLimit

namespace ColumnDef

variable {a b c source target : ColumnDef}

/-- As a text, the column has that length: its size writes it, or it is the default and the size is
absent or writes no length. -/
def HasLength (c : ColumnDef) (n : ℕ) : Prop :=
  (∃ s ∈ c.size, WritesLength s n)
    ∨ n = defaultStringLength ∧ ∀ s ∈ c.size, ∀ m, ¬WritesLength s m

/-- As a decimal, the column has that size: it is written, or it is the default and nothing is. -/
def HasPrecision (c : ColumnDef) (p : String) : Prop :=
  c.size = some p ∧ p ≠ "" ∨ p = defaultDecimalSize ∧ (c.size = none ∨ c.size = some "")

lemma readLength_eq_some_iff {n : ℕ} :
    (c.size.bind fun s => unsigned? (Text.trim s).toList).filter (· < lengthLimit) = some n
      ↔ ∃ s ∈ c.size, WritesLength s n := by
  simp only [Option.filter_eq_some_iff, Option.bind_eq_some_iff, unsigned?_trim_eq_some_iff,
    decide_eq_true_eq, Option.mem_def, WritesLength]
  grind

/-- The length that is compared is that of the column as a text. -/
lemma stringLength_eq_iff {n : ℕ} : c.stringLength = n ↔ c.HasLength n := by
  rw [stringLength, HasLength]
  cases hread : (c.size.bind fun s => unsigned? (Text.trim s).toList).filter (· < lengthLimit) with
  | none =>
    have hnone : ∀ s ∈ c.size, ∀ m, ¬WritesLength s m := by
      intro s hs m hm
      have hsome := readLength_eq_some_iff.mpr ⟨s, hs, hm⟩
      rw [hread] at hsome
      cases hsome
    rw [Option.getD_none]
    constructor
    · exact fun h => .inr ⟨h.symm, hnone⟩
    · rintro (⟨s, hs, hn⟩ | ⟨h, -⟩)
      · exact absurd hn (hnone s hs n)
      · exact h.symm
  | some m =>
    obtain ⟨s, hs, hm⟩ := readLength_eq_some_iff.mp hread
    rw [Option.getD_some]
    constructor
    · rintro rfl
      exact .inl ⟨s, hs, hm⟩
    · rintro (hn | ⟨-, hnone⟩)
      · exact Option.some.inj (hread.symm.trans (readLength_eq_some_iff.mpr hn))
      · exact absurd hm (hnone s hs m)

/-- The size that is compared is that of the column as a decimal. -/
lemma decimalSize_eq_iff {p : String} : c.decimalSize = p ↔ c.HasPrecision p := by
  rw [decimalSize, HasPrecision, Text.nonEmpty?]
  cases c.size with
  | none => simp [eq_comm]
  | some s =>
    by_cases hs : s = ""
    · subst hs
      simp [Option.filter, eq_comm]
    · have hne : (s != "") = true := by simpa using hs
      rw [Option.filter_some, if_pos hne, Option.getD_some]
      grind

/-! ### The order of columns -/

/-- A column may refer to one of the same type, if as a text it is not longer and as a decimal it
has the same size. -/
lemma incompatibility?_eq_none_iff : a.incompatibility? b = none ↔ a.type = b.type
    ∧ (a.type = .varchar ∨ a.type = .char → a.stringLength ≤ b.stringLength)
    ∧ (a.type = .decimal → a.decimalSize = b.decimalSize) := by
  rw [incompatibility?]
  by_cases htype : a.type = b.type
  · rw [if_neg (not_not.mpr htype), and_iff_right htype]
    split
    · rename_i h
      simp [h]
    · rename_i h
      simp [h]
    · rename_i h
      simp [h]
    · rename_i hvarchar hchar hdecimal
      exact iff_of_true rfl
        ⟨fun htext => (htext.elim hvarchar hchar).elim, fun h => (hdecimal h).elim⟩
  · simp [htype]

/-- The columns have the same type, and the same size as far as it counts for that type. -/
structure SameExtent (a b : ColumnDef) : Prop where
  type : a.type = b.type
  length : a.type = .varchar ∨ a.type = .char → ∃ n, a.HasLength n ∧ b.HasLength n
  precision : a.type = .decimal → ∃ p, a.HasPrecision p ∧ b.HasPrecision p

lemma sameExtent_iff : a.SameExtent b ↔ a.type = b.type
    ∧ (a.type = .varchar ∨ a.type = .char → a.stringLength = b.stringLength)
    ∧ (a.type = .decimal → a.decimalSize = b.decimalSize) := by
  constructor
  · rintro ⟨htype, hlength, hprecision⟩
    refine ⟨htype, fun htext => ?_, fun hdecimal => ?_⟩
    · obtain ⟨n, ha, hb⟩ := hlength htext
      rw [stringLength_eq_iff.mpr ha, stringLength_eq_iff.mpr hb]
    · obtain ⟨p, ha, hb⟩ := hprecision hdecimal
      rw [decimalSize_eq_iff.mpr ha, decimalSize_eq_iff.mpr hb]
  · rintro ⟨htype, hlength, hprecision⟩
    refine ⟨htype, fun htext => ⟨b.stringLength, ?_, ?_⟩, fun hdecimal => ⟨b.decimalSize, ?_, ?_⟩⟩
    · exact stringLength_eq_iff.mp (hlength htext)
    · exact stringLength_eq_iff.mp rfl
    · exact decimalSize_eq_iff.mp (hprecision hdecimal)
    · exact decimalSize_eq_iff.mp rfl

lemma incompatibility?_self (c : ColumnDef) : c.incompatibility? c = none :=
  incompatibility?_eq_none_iff.mpr ⟨rfl, fun _ => le_rfl, fun _ => rfl⟩

lemma incompatibility?_trans (h : a.incompatibility? b = none)
    (h' : b.incompatibility? c = none) : a.incompatibility? c = none := by
  rw [incompatibility?_eq_none_iff] at h h' ⊢
  obtain ⟨htype, hlength, hprecision⟩ := h
  obtain ⟨htype', hlength', hprecision'⟩ := h'
  rw [← htype] at htype' hlength' hprecision'
  refine ⟨htype', fun htext => ?_, fun hdecimal => ?_⟩
  · exact (hlength htext).trans (hlength' htext)
  · exact (hprecision hdecimal).trans (hprecision' hdecimal)

/-- Columns may refer to each other just when they have the same extent. -/
lemma incompatibility?_both_iff :
    a.incompatibility? b = none ∧ b.incompatibility? a = none ↔ a.SameExtent b := by
  rw [incompatibility?_eq_none_iff, incompatibility?_eq_none_iff, sameExtent_iff]
  constructor
  · rintro ⟨⟨htype, hlength, hprecision⟩, -, hlength', -⟩
    rw [← htype] at hlength'
    exact ⟨htype, fun htext => le_antisymm (hlength htext) (hlength' htext), hprecision⟩
  · rintro ⟨htype, hlength, hprecision⟩
    rw [← htype]
    refine ⟨⟨rfl, fun htext => (hlength htext).le, hprecision⟩, rfl, fun htext => ?_,
      fun hdecimal => (hprecision hdecimal).symm⟩
    exact (hlength htext).ge

/-- Compatibility is a preorder on columns of any type and with any size, and two columns are
equivalent in it just when they have the same extent. -/
theorem preorder_incompatibility? (a b c : ColumnDef) : a.incompatibility? a = none
    ∧ (a.incompatibility? b = none → b.incompatibility? c = none → a.incompatibility? c = none)
    ∧ (a.incompatibility? b = none ∧ b.incompatibility? a = none ↔ a.SameExtent b) :=
  ⟨incompatibility?_self a, incompatibility?_trans, incompatibility?_both_iff⟩

/-! ### Lengths as numbers -/

/-- The length of a column whose size writes a number is that number, or the default if the number
is beyond 32 bits. -/
lemma stringLength_eq_of_writesNumber {s : String} {n : ℕ} (hs : c.size = some s)
    (h : WritesNumber [] s n) :
    c.stringLength = if n < lengthLimit then n else defaultStringLength := by
  have hread := unsigned?_trim_eq_some_iff.mpr (.inl h)
  rw [stringLength, hs, Option.bind_some, hread, Option.filter_some]
  split_ifs <;> simp_all

/-- Sizes that write numbers are compared as the numbers, unless the greater one is a source beyond
32 bits, which then passes for one of the default length, or a target beyond 32 bits, which then
refuses all sources longer than the default. -/
theorem comparesNumbers_iff {s t : String} {m n : ℕ} (htype : source.type = target.type)
    (htext : source.type = .varchar ∨ source.type = .char)
    (hs : source.size = some s) (hm : WritesNumber [] s m)
    (ht : target.size = some t) (hn : WritesNumber [] t n) :
    (source.incompatibility? target = none ↔ m ≤ n)
      ↔ ¬(n < m ∧ lengthLimit ≤ m ∧ defaultStringLength ≤ n)
        ∧ ¬(m < lengthLimit ∧ lengthLimit ≤ n ∧ defaultStringLength < m) := by
  have hcheck : source.incompatibility? target = none
      ↔ source.stringLength ≤ target.stringLength := by
    rw [incompatibility?_eq_none_iff]
    constructor
    · exact fun h => h.2.1 htext
    · refine fun h => ⟨htype, fun _ => h, fun hdecimal => ?_⟩
      rcases htext with htext | htext <;> cases hdecimal.symm.trans htext
  have hdefault : defaultStringLength < lengthLimit := by decide
  rw [hcheck, stringLength_eq_of_writesNumber hs hm, stringLength_eq_of_writesNumber ht hn]
  split_ifs <;> omega

/-- A text column of a size. -/
def sizedColumn (size : String) : ColumnDef :=
  { name := "code", type := .varchar, size := some size }

/-- A source of 255 characters fits a target whose size is beyond 32 bits, as the numbers say;
blanks and zeros in front do not matter. -/
theorem comparesNumbers_sizedColumn : WritesNumber [] " 00255" 255
    ∧ WritesNumber [] "4294967296\t" 4294967296
    ∧ (sizedColumn " 00255").incompatibility? (sizedColumn "4294967296\t") = none := by
  have hm : WritesNumber [] " 00255" 255 := @writesNumber_of_all [] [' '] "00255".toList [] _
    (by decide) (by decide) (by decide) (by decide)
  have hn : WritesNumber [] "4294967296\t" 4294967296 :=
    @writesNumber_of_all [] [] "4294967296".toList ['\t'] _
      (by decide) (by decide) (by decide) (by decide)
  have hcompares := @comparesNumbers_iff (sizedColumn " 00255") (sizedColumn "4294967296\t") _ _ _ _
    rfl (.inl rfl) rfl hm rfl hn
  exact ⟨hm, hn, (hcompares.mpr (by decide)).mpr (by decide)⟩

/-- A number beyond 32 bits counts as the default length, so that a longer column may refer to a
shorter one and not the other way round. -/
theorem not_comparesNumbers_sizedColumn : WritesNumber [] "4294967296" 4294967296
    ∧ WritesNumber [] "300" 300 ∧ ¬4294967296 ≤ 300
    ∧ (sizedColumn "4294967296").incompatibility? (sizedColumn "300") = none
    ∧ (sizedColumn "300").incompatibility? (sizedColumn "4294967296")
      = some (.length .varchar 300 255) := by
  have hm : WritesNumber [] "4294967296" 4294967296 :=
    @writesNumber_of_all [] [] "4294967296".toList [] _
      (by decide) (by decide) (by decide) (by decide)
  have hn : WritesNumber [] "300" 300 := @writesNumber_of_all [] [] "300".toList [] _
    (by decide) (by decide) (by decide) (by decide)
  exact ⟨hm, hn, by decide, by decide, by decide⟩

end ColumnDef

end SchemaDesigner
