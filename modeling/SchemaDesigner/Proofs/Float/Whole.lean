/-
Whole numbers as floats of 64 bits: below `2 ^ 53` they are exact, and so are their sums and
products.

* `Whole.unpacked`: such a number with a mantissa of 53 bits, as rounding leaves it;
* `Whole.roundWithAccuracy_mul_pow`, `Whole.round_mul_pow`: rounding changes nothing of it;
* `Whole.add_unpacked`, `Whole.mul_unpacked`: the arithmetic is that of the numbers;
* `Whole.pack_finite`, `Whole.unpack_of_normal`: how a number goes into bits and out of them;
* `Whole.unpack_pack`, `Whole.unpacked_inj`: neither packing nor the form loses anything;
* `Whole.packed`: the float that holds a number, as `Whole.toFloat_eq_packed` says;
* `Whole.packed_add`, `Whole.packed_mul`, `Whole.packed_inj`: the arithmetic of floats is exact, and
  they tell the numbers apart.
-/
import Mathlib.Tactic.Positivity
import Mathlib.Tactic.Ring

namespace SchemaDesigner.Whole

open Float.Model Float.Model.UnpackedFloat

lemma mantissa_pos {n : ℕ} (hn : n ≠ 0) : 0 < n * 2 ^ (52 - n.log2) := by
  positivity

/-- A whole number in the form that rounding gives it, with a mantissa of 53 bits. -/
def unpacked (n : ℕ) : UnpackedFloat :=
  if h : n = 0 then .zero .positive
  else .finite .positive (n * 2 ^ (52 - n.log2)) (n.log2 - 52) (mantissa_pos h)

variable {n j a b : ℕ}

lemma unpacked_of_ne_zero (hn : n ≠ 0) : unpacked n
    = .finite .positive (n * 2 ^ (52 - n.log2)) (n.log2 - 52) (mantissa_pos hn) := by
  rw [unpacked, dif_neg hn]

/-! ### Rounding -/

/-- Zeros at the end of a mantissa may be shifted out. -/
lemma mul_pow_shiftRight (m k : ℕ) :
    ExtendedMantissa.ofMantissaAndAccuracy (m * 2 ^ k) .exact >>> k
      = ExtendedMantissa.ofMantissaAndAccuracy m .exact := by
  induction k generalizing m with
  | zero => simp [HShiftRight.hShiftRight, Nat.repeat]
  | succ k ih =>
    have hlast := ih (m * 2)
    rw [mul_assoc, ← pow_succ'] at hlast
    change ExtendedMantissa.shiftRightOne
      (ExtendedMantissa.ofMantissaAndAccuracy (m * 2 ^ (k + 1)) .exact >>> k) = _
    rw [hlast]
    simp [ExtendedMantissa.shiftRightOne, ExtendedMantissa.ofMantissaAndAccuracy]

lemma log2_mul_two_pow (hn : n ≠ 0) (j : ℕ) : (n * 2 ^ j).log2 = n.log2 + j := by
  rw [Nat.log2_eq_iff (by positivity)]
  have hlow := Nat.mul_le_mul_right (2 ^ j) (Nat.log2_self_le hn)
  have hhigh := Nat.mul_lt_mul_of_pos_right (Nat.lt_log2_self (n := n)) (Nat.two_pow_pos j)
  rw [← pow_add] at hlow hhigh
  exact ⟨hlow, by rwa [Nat.add_right_comm] at hhigh⟩

lemma log2_le_of_lt (h : n < 2 ^ 53) : n.log2 ≤ 52 := by
  rcases eq_or_ne n 0 with rfl | hn
  · simp
  · have hlog := (Nat.log2_lt hn).mpr h
    omega

/-- The exponent to which a whole number is rounded is that of its last bit of 53. -/
lemma targetExponent_mul_pow (hn : n ≠ 0) (j : ℕ) :
    Format.binary64.targetExponent (totalExponent (n * 2 ^ j) (-j)) = (n.log2 : ℤ) - 52 := by
  change max (((n * 2 ^ j).log2 : ℤ) + 1 + -j - 53) (-1074) = _
  rw [log2_mul_two_pow hn]
  omega

/-- A mantissa that has 53 bits at least is cut to 53 of them, and nothing is lost. -/
lemma shiftToTargetExponent_mul_pow (hn : n ≠ 0) (hlog : n.log2 ≤ 52) (hj : 52 ≤ n.log2 + j) :
    shiftToTargetExponent .binary64 (n * 2 ^ j) (-j) .exact
      = (.ofMantissaAndAccuracy (n * 2 ^ (52 - n.log2)) .exact, (n.log2 : ℤ) - 52) := by
  obtain ⟨k, rfl⟩ : ∃ k, j = 52 - n.log2 + k := ⟨j - (52 - n.log2), by omega⟩
  have hshift : ((n.log2 : ℤ) - 52 - -↑(52 - n.log2 + k)).toNat = k := by omega
  rw [shiftToTargetExponent, targetExponent_mul_pow hn, shiftToExponent, hshift, pow_add,
    ← mul_assoc, mul_pow_shiftRight]
  congr 1
  omega

/-- Rounding a whole number whose mantissa has 53 bits at least is exact. -/
lemma roundWithAccuracy_mul_pow (hn : n ≠ 0) (hlog : n.log2 ≤ 52) (hj : 52 ≤ n.log2 + j) :
    roundWithAccuracy .binary64 .positive (n * 2 ^ j) (-j) .exact = unpacked n := by
  -- the second shift of the rounding finds 53 bits and leaves them
  have hagain := shiftToTargetExponent_mul_pow (j := 52 - n.log2) hn hlog (by omega)
  have hexponent : -((52 - n.log2 : ℕ) : ℤ) = n.log2 - 52 := by omega
  rw [hexponent] at hagain
  have hne := (mantissa_pos hn).ne'
  have hrounded : (ExtendedMantissa.ofMantissaAndAccuracy (n * 2 ^ (52 - n.log2))
      .exact).roundedMantissa = n * 2 ^ (52 - n.log2) := rfl
  rw [roundWithAccuracy, shiftToTargetExponent_mul_pow hn hlog hj]
  dsimp only
  rw [hrounded, hagain, unpacked_of_ne_zero hn]
  exact dif_neg hne

/-- Rounding a whole number is exact, however many bits its mantissa has. -/
lemma round_mul_pow (hn : n ≠ 0) (hlog : n.log2 ≤ 52) :
    UnpackedFloat.round .binary64 .positive (n * 2 ^ j) (-j) = unpacked n := by
  have hshift : (-(j : ℤ) - (n.log2 - 52)).toNat = 52 - n.log2 - j := by omega
  rw [UnpackedFloat.round, targetExponent_mul_pow hn, decreaseExponent, hshift]
  dsimp only
  have hexponent : -(j : ℤ) - ↑(52 - n.log2 - j) = -((j + (52 - n.log2 - j) : ℕ) : ℤ) := by omega
  rw [Nat.shiftLeft_eq, mul_assoc, ← pow_add, hexponent]
  exact roundWithAccuracy_mul_pow hn hlog (by omega)

lemma normalize_mul_pow (h : n < 2 ^ 53) :
    normalize .binary64 ((n * 2 ^ j : ℕ) : ℤ) (-j) .positive = unpacked n := by
  rw [UnpackedFloat.normalize]
  rcases eq_or_ne n 0 with rfl | hn
  · rw [Nat.zero_mul]
    rfl
  · have hpos : (0 : ℤ) < (n * 2 ^ j : ℕ) := by positivity
    rw [Int.compare_eq_gt.mpr hpos, Int.toNat_natCast]
    exact round_mul_pow hn (log2_le_of_lt h)

/-! ### Arithmetic -/

lemma ofNat_eq_unpacked (h : n < 2 ^ 53) : UnpackedFloat.ofNat .binary64 n = unpacked n := by
  have hnormal := normalize_mul_pow (j := 0) h
  rwa [pow_zero, mul_one, Nat.cast_zero, neg_zero] at hnormal

lemma mul_unpacked (h : a * b < 2 ^ 53) :
    UnpackedFloat.mul .binary64 (unpacked a) (unpacked b) = unpacked (a * b) := by
  rcases eq_or_ne a 0 with rfl | ha
  · rw [Nat.zero_mul]
    rcases eq_or_ne b 0 with rfl | hb
    · rfl
    · rw [unpacked_of_ne_zero hb]
      rfl
  rcases eq_or_ne b 0 with rfl | hb
  · rw [unpacked_of_ne_zero ha]
    rfl
  have hab : a * b ≠ 0 := Nat.mul_ne_zero ha hb
  have hloga := log2_le_of_lt (lt_of_le_of_lt (Nat.le_mul_of_pos_right a (by omega)) h)
  have hlogb := log2_le_of_lt (lt_of_le_of_lt (Nat.le_mul_of_pos_left b (by omega)) h)
  have hlog : a.log2 + b.log2 ≤ (a * b).log2 := by
    rw [Nat.le_log2 hab, pow_add]
    exact Nat.mul_le_mul (Nat.log2_self_le ha) (Nat.log2_self_le hb)
  have hmantissa : a * 2 ^ (52 - a.log2) * (b * 2 ^ (52 - b.log2))
      = a * b * 2 ^ (52 - a.log2 + (52 - b.log2)) := by ring
  have hexponent : ((a.log2 : ℤ) - 52) + (b.log2 - 52)
      = -((52 - a.log2 + (52 - b.log2) : ℕ) : ℤ) := by omega
  rw [unpacked_of_ne_zero ha, unpacked_of_ne_zero hb]
  change roundWithAccuracy .binary64 .positive (a * 2 ^ (52 - a.log2) * (b * 2 ^ (52 - b.log2)))
    ((a.log2 - 52) + (b.log2 - 52)) .exact = _
  rw [hmantissa, hexponent]
  exact roundWithAccuracy_mul_pow hab (log2_le_of_lt h) (by omega)

/-- A mantissa goes to the exponent of the smaller number. -/
lemma decreaseExponent_unpacked {k : ℕ} (hk : k ≤ n.log2) (hlog : n.log2 ≤ 52) :
    (decreaseExponent (n * 2 ^ (52 - n.log2)) (n.log2 - 52) (k - 52)).1 = n * 2 ^ (52 - k) := by
  have hshift : ((n.log2 : ℤ) - 52 - (k - 52)).toNat = n.log2 - k := by omega
  have hsum : 52 - n.log2 + (n.log2 - k) = 52 - k := by omega
  rw [decreaseExponent, hshift, Nat.shiftLeft_eq, mul_assoc, ← pow_add, hsum]

/-- Positive numbers are added at the smaller one of their exponents. -/
lemma add_finite {m m' : ℕ} {e e' : ℤ} (hm : 0 < m) (hm' : 0 < m') :
    UnpackedFloat.add .binary64 (.finite .positive m e hm) (.finite .positive m' e' hm')
      = normalize .binary64
        (((decreaseExponent m e (min e e')).1 : ℤ) + (decreaseExponent m' e' (min e e')).1)
        (min e e') .positive :=
  rfl

lemma add_unpacked (h : a + b < 2 ^ 53) :
    UnpackedFloat.add .binary64 (unpacked a) (unpacked b) = unpacked (a + b) := by
  rcases eq_or_ne a 0 with rfl | ha
  · rw [Nat.zero_add]
    rcases eq_or_ne b 0 with rfl | hb
    · rfl
    · rw [unpacked_of_ne_zero hb]
      rfl
  rcases eq_or_ne b 0 with rfl | hb
  · rw [Nat.add_zero, unpacked_of_ne_zero ha]
    rfl
  have hloga := log2_le_of_lt (lt_of_le_of_lt (Nat.le_add_right a b) h)
  have hlogb := log2_le_of_lt (lt_of_le_of_lt (Nat.le_add_left b a) h)
  have hmin : min ((a.log2 : ℤ) - 52) (b.log2 - 52) = ((min a.log2 b.log2 : ℕ) : ℤ) - 52 := by omega
  have hexponent : ((min a.log2 b.log2 : ℕ) : ℤ) - 52 = -((52 - min a.log2 b.log2 : ℕ) : ℤ) := by
    omega
  rw [unpacked_of_ne_zero ha, unpacked_of_ne_zero hb, add_finite, hmin,
    decreaseExponent_unpacked (min_le_left _ _) hloga,
    decreaseExponent_unpacked (min_le_right _ _) hlogb, hexponent, ← Nat.cast_add, ← add_mul]
  exact normalize_mul_pow h

/-! ### Bits -/

/-- The mantissa is kept without its first bit, which is always set. -/
lemma toNat_append_ofNat {m : ℕ} (hlow : 2 ^ 52 ≤ m) (hhigh : m < 2 ^ 53) :
    (1#1 ++ BitVec.ofNat 52 m).toNat = m := by
  rw [BitVec.toNat_append, BitVec.toNat_ofNat, BitVec.toNat_ofNat, Nat.shiftLeft_eq,
    Nat.mul_comm, ← Nat.two_pow_add_eq_or_of_lt (Nat.mod_lt m (Nat.two_pow_pos 52))]
  omega

/-- The first of the bits is the sign. -/
lemma unpackSign_positive (e : BitVec 11) (m : BitVec 52) :
    unpackSign (packComponents .binary64 .positive e m) = 0#1 := by
  change (0#1 ++ e ++ m).extractLsb' 63 1 = 0#1
  rw [BitVec.append_assoc]
  exact BitVec.extractLsb'_append_eq_left

section Parts

variable {m k : ℕ} {e : ℤ}

/-- A number with a mantissa of 53 bits is packed part by part. -/
lemma pack_finite (hm : 0 < m) (hlog : m.log2 = 52) (hk : (e + 1023 + 52).toNat = k)
    (hbound : k + 1 < 2 ^ 11) :
    pack .binary64 (.finite .positive m e hm)
      = packComponents .binary64 .positive (BitVec.ofNat 11 k) (BitVec.ofNat 52 m) := by
  subst hk
  exact (if_neg hbound.not_ge).trans (if_pos (congrArg (· + 1) hlog))

/-- Bits whose exponent is that of a normal number are unpacked part by part. -/
lemma unpack_of_normal {b : BitVec Format.binary64.numBits} {s : Sign}
    (hfinite : unpackExponent b ≠ -1#11) (hnormal : unpackExponent b ≠ 0#11)
    (hsign : Sign.ofBitVec (unpackSign b) = s) (hmantissa : (1#1 ++ unpackMantissa b).toNat = m)
    (hexponent : ((unpackExponent b).toNat : ℤ) - (1023 + 52) = e) (hm : 0 < m) :
    unpack .binary64 b = .finite s m e hm := by
  subst hsign hmantissa hexponent
  exact (if_neg hfinite).trans (if_neg hnormal)

/-- The bits of a positive number with a mantissa of 53 bits tell the number. -/
lemma unpack_pack_finite (hm : 0 < m) (hlow : 2 ^ 52 ≤ m) (hhigh : m < 2 ^ 53)
    (he : -1074 ≤ e) (he' : e ≤ 970) :
    unpack .binary64 (pack .binary64 (.finite .positive m e hm)) = .finite .positive m e hm := by
  obtain ⟨k, rfl⟩ : ∃ k : ℕ, e = (k : ℤ) - 1075 := ⟨(e + 1075).toNat, by omega⟩
  have hlog : m.log2 = 52 := (Nat.log2_eq_iff (by omega)).mpr ⟨hlow, hhigh⟩
  have hk : (BitVec.ofNat 11 k).toNat = k := by
    rw [BitVec.toNat_ofNat]
    omega
  have hfinite : BitVec.ofNat 11 k ≠ -1#11 := by
    intro h
    have hbits := congrArg BitVec.toNat h
    rw [hk] at hbits
    change k = 2047 at hbits
    omega
  have hnormal : BitVec.ofNat 11 k ≠ 0#11 := by
    intro h
    have hbits := congrArg BitVec.toNat h
    rw [hk] at hbits
    change k = 0 at hbits
    omega
  rw [pack_finite hm hlog (by omega : ((k : ℤ) - 1075 + 1023 + 52).toNat = k) (by omega)]
  refine unpack_of_normal ?_ ?_ ?_ ?_ ?_ hm
  · rwa [unpackExponent_packComponents]
  · rwa [unpackExponent_packComponents]
  · rw [unpackSign_positive]
    rfl
  · rw [unpackMantissa_packComponents]
    exact toNat_append_ofNat hlow hhigh
  · rw [unpackExponent_packComponents, hk]
    omega

end Parts

/-- A whole number is told from its bits. -/
lemma unpack_pack (h : n < 2 ^ 53) :
    unpack .binary64 (pack .binary64 (unpacked n)) = unpacked n := by
  rcases eq_or_ne n 0 with rfl | hn
  · rfl
  · have hlog := log2_le_of_lt h
    have hmantissa : (n * 2 ^ (52 - n.log2)).log2 = 52 := by
      rw [log2_mul_two_pow hn]
      omega
    obtain ⟨hlow, hhigh⟩ := (Nat.log2_eq_iff (mantissa_pos hn).ne').mp hmantissa
    rw [unpacked_of_ne_zero hn]
    exact unpack_pack_finite _ hlow hhigh (by omega) (by omega)

lemma unpacked_inj (h : unpacked a = unpacked b) : a = b := by
  rcases eq_or_ne a 0 with rfl | ha <;> rcases eq_or_ne b 0 with rfl | hb
  · rfl
  · rw [unpacked_of_ne_zero hb] at h
    cases h
  · rw [unpacked_of_ne_zero ha] at h
    cases h
  · rw [unpacked_of_ne_zero ha, unpacked_of_ne_zero hb] at h
    obtain ⟨-, hmantissa, hexponent⟩ := UnpackedFloat.finite.inj h
    have hlog : a.log2 = b.log2 := by omega
    rw [hlog] at hmantissa
    exact Nat.eq_of_mul_eq_mul_right (Nat.two_pow_pos _) hmantissa

/-! ### Floats -/

/-- The float that holds a whole number. -/
def packed (n : ℕ) : Float :=
  .ofModel (.pack (unpacked n))

lemma unpack_toModel_packed (h : n < 2 ^ 53) : (packed n).toModel.unpack = unpacked n :=
  unpack_pack h

lemma packed_add (h : a + b < 2 ^ 53) : packed a + packed b = packed (a + b) := by
  have ha := unpack_toModel_packed (n := a) (by omega)
  have hb := unpack_toModel_packed (n := b) (by omega)
  change Float.ofModel (.pack (UnpackedFloat.add .binary64 (packed a).toModel.unpack
    (packed b).toModel.unpack)) = _
  rw [ha, hb, add_unpacked h, packed]

lemma packed_mul (ha : a < 2 ^ 53) (hb : b < 2 ^ 53) (h : a * b < 2 ^ 53) :
    packed a * packed b = packed (a * b) := by
  change Float.ofModel (.pack (UnpackedFloat.mul .binary64 (packed a).toModel.unpack
    (packed b).toModel.unpack)) = _
  rw [unpack_toModel_packed ha, unpack_toModel_packed hb, mul_unpacked h, packed]

lemma packed_inj (ha : a < 2 ^ 53) (hb : b < 2 ^ 53) (h : packed a = packed b) : a = b := by
  refine unpacked_inj ?_
  rw [← unpack_toModel_packed ha, ← unpack_toModel_packed hb, h]

/-- A whole number is turned into the float that holds it. -/
lemma toFloat_eq_packed (h : n < 2 ^ 53) : n.toFloat = packed n := by
  have hword : n.toUInt64.toFloat = packed n := by
    have hn : n.toUInt64.toNat = n := by
      change n % 2 ^ 64 = n
      omega
    change Float.ofModel (.pack (UnpackedFloat.ofNat .binary64 n.toUInt64.toNat)) = _
    rw [hn, ofNat_eq_unpacked h, packed]
  have hone : Float.exactlyRepresentablePowersOfTen[0] = packed 1 := by
    decide
  have hfloat : n.toFloat = n.toUInt64.toFloat * Float.exactlyRepresentablePowersOfTen[0] :=
    dif_pos ⟨h, by decide⟩
  rw [hfloat, hword, hone, packed_mul h (by decide) (by omega), Nat.mul_one]

end SchemaDesigner.Whole
