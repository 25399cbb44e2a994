import Mathlib.Algebra.Group.Nat.Defs
import TypedTree.Numeric.Binary64

/-! # Rounding integers to floating-point numbers -/

namespace TypedTree.Binary64

/-! ### Rounded quotients -/

theorem div_le_roundHalfEven (a d : Nat) : a / d ≤ roundHalfEven a d := by
  unfold roundHalfEven
  dsimp only
  split
  · exact Nat.le_refl _
  · split <;> omega

theorem roundHalfEven_le (a d : Nat) : roundHalfEven a d ≤ a / d + 1 := by
  unfold roundHalfEven
  dsimp only
  split
  · omega
  · split <;> omega

/-- Quotients that are the same before rounding differ in their remainders only. -/
theorem roundHalfEven_mono {a b : Nat} (h : a ≤ b) (d : Nat) :
    roundHalfEven a d ≤ roundHalfEven b d := by
  rcases Nat.lt_or_eq_of_le (Nat.div_le_div_right (c := d) h) with hq | hq
  · calc roundHalfEven a d ≤ a / d + 1 := roundHalfEven_le a d
      _ ≤ b / d := hq
      _ ≤ roundHalfEven b d := div_le_roundHalfEven b d
  · have hr : a % d ≤ b % d := by
      have ha := Nat.div_add_mod a d
      have hb := Nat.div_add_mod b d
      rw [hq] at ha
      omega
    unfold roundHalfEven
    dsimp only
    rw [hq]
    split <;> split <;> first | omega | (split <;> first | omega | (split <;> omega))

theorem roundHalfEven_one (a : Nat) : roundHalfEven a 1 = a := by
  simp [roundHalfEven, Nat.mod_one]

/-! ### The bits of a rounded integer -/

/-- The significand of an integer, rounded to 53 bits. -/
def roundedSignificand (n : Nat) : Nat :=
  roundHalfEven (n * 2 ^ (52 - n.log2)) (2 ^ (n.log2 - 52))

/-- An integer has no bits below its last one, so its exponent is known from its length. -/
theorem nearestBits_one {n : Nat} (hn : n ≠ 0) : nearestBits n 1 =
    min infinityBits ((n.log2 + 1022) * 2 ^ 52 + roundedSignificand n) := by
  have hlog : (1 : Nat).log2 = 0 := by decide
  have hbelow : ¬ n * 2 ^ (-((n.log2 : Int) - 52)).toNat <
      2 ^ 52 * 1 * 2 ^ ((n.log2 : Int) - 52).toNat := by
    have hscale : 52 + ((n.log2 : Int) - 52).toNat = n.log2 + (-((n.log2 : Int) - 52)).toNat := by
      omega
    rw [Nat.not_lt, Nat.mul_one, ← Nat.pow_add, hscale, Nat.pow_add]
    exact Nat.mul_le_mul_right _ (Nat.log2_self_le hn)
  have hmax : max (-1074) ((n.log2 : Int) - 52) = n.log2 - 52 := by omega
  have hshift : ((n.log2 : Int) - 52 + 1074).toNat = n.log2 + 1022 := by omega
  have hdown : (-((n.log2 : Int) - 52)).toNat = 52 - n.log2 := by omega
  have hup : ((n.log2 : Int) - 52).toNat = n.log2 - 52 := by omega
  rw [nearestBits, if_neg hn]
  simp only [Nat.pow_eq, hlog, Int.natCast_zero, Int.sub_zero]
  rw [if_neg hbelow, hmax, hshift, hdown, hup, Nat.one_mul, roundedSignificand]

theorem roundedSignificand_bounds {n : Nat} (hn : n ≠ 0) :
    2 ^ 52 ≤ roundedSignificand n ∧ roundedSignificand n ≤ 2 ^ 53 := by
  have hpow (k : Nat) :
      2 ^ (n.log2 + k) * 2 ^ (52 - n.log2) = 2 ^ (52 + k) * 2 ^ (n.log2 - 52) := by
    rw [← Nat.pow_add, ← Nat.pow_add]
    congr 1
    omega
  have hlow : 2 ^ 52 * 2 ^ (n.log2 - 52) ≤ n * 2 ^ (52 - n.log2) := by
    rw [← hpow 0]
    exact Nat.mul_le_mul_right _ (Nat.log2_self_le hn)
  have hhigh : n * 2 ^ (52 - n.log2) < 2 ^ 53 * 2 ^ (n.log2 - 52) := by
    rw [← hpow 1]
    exact Nat.mul_lt_mul_of_pos_right Nat.lt_log2_self (Nat.two_pow_pos _)
  have hpos := Nat.two_pow_pos (n.log2 - 52)
  constructor
  · exact Nat.le_trans ((Nat.le_div_iff_mul_le hpos).mpr hlow) (div_le_roundHalfEven _ _)
  · exact Nat.le_trans (roundHalfEven_le _ _) ((Nat.div_lt_iff_lt_mul hpos).mpr hhigh)

/-- Among integers of one length the significands decide, otherwise the exponents. -/
theorem nearestBits_one_mono {n m : Nat} (h : n ≤ m) : nearestBits n 1 ≤ nearestBits m 1 := by
  by_cases hn : n = 0
  · subst hn
    exact Nat.zero_le _
  · have hm : m ≠ 0 := by omega
    rw [nearestBits_one hn, nearestBits_one hm]
    refine Nat.le_min.mpr ⟨Nat.min_le_left .., Nat.le_trans (Nat.min_le_right ..) ?_⟩
    obtain ⟨-, hhigh⟩ := roundedSignificand_bounds hn
    obtain ⟨hlow, -⟩ := roundedSignificand_bounds hm
    have hlog : n.log2 ≤ m.log2 := (Nat.le_log2 hm).mpr (Nat.le_trans (Nat.log2_self_le hn) h)
    rcases Nat.lt_or_eq_of_le hlog with hl | hl
    · omega
    · have hsame : roundedSignificand n ≤ roundedSignificand m := by
        rw [roundedSignificand, roundedSignificand, hl]
        exact roundHalfEven_mono (Nat.mul_le_mul_right _ h) _
      omega

/-! ### What bits stand for -/

/-- The magnitude that the bits below the sign stand for. -/
def magnitudeOfBits (b : Nat) : Nat :=
  (if b / 2 ^ 52 = 0 then b % 2 ^ 52 else 2 ^ 52 + b % 2 ^ 52) * 2 ^ (b / 2 ^ 52 - 1)

theorem toNat_ofSign {b : Nat} (hb : b < 2 ^ 63) (negative : Bool) :
    (ofSign negative b).bits.toNat = if negative then 2 ^ 63 + b else b := by
  have hlt : (if negative then 2 ^ 63 + b else b) < 2 ^ 64 := by split <;> omega
  rw [ofSign, Nat.pow_eq, UInt64.toNat_ofNat', Nat.mod_eq_of_lt hlt]

theorem exponentBits_ofSign {b : Nat} (hb : b < 2 ^ 63) (negative : Bool) :
    (ofSign negative b).exponentBits = b / 2 ^ 52 := by
  rw [exponentBits, toNat_ofSign hb]
  simp only [Nat.pow_eq]
  split <;> omega

theorem fraction_ofSign {b : Nat} (hb : b < 2 ^ 63) (negative : Bool) :
    (ofSign negative b).fraction = b % 2 ^ 52 := by
  rw [fraction, toNat_ofSign hb]
  simp only [Nat.pow_eq]
  split <;> omega

theorem isNegative_ofSign {b : Nat} (hb : b < 2 ^ 63) (negative : Bool) :
    (ofSign negative b).isNegative = negative := by
  rw [isNegative, toNat_ofSign hb]
  cases negative with
  | false => simp; omega
  | true => simp

theorem magnitude_ofSign {b : Nat} (hb : b < 2 ^ 63) (negative : Bool) :
    (ofSign negative b).magnitude = magnitudeOfBits b := by
  simp only [magnitude, significand, shift, exponentBits_ofSign hb, fraction_ofSign hb, Nat.pow_eq,
    magnitudeOfBits]

theorem units_ofSign {b : Nat} (hb : b < 2 ^ 63) (negative : Bool) : (ofSign negative b).units =
    if negative then -(magnitudeOfBits b : Int) else magnitudeOfBits b := by
  rw [units, isNegative_ofSign hb, magnitude_ofSign hb]

theorem magnitudeOfBits_lt (b : Nat) : magnitudeOfBits b < 2 ^ (52 + b / 2 ^ 52) := by
  have hf : b % 2 ^ 52 < 2 ^ 52 := Nat.mod_lt _ (Nat.two_pow_pos 52)
  rw [magnitudeOfBits]
  cases he : b / 2 ^ 52 with
  | zero => simpa using hf
  | succ e =>
    have hexponent : 52 + (e + 1) = 53 + (e + 1 - 1) := by omega
    rw [if_neg (Nat.succ_ne_zero e), hexponent, Nat.pow_add]
    exact Nat.mul_lt_mul_of_pos_right (by omega) (Nat.two_pow_pos _)

theorem le_magnitudeOfBits {b : Nat} (hb : b / 2 ^ 52 ≠ 0) :
    2 ^ (51 + b / 2 ^ 52) ≤ magnitudeOfBits b := by
  have hexponent : 51 + b / 2 ^ 52 = 52 + (b / 2 ^ 52 - 1) := by omega
  rw [magnitudeOfBits, if_neg hb, hexponent, Nat.pow_add]
  exact Nat.mul_le_mul_right _ (Nat.le_add_right _ _)

/-- A greater exponent outweighs the significands. -/
theorem magnitudeOfBits_mono {a b : Nat} (h : a ≤ b) : magnitudeOfBits a ≤ magnitudeOfBits b := by
  rcases Nat.lt_or_eq_of_le (Nat.div_le_div_right (c := 2 ^ 52) h) with he | he
  · have hb : b / 2 ^ 52 ≠ 0 := by omega
    calc magnitudeOfBits a ≤ 2 ^ (52 + a / 2 ^ 52) := Nat.le_of_lt (magnitudeOfBits_lt a)
      _ ≤ 2 ^ (51 + b / 2 ^ 52) := Nat.pow_le_pow_right Nat.two_pos (by omega)
      _ ≤ magnitudeOfBits b := le_magnitudeOfBits hb
  · have hf : a % 2 ^ 52 ≤ b % 2 ^ 52 := by omega
    rw [magnitudeOfBits, magnitudeOfBits, he]
    refine Nat.mul_le_mul_right _ ?_
    split <;> omega

/-! ### Integers among the numbers -/

theorem nearestBits_one_le (n : Nat) : nearestBits n 1 ≤ infinityBits := by
  by_cases hn : n = 0
  · subst hn
    exact Nat.zero_le _
  · rw [nearestBits_one hn]
    exact Nat.min_le_left ..

theorem nearestBits_one_lt (n : Nat) : nearestBits n 1 < 2 ^ 63 :=
  Nat.lt_of_le_of_lt (nearestBits_one_le n) (by decide)

theorem isNaN_ofInt (n : Int) : (ofInt n).isNaN = false := by
  have hle := nearestBits_one_le n.natAbs
  rw [infinityBits, Nat.pow_eq] at hle
  rw [isNaN, ofInt, ofRatio, exponentBits_ofSign (nearestBits_one_lt _),
    fraction_ofSign (nearestBits_one_lt _), Bool.and_eq_false_iff]
  by_cases he : nearestBits n.natAbs 1 / 2 ^ 52 = 2047
  · exact .inr (by simp; omega)
  · exact .inl (by simpa using he)

theorem units_ofInt (n : Int) : (ofInt n).units =
    if n < 0 then -(magnitudeOfBits (nearestBits n.natAbs 1) : Int)
      else magnitudeOfBits (nearestBits n.natAbs 1) := by
  rw [ofInt, ofRatio, units_ofSign (nearestBits_one_lt _)]
  simp

/-- Rounding keeps the order of integers, but may make different ones equal. -/
theorem units_ofInt_mono {n m : Int} (h : n ≤ m) : (ofInt n).units ≤ (ofInt m).units := by
  have hmono {a b : Nat} (hab : a ≤ b) :
      magnitudeOfBits (nearestBits a 1) ≤ magnitudeOfBits (nearestBits b 1) :=
    magnitudeOfBits_mono (nearestBits_one_mono hab)
  rw [units_ofInt, units_ofInt]
  by_cases hn : n < 0
  · by_cases hm : m < 0
    · have := hmono (show m.natAbs ≤ n.natAbs by omega)
      rw [if_pos hn, if_pos hm]
      omega
    · rw [if_pos hn, if_neg hm]
      omega
  · have := hmono (show n.natAbs ≤ m.natAbs by omega)
    rw [if_neg hn, if_neg (by omega)]
    omega

/-- An integer of up to 53 bits has none that are lost. -/
theorem roundedSignificand_of_lt {n : Nat} (h : n < 2 ^ 53) :
    roundedSignificand n = n * 2 ^ (52 - n.log2) := by
  have hlog : n.log2 - 52 = 0 := by
    by_cases hn : n = 0
    · simp [hn]
    · have := (Nat.log2_lt hn).mpr h
      omega
  rw [roundedSignificand, hlog, Nat.pow_zero, roundHalfEven_one]

theorem magnitudeOfBits_nearestBits_of_lt {n : Nat} (h : n < 2 ^ 53) :
    magnitudeOfBits (nearestBits n 1) = n * Nat.pow 2 1074 := by
  generalize he : 1074 = e
  by_cases hn : n = 0
  · subst hn
    have hzero : magnitudeOfBits (nearestBits 0 1) = 0 := by decide
    rw [hzero, Nat.zero_mul]
  · have hlog : n.log2 < 53 := (Nat.log2_lt hn).mpr h
    have hsignificand := roundedSignificand_of_lt h
    obtain ⟨hlow, -⟩ := roundedSignificand_bounds hn
    have hhigh : roundedSignificand n < 2 ^ 53 := by
      have hlength : 53 = n.log2 + 1 + (52 - n.log2) := by omega
      rw [hsignificand, hlength, Nat.pow_add]
      exact Nat.mul_lt_mul_of_pos_right Nat.lt_log2_self (Nat.two_pow_pos _)
    have hbits : nearestBits n 1 = (n.log2 + 1022) * 2 ^ 52 + roundedSignificand n := by
      rw [nearestBits_one hn, infinityBits, Nat.pow_eq]
      omega
    have hexponent : nearestBits n 1 / 2 ^ 52 = n.log2 + 1023 := by omega
    have hfraction : 2 ^ 52 + nearestBits n 1 % 2 ^ 52 = roundedSignificand n := by omega
    have hshift : 52 - n.log2 + (n.log2 + 1023 - 1) = e := by omega
    rw [Nat.pow_eq, magnitudeOfBits, hexponent, if_neg (Nat.succ_ne_zero _), hfraction,
      hsignificand, Nat.mul_assoc, ← Nat.pow_add, hshift]

/-- Integers up to `2 ^ 53` are not rounded. -/
theorem units_ofInt_of_le {n : Int} (h : n.natAbs ≤ 2 ^ 53) :
    (ofInt n).units = n * Nat.pow 2 1074 := by
  have hmagnitude : magnitudeOfBits (nearestBits n.natAbs 1) = n.natAbs * Nat.pow 2 1074 := by
    rcases Nat.lt_or_eq_of_le h with hlt | heq
    · exact magnitudeOfBits_nearestBits_of_lt hlt
    · rw [heq]
      decide +kernel
  rw [units_ofInt, hmagnitude, Int.natCast_mul]
  split
  · have hn : (n.natAbs : Int) = -n := by omega
    rw [hn, Int.neg_mul, Int.neg_neg]
  · have hn : (n.natAbs : Int) = n := by omega
    rw [hn]

end TypedTree.Binary64
