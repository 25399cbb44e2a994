import Mathlib.Algebra.Order.Field.Rat
import Mathlib.Data.Rat.Floor
import Mathlib.Tactic.FieldSimp
import Mathlib.Tactic.Positivity
import Mathlib.Tactic.Ring
import TypedTree.Numeric.Binary64

/-!
# Truncating floating-point numbers

The bits of a finite number stand for a rational number. Truncating it is rounding that rational
number toward zero, with nothing lost on the way.
-/

namespace TypedTree

/-- The integer part of a rational number: its floor, or its ceiling if it is negative. -/
def towardZero (q : ℚ) : ℤ :=
  if 0 ≤ q then ⌊q⌋ else ⌈q⌉

theorem towardZero_neg (q : ℚ) : towardZero (-q) = -towardZero q := by
  rcases lt_trichotomy q 0 with hq | rfl | hq
  · rw [towardZero, if_pos (by linarith), towardZero, if_neg (by linarith), Int.floor_neg]
  · simp [towardZero]
  · rw [towardZero, if_neg (by linarith), towardZero, if_pos hq.le, Int.ceil_neg]

theorem towardZero_natCast_div (m d : ℕ) : towardZero (m / d) = (m / d : ℕ) := by
  rw [towardZero, if_pos (by positivity), Rat.floor_natCast_div_natCast]
  rfl

namespace Binary64

/-- The magnitude that the bits of a finite number stand for. The fraction follows a one, unless
the exponent is the least one and has no bits. -/
def absolute (x : Binary64) : ℚ :=
  let fraction : ℚ := x.fraction / 2 ^ 52
  if x.exponentBits = 0 then fraction * 2 ^ (-1022 : ℤ)
  else (1 + fraction) * 2 ^ (x.exponentBits - 1023 : ℤ)

/-- The rational number that the bits of a finite number stand for. -/
def toRat (x : Binary64) : ℚ :=
  if x.isNegative then -x.absolute else x.absolute

/-- The magnitude is counted in multiples of the least positive number. -/
theorem absolute_eq (x : Binary64) : x.absolute = x.magnitude * 2 ^ (-1074 : ℤ) := by
  have hfraction (k : ℤ) : (2 : ℚ) ^ (k - 52) = 2 ^ k / 2 ^ 52 := by
    rw [zpow_sub₀ two_ne_zero, ← zpow_natCast]
    rfl
  rw [magnitude, significand, shift, absolute]
  by_cases he : x.exponentBits = 0
  · have hunit : (2 : ℚ) ^ (-1074 : ℤ) = 2 ^ (-1022 : ℤ) / 2 ^ 52 := by
      rw [← hfraction]
      norm_num only
    rw [if_pos he, if_pos he, he, Nat.zero_sub, Nat.pow_eq, pow_zero, mul_one, hunit]
    ring
  · have hshift : (2 : ℚ) ^ (x.exponentBits - 1) * 2 ^ (-1074 : ℤ) =
        2 ^ (x.exponentBits - 1023 : ℤ) / 2 ^ 52 := by
      rw [← hfraction, ← zpow_natCast, ← zpow_add₀ two_ne_zero]
      congr 1
      omega
    rw [if_neg he, if_neg he, Nat.pow_eq, Nat.pow_eq, Nat.cast_mul, Nat.cast_pow, mul_assoc,
      Nat.cast_ofNat, hshift, Nat.cast_add, Nat.cast_pow, Nat.cast_ofNat]
    field_simp

theorem towardZero_absolute (x : Binary64) : towardZero x.absolute = x.wholePart := by
  have hcast : (-1074 : ℤ) = -(1074 : ℕ) := rfl
  rw [absolute_eq, wholePart, hcast]
  generalize (1074 : ℕ) = e
  rw [zpow_neg, zpow_natCast, ← div_eq_mul_inv, Nat.pow_eq, ← towardZero_natCast_div, Nat.cast_pow,
    Nat.cast_ofNat]

/-- Truncation rounds the number that the bits stand for toward zero. -/
theorem truncate_eq (x : Binary64) : x.truncate = towardZero x.toRat := by
  rw [truncate, toRat]
  split
  · rw [towardZero_neg, towardZero_absolute]
  · rw [towardZero_absolute]

end Binary64

end TypedTree
