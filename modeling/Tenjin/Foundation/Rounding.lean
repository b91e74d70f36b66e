import Mathlib.Algebra.Order.Field.Power
import Mathlib.Data.Int.Log
import Mathlib.Data.Rat.Floor
import Mathlib.Tactic.FieldSimp
import Mathlib.Tactic.Linarith
import Mathlib.Tactic.Ring

/-!
# Rounding to a binary format

A rational is rounded to a binary format with so many bits and a least exponent: to the
nearest number of the format, in a tie to the even one, with gradual underflow below and
without a bound above.

* `roundHalfEven` rounds to an integer, `roundBinary` to a number of the format.
* `roundBinary_mono` — rounding keeps the order.
-/

namespace Tenjin
namespace Foundation

/-- The nearest integer, in a tie the even one. -/
def roundHalfEven (x : ℚ) : ℤ :=
  if x - ⌊x⌋ < 1 / 2 then ⌊x⌋
  else if 1 / 2 < x - ⌊x⌋ then ⌊x⌋ + 1
  else ⌊x⌋ + ⌊x⌋ % 2

/-- The exponent of the last bit of a number next to `x`. -/
def lastPlace (precision : ℕ) (minExponent : ℤ) (x : ℚ) : ℤ :=
  max (Int.log 2 |x| + 1 - precision) minExponent

/-- The nearest number of the format. -/
def roundBinary (precision : ℕ) (minExponent : ℤ) (x : ℚ) : ℚ :=
  roundHalfEven (x / 2 ^ lastPlace precision minExponent x) *
    2 ^ lastPlace precision minExponent x

section Integers

variable {x y : ℚ}

theorem roundHalfEven_bounds (x : ℚ) :
    ⌊x⌋ ≤ roundHalfEven x ∧ roundHalfEven x ≤ ⌊x⌋ + 1 := by
  unfold roundHalfEven
  split_ifs <;> omega

@[simp] theorem roundHalfEven_intCast (k : ℤ) : roundHalfEven (k : ℚ) = k := by
  simp [roundHalfEven]

theorem roundHalfEven_mono (h : x ≤ y) : roundHalfEven x ≤ roundHalfEven y := by
  rcases (Int.floor_mono h).eq_or_lt with hfloor | hfloor
  · -- between the same integers the order is that of the fractional parts
    have hpart : x - ⌊x⌋ ≤ y - ⌊x⌋ := sub_le_sub_right h _
    unfold roundHalfEven
    rw [← hfloor]
    split_ifs <;> first | omega | (exfalso; linarith)
  · calc roundHalfEven x ≤ ⌊x⌋ + 1 := (roundHalfEven_bounds x).2
      _ ≤ ⌊y⌋ := hfloor
      _ ≤ roundHalfEven y := (roundHalfEven_bounds y).1

theorem roundHalfEven_le_of_le {k : ℤ} (h : x ≤ k) : roundHalfEven x ≤ k := by
  have hmono := roundHalfEven_mono h
  rwa [roundHalfEven_intCast] at hmono

theorem le_roundHalfEven_of_le {k : ℤ} (h : (k : ℚ) ≤ x) : k ≤ roundHalfEven x := by
  have hmono := roundHalfEven_mono h
  rwa [roundHalfEven_intCast] at hmono

theorem roundHalfEven_neg (x : ℚ) : roundHalfEven (-x) = -roundHalfEven x := by
  have hlow := Int.floor_le x
  have hhigh := Int.lt_floor_add_one x
  by_cases hint : x = ⌊x⌋
  · have hneg : -x = ((-⌊x⌋ : ℤ) : ℚ) := by rw [hint]; simp
    have hround : roundHalfEven x = ⌊x⌋ := by rw [hint]; simp
    rw [hneg, roundHalfEven_intCast, hround]
  · -- off the integers the floor of `-x` is `-⌊x⌋ - 1`
    have hlow : (⌊x⌋ : ℚ) < x := lt_of_le_of_ne hlow (Ne.symm hint)
    have hfloor : ⌊-x⌋ = -⌊x⌋ - 1 := by
      rw [Int.floor_eq_iff]
      push_cast
      constructor <;> linarith
    unfold roundHalfEven
    rw [hfloor]
    push_cast
    split_ifs <;> first | omega | (exfalso; linarith)

end Integers

section Formats

variable {precision : ℕ} {minExponent : ℤ} {x y : ℚ}

theorem two_zpow_pos (e : ℤ) : (0 : ℚ) < 2 ^ e := zpow_pos (by norm_num) e

theorem roundBinary_neg (x : ℚ) :
    roundBinary precision minExponent (-x) = -roundBinary precision minExponent x := by
  have hplace : lastPlace precision minExponent (-x) = lastPlace precision minExponent x := by
    rw [lastPlace, lastPlace, abs_neg]
  rw [roundBinary, hplace, neg_div, roundHalfEven_neg, roundBinary]
  push_cast
  ring

theorem roundBinary_nonneg (h : 0 ≤ x) : 0 ≤ roundBinary precision minExponent x := by
  have hscaled : ((0 : ℤ) : ℚ) ≤ x / 2 ^ lastPlace precision minExponent x := by
    push_cast
    exact div_nonneg h (two_zpow_pos _).le
  have hround : (0 : ℚ) ≤ roundHalfEven (x / 2 ^ lastPlace precision minExponent x) := by
    exact_mod_cast le_roundHalfEven_of_le hscaled
  exact mul_nonneg hround (two_zpow_pos _).le

/-- A power of two that is not below the last place is on the grid. -/
theorem exists_zpow_eq_mul {e place : ℤ} (hplace : place ≤ e) :
    ∃ k : ℕ, (2 : ℚ) ^ e = ((2 ^ k : ℤ) : ℚ) * 2 ^ place := by
  obtain ⟨k, hk⟩ := Int.eq_ofNat_of_zero_le (sub_nonneg.mpr hplace)
  refine ⟨k, ?_⟩
  push_cast
  rw [← zpow_natCast, ← zpow_add₀ (by norm_num)]
  congr 1
  omega

/-- So it is not passed from below. -/
theorem roundBinary_le_zpow {e : ℤ} (hplace : lastPlace precision minExponent x ≤ e)
    (h : x ≤ 2 ^ e) : roundBinary precision minExponent x ≤ 2 ^ e := by
  obtain ⟨k, hpower⟩ := exists_zpow_eq_mul hplace
  have hscaled : x / 2 ^ lastPlace precision minExponent x ≤ ((2 ^ k : ℤ) : ℚ) := by
    rw [div_le_iff₀ (two_zpow_pos _), ← hpower]
    exact h
  rw [hpower, roundBinary]
  refine mul_le_mul_of_nonneg_right ?_ (two_zpow_pos _).le
  exact_mod_cast roundHalfEven_le_of_le hscaled

/-- Nor from above. -/
theorem zpow_le_roundBinary {e : ℤ} (hplace : lastPlace precision minExponent x ≤ e)
    (h : 2 ^ e ≤ x) : 2 ^ e ≤ roundBinary precision minExponent x := by
  obtain ⟨k, hpower⟩ := exists_zpow_eq_mul hplace
  have hscaled : ((2 ^ k : ℤ) : ℚ) ≤ x / 2 ^ lastPlace precision minExponent x := by
    rw [le_div_iff₀ (two_zpow_pos _), ← hpower]
    exact h
  rw [hpower, roundBinary]
  refine mul_le_mul_of_nonneg_right ?_ (two_zpow_pos _).le
  exact_mod_cast le_roundHalfEven_of_le hscaled

theorem roundBinary_mono_of_pos (hprecision : 0 < precision) (hx : 0 < x) (h : x ≤ y) :
    roundBinary precision minExponent x ≤ roundBinary precision minExponent y := by
  have hy := hx.trans_le h
  have hlog : Int.log 2 x ≤ Int.log 2 y := Int.log_mono_right hx h
  have hx' : lastPlace precision minExponent x =
      max (Int.log 2 x + 1 - precision) minExponent := by rw [lastPlace, abs_of_pos hx]
  have hy' : lastPlace precision minExponent y =
      max (Int.log 2 y + 1 - precision) minExponent := by rw [lastPlace, abs_of_pos hy]
  have hle : lastPlace precision minExponent x ≤ lastPlace precision minExponent y := by omega
  rcases hle.eq_or_lt with hplace | hplace
  · -- on one grid
    rw [roundBinary, roundBinary, hplace]
    refine mul_le_mul_of_nonneg_right ?_ (two_zpow_pos _).le
    exact_mod_cast roundHalfEven_mono (div_le_div_of_nonneg_right h (two_zpow_pos _).le)
  · -- on two grids a power of two of both lies between
    have hbetween : x ≤ 2 ^ Int.log 2 y := by
      calc x ≤ 2 ^ (Int.log 2 x + 1) := (Int.lt_zpow_succ_log_self (by norm_num) x).le
        _ ≤ 2 ^ Int.log 2 y := zpow_le_zpow_right₀ (by norm_num) (by omega)
    calc roundBinary precision minExponent x ≤ 2 ^ Int.log 2 y :=
          roundBinary_le_zpow (by omega) hbetween
      _ ≤ roundBinary precision minExponent y :=
          zpow_le_roundBinary (by omega) (Int.zpow_log_le_self (by norm_num) hy)

/-- Rounding keeps the order. -/
theorem roundBinary_mono (hprecision : 0 < precision) (h : x ≤ y) :
    roundBinary precision minExponent x ≤ roundBinary precision minExponent y := by
  rcases lt_trichotomy x 0 with hx | rfl | hx
  · rcases lt_or_ge y 0 with hy | hy
    · have hneg : roundBinary precision minExponent (-y) ≤
          roundBinary precision minExponent (-x) :=
        roundBinary_mono_of_pos hprecision (neg_pos.mpr hy) (neg_le_neg h)
      rw [roundBinary_neg, roundBinary_neg] at hneg
      exact neg_le_neg_iff.mp hneg
    · have hneg : 0 ≤ roundBinary precision minExponent (-x) :=
        roundBinary_nonneg (neg_nonneg.mpr hx.le)
      rw [roundBinary_neg] at hneg
      exact (neg_nonneg.mp hneg).trans (roundBinary_nonneg hy)
  · have hzero : roundBinary precision minExponent 0 = 0 := by
      rw [roundBinary, zero_div, ← Int.cast_zero, roundHalfEven_intCast, Int.cast_zero,
        zero_mul]
    rw [hzero]
    exact roundBinary_nonneg h
  · exact roundBinary_mono_of_pos hprecision hx h

end Formats

end Foundation
end Tenjin
