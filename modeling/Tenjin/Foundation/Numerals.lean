import Mathlib.Algebra.Order.Ring.Nat
import Mathlib.Tactic.Ring

/-!
# Two decimal numerals written one after the other

`concatNumerals a b` is the number whose numeral is that of `a` followed by that of
`b`.  Pairs are compared by their first component and then by their second one.

* `concatNumerals_lt_iff` — numerals of `b` and `d` of one length: the numbers compare
  as the pairs do.
* `concatNumerals_lt_of_shorter` — a shorter second numeral with a first component that
  is no greater gives the smaller number.
* `concatNumerals_lt_concatNumerals_iff` — in general, the pair with the longer second
  numeral is read with the boundary between its two numerals moved to the left.
-/

namespace Tenjin
namespace Foundation

/-- The number of digits of the decimal numeral of `n`. -/
def numeralLength (n : ℕ) : ℕ := (Nat.toDigits 10 n).length

/-- The numeral of `a` followed by the numeral of `b`, as a number. -/
def concatNumerals (a b : ℕ) : ℕ := a * 10 ^ numeralLength b + b

/-- What is in front of the last `m` digits of the numerals of `c` and `d`. -/
def frontNumber (m c d : ℕ) : ℕ := c * 10 ^ (numeralLength d - m) + d / 10 ^ m

theorem numeralLength_pos (n : ℕ) : 0 < numeralLength n := Nat.length_toDigits_pos

theorem lt_pow_numeralLength (n : ℕ) : n < 10 ^ numeralLength n :=
  (Nat.length_toDigits_le_iff (by omega) (numeralLength_pos n)).mp (Nat.le_refl _)

/-- A numeral of more than `k` digits has no leading zero. -/
theorem pow_le_of_lt_numeralLength {n k : ℕ} (hk : 0 < k) (h : k < numeralLength n) :
    10 ^ k ≤ n := by
  by_contra hlt
  have hle : numeralLength n ≤ k :=
    (Nat.length_toDigits_le_iff (by omega) hk).mpr (by omega)
  omega

/-- Reading the two numerals in one go gives their concatenation. -/
theorem ofDigitChars_concat (a b : ℕ) :
    Nat.ofDigitChars 10 (Nat.toDigits 10 a ++ Nat.toDigits 10 b) 0 = concatNumerals a b := by
  rw [Nat.ofDigitChars_append, Nat.ofDigitChars_ten_toDigits,
    Nat.ofDigitChars_eq_ofDigitChars_zero, Nat.ofDigitChars_ten_toDigits]
  show 10 ^ numeralLength b * a + b = concatNumerals a b
  rw [concatNumerals, Nat.mul_comm]

/-- Numbers with one digit each to a base compare as the pairs of their digits do. -/
theorem mul_add_lt_mul_add_iff {x a b c d : ℕ} (hb : b < x) (hd : d < x) :
    a * x + b < c * x + d ↔ a < c ∨ (a = c ∧ b < d) := by
  rcases Nat.lt_trichotomy a c with hlt | rfl | hgt
  · have hstep : (a + 1) * x ≤ c * x := Nat.mul_le_mul_right x hlt
    rw [Nat.add_mul] at hstep
    exact ⟨fun _ => .inl hlt, fun _ => by omega⟩
  · omega
  · have hstep : (c + 1) * x ≤ a * x := Nat.mul_le_mul_right x hgt
    rw [Nat.add_mul] at hstep
    constructor
    · intro h
      omega
    · rintro (h | ⟨h, _⟩) <;> omega

/-- With second numerals of one length, concatenation keeps the order of pairs. -/
theorem concatNumerals_lt_iff {a b c d : ℕ} (hlen : numeralLength b = numeralLength d) :
    concatNumerals a b < concatNumerals c d ↔ a < c ∨ (a = c ∧ b < d) := by
  have hb := lt_pow_numeralLength b
  have hd := lt_pow_numeralLength d
  rw [concatNumerals, concatNumerals, hlen]
  exact mul_add_lt_mul_add_iff (hlen ▸ hb) hd

/-- Moving the boundary between two numerals to the left keeps the number. -/
theorem concatNumerals_eq_front {m c d : ℕ} (hm : m ≤ numeralLength d) :
    concatNumerals c d = frontNumber m c d * 10 ^ m + d % 10 ^ m := by
  have hpow : 10 ^ (numeralLength d - m) * 10 ^ m = 10 ^ numeralLength d := by
    rw [← Nat.pow_add, Nat.sub_add_cancel hm]
  have hdigits : d / 10 ^ m * 10 ^ m + d % 10 ^ m = d := Nat.div_add_mod' d (10 ^ m)
  calc concatNumerals c d
      = c * (10 ^ (numeralLength d - m) * 10 ^ m)
          + (d / 10 ^ m * 10 ^ m + d % 10 ^ m) := by rw [concatNumerals, hpow, hdigits]
    _ = frontNumber m c d * 10 ^ m + d % 10 ^ m := by rw [frontNumber]; ring

/-- With the boundary moved, a longer second numeral compares like one of the same
length. -/
theorem concatNumerals_lt_concatNumerals_iff {a b c d : ℕ}
    (hlen : numeralLength b ≤ numeralLength d) :
    concatNumerals c d < concatNumerals a b ↔
      frontNumber (numeralLength b) c d < a ∨
        (frontNumber (numeralLength b) c d = a ∧ d % 10 ^ numeralLength b < b) := by
  rw [concatNumerals_eq_front hlen]
  exact mul_add_lt_mul_add_iff (Nat.mod_lt _ (Nat.pow_pos (by omega)))
    (lt_pow_numeralLength b)

/-- A shorter second numeral and a first number that is no greater. -/
theorem concatNumerals_lt_of_shorter {a b c d : ℕ}
    (hlen : numeralLength b < numeralLength d) (hac : a ≤ c) :
    concatNumerals a b < concatNumerals c d := by
  have hb := lt_pow_numeralLength b
  have hd : 10 ^ numeralLength b ≤ d :=
    pow_le_of_lt_numeralLength (numeralLength_pos b) hlen
  have hpow : 10 ^ numeralLength b ≤ 10 ^ numeralLength d :=
    Nat.pow_le_pow_right (by omega) (by omega)
  have hfirst : a * 10 ^ numeralLength b ≤ c * 10 ^ numeralLength d :=
    Nat.mul_le_mul hac hpow
  show a * 10 ^ numeralLength b + b < c * 10 ^ numeralLength d + d
  omega

/-- The first number is below the concatenation, unless both numbers are zero. -/
theorem lt_concatNumerals {a b : ℕ} (h : a ≠ 0 ∨ b ≠ 0) : a < concatNumerals a b := by
  have hpow : 10 ^ 1 ≤ 10 ^ numeralLength b :=
    Nat.pow_le_pow_right (by omega) (numeralLength_pos b)
  have hmul : a * 10 ^ 1 ≤ a * 10 ^ numeralLength b := Nat.mul_le_mul_left a hpow
  show a < a * 10 ^ numeralLength b + b
  omega

end Foundation
end Tenjin
