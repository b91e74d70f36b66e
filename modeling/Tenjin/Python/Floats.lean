import Tenjin.Foundation.Rounding

/-!
# Floats

Subtraction and comparison of floats, as far as the services use them.  A finite float is
given by its value, a rational; integers are compared with floats by value as well.

* `floatSub` is the difference of two finite floats, rounded to a float.
* `floatSub_le_of_le` — a difference of nearer floats is no greater.
-/

namespace Tenjin
namespace Python

open Foundation

/-- A float: the zeros of both signs have one value, which is all that `<=` sees. -/
inductive PyFloat
  | nan
  | infinity (negative : Bool)
  | finite (value : ℚ)
  deriving DecidableEq

/-- `a <= b`. -/
def PyFloat.le : PyFloat → PyFloat → Bool
  | .nan, _ => false
  | _, .nan => false
  | .infinity true, _ => true
  | _, .infinity false => true
  | .finite a, .finite b => a ≤ b
  | _, _ => false

/-- What the finite floats stay below. -/
def floatBound : ℚ := 2 ^ 1024

theorem floatBound_pos : 0 < floatBound := pow_pos (by norm_num) 1024

/-- The nearest float, in a tie the one with an even last bit; beyond the finite floats an
infinity. -/
def PyFloat.ofRat (x : ℚ) : PyFloat :=
  let rounded := roundBinary 53 (-1074) x
  if floatBound ≤ rounded then .infinity false
  else if rounded ≤ -floatBound then .infinity true
  else .finite rounded

/-- `a - b` for finite floats. -/
def floatSub (a b : ℚ) : PyFloat := .ofRat (a - b)

theorem PyFloat.ofRat_mono {x y : ℚ} (h : x ≤ y) {size : PyFloat}
    (hy : (PyFloat.ofRat y).le size = true) : (PyFloat.ofRat x).le size = true := by
  have hround : roundBinary 53 (-1074) x ≤ roundBinary 53 (-1074) y :=
    roundBinary_mono (by decide) h
  have hbound := floatBound_pos
  unfold PyFloat.ofRat at hy ⊢
  dsimp only at hy ⊢
  generalize roundBinary 53 (-1074) x = a at hround ⊢
  generalize roundBinary 53 (-1074) y = b at hround hy
  cases size with
  | nan => split_ifs at hy <;> cases hy
  | infinity negative =>
      cases negative with
      | false => split_ifs <;> rfl
      | true =>
          split_ifs at hy with hb hb'
          · cases hy
          · rw [if_neg (by linarith), if_pos (by linarith)]
            rfl
          · cases hy
  | finite value =>
      split_ifs at hy with hb hb'
      · cases hy
      · rw [if_neg (by linarith), if_pos (by linarith)]
        rfl
      · rw [if_neg (by linarith)]
        split_ifs
        · rfl
        · exact decide_eq_true (hround.trans (of_decide_eq_true hy))

/-- The nearer two floats are, the less is their difference, also when it is rounded. -/
theorem floatSub_le_of_le {start stop a b : ℚ} (hstart : start ≤ a) (hstop : b ≤ stop)
    {size : PyFloat} (h : (floatSub stop start).le size = true) :
    (floatSub b a).le size = true :=
  PyFloat.ofRat_mono (sub_le_sub hstop hstart) h

end Python
end Tenjin
