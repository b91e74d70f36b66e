import Mathlib.Order.Bounds.Basic
import Mathlib.Order.MinMax

/-!
# The least and the greatest item in one pass

`extremes` goes once over some items and keeps the least and the greatest one so far.  An
item that is a new least one is not compared with the greatest one.

* `extremes_spec` — in the end they are the least and the greatest of all, in whichever order
  the items come.
-/

namespace Tenjin
namespace Foundation

variable {α : Type*} [LinearOrder α]

/-- One item more. -/
def widen (bounds : α × α) (x : α) : α × α :=
  if x < bounds.1 then (x, bounds.2)
  else if bounds.2 < x then (bounds.1, x)
  else bounds

/-- The pass over the items, from a first one. -/
def extremes (first : α) (xs : List α) : α × α := xs.foldl widen (first, first)

/-- With bounds in order, one item more is compared with both of them in effect. -/
theorem widen_eq {lo hi : α} (hle : lo ≤ hi) (x : α) :
    widen (lo, hi) x = (min lo x, max hi x) := by
  unfold widen
  dsimp only
  split
  · -- what is below the least item is not above the greatest one
    rename_i hlow
    rw [min_eq_right hlow.le, max_eq_left (hlow.le.trans hle)]
  · rename_i hlow
    rw [min_eq_left (not_lt.mp hlow)]
    split
    · rename_i hhigh
      rw [max_eq_right hhigh.le]
    · rename_i hhigh
      rw [max_eq_left (not_lt.mp hhigh)]

theorem foldl_widen_eq (xs : List α) {lo hi : α} (hle : lo ≤ hi) :
    xs.foldl widen (lo, hi) = (xs.foldl min lo, xs.foldl max hi) := by
  induction xs generalizing lo hi with
  | nil => rfl
  | cons x xs ih =>
      rw [List.foldl_cons, widen_eq hle]
      exact ih ((min_le_left lo x).trans (hle.trans (le_max_left hi x)))

theorem isLeast_foldl_min (xs : List α) (lo : α) :
    IsLeast {x | x ∈ lo :: xs} (xs.foldl min lo) := by
  induction xs generalizing lo with
  | nil =>
      refine ⟨List.mem_cons_self .., ?_⟩
      intro y hy
      rw [List.mem_singleton.mp hy]
      exact le_refl lo
  | cons x xs ih =>
      obtain ⟨hmem, hle⟩ := ih (min lo x)
      have hfirst : xs.foldl min (min lo x) ≤ min lo x := hle (List.mem_cons_self ..)
      rw [List.foldl_cons]
      constructor
      · rcases List.mem_cons.mp hmem with hmin | hrest
        · show xs.foldl min (min lo x) ∈ lo :: x :: xs
          rw [hmin]
          rcases min_choice lo x with hlo | hx
          · rw [hlo]
            exact List.mem_cons_self ..
          · rw [hx]
            exact List.mem_cons_of_mem _ (List.mem_cons_self ..)
        · exact List.mem_cons_of_mem _ (List.mem_cons_of_mem _ hrest)
      · intro y hy
        rcases List.mem_cons.mp hy with rfl | hy
        · exact hfirst.trans (min_le_left ..)
        rcases List.mem_cons.mp hy with rfl | hy
        · exact hfirst.trans (min_le_right ..)
        · exact hle (List.mem_cons_of_mem _ hy)

/-- The two items that are left are the least and the greatest one. -/
theorem extremes_spec (first : α) (xs : List α) :
    IsLeast {x | x ∈ first :: xs} (extremes first xs).1 ∧
      IsGreatest {x | x ∈ first :: xs} (extremes first xs).2 := by
  rw [extremes, foldl_widen_eq xs (le_refl first)]
  -- the greatest item is the least one of the opposite order
  exact ⟨isLeast_foldl_min xs first, isLeast_foldl_min (α := αᵒᵈ) xs first⟩

end Foundation
end Tenjin
