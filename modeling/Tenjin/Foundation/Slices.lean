import Mathlib.Data.List.Basic

/-!
# A list in slices of one length

`slices n xs` are `xs[0:n]`, `xs[n:2*n]` and so on, the last one possibly shorter.

* `slices_flatMap` — slicing takes apart what has been put together of blocks of that
  length.
-/

namespace Tenjin
namespace Foundation

variable {α β : Type*}

/-- The slices of a list. -/
def slices (n : ℕ) (xs : List α) : List (List α) :=
  (List.range ((xs.length + n - 1) / n)).map fun i => (xs.drop (i * n)).take n

section
variable {f : α → List β} {n : ℕ} {xs : List α}

theorem length_flatMap_blocks (h : ∀ x ∈ xs, (f x).length = n) :
    (xs.flatMap f).length = xs.length * n := by
  induction xs with
  | nil => simp
  | cons x xs ih =>
      rw [List.flatMap_cons, List.length_append, h x (List.mem_cons_self ..),
        ih fun y hy => h y (List.mem_cons_of_mem _ hy), List.length_cons, Nat.add_mul,
        Nat.one_mul, Nat.add_comm]

/-- Dropping whole blocks. -/
theorem drop_flatMap_blocks (h : ∀ x ∈ xs, (f x).length = n) (i : ℕ) :
    (xs.flatMap f).drop (i * n) = (xs.drop i).flatMap f := by
  induction i generalizing xs with
  | zero => simp
  | succ i ih =>
      cases xs with
      | nil => simp
      | cons x xs =>
          have hblock : (f x).length = n := h x (List.mem_cons_self ..)
          rw [List.flatMap_cons, Nat.succ_mul, Nat.add_comm, ← List.drop_drop,
            ← hblock, List.drop_left, hblock]
          exact ih fun y hy => h y (List.mem_cons_of_mem _ hy)

/-- Blocks of one length are the slices of their concatenation. -/
theorem slices_flatMap (hn : 0 < n) (h : ∀ x ∈ xs, (f x).length = n) :
    slices n (xs.flatMap f) = xs.map f := by
  have hcount : ((xs.flatMap f).length + n - 1) / n = xs.length := by
    rw [length_flatMap_blocks h, Nat.add_sub_assoc hn, Nat.add_comm, Nat.mul_comm,
      Nat.add_mul_div_left _ _ hn, Nat.div_eq_of_lt (by omega), Nat.zero_add]
  rw [slices, hcount]
  apply List.ext_getElem
  · simp
  · intro i hleft hright
    have hi : i < xs.length := by simpa using hright
    have hblock : (f xs[i]).length = n := h _ (List.getElem_mem hi)
    rw [List.getElem_map, List.getElem_map, List.getElem_range, drop_flatMap_blocks h,
      List.drop_eq_getElem_cons hi, List.flatMap_cons, ← hblock, List.take_left]

end

end Foundation
end Tenjin
