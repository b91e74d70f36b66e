import Mathlib.Data.List.Rotate

/-!
# Going round a list

An endless round visits the elements of a list one after the other and then begins again.
`FollowsCycle` says that a list of visits is a part of such a round; a part that is as long
as the list visits each element once (`FollowsCycle.perm`), wherever it begins.
-/

namespace Tenjin
namespace Foundation

variable {α : Type*} {xs visits front window back : List α} {start : ℕ} {a : α}

/-- The visits go round the list, from position `start` on. -/
def FollowsCycle (xs : List α) (start : ℕ) (visits : List α) : Prop :=
  ∀ k < visits.length, visits[k]? = xs[(start + k) % xs.length]?

theorem followsCycle_nil (xs : List α) (start : ℕ) : FollowsCycle xs start [] :=
  fun _ h => absurd h (Nat.not_lt_zero _)

/-- One more visit. -/
theorem FollowsCycle.snoc (h : FollowsCycle xs start visits)
    (ha : xs[(start + visits.length) % xs.length]? = some a) :
    FollowsCycle xs start (visits ++ [a]) := by
  intro k hk
  rw [List.length_append, List.length_singleton] at hk
  rcases Nat.lt_or_eq_of_le (Nat.le_of_lt_succ hk) with hlt | rfl
  · rw [List.getElem?_append_left hlt]
    exact h k hlt
  · rw [List.getElem?_concat_length, ha]

/-- A part of the visits. -/
theorem FollowsCycle.middle (h : FollowsCycle xs start (front ++ window ++ back)) :
    FollowsCycle xs (start + front.length) window := by
  intro k hk
  have hat := h (front.length + k) (by simp only [List.length_append]; omega)
  rw [List.append_assoc, List.getElem?_append_right (Nat.le_add_right _ _),
    Nat.add_sub_cancel_left, List.getElem?_append_left hk, ← Nat.add_assoc] at hat
  exact hat

/-- Only elements of the list are visited. -/
theorem FollowsCycle.mem (h : FollowsCycle xs start visits) (ha : a ∈ visits) : a ∈ xs := by
  obtain ⟨k, hk⟩ := List.mem_iff_getElem?.mp ha
  have hlt := (List.getElem?_eq_some_iff.mp hk).1
  rw [h k hlt] at hk
  exact List.mem_iff_getElem?.mpr ⟨_, hk⟩

/-- As many visits as the list has elements are the list, turned. -/
theorem FollowsCycle.eq_rotate (h : FollowsCycle xs start visits)
    (hlength : visits.length = xs.length) : visits = xs.rotate start := by
  apply List.ext_getElem?
  intro k
  rcases Nat.lt_or_ge k visits.length with hlt | hge
  · rw [h k hlt, List.getElem?_rotate (hlength ▸ hlt), Nat.add_comm]
  · rw [List.getElem?_eq_none hge, List.getElem?_eq_none]
    rw [List.length_rotate]
    omega

theorem FollowsCycle.perm (h : FollowsCycle xs start visits)
    (hlength : visits.length = xs.length) : visits.Perm xs := by
  rw [h.eq_rotate hlength]
  exact List.rotate_perm xs start

/-- A round that is long enough comes to every element. -/
theorem FollowsCycle.mem_of_le (h : FollowsCycle xs start visits)
    (hlength : xs.length ≤ visits.length) (ha : a ∈ xs) : a ∈ visits := by
  have hsplit : FollowsCycle xs start ([] ++ visits.take xs.length ++ visits.drop xs.length) := by
    rw [List.nil_append, List.take_append_drop]
    exact h
  have hperm := hsplit.middle.perm (List.length_take_of_le hlength)
  exact List.mem_of_mem_take (hperm.mem_iff.mpr ha)

end Foundation
end Tenjin
