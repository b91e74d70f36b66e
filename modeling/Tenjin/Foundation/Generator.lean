import Mathlib.Data.List.Basic

/-!
# Generators

A generator reads the items of a list one by one, each when the next value is asked for.  Its
state is the list of the items that it has not read yet.  If reading an item fails, the
generator is finished.

* `pull read n items` asks for `n` values, and stops where there are no more.
* `pull_ok` — values that were pulled are those of the first items, and the other items are
  left.
* `drop_eq_self_iff` says when the next reader finds all the items again.
-/

namespace Tenjin
namespace Foundation

variable {α ε ρ : Type*}

section
variable (read : α → Except ε ρ)

/-- Ask a generator for `n` values. -/
def pull : ℕ → List α → Except ε (List ρ) × List α
  | 0, items => (.ok [], items)
  | _ + 1, [] => (.ok [], [])
  | n + 1, item :: items =>
      match read item with
      | .error e => (.error e, [])
      | .ok value =>
          match pull n items with
          | (.error e, left) => (.error e, left)
          | (.ok values, left) => (.ok (value :: values), left)

/-- Ask a generator for all its values. -/
def drain (items : List α) : Except ε (List ρ) × List α := pull read items.length items

end

variable {read : α → Except ε ρ}

/-- What was pulled are the values of the first items. -/
theorem pull_ok {n : ℕ} {items left : List α} {values : List ρ}
    (h : pull read n items = (.ok values, left)) :
    left = items.drop n ∧ (items.take n).map read = values.map .ok := by
  induction n generalizing items values with
  | zero =>
      cases h
      exact ⟨rfl, rfl⟩
  | succ n ih =>
      cases items with
      | nil =>
          cases h
          exact ⟨rfl, rfl⟩
      | cons item items =>
          rw [pull] at h
          cases hitem : read item with
          | error e =>
              rw [hitem] at h
              cases h
          | ok value =>
              rw [hitem] at h
              cases hrest : pull read n items with
              | mk answer rest =>
                  rw [hrest] at h
                  cases answer with
                  | error e => cases h
                  | ok rows =>
                      cases h
                      obtain ⟨hleft, hvalues⟩ := ih hrest
                      refine ⟨hleft, ?_⟩
                      rw [List.take_succ_cons, List.map_cons, List.map_cons, hitem, hvalues]

/-- A generator raises only what reading an item raises. -/
theorem pull_error {n : ℕ} {items left : List α} {e : ε}
    (h : pull read n items = (.error e, left)) : ∃ item ∈ items, read item = .error e := by
  induction n generalizing items with
  | zero => cases h
  | succ n ih =>
      cases items with
      | nil => cases h
      | cons item items =>
          rw [pull] at h
          cases hitem : read item with
          | error e' =>
              rw [hitem] at h
              cases h
              exact ⟨item, List.mem_cons_self .., hitem⟩
          | ok value =>
              rw [hitem] at h
              cases hrest : pull read n items with
              | mk answer rest =>
                  rw [hrest] at h
                  cases answer with
                  | ok rows => cases h
                  | error e' =>
                      cases h
                      obtain ⟨other, hmem, hother⟩ := ih hrest
                      exact ⟨other, List.mem_cons_of_mem _ hmem, hother⟩

theorem drain_ok {items left : List α} {values : List ρ}
    (h : drain read items = (.ok values, left)) :
    left = [] ∧ items.map read = values.map .ok := by
  obtain ⟨hleft, hvalues⟩ := pull_ok h
  rw [List.drop_length] at hleft
  rw [List.take_length] at hvalues
  exact ⟨hleft, hvalues⟩

/-- The next reader finds all the items again exactly when none was read. -/
theorem drop_eq_self_iff (n : ℕ) (items : List α) :
    items.drop n = items ↔ min n items.length = 0 := by
  constructor
  · intro h
    have hlength := congrArg List.length h
    rw [List.length_drop] at hlength
    omega
  · intro h
    rcases Nat.eq_zero_or_pos n with rfl | hn
    · rfl
    · have hempty : items = [] := List.length_eq_zero_iff.mp (by omega)
      rw [hempty, List.drop_nil]

end Foundation
end Tenjin
