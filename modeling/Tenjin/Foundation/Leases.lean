import Mathlib.Algebra.Order.Group.Nat
import Mathlib.Logic.Function.Basic
import Mathlib.Tactic.Push

/-!
# Locks that expire

A table of leases under a clock: setting a lease succeeds only where no lease is live, a
lease is live up to its deadline, and deleting one does not ask whose it is.

* `LeaseTable.live` is the lease that a reader of the table sees.
* `LeaseTable.live_tick`, `LeaseTable.live_delete_self`, `LeaseTable.live_delete_of_ne`,
  `LeaseTable.setNx_eq_some` — what the operations make of it.
-/

namespace Tenjin
namespace Foundation

variable {κ ι : Type*} [DecidableEq κ]

/-- A lock, with the one who has set it and the last moment of its life. -/
structure Lease (ι : Type*) where
  holder : ι
  deadline : ℕ

/-- The leases of all keys and the clock that they expire by. -/
structure LeaseTable (κ ι : Type*) where
  now : ℕ
  leases : κ → Option (Lease ι)

namespace LeaseTable

/-- The lease of a key, unless it has expired. -/
def live (table : LeaseTable κ ι) (key : κ) : Option (Lease ι) :=
  (table.leases key).filter fun lease => table.now ≤ lease.deadline

/-- Time passes. -/
def tick (table : LeaseTable κ ι) (elapsed : ℕ) : LeaseTable κ ι :=
  { table with now := table.now + elapsed }

/-- Set a lease if none is live; a lifetime of nothing is refused. -/
def setNx (table : LeaseTable κ ι) (key : κ) (holder : ι) (ttl : ℕ) :
    Option (LeaseTable κ ι) :=
  if ttl = 0 ∨ (table.live key).isSome then none
  else
    some { table with
      leases := Function.update table.leases key (some ⟨holder, table.now + ttl⟩) }

/-- Delete whatever lease the key has. -/
def delete (table : LeaseTable κ ι) (key : κ) : LeaseTable κ ι :=
  { table with leases := Function.update table.leases key none }

omit [DecidableEq κ] in
theorem live_eq_some {table : LeaseTable κ ι} {key : κ} {lease : Lease ι} :
    table.live key = some lease ↔
      table.leases key = some lease ∧ table.now ≤ lease.deadline := by
  simp [live, Option.filter_eq_some_iff]

omit [DecidableEq κ] in
/-- A lease that is live later is live now. -/
theorem live_tick {table : LeaseTable κ ι} {elapsed : ℕ} {key : κ} {lease : Lease ι}
    (h : (table.tick elapsed).live key = some lease) : table.live key = some lease := by
  rw [live_eq_some] at h ⊢
  exact ⟨h.1, (Nat.le_add_right _ _).trans h.2⟩

@[simp] theorem live_delete_self (table : LeaseTable κ ι) (key : κ) :
    (table.delete key).live key = none := by
  simp [live, delete]

@[simp] theorem live_delete_of_ne {table : LeaseTable κ ι} {key other : κ}
    (h : other ≠ key) : (table.delete key).live other = table.live other := by
  unfold live delete
  dsimp only
  rw [Function.update_of_ne h]

/-- A lease that was set is the only change, and there was no live one before. -/
theorem setNx_eq_some {table table' : LeaseTable κ ι} {key : κ} {holder : ι} {ttl : ℕ}
    (h : table.setNx key holder ttl = some table') :
    table.live key = none ∧ table'.now = table.now ∧
      table'.live key = some ⟨holder, table.now + ttl⟩ ∧
      ∀ other, other ≠ key → table'.live other = table.live other := by
  unfold setNx at h
  split at h
  · cases h
  · rename_i hfree
    push Not at hfree
    cases h
    refine ⟨by simpa using hfree.2, rfl, ?_, fun other hne => ?_⟩
    · rw [live_eq_some]
      exact ⟨Function.update_self .., Nat.le_add_right _ _⟩
    · unfold live
      dsimp only
      rw [Function.update_of_ne hne]

end LeaseTable

end Foundation
end Tenjin
