import Mathlib.Data.Nat.Notation

/-!
# Loops that are left from their body

The body of a loop goes on with a state or leaves the loop with a result; nothing else ends
it.  `rounds` says where a number of rounds leads.

* `rounds_preserves` — what every round keeps holds at the head of the loop.
* `rounds_result` — a result comes from one round.
* `rounds_endless` — a body that never leaves makes the loop endless.
-/

namespace Tenjin
namespace Foundation

variable {σ ρ : Type*}

/-- Where `n` rounds of the loop lead. -/
def rounds (body : σ → σ ⊕ ρ) : ℕ → σ → σ ⊕ ρ
  | 0, s => .inl s
  | n + 1, s =>
      match rounds body n s with
      | .inl s' => body s'
      | .inr r => .inr r

variable {body : σ → σ ⊕ ρ}

/-- One round more, from the head of the loop. -/
theorem rounds_succ {n : ℕ} {s s' : σ} (h : rounds body n s = .inl s') :
    rounds body (n + 1) s = body s' := by
  rw [rounds, h]

/-- The loop was at its head before every round that it was at its head after. -/
theorem rounds_inl_pred {n : ℕ} {s t : σ} (h : rounds body (n + 1) s = .inl t) :
    ∃ s', rounds body n s = .inl s' ∧ body s' = .inl t := by
  cases hbefore : rounds body n s with
  | inl s' => exact ⟨s', rfl, by rw [← rounds_succ hbefore, h]⟩
  | inr r =>
      rw [rounds, hbefore] at h
      cases h

/-- What every round keeps holds at the head of the loop. -/
theorem rounds_preserves {I : σ → Prop} (hround : ∀ s s', I s → body s = .inl s' → I s')
    {s : σ} (hs : I s) {n : ℕ} {t : σ} (h : rounds body n s = .inl t) : I t := by
  induction n generalizing t with
  | zero =>
      cases h
      exact hs
  | succ n ih =>
      obtain ⟨s', hbefore, hlast⟩ := rounds_inl_pred h
      exact hround s' t (ih hbefore) hlast

/-- A result comes from one round. -/
theorem rounds_result {n : ℕ} {s : σ} {r : ρ} (h : rounds body n s = .inr r) :
    ∃ m < n, ∃ s', rounds body m s = .inl s' ∧ body s' = .inr r := by
  induction n with
  | zero => cases h
  | succ n ih =>
      cases hbefore : rounds body n s with
      | inl s' => exact ⟨n, Nat.lt_succ_self n, s', hbefore, by rw [← rounds_succ hbefore, h]⟩
      | inr r' =>
          rw [rounds, hbefore] at h
          cases h
          obtain ⟨m, hm, hleft⟩ := ih hbefore
          exact ⟨m, Nat.lt_succ_of_lt hm, hleft⟩

/-- A loop whose body never leaves it is endless. -/
theorem rounds_endless (hbody : ∀ s r, body s ≠ .inr r) (n : ℕ) (s : σ) :
    ∃ t, rounds body n s = .inl t := by
  cases h : rounds body n s with
  | inl t => exact ⟨t, rfl⟩
  | inr r =>
      obtain ⟨m, _, s', _, hleft⟩ := rounds_result h
      exact absurd hleft (hbody s' r)

end Foundation
end Tenjin
