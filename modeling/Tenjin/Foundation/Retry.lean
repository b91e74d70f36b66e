import Mathlib.Data.List.Basic

/-!
# Retrying an operation

`retry` attempts an operation on a state until it succeeds, fails for good, or has used up
its attempts.  An error is followed by another attempt if `again` says so; whatever the
error, `recover` is run after it.

* `FailedAttempts` are attempts in a row that each lead to another one.
* `FailedAttempts.retry_eq` — behind them the loop goes on with the attempts that are left.
* `retry_cases` — with an attempt left, the loop ends with the answer of one attempt, after
  failed ones.
* `answering` is an operation that answers in turn, and counts its attempts.
-/

namespace Tenjin
namespace Foundation

variable {σ ε α : Type*}

section
variable (again : ε → Bool) (recover : σ → σ) (run : σ → Except ε α × σ)

/-- The loop with `remaining` attempts left, and the last error.  There is no result when the
operation is never attempted. -/
def retry : (remaining : ℕ) → (last : Option ε) → σ → Except ε (Option α) × σ
  | 0, some e, s => (.error e, s)
  | 0, none, s => (.ok none, s)
  | remaining + 1, _, s =>
      match run s with
      | (.ok a, s') => (.ok (some a), s')
      | (.error e, s') =>
          if again e then retry remaining (some e) (recover s')
          else (.error e, recover s')

/-- A number of attempts in a row, each of which leads to another one. -/
inductive FailedAttempts : ℕ → σ → σ → Prop
  | zero (s : σ) : FailedAttempts 0 s s
  | succ {n : ℕ} {s s' t : σ} {e : ε} :
      run s = (.error e, s') → again e = true → FailedAttempts n (recover s') t →
      FailedAttempts (n + 1) s t

end

section
variable {again : ε → Bool} {recover : σ → σ} {run : σ → Except ε α × σ}

/-- One more failed attempt. -/
theorem FailedAttempts.snoc {n : ℕ} {s t t' : σ} {e : ε}
    (h : FailedAttempts again recover run n s t) (hrun : run t = (.error e, t'))
    (hagain : again e = true) :
    FailedAttempts again recover run (n + 1) s (recover t') := by
  induction h with
  | zero s => exact .succ hrun hagain (.zero _)
  | succ hfirst hretried _ ih => exact .succ hfirst hretried (ih hrun)

/-- Without an attempt the operation is not run. -/
@[simp] theorem retry_zero (s : σ) : retry again recover run 0 none s = (.ok none, s) := rfl

variable (again recover run) in
/-- With an attempt left the loop ends with the answer of one attempt: a success, or an error
that leads to no other attempt or comes when the attempts are used up. -/
theorem retry_cases (n : ℕ) (last : Option ε) (s : σ) :
    ∃ k ≤ n, ∃ t, FailedAttempts again recover run k s t ∧
      ((∃ a t', run t = (.ok a, t') ∧
          retry again recover run (n + 1) last s = (.ok (some a), t')) ∨
        ∃ e t', run t = (.error e, t') ∧ (again e = false ∨ k = n) ∧
          retry again recover run (n + 1) last s = (.error e, recover t')) := by
  induction n generalizing last s with
  | zero =>
      refine ⟨0, Nat.le_refl 0, s, .zero s, ?_⟩
      cases hrun : run s with
      | mk answer s' =>
          cases answer with
          | ok a => exact .inl ⟨a, s', rfl, by rw [retry, hrun]⟩
          | error e =>
              refine .inr ⟨e, s', rfl, .inr rfl, ?_⟩
              rw [retry, hrun]
              dsimp only
              split <;> rfl
  | succ n ih =>
      cases hrun : run s with
      | mk answer s' =>
          cases answer with
          | ok a =>
              exact ⟨0, Nat.zero_le _, s, .zero s, .inl ⟨a, s', hrun, by rw [retry, hrun]⟩⟩
          | error e =>
              by_cases hagain : again e = true
              · -- the rest of the loop starts behind this attempt
                have hrest : retry again recover run (n + 1 + 1) last s =
                    retry again recover run (n + 1) (some e) (recover s') := by
                  rw [retry, hrun]
                  exact if_pos hagain
                obtain ⟨k, hk, t, hfailed, hend⟩ := ih (some e) (recover s')
                refine ⟨k + 1, Nat.succ_le_succ hk, t, .succ hrun hagain hfailed, ?_⟩
                rw [hrest]
                rcases hend with hsuccess | ⟨e', t', hrun', hlast, hretry⟩
                · exact .inl hsuccess
                · exact .inr ⟨e', t', hrun', hlast.imp_right (congrArg (· + 1)), hretry⟩
              · refine ⟨0, Nat.zero_le _, s, .zero s, .inr ⟨e, s', hrun, .inl ?_, ?_⟩⟩
                · simpa using hagain
                · rw [retry, hrun]
                  exact if_neg hagain

/-- What the operation and the recovery both keep, the loop keeps. -/
theorem retry_preserves {I : σ → Prop} (hrun : ∀ s, I s → I (run s).2)
    (hrecover : ∀ s, I s → I (recover s)) (n : ℕ) (last : Option ε) (s : σ) (hs : I s) :
    I (retry again recover run n last s).2 := by
  induction n generalizing last s with
  | zero => cases last <;> exact hs
  | succ n ih =>
      have hafter := hrun s hs
      rw [retry]
      cases hanswer : run s with
      | mk answer s' =>
          rw [hanswer] at hafter
          cases answer with
          | ok a => exact hafter
          | error e =>
              dsimp only
              split
              · exact ih (some e) (recover s') (hrecover s' hafter)
              · exact hrecover s' hafter

/-- The same if only the first attempt establishes it. -/
theorem retry_succ_preserves {I : σ → Prop} (hrun : ∀ s, I s → I (run s).2)
    (hrecover : ∀ s, I s → I (recover s)) (n : ℕ) (last : Option ε) (s : σ)
    (hfirst : I (run s).2) : I (retry again recover run (n + 1) last s).2 := by
  rw [retry]
  cases hanswer : run s with
  | mk answer s' =>
      rw [hanswer] at hfirst
      cases answer with
      | ok a => exact hfirst
      | error e =>
          dsimp only
          split
          · exact retry_preserves hrun hrecover n (some e) (recover s') (hrecover s' hfirst)
          · exact hrecover s' hfirst

/-- Behind failed attempts the loop goes on with the attempts that are left. -/
theorem FailedAttempts.retry_eq {k : ℕ} {s t : σ} (h : FailedAttempts again recover run k s t)
    (n : ℕ) (last : Option ε) :
    ∃ last', retry again recover run (n + k) last s = retry again recover run n last' t := by
  induction h generalizing last with
  | zero s => exact ⟨last, rfl⟩
  | @succ k s s' t e hrun hagain _ ih =>
      obtain ⟨last', hrest⟩ := ih (some e)
      refine ⟨last', ?_⟩
      rw [← Nat.add_assoc, retry, hrun]
      dsimp only
      rw [if_pos hagain, hrest]

end

/-- An operation that answers in turn: the state is the number of its attempts so far. -/
def answering (answers : ℕ → Except ε α) (n : ℕ) : Except ε α × ℕ := (answers n, n + 1)

/-- Failed attempts of such an operation. -/
theorem failedAttempts_answering {again : ε → Bool} {answers : ℕ → Except ε α} {k n m : ℕ}
    (h : FailedAttempts again id (answering answers) k n m) :
    m = n + k ∧ ∀ i, n ≤ i → i < m → ∃ e, answers i = .error e ∧ again e = true := by
  induction h with
  | zero n => exact ⟨rfl, fun i hlow hhigh => absurd hhigh (by omega)⟩
  | @succ k n n' m e hrun hagain _ ih =>
      simp only [answering, Prod.mk.injEq] at hrun
      obtain ⟨hanswer, rfl⟩ := hrun
      obtain ⟨hm, hfailed⟩ := ih
      simp only [id] at hm
      refine ⟨by omega, fun i hlow hhigh => ?_⟩
      rcases Nat.eq_or_lt_of_le hlow with rfl | hlater
      · exact ⟨e, hanswer, hagain⟩
      · exact hfailed i hlater hhigh

end Foundation
end Tenjin
