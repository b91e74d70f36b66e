import Tenjin.Python.Runtime

/-!
# Retry executors

`execute_with_redis_retries` of `qos.py` and `db_execute_with_retries` of
`db_qos.py`.  A Redis coroutine is a function of the attempt number: what it
answers at each attempt is up to the environment.  A database coroutine works on
the state of its connection.  The sleeps between the attempts are left out.
-/

namespace Tenjin
namespace ResourceAuxillary

open Python

/-- `attempts or retry_policy.MAX_RETRIES`. -/
def attemptsOr (attempts : Option ℕ) (maxRetries : ℕ) : ℕ :=
  match attempts with
  | some (n + 1) => n + 1
  | _ => maxRetries

/-- The loop of `execute_with_redis_retries` with `remaining` attempts left.  Only
a network error leads to another attempt. -/
def redisRetryLoop {α : Type} (coroutine : ℕ → Except Exn α) :
    (remaining attempt : ℕ) → (exception : Option Exn) → Except Exn (Option α)
  | 0, _, some e => .error e
  | 0, _, none => .ok none
  | remaining + 1, attempt, _ =>
      match coroutine attempt with
      | .ok a => .ok (some a)
      | .error (.redisError true) =>
          redisRetryLoop coroutine remaining (attempt + 1) (some (.redisError true))
      | .error e => .error e

/-- `execute_with_redis_retries`.  The result is `none` when the body never ran. -/
def executeWithRedisRetries {α : Type} (maxRetries : ℕ) (coroutine : ℕ → Except Exn α)
    (attempts : Option ℕ) : Except Exn (Option α) :=
  redisRetryLoop coroutine (attemptsOr attempts maxRetries) 1 none

/-- Repeating a coroutine that always answers the same gives that answer. -/
theorem redisRetryLoop_const {α : Type} (answer : Except Exn α) (remaining attempt : ℕ)
    (exception : Option Exn) :
    redisRetryLoop (fun _ => answer) (remaining + 1) attempt exception =
      answer.map some := by
  induction remaining generalizing attempt exception with
  | zero =>
      cases answer with
      | ok a => rfl
      | error e =>
          by_cases he : e = .redisError true
          · subst he; rfl
          · cases e <;> simp_all [redisRetryLoop, Except.map]
  | succ n ih =>
      cases answer with
      | ok a => rfl
      | error e =>
          by_cases he : e = .redisError true
          · subst he
            rw [redisRetryLoop]
            exact ih (attempt + 1) _
          · cases e <;> simp_all [redisRetryLoop, Except.map]

/-- Where an attempt is allowed, the executor gives the answer of such a coroutine. -/
theorem executeWithRedisRetries_const {α : Type} {maxRetries : ℕ} {attempts : Option ℕ}
    (hpos : 0 < attemptsOr attempts maxRetries) (answer : Except Exn α) :
    executeWithRedisRetries maxRetries (fun _ => answer) attempts = answer.map some := by
  unfold executeWithRedisRetries
  obtain ⟨n, hn⟩ := Nat.exists_eq_succ_of_ne_zero (Nat.pos_iff_ne_zero.mp hpos)
  rw [hn]
  exact redisRetryLoop_const answer n 1 none

/-- With no attempt allowed, the coroutine never runs and nothing is raised. -/
theorem executeWithRedisRetries_of_no_attempt {α : Type} {maxRetries : ℕ}
    {coroutine : ℕ → Except Exn α} {attempts : Option ℕ}
    (hzero : attemptsOr attempts maxRetries = 0) :
    executeWithRedisRetries maxRetries coroutine attempts = .ok none := by
  simp [executeWithRedisRetries, hzero, redisRetryLoop]

/-- `POTENTIAL_TRANSIENT_ERRORS`. -/
def isPotentialTransientError : Exn → Bool
  | .operationalError => true
  | .internalError => true
  | _ => false

/-- The loop of `db_execute_with_retries` with `remaining` attempts left.  Every
failed attempt is rolled back; a transient error leads to another one. -/
def dbRetryLoop {σ α : Type} (rollback : σ → σ) (coroutine : σ → Except Exn α × σ) :
    (remaining : ℕ) → (exception : Option Exn) → σ → Except Exn (Option α) × σ
  | 0, some e, s => (.error e, s)
  | 0, none, s => (.ok none, s)
  | remaining + 1, _, s =>
      match coroutine s with
      | (.ok a, s') => (.ok (some a), s')
      | (.error e, s') =>
          if isPotentialTransientError e then
            dbRetryLoop rollback coroutine remaining (some e) (rollback s')
          else (.error e, rollback s')

/-- `db_execute_with_retries`. -/
def dbExecuteWithRetries {σ α : Type} (rollback : σ → σ) (maxRetries : ℕ)
    (coroutine : σ → Except Exn α × σ) (attempts : Option ℕ) (s : σ) :
    Except Exn (Option α) × σ :=
  dbRetryLoop rollback coroutine (attemptsOr attempts maxRetries) none s

/-- What the coroutine and the rollback both keep, the executor keeps. -/
theorem dbRetryLoop_preserves {σ α : Type} (rollback : σ → σ)
    (coroutine : σ → Except Exn α × σ) (I : σ → Prop)
    (hcoroutine : ∀ s, I s → I (coroutine s).2) (hrollback : ∀ s, I s → I (rollback s))
    (remaining : ℕ) (exception : Option Exn) (s : σ) (h : I s) :
    I (dbRetryLoop rollback coroutine remaining exception s).2 := by
  induction remaining generalizing exception s with
  | zero => cases exception <;> exact h
  | succ n ih =>
      have hafter := hcoroutine s h
      rw [dbRetryLoop]
      cases hrun : coroutine s with
      | mk result s' =>
          rw [hrun] at hafter
          cases result with
          | ok a => exact hafter
          | error e =>
              dsimp only
              split
              · exact ih (some e) (rollback s') (hrollback s' hafter)
              · exact hrollback s' hafter

/-- The same for the whole executor. -/
theorem dbExecuteWithRetries_preserves {σ α : Type} (rollback : σ → σ)
    (coroutine : σ → Except Exn α × σ) (I : σ → Prop)
    (hcoroutine : ∀ s, I s → I (coroutine s).2) (hrollback : ∀ s, I s → I (rollback s))
    (maxRetries : ℕ) (attempts : Option ℕ) (s : σ) (h : I s) :
    I (dbExecuteWithRetries rollback maxRetries coroutine attempts s).2 :=
  dbRetryLoop_preserves rollback coroutine I hcoroutine hrollback _ none s h

end ResourceAuxillary
end Tenjin
