import Tenjin.Foundation.Retry
import Tenjin.ResourceAuxillary.Qos

/-!
# Faithful retry executors

`execute_with_redis_retries` and `db_execute_with_retries` of a coroutine that works on a
state, for any `attempts` argument.  Both are retry loops, with different errors that lead to
another attempt.

* `attemptCount` is the number of attempts that the loops allow; a count of zero is taken
  for a missing one.
* `FaithfulRun` is the purpose, and `countRespected_iff` says for which counts it is met.
-/

namespace Tenjin
namespace ResourceAuxillary

open Python Foundation

/-- A `RedisError` of type `NETWORK`. -/
def isNetworkError : Exn → Bool
  | .redisError network => network
  | _ => false

/-- `attempts or retry_policy.MAX_RETRIES`, as the length of `range(1, attempts + 1)`. -/
def attemptCount (attempts : Option Int) (maxRetries : ℕ) : ℕ :=
  match attempts with
  | none => maxRetries
  | some n => if n = 0 then maxRetries else n.toNat

section
variable {σ α : Type}

/-- `execute_with_redis_retries`. -/
def executeWithRedisRetriesOn (maxRetries : ℕ) (coroutine : σ → Except Exn α × σ)
    (attempts : Option Int) (s : σ) : Except Exn (Option α) × σ :=
  retry isNetworkError id coroutine (attemptCount attempts maxRetries) none s

/-- `db_execute_with_retries`. -/
def dbExecuteWithRetriesOn (rollback : σ → σ) (maxRetries : ℕ)
    (coroutine : σ → Except Exn α × σ) (attempts : Option Int) (s : σ) :
    Except Exn (Option α) × σ :=
  retry isPotentialTransientError rollback coroutine (attemptCount attempts maxRetries) none s

theorem attemptCount_natCast (attempts : Option ℕ) (maxRetries : ℕ) :
    attemptCount (attempts.map Nat.cast) maxRetries = attemptsOr attempts maxRetries := by
  cases attempts with
  | none => rfl
  | some n =>
      cases n with
      | zero => rfl
      | succ n =>
          show (if ((n + 1 : ℕ) : Int) = 0 then maxRetries else ((n + 1 : ℕ) : Int).toNat) = n + 1
          rw [if_neg (by omega), Int.toNat_natCast]

/-- The loop over a connection is a retry loop. -/
theorem dbRetryLoop_eq_retry (rollback : σ → σ) (coroutine : σ → Except Exn α × σ)
    (remaining : ℕ) (exception : Option Exn) (s : σ) :
    dbRetryLoop rollback coroutine remaining exception s =
      retry isPotentialTransientError rollback coroutine remaining exception s := by
  induction remaining generalizing exception s with
  | zero => cases exception <;> rfl
  | succ n ih =>
      rw [dbRetryLoop, retry]
      cases hrun : coroutine s with
      | mk answer s' =>
          cases answer with
          | ok a => rfl
          | error e => simp only [ih]

theorem dbExecuteWithRetries_eq (rollback : σ → σ) (maxRetries : ℕ)
    (coroutine : σ → Except Exn α × σ) (attempts : Option ℕ) (s : σ) :
    dbExecuteWithRetries rollback maxRetries coroutine attempts s =
      dbExecuteWithRetriesOn rollback maxRetries coroutine (attempts.map Nat.cast) s := by
  rw [dbExecuteWithRetries, dbExecuteWithRetriesOn, attemptCount_natCast, dbRetryLoop_eq_retry]

/-- So is the loop over answers, whose state is the number of the attempt. -/
theorem redisRetryLoop_eq_retry (answers : ℕ → Except Exn α) (remaining attempt : ℕ)
    (exception : Option Exn) :
    redisRetryLoop answers remaining attempt exception =
      (retry isNetworkError id (answering answers) remaining exception attempt).1 := by
  induction remaining generalizing attempt exception with
  | zero => cases exception <;> rfl
  | succ n ih =>
      rw [redisRetryLoop, retry]
      cases hanswer : answers attempt with
      | ok a => simp [answering, hanswer]
      | error e =>
          cases e with
          | redisError network =>
              cases network with
              | true => simp [answering, hanswer, isNetworkError, ih]
              | false => simp [answering, hanswer, isNetworkError]
          | _ => simp [answering, hanswer, isNetworkError]

theorem executeWithRedisRetries_eq (maxRetries : ℕ) (answers : ℕ → Except Exn α)
    (attempts : Option ℕ) :
    executeWithRedisRetries maxRetries answers attempts =
      (executeWithRedisRetriesOn maxRetries (answering answers) (attempts.map Nat.cast) 1).1 := by
  rw [executeWithRedisRetries, executeWithRedisRetriesOn, attemptCount_natCast,
    redisRetryLoop_eq_retry]

end

section
variable {α : Type} (again : Exn → Bool) (outcomes : ℕ → Except Exn α)

/-- What an executor owes to a coroutine with these outcomes, when it is allowed `bound`
attempts: `run` is its result and the number of times it has run the coroutine. -/
structure FaithfulRun (bound : ℕ) (run : Except Exn (Option α) × ℕ) : Prop where
  atLeastOnce : 1 ≤ run.2
  atMost : run.2 ≤ max 1 bound
  firstSuccess : ∀ i < run.2, ∀ a, outcomes i = .ok a → run = (.ok (some a), i + 1)
  fatalAtOnce : ∀ i < run.2, ∀ e, outcomes i = .error e → again e = false →
    run = (.error e, i + 1)
  lastError : (∀ i < run.2, ∃ e, outcomes i = .error e ∧ again e = true) →
    run.2 = max 1 bound ∧ ∃ e, outcomes (run.2 - 1) = .error e ∧ run.1 = .error e
  neverEmpty : ∀ result, run.1 = .ok result →
    ∃ i < run.2, ∃ a, outcomes i = .ok a ∧ result = some a

/-- The outcome of an attempt leads to no other one. -/
def Settles (outcome : Except Exn α) : Prop :=
  ∀ e, outcome = .error e → again e = false

/-- The attempts that a call asks for. -/
def askedFor (attempts : Option Int) (maxRetries : ℕ) : ℕ :=
  match attempts with
  | none => maxRetries
  | some n => n.toNat

/-- The condition on a call: an attempt is allowed, and a count of zero is either the one
attempt of the policy or makes no difference. -/
def CountRespected (attempts : Option Int) (maxRetries : ℕ) : Prop :=
  0 < attemptCount attempts maxRetries ∧
    (attempts = some 0 → maxRetries = 1 ∨ Settles again (outcomes 0))

end

section
variable {α : Type} {again : Exn → Bool} {outcomes : ℕ → Except Exn α}

variable (again outcomes) in
/-- How a loop with an attempt left ends: behind failed attempts with the outcome of one. -/
theorem retry_answering (n : ℕ) :
    ∃ k ≤ n, (∀ i < k, ∃ e, outcomes i = .error e ∧ again e = true) ∧
      ((∃ a, outcomes k = .ok a ∧
          retry again id (answering outcomes) (n + 1) none 0 = (.ok (some a), k + 1)) ∨
        ∃ e, outcomes k = .error e ∧ (again e = false ∨ k = n) ∧
          retry again id (answering outcomes) (n + 1) none 0 = (.error e, k + 1)) := by
  obtain ⟨k, hk, t, hfailed, hend⟩ :=
    retry_cases again id (answering outcomes) n none 0
  obtain ⟨ht, hbefore⟩ := failedAttempts_answering hfailed
  obtain rfl : t = k := by omega
  refine ⟨t, hk, fun i hi => hbefore i (Nat.zero_le i) hi, ?_⟩
  rcases hend with ⟨a, t', hrun, hretry⟩ | ⟨e, t', hrun, hlast, hretry⟩
  · simp only [answering, Prod.mk.injEq] at hrun
    obtain ⟨hanswer, rfl⟩ := hrun
    exact .inl ⟨a, hanswer, hretry⟩
  · simp only [answering, Prod.mk.injEq] at hrun
    obtain ⟨hanswer, rfl⟩ := hrun
    exact .inr ⟨e, hanswer, hlast, hretry⟩

/-- The outcome of an attempt that has been tried again does not settle the matter. -/
theorem le_of_settles {k : ℕ} (hbefore : ∀ i < k, ∃ e, outcomes i = .error e ∧ again e = true)
    {i : ℕ} (hsettled : Settles again (outcomes i)) : k ≤ i := by
  by_contra hlt
  obtain ⟨e, he, hagain⟩ := hbefore i (by omega)
  rw [hsettled e he] at hagain
  cases hagain

/-- Of the outcomes up to the last one, only the last one can settle the matter. -/
theorem eq_of_settles {k : ℕ} (hbefore : ∀ i < k, ∃ e, outcomes i = .error e ∧ again e = true)
    {i : ℕ} (hi : i < k + 1) (hsettled : Settles again (outcomes i)) : i = k := by
  have hk := le_of_settles hbefore hsettled
  omega

theorem settles_ok {a : α} {i : ℕ} (h : outcomes i = .ok a) : Settles again (outcomes i) := by
  intro e he
  rw [h] at he
  cases he

theorem settles_error {e : Exn} {i : ℕ} (h : outcomes i = .error e) (hfatal : again e = false) :
    Settles again (outcomes i) := by
  intro e' he'
  rw [h] at he'
  cases he'
  exact hfatal

/-- A success behind failed attempts, within the bound. -/
theorem FaithfulRun.of_success {k bound : ℕ} {a : α}
    (hbefore : ∀ i < k, ∃ e, outcomes i = .error e ∧ again e = true)
    (hanswer : outcomes k = .ok a) (hbound : k + 1 ≤ max 1 bound) :
    FaithfulRun again outcomes bound (.ok (some a), k + 1) where
  atLeastOnce := Nat.succ_pos k
  atMost := hbound
  firstSuccess i hi b hb := by
    obtain rfl := eq_of_settles hbefore hi (settles_ok hb)
    rw [hanswer] at hb
    cases hb
    rfl
  fatalAtOnce i hi e he hfatal := by
    obtain rfl := eq_of_settles hbefore hi (settles_error he hfatal)
    rw [hanswer] at he
    cases he
  lastError hall := by
    obtain ⟨e, he, _⟩ := hall k (Nat.lt_succ_self k)
    rw [hanswer] at he
    cases he
  neverEmpty result hresult := by
    cases hresult
    exact ⟨k, Nat.lt_succ_self k, a, hanswer, rfl⟩

/-- An error behind failed attempts, within the bound and at its end if it could be tried
again. -/
theorem FaithfulRun.of_error {k bound : ℕ} {e : Exn}
    (hbefore : ∀ i < k, ∃ e, outcomes i = .error e ∧ again e = true)
    (hanswer : outcomes k = .error e) (hbound : k + 1 ≤ max 1 bound)
    (hlast : again e = true → k + 1 = max 1 bound) :
    FaithfulRun again outcomes bound (.error e, k + 1) where
  atLeastOnce := Nat.succ_pos k
  atMost := hbound
  firstSuccess i hi b hb := by
    obtain rfl := eq_of_settles hbefore hi (settles_ok hb)
    rw [hanswer] at hb
    cases hb
  fatalAtOnce i hi e' he' hfatal := by
    obtain rfl := eq_of_settles hbefore hi (settles_error he' hfatal)
    rw [hanswer] at he'
    cases he'
    rfl
  lastError hall := by
    refine ⟨?_, e, hanswer, rfl⟩
    obtain ⟨e', he', hagain⟩ := hall k (Nat.lt_succ_self k)
    rw [hanswer] at he'
    cases he'
    exact hlast hagain
  neverEmpty result hresult := by cases hresult

/-- A retry loop is faithful to a bound if and only if it has an attempt, and has as many as
the bound says unless an outcome settles the matter before. -/
theorem retry_faithful_iff (count bound : ℕ) :
    FaithfulRun again outcomes bound (retry again id (answering outcomes) count none 0) ↔
      0 < count ∧
        (count = max 1 bound ∨ ∃ i < count, i < max 1 bound ∧ Settles again (outcomes i)) := by
  cases count with
  | zero =>
      refine iff_of_false (fun h => ?_) (fun h => absurd h.1 (Nat.lt_irrefl 0))
      have hran := h.atLeastOnce
      simp at hran
  | succ n =>
      obtain ⟨k, hk, hbefore, hend⟩ := retry_answering again outcomes n
      constructor
      · intro h
        refine ⟨Nat.succ_pos n, ?_⟩
        have hatMost := h.atMost
        rcases hend with ⟨a, hanswer, hretry⟩ | ⟨e, hanswer, hlast, hretry⟩
        · rw [hretry] at hatMost
          exact .inr ⟨k, by omega, by omega, settles_ok hanswer⟩
        · rw [hretry] at hatMost
          by_cases hagain : again e = true
          · -- the attempts were used up
            obtain rfl : k = n := by simpa [hagain] using hlast
            refine .inl ?_
            have hall : ∀ i < k + 1, ∃ e, outcomes i = .error e ∧ again e = true := by
              intro i hi
              rcases Nat.lt_succ_iff_lt_or_eq.mp hi with hi | rfl
              · exact hbefore i hi
              · exact ⟨e, hanswer, hagain⟩
            have hused := (h.lastError (by rw [hretry]; exact hall)).1
            rwa [hretry] at hused
          · exact .inr ⟨k, by omega, by omega, settles_error hanswer (by simpa using hagain)⟩
      · intro h
        obtain ⟨-, hcount⟩ := h
        have hbound : k + 1 ≤ max 1 bound := by
          rcases hcount with hcount | ⟨i, _, hi, hsettled⟩
          · omega
          · have hki := le_of_settles hbefore hsettled
            omega
        rcases hend with ⟨a, hanswer, hretry⟩ | ⟨e, hanswer, hlast, hretry⟩
        · rw [hretry]
          exact .of_success hbefore hanswer hbound
        · rw [hretry]
          refine .of_error hbefore hanswer hbound fun hagain => ?_
          obtain rfl : k = n := by simpa [hagain] using hlast
          rcases hcount with hcount | ⟨i, hi, _, hsettled⟩
          · exact hcount
          · obtain rfl := eq_of_settles hbefore hi hsettled
            rw [hsettled e hanswer] at hagain
            cases hagain

/-- For the count of a call that is the condition on it. -/
theorem countRespected_iff (attempts : Option Int) (maxRetries : ℕ) :
    FaithfulRun again outcomes (askedFor attempts maxRetries)
        (retry again id (answering outcomes) (attemptCount attempts maxRetries) none 0) ↔
      CountRespected again outcomes attempts maxRetries := by
  rw [retry_faithful_iff, CountRespected]
  apply and_congr_right
  intro hpos
  by_cases hzero : attempts = some 0
  · subst hzero
    have hmax : max 1 (askedFor (some 0) maxRetries) = 1 := rfl
    rw [hmax]
    show maxRetries = 1 ∨ _ ↔ _
    simp only [true_imp_iff]
    apply or_congr_right
    constructor
    · rintro ⟨i, _, hi, hsettled⟩
      obtain rfl : i = 0 := by omega
      exact hsettled
    · exact fun hsettled => ⟨0, hpos, Nat.one_pos, hsettled⟩
  · refine iff_of_true (.inl ?_) fun h => absurd h hzero
    cases attempts with
    | none =>
        have hcount : 0 < maxRetries := hpos
        show maxRetries = max 1 maxRetries
        omega
    | some n =>
        have hn : n ≠ 0 := fun h => hzero (by rw [h])
        simp only [attemptCount, hn, if_false] at hpos ⊢
        show n.toNat = max 1 n.toNat
        omega

/-- Each executor is faithful to the outcomes of its coroutine, at the attempts that the call
asks for, if and only if the call meets the condition. -/
theorem executors_faithful_iff (maxRetries : ℕ) (attempts : Option Int)
    (outcomes : ℕ → Except Exn α) :
    (FaithfulRun isNetworkError outcomes (askedFor attempts maxRetries)
        (executeWithRedisRetriesOn maxRetries (answering outcomes) attempts 0) ↔
      CountRespected isNetworkError outcomes attempts maxRetries) ∧
    (FaithfulRun isPotentialTransientError outcomes (askedFor attempts maxRetries)
        (dbExecuteWithRetriesOn id maxRetries (answering outcomes) attempts 0) ↔
      CountRespected isPotentialTransientError outcomes attempts maxRetries) :=
  ⟨countRespected_iff attempts maxRetries, countRespected_iff attempts maxRetries⟩

end

/-- A policy without retries: a coroutine that would succeed is not run at all. -/
theorem noRetries_never_run :
    ¬ FaithfulRun isNetworkError (fun _ => Except.ok ()) (askedFor none 0)
      (executeWithRedisRetriesOn 0 (answering fun _ => Except.ok ()) none 0) ∧
    ¬ FaithfulRun isPotentialTransientError (fun _ => Except.ok ()) (askedFor none 0)
      (dbExecuteWithRetriesOn id 0 (answering fun _ => Except.ok ()) none 0) :=
  ⟨fun h => absurd h.atLeastOnce (by decide), fun h => absurd h.atLeastOnce (by decide)⟩

end ResourceAuxillary
end Tenjin
