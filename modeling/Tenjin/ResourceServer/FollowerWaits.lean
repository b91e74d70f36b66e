import Mathlib.Algebra.Order.Ring.Nat
import Tenjin.ResourceServer.SingleFlight

/-!
# How long a follower sleeps

The waiting loop of `distributed_get_or_load` in `cache_manager.py`, and what
`validate_fetch_lock_times` of `sub_config.py` knows about it.  The interval is configured
like the lifetime of the lock, in milliseconds, and given to `asyncio.sleep`, which takes
seconds.

* `FetchLockConfig` is an accepted configuration.
* `followerSleeps` are the sleeps of a follower within one attempt, in seconds.
* `totalSleep_le`, `totalSleep_longest` — the validator's waiting time is the longest one, as
  a number of seconds.
* `followersWithinLock_iff` — no follower outwaits the lock exactly if the lifetime of the
  lock is a thousand times as large as the validator demands.
-/

namespace Tenjin
namespace ResourceServer

open Python Foundation

/-- The fields of `CacheConfig` for fetch locks. -/
structure FetchLockFields where
  ttlFetchLock : ℕ
  fetchWaitingInitialInterval : ℕ
  fetchWaitingJitter : ℕ
  fetchWaitingExponent : ℕ
  fetchWaitingMaxIntervals : ℕ

/-- `max_waiting_time` of the validator. -/
def FetchLockFields.maxWaitingTime (fields : FetchLockFields) : ℕ :=
  ((List.range fields.fetchWaitingMaxIntervals).map fun _ =>
    fields.fetchWaitingInitialInterval *
      fields.fetchWaitingJitter ^ fields.fetchWaitingExponent).sum

/-- `validate_fetch_lock_times`. -/
def validateFetchLockTimes (fields : FetchLockFields) : Except Exn FetchLockFields :=
  if fields.fetchWaitingInitialInterval < fields.fetchWaitingJitter then .error .valueError
  else if fields.ttlFetchLock < fields.maxWaitingTime then .error .valueError
  else .ok fields

/-- A configuration that is accepted. -/
structure FetchLockConfig extends FetchLockFields where
  initialInterval_ge : 1 ≤ fetchWaitingInitialInterval
  jitter_ge : 1 ≤ fetchWaitingJitter
  exponent_ge : 2 ≤ fetchWaitingExponent
  maxIntervals_ge : 1 ≤ fetchWaitingMaxIntervals
  validated : validateFetchLockTimes toFetchLockFields = .ok toFetchLockFields

section
variable (config : FetchLockConfig)

/-- What `randint(1, FETCH_WAITING_JITTER)` gives, draw after draw. -/
structure Draws where
  value : ℕ → ℕ
  ge_one : ∀ i, 1 ≤ value i
  le_jitter : ∀ i, value i ≤ config.fetchWaitingJitter

/-- The sleeps of the waiting loop from interval `i` on, in seconds; `held` says when the
lock is found.  Once it is not found, the follower reads the entry and does not sleep any
more in this attempt. -/
def waitingLoop (held : ℕ → Bool) (draws : ℕ → ℕ) : (remaining i : ℕ) → List ℕ
  | 0, _ => []
  | remaining + 1, i =>
      if held i then
        config.fetchWaitingInitialInterval * draws i ^ config.fetchWaitingExponent ::
          waitingLoop held draws remaining (i + 1)
      else []

/-- The sleeps of a follower within one attempt. -/
def followerSleeps (held : ℕ → Bool) (draws : Draws config) : List ℕ :=
  waitingLoop config held draws.value config.fetchWaitingMaxIntervals 1

/-- No follower sleeps longer within an attempt than the lock lives, in milliseconds. -/
def FollowersWithinLock : Prop :=
  ∀ (held : ℕ → Bool) (draws : Draws config),
    1000 * (followerSleeps config held draws).sum ≤ config.ttlFetchLock

end

section
variable {config : FetchLockConfig}

theorem maxWaitingTime_eq (fields : FetchLockFields) :
    fields.maxWaitingTime = fields.fetchWaitingMaxIntervals *
      (fields.fetchWaitingInitialInterval *
        fields.fetchWaitingJitter ^ fields.fetchWaitingExponent) := by
  rw [FetchLockFields.maxWaitingTime, List.map_const', List.length_range,
    List.sum_replicate_nat]

/-- No sleep is longer than the one with the largest draw, and there are at most as many as
intervals. -/
theorem waitingLoop_sum_le {held : ℕ → Bool} {draws : ℕ → ℕ}
    (hdraws : ∀ i, draws i ≤ config.fetchWaitingJitter) (remaining i : ℕ) :
    (waitingLoop config held draws remaining i).sum ≤ remaining *
      (config.fetchWaitingInitialInterval *
        config.fetchWaitingJitter ^ config.fetchWaitingExponent) := by
  induction remaining generalizing i with
  | zero => simp [waitingLoop]
  | succ remaining ih =>
      rw [waitingLoop]
      split
      · have hsleep : config.fetchWaitingInitialInterval * draws i ^ config.fetchWaitingExponent ≤
            config.fetchWaitingInitialInterval *
              config.fetchWaitingJitter ^ config.fetchWaitingExponent :=
          Nat.mul_le_mul_left _ (Nat.pow_le_pow_left (hdraws i) _)
        rw [List.sum_cons, Nat.succ_mul, Nat.add_comm]
        exact Nat.add_le_add (ih (i + 1)) hsleep
      · exact Nat.zero_le _

theorem totalSleep_le (held : ℕ → Bool) (draws : Draws config) :
    (followerSleeps config held draws).sum ≤ config.maxWaitingTime := by
  rw [maxWaitingTime_eq]
  exact waitingLoop_sum_le draws.le_jitter _ _

/-- The largest draw, always. -/
def Draws.largest (config : FetchLockConfig) : Draws config :=
  ⟨fun _ => config.fetchWaitingJitter, fun _ => config.jitter_ge, fun _ => Nat.le_refl _⟩

/-- With the largest draws and a lock that is found every time the follower sleeps for as
long as the validator assumes. -/
theorem totalSleep_longest :
    (followerSleeps config (fun _ => true) (.largest config)).sum = config.maxWaitingTime := by
  have hloop : ∀ remaining i, waitingLoop config (fun _ => true)
      (Draws.largest config).value remaining i = List.replicate remaining
        (config.fetchWaitingInitialInterval *
          config.fetchWaitingJitter ^ config.fetchWaitingExponent) := by
    intro remaining
    induction remaining with
    | zero => exact fun _ => rfl
    | succ remaining ih =>
        intro i
        rw [waitingLoop, if_pos rfl, ih (i + 1), List.replicate_succ]
        rfl
  rw [followerSleeps, hloop, List.sum_replicate_nat, maxWaitingTime_eq]

/-- The loop is the one of a call that polls: with the lock in place it takes one interval
after the other, and then the next attempt to become the leader. -/
theorem polling_intervals {settings : CacheSettings} {dtype : FetchDtype} {type : ResultType}
    {row : Option Row} {attempts : ℕ} (i intervals : ℕ) (s : FlightState)
    (hlock : s.lock = true) (hcall : s.calls i = poll attempts intervals) :
    ∃ s', runActions (flightStep settings dtype type row) s
        (List.replicate intervals (.call i)) = some s' ∧
      s'.calls i = elect attempts := by
  induction intervals generalizing s with
  | zero => exact ⟨s, rfl, hcall⟩
  | succ intervals ih =>
      have hstep : flightStep settings dtype type row s (.call i) =
          some (s.goto i (poll attempts intervals)) := by
        have hpolling : s.calls i = .polling attempts intervals := hcall
        show callStep settings dtype type row s i = _
        simp only [callStep, hpolling]
        exact if_pos hlock
      obtain ⟨s', hrun, hend⟩ := ih (s.goto i (poll attempts intervals)) hlock (if_pos rfl)
      exact ⟨s', by rw [List.replicate_succ, runActions, hstep]; exact hrun, hend⟩

end

/-- For every accepted configuration, no follower sleeps longer than the lock lives, for any
draws and whenever the lock is found, exactly if the lifetime of the lock in milliseconds is
at least a thousand times the validator's waiting time. -/
theorem followersWithinLock_iff (config : FetchLockConfig) :
    FollowersWithinLock config ↔
      1000 * (config.fetchWaitingMaxIntervals * (config.fetchWaitingInitialInterval *
        config.fetchWaitingJitter ^ config.fetchWaitingExponent)) ≤ config.ttlFetchLock := by
  rw [← maxWaitingTime_eq]
  constructor
  · intro hwithin
    have hlongest := hwithin (fun _ => true) (.largest config)
    rw [totalSleep_longest] at hlongest
    exact hlongest
  · intro hlock held draws
    exact Nat.le_trans (Nat.mul_le_mul_left 1000 (totalSleep_le held draws)) hlock

/-- The configuration of the application: five intervals of five for a lock of a second. -/
def deployedFields : FetchLockFields where
  ttlFetchLock := 1000
  fetchWaitingInitialInterval := 5
  fetchWaitingJitter := 1
  fetchWaitingExponent := 2
  fetchWaitingMaxIntervals := 5

/-- It is accepted. -/
def deployedFetchLock : FetchLockConfig where
  toFetchLockFields := deployedFields
  initialInterval_ge := by decide
  jitter_ge := by decide
  exponent_ge := by decide
  maxIntervals_ge := by decide
  validated := rfl

/-- A follower sleeps for up to twenty-five seconds there. -/
theorem deployedFetchLock_outwaited : ¬ FollowersWithinLock deployedFetchLock := by
  intro hwithin
  have hslept := hwithin (fun _ => true) (.largest deployedFetchLock)
  rw [totalSleep_longest] at hslept
  exact absurd hslept (by decide)

end ResourceServer
end Tenjin
