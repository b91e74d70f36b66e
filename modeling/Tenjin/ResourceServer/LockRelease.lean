import Tenjin.DatabaseWorkers.CounterFlush
import Tenjin.Foundation.GuardedRun
import Tenjin.Foundation.Leases
import Tenjin.ResourceServer.GuardAction

/-!
# Who deletes the locks that expire

The leader sections of `distributed_get_or_load` and `distributed_pagination_get_or_load`
and the `locked_operation` of `batch_update_counter_group`: `SET NX` with a lifetime before
the section, and `DEL` of the same key in its `finally` clause, whatever the key holds then.

* `LockSection.lockKey` and `LockSection.ttl` are what a section gives to `SET`.
* `lockStep` is any number of workers that go in and out of sections while time passes.
* `eachStep_sparesOthers_iff` — no release deletes the lock of another worker exactly if
  every release comes in the lifetime of its own lock, or finds the lock free.

The value of a lock (`time.time()`, or 1) is compared by nobody, so the table has the worker
who wrote it in its place.
-/

namespace Tenjin
namespace ResourceServer

open Foundation

/-- The Redis that a lock is kept in. -/
inductive LockStore
  | app
  | worker
  deriving DecidableEq

/-- A section that is run under a lock. -/
inductive LockSection
  /-- The leader of `distributed_get_or_load`. -/
  | fetch (key : String)
  /-- The leader of `distributed_pagination_get_or_load`. -/
  | page (pageKey : String)
  /-- `batch_update_counter_group`. -/
  | flush (batchName : String)

/-- The settings that limit the life of a lock: `TTL_FETCH_LOCK` in milliseconds and
`COUNTER_FLUSH_LOCK_TTL` in seconds. -/
structure LockSettings where
  ttlFetchLock : ℕ
  counterFlushLockTtl : ℕ

/-- The lock of a section. -/
def LockSection.lockKey : LockSection → LockStore × String
  | .fetch key => (.app, deriveLockKey [key])
  | .page pageKey => (.app, deriveLockKey [pageKey])
  | .flush batchName => (.worker, DatabaseWorkers.deriveLockKey batchName)

/-- The lifetime that a section gives its lock, in milliseconds. -/
def LockSection.ttl (settings : LockSettings) : LockSection → ℕ
  | .fetch _ => settings.ttlFetchLock
  | .page _ => settings.ttlFetchLock
  | .flush _ => 1000 * settings.counterFlushLockTtl

/-- Where a worker is; inside a section, with the last moment of the lock that it set. -/
inductive WorkerPoint
  | outside
  | inside (region : LockSection) (deadline : ℕ)

/-- The locks and the workers. -/
structure LockState where
  locks : LeaseTable (LockStore × String) ℕ
  workers : ℕ → WorkerPoint

inductive LockLabel
  | tick (elapsed : ℕ)
  /-- A worker sends the `SET` of a section. -/
  | enter (i : ℕ) (region : LockSection)
  /-- The section of a worker ends, with a return or an exception. -/
  | leave (i : ℕ)

/-- One step of a worker, or some time. -/
def lockStep (settings : LockSettings) (s : LockState) : LockLabel → Option LockState
  | .tick elapsed => some { s with locks := s.locks.tick elapsed }
  | .enter i region =>
      match s.workers i with
      | .inside _ _ => none
      | .outside =>
          let ttl := region.ttl settings
          match s.locks.setNx region.lockKey i ttl with
          -- a follower, or a lifetime that Redis refuses
          | none => some s
          | some locks =>
              some ⟨locks,
                Function.update s.workers i (.inside region (s.locks.now + ttl))⟩
  | .leave i =>
      match s.workers i with
      | .outside => none
      | .inside region _ =>
          some ⟨s.locks.delete region.lockKey, Function.update s.workers i .outside⟩

/-- No lock of another worker is live where a worker deletes its key. -/
def SparesOthers (s : LockState) : LockLabel → Prop
  | .leave i => ∀ region deadline, s.workers i = .inside region deadline →
      ∀ lease, s.locks.live region.lockKey = some lease → lease.holder = i
  | _ => True

/-- A worker leaves its section in the lifetime of its lock, or while nobody has the
lock. -/
def InTime (s : LockState) : LockLabel → Prop
  | .leave i => ∀ region deadline, s.workers i = .inside region deadline →
      s.locks.now ≤ deadline ∨ s.locks.live region.lockKey = none
  | _ => True

/-- The live locks are those of the workers that are inside in their locks' lifetimes. -/
structure LockInv (s : LockState) : Prop where
  held : ∀ i region deadline, s.workers i = .inside region deadline →
    s.locks.now ≤ deadline → s.locks.live region.lockKey = some ⟨i, deadline⟩
  owned : ∀ key i deadline, s.locks.live key = some ⟨i, deadline⟩ →
    ∃ region : LockSection, s.workers i = .inside region deadline ∧
      region.lockKey = key

section Steps

variable {settings : LockSettings} {s s' : LockState}

/-- Under the invariant a release spares the others exactly if it is in time. -/
theorem LockInv.sparesOthers_iff (h : LockInv s) (label : LockLabel) :
    SparesOthers s label ↔ InTime s label := by
  cases label with
  | tick elapsed => exact Iff.rfl
  | enter i region => exact Iff.rfl
  | leave i =>
      constructor
      · intro hspares region deadline hinside
        cases hlive : s.locks.live region.lockKey with
        | none => exact .inr rfl
        | some lease =>
            -- the lock is the worker's own, so it is the one that it set
            have howner : lease.holder = i := hspares region deadline hinside lease hlive
            obtain ⟨holder, expiry⟩ := lease
            cases howner
            obtain ⟨_, hpoint, _⟩ := h.owned _ _ _ hlive
            rw [hinside] at hpoint
            cases hpoint
            exact .inl (LeaseTable.live_eq_some.mp hlive).2
      · intro htime region deadline hinside lease hlive
        rcases htime region deadline hinside with hin | hfree
        · rw [h.held i region deadline hinside hin] at hlive
          cases hlive
          rfl
        · rw [hfree] at hlive
          cases hlive

theorem LockInv.tick (h : LockInv s) (elapsed : ℕ) :
    LockInv { s with locks := s.locks.tick elapsed } := by
  constructor
  · intro i region deadline hinside hin
    have hbefore : s.locks.now ≤ deadline := (Nat.le_add_right _ _).trans hin
    have hlive := h.held i region deadline hinside hbefore
    exact LeaseTable.live_eq_some.mpr ⟨(LeaseTable.live_eq_some.mp hlive).1, hin⟩
  · intro key i deadline hlive
    exact h.owned key i deadline (LeaseTable.live_tick hlive)

/-- A worker that takes a lock keeps the invariant. -/
theorem LockInv.enter (h : LockInv s) {i : ℕ} {region : LockSection} {ttl : ℕ}
    {locks : LeaseTable (LockStore × String) ℕ} (houtside : s.workers i = .outside)
    (hset : s.locks.setNx region.lockKey i ttl = some locks) :
    LockInv ⟨locks, Function.update s.workers i (.inside region (s.locks.now + ttl))⟩ := by
  obtain ⟨hfree, hnow, hlive, hsame⟩ := LeaseTable.setNx_eq_some hset
  constructor
  · intro j other deadline hinside hin
    by_cases hj : j = i
    · subst hj
      simp only [Function.update_self] at hinside
      cases hinside
      exact hlive
    · simp only [Function.update_of_ne hj] at hinside
      have hother := h.held j other deadline hinside (hnow ▸ hin)
      -- the lock was free, so the other worker has a different one
      have hne : other.lockKey ≠ region.lockKey := by
        intro heq
        rw [heq, hfree] at hother
        cases hother
      exact (hsame _ hne).trans hother
  · intro key j deadline hkey
    by_cases hne : key = region.lockKey
    · subst hne
      dsimp only at hkey
      rw [hlive] at hkey
      cases hkey
      exact ⟨region, Function.update_self .., rfl⟩
    · dsimp only at hkey
      rw [hsame key hne] at hkey
      obtain ⟨other, hinside, hother⟩ := h.owned key j deadline hkey
      have hj : j ≠ i := by
        rintro rfl
        rw [houtside] at hinside
        cases hinside
      exact ⟨other, (Function.update_of_ne hj ..).trans hinside, hother⟩

/-- A worker that leaves in time keeps the invariant. -/
theorem LockInv.leave (h : LockInv s) {i : ℕ} {region : LockSection} {deadline : ℕ}
    (hpoint : s.workers i = .inside region deadline)
    (htime : s.locks.now ≤ deadline ∨ s.locks.live region.lockKey = none) :
    LockInv ⟨s.locks.delete region.lockKey, Function.update s.workers i .outside⟩ := by
  constructor
  · intro j other deadline' hinside hin
    have hj : j ≠ i := by
      rintro rfl
      simp only [Function.update_self] at hinside
      cases hinside
    simp only [Function.update_of_ne hj] at hinside
    have hother := h.held j other deadline' hinside hin
    have hne : other.lockKey ≠ region.lockKey := by
      intro heq
      rw [heq] at hother
      rcases htime with hown | hfree
      · rw [h.held i region deadline hpoint hown] at hother
        cases hother
        exact hj rfl
      · rw [hfree] at hother
        cases hother
    exact (LeaseTable.live_delete_of_ne hne).trans hother
  · intro key j deadline' hkey
    by_cases hne : key = region.lockKey
    · subst hne
      simp at hkey
    · dsimp only at hkey
      rw [LeaseTable.live_delete_of_ne hne] at hkey
      obtain ⟨other, hinside, hother⟩ := h.owned key j deadline' hkey
      have hj : j ≠ i := by
        rintro rfl
        rw [hpoint] at hinside
        cases hinside
        exact hne hother.symm
      exact ⟨other, (Function.update_of_ne hj ..).trans hinside, hother⟩

theorem LockInv.step {label : LockLabel} (h : LockInv s)
    (hstep : lockStep settings s label = some s') (hspares : SparesOthers s label) :
    LockInv s' := by
  cases label with
  | tick elapsed =>
      cases hstep
      exact h.tick elapsed
  | enter i region =>
      simp only [lockStep] at hstep
      split at hstep
      · cases hstep
      · rename_i houtside
        split at hstep
        · cases hstep
          exact h
        · rename_i locks hset
          cases hstep
          exact h.enter houtside hset
  | leave i =>
      have htime := (h.sparesOthers_iff (.leave i)).mp hspares
      simp only [lockStep] at hstep
      split at hstep
      · cases hstep
      · rename_i region deadline hpoint
        cases hstep
        exact h.leave hpoint (htime region deadline hpoint)

end Steps

/-- In a run of any workers from free locks, no release deletes another worker's lock
exactly if every release is in time. -/
theorem eachStep_sparesOthers_iff (settings : LockSettings) (now : ℕ)
    (labels : List LockLabel) :
    EachStep (lockStep settings) SparesOthers ⟨⟨now, fun _ => none⟩, fun _ => .outside⟩
        labels ↔
      EachStep (lockStep settings) InTime ⟨⟨now, fun _ => none⟩, fun _ => .outside⟩
        labels := by
  have hstart : LockInv ⟨⟨now, fun _ => none⟩, fun _ => .outside⟩ :=
    ⟨fun _ _ _ h => (by cases h), fun _ _ _ h => (by cases h)⟩
  exact eachStep_iff_of_kept (fun s label _ h _ => h.sparesOthers_iff label)
    (fun s label s' h hstep hspares => h.step hstep hspares) labels _ hstart

/-- The first leader outlives its lock, a second one takes it, and the first deletes it. -/
theorem outlivedLock_deletesOthers :
    ¬ EachStep (lockStep ⟨1000, 120⟩) SparesOthers ⟨⟨0, fun _ => none⟩, fun _ => .outside⟩
      [.enter 1 (.fetch "posts:1"), .tick 1001, .enter 2 (.fetch "posts:1"), .leave 1] := by
  intro hrun
  obtain ⟨_, hrun⟩ := hrun _ rfl
  obtain ⟨_, hrun⟩ := hrun _ rfl
  obtain ⟨_, hrun⟩ := hrun _ rfl
  obtain ⟨hspares, _⟩ := hrun _ rfl
  have howner := hspares (.fetch "posts:1") 1000 rfl ⟨2, 2001⟩ rfl
  cases howner

end ResourceServer
end Tenjin
