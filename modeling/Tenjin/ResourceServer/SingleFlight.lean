import Tenjin.Foundation.GuardedRun
import Tenjin.ResourceServer.CacheReads

/-!
# Any number of calls of `distributed_get_or_load` for one key

One Redis command or one database access of a call is a step; the entry and the lock may
expire between any two of them.

* `CallPhase` is what a call is about to do.
* `OutcomeSound` is what a call may end with, for a row that does not change.
* `always_flightSound` — all outcomes are sound in a run whose calls meet the conditions of
  `CallFine`: they read an entry only where the sentinel is recognised, and a leader can
  cache what it has loaded.
-/

namespace Tenjin
namespace ResourceServer

open Python Foundation ResourceAuxillary

/-- What a call returns or raises. -/
abbrev Outcome := Except Exn (Option Dto)

/-- What a call is about to do. -/
inductive CallPhase
  /-- The first read. -/
  | fetching
  /-- Writing the sentinel again, which it has found. -/
  | refreshing
  /-- Promoting the entry that it has found. -/
  | promoting (mapping : CacheMapping)
  /-- Trying to become the leader; so many attempts are left after this one. -/
  | electing (attempts : ℕ)
  /-- As the leader, asking the database. -/
  | loading
  /-- As the leader, caching the result. -/
  | storing (dto : Dto)
  /-- As the leader, writing the sentinel. -/
  | marking
  /-- As the leader, deleting the lock. -/
  | releasing (outcome : Outcome)
  /-- Reading the lock of the leader; so many intervals are left after this one. -/
  | polling (attempts intervals : ℕ)
  /-- Reading what the leader has cached. -/
  | following (attempts : ℕ)
  | returned (outcome : Outcome)

/-- The entry and the lock of the key, and all calls. -/
structure FlightState where
  entry : Option CacheEntry
  lock : Bool
  calls : ℕ → CallPhase

/-- A step of a call, or an expiry. -/
inductive FlightLabel
  | call (i : ℕ)
  | expireEntry
  | expireLock

/-- Before any call. -/
def FlightState.start : FlightState := ⟨none, false, fun _ => .fetching⟩

/-- Another phase for one call. -/
def FlightState.goto (s : FlightState) (i : ℕ) (phase : CallPhase) : FlightState :=
  { s with calls := fun j => if j = i then phase else s.calls j }

/-- The next attempt to become the leader, or the exception after the last one. -/
def elect : ℕ → CallPhase
  | 0 => .returned (.error .cacheCoherenceException)
  | attempts + 1 => .electing attempts

/-- The next look at the lock, or the next attempt after the last one. -/
def poll (attempts : ℕ) : ℕ → CallPhase
  | 0 => elect attempts
  | intervals + 1 => .polling attempts intervals

section
variable (settings : CacheSettings) (dtype : FetchDtype) (type : ResultType)
  (row : Option Row)

/-- `set_negative_mapping` and `set_negative_string`. -/
def setNegative (entry : Option CacheEntry) : Except Exn CacheEntry :=
  match dtype with
  | .mapping => hset entry [(settings.nfSentinelKey, settings.nfSentinelValue)]
  | .string => .ok (.text settings.nfSentinelKey)

/-- A write that a call makes before it goes on; a refused write is raised. -/
def FlightState.write (s : FlightState) (i : ℕ) (written : Except Exn CacheEntry)
    (next : CallPhase) (failed : Exn → CallPhase) : FlightState :=
  match written with
  | .error e => s.goto i (failed e)
  | .ok entry => { s.goto i next with entry := some entry }

/-- One step of call `i`.  No counter hash is read: the map of the counter fields is
empty. -/
def callStep (s : FlightState) (i : ℕ) : Option FlightState :=
  match s.calls i with
  | .fetching =>
      match fetchFromCache settings dtype type.counterFieldsMap (fun _ => none) s.entry with
      | .error e => some (s.goto i (.returned (.error e)))
      | .ok .miss => some (s.goto i (elect settings.fetchMaxRetries))
      | .ok .negative => some (s.goto i .refreshing)
      | .ok (.found mapping) => some (s.goto i (.promoting mapping))
  | .refreshing =>
      some (s.write i (hset s.entry [(settings.nfSentinelKey, settings.nfSentinelValue)])
        (.returned (.ok none)) fun e => .returned (.error e))
  | .promoting mapping =>
      match foundOutcome settings type mapping with
      | none => some (s.goto i (elect settings.fetchMaxRetries))
      | some outcome => some (s.goto i (.returned outcome))
  | .electing attempts =>
      if s.lock then some (s.goto i (poll attempts settings.fetchWaitingMaxIntervals))
      else some { s.goto i .loading with lock := true }
  | .loading =>
      match row with
      | none => some (s.goto i .marking)
      | some r =>
          match constructFromOrm settings.toResultRuntime type r with
          | .error e => some (s.goto i (.releasing (.error e)))
          | .ok dto => some (s.goto i (.storing dto))
  | .storing dto =>
      some (s.write i (storedItems type dto >>= hset s.entry) (.releasing (.ok (some dto)))
        fun e => .releasing (.error e))
  | .marking =>
      some (s.write i (setNegative settings dtype s.entry) (.releasing (.ok none))
        fun e => .releasing (.error e))
  | .releasing outcome => some { s.goto i (.returned outcome) with lock := false }
  | .polling attempts intervals =>
      if s.lock then some (s.goto i (poll attempts intervals))
      else some (s.goto i (.following attempts))
  | .following attempts =>
      match followerResult settings dtype type.counterFieldsMap (fun _ => none) type
          s.entry with
      | none => some (s.goto i (elect attempts))
      | some outcome => some (s.goto i (.returned outcome))
  | .returned _ => none

/-- One step. -/
def flightStep (s : FlightState) : FlightLabel → Option FlightState
  | .call i => callStep settings dtype type row s i
  | .expireEntry => some { s with entry := none }
  | .expireLock => some { s with lock := false }

/-- A result with the fields of the row; `None` for a missing row; and no exception but
one. -/
def OutcomeSound : Outcome → Prop
  | .ok none => row = none
  | .ok (some dto) =>
      ∃ r, row = some r ∧ ∀ f ∈ type.fieldNames, dto.lookup f = some (r f)
  | .error e => e = .cacheCoherenceException

/-- Every call that has ended has ended soundly. -/
def FlightSound (s : FlightState) : Prop :=
  ∀ i outcome, s.calls i = .returned outcome → OutcomeSound type row outcome

/-- A row whose result can be made and cached. -/
def LeaderStores (r : Row) : Prop :=
  ∃ dto items, constructFromOrm settings.toResultRuntime type r = .ok dto ∧
    storedItems type dto = .ok items

/-- The condition on the steps of a call.  Its first read finds nothing, or it finds the
sentinel in a hash with a client that returns strings; a follower finds nothing; and what
a leader loads can be cached. -/
def CallFine (s : FlightState) : FlightLabel → Prop
  | .call i =>
      match s.calls i with
      | .fetching => s.entry = none ∨
          (settings.decodeResponses = true ∧ dtype = .mapping ∧ row = none)
      | .following _ => s.entry = none
      | .loading => ∀ r, row = some r → LeaderStores settings type r
      | _ => True
  | _ => True

/-- What the entry of the key can be. -/
def EntrySound (entry : CacheEntry) : Prop :=
  match row with
  | none => setNegative settings dtype none = .ok entry
  | some r => ∃ dto items, constructFromOrm settings.toResultRuntime type r = .ok dto ∧
      storedItems type dto = .ok items ∧ entry = .hash items

/-- What is known of a call in a phase. -/
def PhaseSound : CallPhase → Prop
  | .refreshing => row = none ∧ dtype = .mapping
  | .promoting _ => False
  | .storing dto => ∃ r items, row = some r ∧
      constructFromOrm settings.toResultRuntime type r = .ok dto ∧
      storedItems type dto = .ok items
  | .marking => row = none
  | .releasing outcome => OutcomeSound type row outcome
  | .returned outcome => OutcomeSound type row outcome
  | _ => True

/-- The invariant of a run. -/
structure FlightInvariant (s : FlightState) : Prop where
  entry_sound : ∀ entry, s.entry = some entry → EntrySound settings dtype type row entry
  phase_sound : ∀ i, PhaseSound settings dtype type row (s.calls i)

end

/-- Writing the same fields again changes nothing. -/
theorem hset_same (items : List (String × String)) :
    hset (some (.hash items)) items = .ok (.hash items) := by
  have hnone : items.filter (fun o => items.lookup o.1 = none) = [] := by
    rw [List.filter_eq_nil_iff]
    intro o ho hlookup
    have hne := List.lookup_eq_none_iff.mp (of_decide_eq_true hlookup) o ho
    simp at hne
  rw [hset, mergeFields, hnone, List.nil_append]

/-- A result that can be cached has the fields of the row. -/
theorem fields_of_storedItems {rt : ResultRuntime} {type : ResultType} {r : Row} {dto : Dto}
    {items : List (String × String)} (hdto : constructFromOrm rt type r = .ok dto)
    (hitems : storedItems type dto = .ok items) :
    ∀ f ∈ type.fieldNames, dto.lookup f = some (r f) := by
  obtain ⟨mapping, hrepr, _⟩ := except_bind_eq_ok hitems
  have htype : type = .forumAdminResult := by
    by_contra hne
    exact cacheRepr_of_constructFromOrm hdto hne mapping hrepr
  subst htype
  obtain ⟨role, hrole, hmade⟩ := except_bind_eq_ok hdto
  cases hmade
  have hsame : role = r "role" := by
    unfold adminRoles at hrole
    split at hrole
    · cases hrole
      rfl
    · cases hrole
  intro f hf
  rcases List.mem_cons.mp hf with rfl | hf
  · rfl
  · rcases List.mem_cons.mp hf with rfl | hf
    · rfl
    · rcases List.mem_cons.mp hf with rfl | hf
      · rw [hsame]
        rfl
      · cases hf

section
variable {settings : CacheSettings} {dtype : FetchDtype} {type : ResultType}
  {row : Option Row} {s s' : FlightState}

theorem elect_sound (attempts : ℕ) : PhaseSound settings dtype type row (elect attempts) := by
  cases attempts with
  | zero => exact rfl
  | succ attempts => trivial

theorem poll_sound (attempts intervals : ℕ) :
    PhaseSound settings dtype type row (poll attempts intervals) := by
  cases intervals with
  | zero => exact elect_sound attempts
  | succ intervals => trivial

/-- A call that goes on without a write. -/
theorem FlightInvariant.goto (h : FlightInvariant settings dtype type row s) (i : ℕ)
    {phase : CallPhase} (hphase : PhaseSound settings dtype type row phase) :
    FlightInvariant settings dtype type row (s.goto i phase) := by
  refine ⟨h.entry_sound, fun j => ?_⟩
  show PhaseSound settings dtype type row (if j = i then phase else s.calls j)
  split
  · exact hphase
  · exact h.phase_sound j

/-- A call that writes an entry and goes on. -/
theorem FlightInvariant.write (h : FlightInvariant settings dtype type row s) (i : ℕ)
    {written : Except Exn CacheEntry} {next : CallPhase} {failed : Exn → CallPhase}
    {entry : CacheEntry} (hwritten : written = .ok entry)
    (hentry : EntrySound settings dtype type row entry)
    (hnext : PhaseSound settings dtype type row next) :
    FlightInvariant settings dtype type row (s.write i written next failed) := by
  rw [hwritten]
  refine ⟨fun stored hstored => ?_, (h.goto i hnext).phase_sound⟩
  cases hstored
  exact hentry

/-- The lock plays no role. -/
theorem FlightInvariant.withLock (h : FlightInvariant settings dtype type row s)
    (lock : Bool) : FlightInvariant settings dtype type row { s with lock } :=
  ⟨h.entry_sound, h.phase_sound⟩

/-- The sentinel is written over nothing but itself. -/
theorem FlightInvariant.setNegative (h : FlightInvariant settings dtype type none s) :
    ∃ entry, setNegative settings dtype s.entry = .ok entry ∧
      EntrySound settings dtype type none entry := by
  cases hentry : s.entry with
  | none =>
      cases dtype with
      | mapping => exact ⟨_, rfl, rfl⟩
      | string => exact ⟨_, rfl, rfl⟩
  | some entry =>
      have hsound := h.entry_sound entry hentry
      cases dtype with
      | mapping =>
          cases hsound
          exact ⟨_, hset_same _, rfl⟩
      | string => exact ⟨_, rfl, rfl⟩

/-- The row is written over nothing but itself. -/
theorem FlightInvariant.hset_stored {r : Row} {dto : Dto} {items : List (String × String)}
    (h : FlightInvariant settings dtype type (some r) s)
    (hdto : constructFromOrm settings.toResultRuntime type r = .ok dto)
    (hitems : storedItems type dto = .ok items) :
    hset s.entry items = .ok (.hash items) := by
  cases hentry : s.entry with
  | none => rfl
  | some entry =>
      obtain ⟨dto', items', hdto', hitems', rfl⟩ := h.entry_sound entry hentry
      cases hdto.symm.trans hdto'
      cases hitems.symm.trans hitems'
      exact hset_same items

/-- With strings, the sentinel in a hash is recognised. -/
theorem fetchFromCache_negative (hdecode : settings.decodeResponses = true) :
    fetchFromCache settings .mapping type.counterFieldsMap (fun _ => none)
      (some (.hash [(settings.nfSentinelKey, settings.nfSentinelValue)])) = .ok .negative := by
  simp [fetchFromCache, primitiveGetFromCache, ResultType.counterFieldsMap, addCounters,
    hashReply, clientReply, hdecode, CacheMapping.contains, Except.map, pure, Except.pure]

/-- A first read that meets the condition finds nothing, or it finds the sentinel. -/
theorem FlightInvariant.fetched_cases (h : FlightInvariant settings dtype type row s)
    (hfine : s.entry = none ∨
      (settings.decodeResponses = true ∧ dtype = .mapping ∧ row = none)) :
    fetchFromCache settings dtype type.counterFieldsMap (fun _ => none) s.entry = .ok .miss ∨
    fetchFromCache settings dtype type.counterFieldsMap (fun _ => none) s.entry =
      .ok .negative ∧ PhaseSound settings dtype type row .refreshing := by
  rcases hfine with hnone | ⟨hdecode, rfl, rfl⟩
  · left
    rw [hnone]
    cases dtype <;> rfl
  · cases hentry : s.entry with
    | none => exact .inl rfl
    | some entry =>
        -- the entry can only be the sentinel
        cases h.entry_sound entry hentry
        exact .inr ⟨fetchFromCache_negative hdecode, rfl, rfl⟩

/-- One step of a call that meets the condition. -/
theorem FlightInvariant.callStep {i : ℕ} (h : FlightInvariant settings dtype type row s)
    (hstep : callStep settings dtype type row s i = some s')
    (hfine : CallFine settings dtype type row s (.call i)) :
    FlightInvariant settings dtype type row s' := by
  have hphase := h.phase_sound i
  unfold ResourceServer.callStep at hstep
  simp only [CallFine] at hfine
  cases hcall : s.calls i with
  | fetching =>
      simp only [hcall] at hstep hfine
      rcases h.fetched_cases hfine with hmiss | ⟨hnegative, hsentinel⟩
      · rw [hmiss] at hstep
        cases hstep
        exact h.goto i (elect_sound _)
      · rw [hnegative] at hstep
        cases hstep
        exact h.goto i hsentinel
  | refreshing =>
      rw [hcall] at hphase
      obtain ⟨rfl, rfl⟩ := hphase
      simp only [hcall] at hstep
      cases hstep
      obtain ⟨entry, hwritten, hentry⟩ := h.setNegative
      exact h.write i hwritten hentry rfl
  | promoting mapping =>
      rw [hcall] at hphase
      exact hphase.elim
  | electing attempts =>
      simp only [hcall] at hstep
      split at hstep
      · cases hstep
        exact h.goto i (poll_sound _ _)
      · cases hstep
        have hnext : PhaseSound settings dtype type row .loading := trivial
        exact (h.goto i hnext).withLock true
  | loading =>
      simp only [hcall] at hstep hfine
      cases row with
      | none =>
          cases hstep
          exact h.goto i rfl
      | some r =>
          obtain ⟨dto, items, hdto, hitems⟩ := hfine r rfl
          simp only [hdto] at hstep
          cases hstep
          exact h.goto i ⟨r, items, rfl, hdto, hitems⟩
  | storing dto =>
      rw [hcall] at hphase
      obtain ⟨r, items, rfl, hdto, hitems⟩ := hphase
      simp only [hcall] at hstep
      cases hstep
      have hwritten : (storedItems type dto >>= hset s.entry) = .ok (.hash items) := by
        rw [hitems]
        exact h.hset_stored hdto hitems
      exact h.write i hwritten ⟨dto, items, hdto, hitems, rfl⟩
        ⟨r, rfl, fields_of_storedItems hdto hitems⟩
  | marking =>
      rw [hcall] at hphase
      obtain rfl : row = none := hphase
      simp only [hcall] at hstep
      cases hstep
      obtain ⟨entry, hwritten, hentry⟩ := h.setNegative
      exact h.write i hwritten hentry rfl
  | releasing outcome =>
      rw [hcall] at hphase
      simp only [hcall] at hstep
      cases hstep
      have hnext : PhaseSound settings dtype type row (.returned outcome) := hphase
      exact (h.goto i hnext).withLock false
  | polling attempts intervals =>
      simp only [hcall] at hstep
      split at hstep
      · cases hstep
        exact h.goto i (poll_sound _ _)
      · cases hstep
        exact h.goto i trivial
  | following attempts =>
      simp only [hcall] at hstep hfine
      have hretry : followerResult settings dtype type.counterFieldsMap (fun _ => none) type
          s.entry = none := by
        rw [hfine]
        cases dtype <;> rfl
      rw [hretry] at hstep
      cases hstep
      exact h.goto i (elect_sound _)
  | returned outcome =>
      simp only [hcall] at hstep
      cases hstep

/-- One step of a run. -/
theorem FlightInvariant.flightStep {label : FlightLabel}
    (h : FlightInvariant settings dtype type row s)
    (hstep : flightStep settings dtype type row s label = some s')
    (hfine : CallFine settings dtype type row s label) :
    FlightInvariant settings dtype type row s' := by
  cases label with
  | call i => exact h.callStep hstep hfine
  | expireEntry =>
      cases hstep
      exact ⟨fun entry hentry => (by cases hentry), h.phase_sound⟩
  | expireLock =>
      cases hstep
      exact h.withLock false

end

theorem flightInvariant_start (settings : CacheSettings) (dtype : FetchDtype)
    (type : ResultType) (row : Option Row) :
    FlightInvariant settings dtype type row FlightState.start :=
  ⟨fun entry hentry => (by cases hentry), fun _ => trivial⟩

/-- In every interleaving of any number of calls in which every step meets the condition,
all calls end soundly. -/
theorem always_flightSound (settings : CacheSettings) (dtype : FetchDtype)
    (type : ResultType) (row : Option Row) (labels : List FlightLabel)
    (hfine : EachStep (flightStep settings dtype type row)
      (CallFine settings dtype type row) FlightState.start labels) :
    Always (flightStep settings dtype type row) (FlightSound type row) FlightState.start
      labels := by
  have hinv : Always (flightStep settings dtype type row)
      (FlightInvariant settings dtype type row) FlightState.start labels :=
    always_of_eachStep (I := fun _ => True) (fun _ _ _ _ _ _ => trivial)
      (fun _ _ _ _ hs hstep hfine => hs.flightStep hstep hfine) labels _ trivial
      (flightInvariant_start settings dtype type row) hfine
  refine hinv.imp fun s hs i outcome hreturned => ?_
  have hphase := hs.phase_sound i
  rw [hreturned] at hphase
  exact hphase

/-- A client that returns strings. -/
def stringSettings : CacheSettings := { bytesSettings with decodeResponses := true }

/-- A call that becomes the leader, up to its end, and then the first read of another. -/
def leaderThenHit : List FlightLabel :=
  [.call 0, .call 0, .call 0, .call 0, .call 0, .call 1, .call 1]

/-- With strings, both calls end with the missing row. -/
theorem flightSound_leaderThenHit :
    Always (flightStep stringSettings .mapping .userResult none)
      (FlightSound .userResult none) FlightState.start leaderThenHit := by
  refine always_flightSound stringSettings .mapping .userResult none leaderThenHit ?_
  -- the leader reads before anything is cached
  intro s₁ h₁
  obtain rfl := Option.some.inj h₁
  refine ⟨.inl rfl, fun s₂ h₂ => ?_⟩
  obtain rfl := Option.some.inj h₂
  refine ⟨trivial, fun s₃ h₃ => ?_⟩
  obtain rfl := Option.some.inj h₃
  refine ⟨fun r hr => (by cases hr), fun s₄ h₄ => ?_⟩
  obtain rfl := Option.some.inj h₄
  refine ⟨trivial, fun s₅ h₅ => ?_⟩
  obtain rfl := Option.some.inj h₅
  refine ⟨trivial, fun s₆ h₆ => ?_⟩
  -- the other call finds the sentinel
  obtain rfl := Option.some.inj h₆
  refine ⟨.inr ⟨rfl, rfl, rfl⟩, fun s₇ h₇ => ?_⟩
  obtain rfl := Option.some.inj h₇
  exact ⟨trivial, trivial⟩

/-- With bytes, the second call returns an object for the missing row. -/
theorem hit_returns_object :
    ¬ Always (flightStep bytesSettings .mapping .userResult none)
      (FlightSound .userResult none) FlightState.start leaderThenHit := by
  intro hall
  have hrun : ∃ s, runActions (flightStep bytesSettings .mapping .userResult none)
      FlightState.start leaderThenHit = some s ∧ s.calls 1 = .returned (.ok (some [])) :=
    ⟨_, rfl, rfl⟩
  obtain ⟨s, hs, hcall⟩ := hrun
  obtain ⟨r, hr, _⟩ := hall.last hs 1 _ hcall
  cases hr

end ResourceServer
end Tenjin
