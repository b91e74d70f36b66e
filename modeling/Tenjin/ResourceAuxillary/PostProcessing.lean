import Tenjin.Foundation.TaggedLog
import Tenjin.ResourceAuxillary.Events
import Tenjin.ResourceAuxillary.Qos

/-!
# What a worker does with a processed event

The Redis transactions of `post_processing.py` and their retrying wrappers in
`qos.py` and `wrappers.py`, as logs of commands tagged with the event that they
are issued for.  The pipelines are transactions that succeed; what may still fail
is the code that builds them, and then nothing is executed.
-/

namespace Tenjin
namespace ResourceAuxillary

open Python Foundation

/-- The Redis commands that finish an event. -/
inductive Command
  | xack (stream : StreamName) (group : String) (id : Int)
  | xadd (stream : StreamName) (entry : StreamEntry) (id : Int)
  /-- The conditional delete of an intent: key and expected value. -/
  | evalDeleteIntent (key value : String)
  | hincrby (group key : String) (delta : Int)
  | delete (key : String)
  | hsetNotFound (key : String)
  | expire (key : String) (seconds : ℕ)
  | setNotFound (key : String) (seconds : ℕ)
  deriving DecidableEq

/-- The commands that carry out a side effect of an event. -/
def Command.isSideEffect : Command → Bool
  | .xack .. => false
  | .xadd .. => false
  | _ => true

/-- The commands that change a counter. -/
def Command.isHincrby : Command → Bool
  | .hincrby .. => true
  | _ => false

/-- The commands that add an event to a stream. -/
def Command.isXadd : Command → Bool
  | .xadd .. => true
  | _ => false

/-- Executed commands, each with the id of the event it was issued for. -/
abbrev CommandLog := List (Int × Command)

/-- One event's part of `_emit_intent_invalidations`. -/
def intentInvalidations (event : StreamedEvent) : List Command :=
  event.sideEffects.intentUpdates.map fun u => .evalDeleteIntent u.intentName u.intentValue

/-- One event's part of `_emit_counter_side_effects`. -/
def counterSideEffects (event : StreamedEvent) : List Command :=
  event.sideEffects.counterUpdates.map fun u => .hincrby u.counterGroup u.cacheKey u.delta

/-- The commands of one cache update. -/
def cacheInvalidationCommands (u : CacheUpdate) : List Command :=
  match u.operation, u.resourceType with
  | .invalidate, _ => [.delete u.cacheKey]
  | .markMissing, .mapping => [.hsetNotFound u.cacheKey, .expire u.cacheKey 60]
  | .markMissing, .string => [.setNotFound u.cacheKey 60]

/-- One event's part of `_emit_cache_invalidation_side_effects`. -/
def cacheInvalidationSideEffects (event : StreamedEvent) : List Command :=
  event.sideEffects.cacheInvalidations.flatMap cacheInvalidationCommands

/-- Everything that the side effects of an event ask for, in the order of
`atomic_ack_and_emit_side_effects`. -/
def sideEffectCommands (event : StreamedEvent) : List Command :=
  intentInvalidations event ++ counterSideEffects event ++
    cacheInvalidationSideEffects event

/-- `acknowledge_event`. -/
def acknowledgeEvent (events : List StreamedEvent) (streamName : StreamName)
    (groupName : String) : CommandLog :=
  emitFrom StreamedEvent.eventId (fun e => [.xack streamName groupName e.eventId]) events

/-- `atomic_ack_and_emit_side_effects`: one transaction for the whole batch. -/
def atomicAckAndEmitSideEffects (events : List StreamedEvent) (streamName : StreamName)
    (groupName : String) : CommandLog :=
  acknowledgeEvent events streamName groupName ++
    emitFrom StreamedEvent.eventId intentInvalidations events ++
    emitFrom StreamedEvent.eventId counterSideEffects events ++
    emitFrom StreamedEvent.eventId cacheInvalidationSideEffects events

section
variable (dumps : PyValue → Except Exn String)

/-- `amortize_event`: acknowledge each event and add it to the dead letter queue.
An event without a cache representation raises while the pipeline is built. -/
def amortizeEvent (streamName : StreamName) (groupName : String)
    (dlqStreamName : StreamName) : List StreamedEvent → Except Exn CommandLog
  | [] => .ok []
  | event :: events =>
      match event.cacheRepr dumps with
      | .error e => .error e
      | .ok entry =>
          match amortizeEvent streamName groupName dlqStreamName events with
          | .error e => .error e
          | .ok log =>
              .ok ((event.eventId, .xack streamName groupName event.eventId) ::
                (event.eventId, .xadd dlqStreamName entry event.eventId) :: log)

/-- `declare_dead_with_retries`. -/
def declareDeadWithRetries (maxRetries : ℕ) (batch : List StreamedEvent)
    (streamName : StreamName) (groupName : String) (deadLetterStreamName : StreamName)
    (attempts : ℕ) : Except Exn CommandLog :=
  (executeWithRedisRetries maxRetries
    (fun _ => amortizeEvent dumps streamName groupName deadLetterStreamName batch)
    (some attempts)).map (·.getD [])

/-- `dlq_aware_process_events`: when the processing raises, dead-letter instead. -/
def dlqAwareProcessEvents (maxRetries : ℕ) (events : List StreamedEvent)
    (redisCoroutine : ℕ → Except Exn CommandLog) (attempts : ℕ)
    (eventStreamName : StreamName) (groupName : String) (dlqStreamName : StreamName) :
    Except Exn CommandLog :=
  match executeWithRedisRetries maxRetries redisCoroutine (some attempts) with
  | .ok log => .ok (log.getD [])
  | .error e =>
      let dlqAttempts := if e = .redisError true then 1 else attempts
      (executeWithRedisRetries maxRetries
        (fun _ => amortizeEvent dumps eventStreamName groupName dlqStreamName events)
        (some dlqAttempts)).map (·.getD [])

/-- `commit_processed_events`. -/
def commitProcessedEvents (maxRetries : ℕ) (events : List StreamedEvent)
    (groupName : String) (streamName dlqStreamName : StreamName) :
    Except Exn CommandLog :=
  dlqAwareProcessEvents dumps maxRetries events
    (fun _ => .ok (atomicAckAndEmitSideEffects events streamName groupName))
    maxRetries streamName groupName dlqStreamName

/-- The two commands of `amortize_event` for an event whose entry can be built. -/
def amortizeCommands (streamName : StreamName) (groupName : String)
    (dlqStreamName : StreamName) (event : StreamedEvent) : List Command :=
  match event.cacheRepr dumps with
  | .ok entry =>
      [.xack streamName groupName event.eventId, .xadd dlqStreamName entry event.eventId]
  | .error _ => []

/-- Dead-lettering succeeds exactly when every event has a cache representation. -/
theorem amortizeEvent_eq_ok_iff (streamName : StreamName) (groupName : String)
    (dlqStreamName : StreamName) (events : List StreamedEvent) :
    (∃ log, amortizeEvent dumps streamName groupName dlqStreamName events = .ok log) ↔
      ∀ e ∈ events, ∃ entry, e.cacheRepr dumps = .ok entry := by
  induction events with
  | nil => simp [amortizeEvent]
  | cons e events ih =>
      cases he : e.cacheRepr dumps with
      | error x => simp [amortizeEvent, he]
      | ok entry =>
          have htail :
              (∃ log, amortizeEvent dumps streamName groupName dlqStreamName (e :: events) =
                .ok log) ↔
              ∃ log, amortizeEvent dumps streamName groupName dlqStreamName events =
                .ok log := by
            cases hr : amortizeEvent dumps streamName groupName dlqStreamName events <;>
              simp [amortizeEvent, he, hr]
          rw [htail, ih]
          simp [he]

/-- When dead-lettering raises, some event has no cache representation. -/
theorem exists_without_entry {streamName : StreamName} {groupName : String}
    {dlqStreamName : StreamName} {events : List StreamedEvent} {x : Exn}
    (h : amortizeEvent dumps streamName groupName dlqStreamName events = .error x) :
    ∃ e ∈ events, ¬ ∃ entry, e.cacheRepr dumps = .ok entry := by
  by_contra hnone
  have hall : ∀ e ∈ events, ∃ entry, e.cacheRepr dumps = .ok entry := by
    intro e he
    by_contra hentry
    exact hnone ⟨e, he, hentry⟩
  obtain ⟨log, hlog⟩ := (amortizeEvent_eq_ok_iff dumps streamName groupName
    dlqStreamName events).mpr hall
  rw [h] at hlog
  cases hlog

/-- A successful dead-lettering is a loop that issues both commands per event. -/
theorem amortizeEvent_eq_emitFrom {streamName : StreamName} {groupName : String}
    {dlqStreamName : StreamName} {events : List StreamedEvent} {log : CommandLog}
    (h : amortizeEvent dumps streamName groupName dlqStreamName events = .ok log) :
    log = emitFrom StreamedEvent.eventId
      (amortizeCommands dumps streamName groupName dlqStreamName) events := by
  induction events generalizing log with
  | nil =>
      simp only [amortizeEvent, Except.ok.injEq] at h
      exact h.symm
  | cons e events ih =>
      cases he : e.cacheRepr dumps with
      | error x => simp [amortizeEvent, he] at h
      | ok entry =>
          cases hr : amortizeEvent dumps streamName groupName dlqStreamName events with
          | error x => simp [amortizeEvent, he, hr] at h
          | ok rest =>
              simp only [amortizeEvent, he, hr, Except.ok.injEq] at h
              rw [← h, ih hr]
              simp [emitFrom, amortizeCommands, he]

/-- With retries allowed, dead-lettering is one run of `amortize_event`. -/
theorem declareDeadWithRetries_eq {maxRetries : ℕ} (hpos : 0 < maxRetries)
    (batch : List StreamedEvent) (streamName : StreamName) (groupName : String)
    (deadLetterStreamName : StreamName) :
    declareDeadWithRetries dumps maxRetries batch streamName groupName
        deadLetterStreamName maxRetries =
      amortizeEvent dumps streamName groupName deadLetterStreamName batch := by
  have hattempts : 0 < attemptsOr (some maxRetries) maxRetries := by
    cases maxRetries with
    | zero => omega
    | succ n => simp [attemptsOr]
  unfold declareDeadWithRetries
  rw [executeWithRedisRetries_const hattempts]
  cases amortizeEvent dumps streamName groupName deadLetterStreamName batch <;> rfl

/-- With retries allowed, committing is one acknowledging and emitting transaction. -/
theorem commitProcessedEvents_eq {maxRetries : ℕ} (hpos : 0 < maxRetries)
    (events : List StreamedEvent) (groupName : String)
    (streamName dlqStreamName : StreamName) :
    commitProcessedEvents dumps maxRetries events groupName streamName dlqStreamName =
      .ok (atomicAckAndEmitSideEffects events streamName groupName) := by
  have hattempts : 0 < attemptsOr (some maxRetries) maxRetries := by
    cases maxRetries with
    | zero => omega
    | succ n => simp [attemptsOr]
  unfold commitProcessedEvents dlqAwareProcessEvents
  rw [executeWithRedisRetries_const hattempts]
  rfl

end

end ResourceAuxillary
end Tenjin
