import Mathlib.Tactic.ByContra
import Tenjin.ResourceAuxillary.PostProcessing

/-!
# The two halves of an insertion batch

What `queue_insertion_consumer` does with a deduplicated batch once
`db_execute_with_retries` has returned or raised (`consumer.py`).

* `settleInsertion` is that part of the loop body.  Its argument `outcome` is what
  the database call did: it raised, or it returned and `inserted_ids` holds some
  ids.  Its result is the log of executed Redis commands and the exception that
  leaves the loop body, if any.
* `ExactlyOneFate` is the purpose: an inserted event is committed, any other event
  is dead-lettered, and never both.
* `settleInsertion` commits the whole batch, not only its inserted events, so an
  event that was not inserted keeps to its fate only when it has no side effects.
-/

namespace Tenjin
namespace DatabaseWorkers

open Python Foundation ResourceAuxillary

/-- The settings of one consumer. -/
structure ConsumerSettings where
  maxRetries : ℕ
  streamName : StreamName
  groupName : String
  deadLetterStreamName : StreamName

/-- The events of the batch that are reported as inserted, `successful_events`. -/
def successfulEvents (batch : List StreamedEvent) (insertedIds : List Int) :
    List StreamedEvent :=
  batch.filter fun event => event.eventId ∈ insertedIds

section
variable (dumps : PyValue → Except Exn String) (cfg : ConsumerSettings)

/-- The part of `queue_insertion_consumer` after the insertion. -/
def settleInsertion (batch : List StreamedEvent) (outcome : Except Exn (List Int)) :
    CommandLog × Option Exn :=
  match outcome with
  | .error _ =>
      -- the entire batch failed
      match declareDeadWithRetries dumps cfg.maxRetries batch cfg.streamName cfg.groupName
          cfg.deadLetterStreamName cfg.maxRetries with
      | .error e => ([], some e)
      | .ok log => (log, none)
  | .ok insertedIds =>
      -- the events to commit are those of `batch`, not of `successfulEvents`
      match commitProcessedEvents dumps cfg.maxRetries batch cfg.groupName cfg.streamName
          cfg.deadLetterStreamName with
      | .error e => ([], some e)
      | .ok committed =>
          match declareDeadWithRetries dumps cfg.maxRetries
              (batch.filter fun event => event ∉ successfulEvents batch insertedIds)
              cfg.streamName cfg.groupName cfg.deadLetterStreamName cfg.maxRetries with
          | .error e => (committed, some e)
          | .ok dead => (committed ++ dead, none)

/-- The database call returned and reported the event as inserted. -/
def ReportedInserted (outcome : Except Exn (List Int)) (event : StreamedEvent) : Prop :=
  match outcome with
  | .error _ => False
  | .ok insertedIds => event.eventId ∈ insertedIds

/-- What the log must hold for one event of the batch. -/
structure ExactlyOneFate (log : CommandLog) (event : StreamedEvent) (inserted : Prop) :
    Prop where
  acked : inserted → .xack cfg.streamName cfg.groupName event.eventId ∈
    commandsFrom event.eventId log
  emittedOnce : inserted →
    (commandsFrom event.eventId log).filter Command.isSideEffect = sideEffectCommands event
  notDead : inserted → (commandsFrom event.eventId log).filter Command.isXadd = []
  deadOnce : ¬ inserted → ∃ entry,
    (commandsFrom event.eventId log).filter Command.isXadd =
      [.xadd cfg.deadLetterStreamName entry event.eventId]
  nothingEmitted : ¬ inserted →
    (commandsFrom event.eventId log).filter Command.isSideEffect = []

/-- The condition under which every event of the batch meets its fate. -/
def FatesDecided (batch : List StreamedEvent) (outcome : Except Exn (List Int)) : Prop :=
  batch = [] ∨
    0 < cfg.maxRetries ∧
    ∀ event ∈ batch, ¬ ReportedInserted outcome event →
      (∃ entry, event.cacheRepr dumps = .ok entry) ∧
      ((∃ ids, outcome = .ok ids) → event.sideEffects = {})

end

/-- An event asks for no command exactly when it has no side effects. -/
theorem sideEffectCommands_eq_nil_iff (event : StreamedEvent) :
    sideEffectCommands event = [] ↔ event.sideEffects = {} := by
  have hcache : ∀ u, cacheInvalidationCommands u ≠ [] := by
    intro u
    unfold cacheInvalidationCommands
    split <;> simp
  obtain ⟨⟨name, payload, counters, intents, caches⟩, eventId⟩ := event
  cases caches with
  | nil =>
      simp [sideEffectCommands, intentInvalidations, counterSideEffects,
        cacheInvalidationSideEffects, and_comm]
  | cons u caches =>
      simp [sideEffectCommands, cacheInvalidationSideEffects, hcache]

/-- Side effect commands are neither acknowledgements nor stream entries. -/
theorem sideEffectCommands_isSideEffect (event : StreamedEvent) :
    ∀ c ∈ sideEffectCommands event, c.isSideEffect = true := by
  intro c hc
  simp only [sideEffectCommands, intentInvalidations, counterSideEffects,
    cacheInvalidationSideEffects, List.mem_append, List.mem_map, List.mem_flatMap] at hc
  rcases hc with (⟨u, _, rfl⟩ | ⟨u, _, rfl⟩) | ⟨u, _, hu⟩
  · rfl
  · rfl
  · unfold cacheInvalidationCommands at hu
    split at hu <;> simp only [List.mem_cons, List.not_mem_nil, or_false] at hu
    · subst hu; rfl
    · rcases hu with rfl | rfl <;> rfl
    · subst hu; rfl

theorem sideEffectCommands_filter_isSideEffect (event : StreamedEvent) :
    (sideEffectCommands event).filter Command.isSideEffect = sideEffectCommands event :=
  List.filter_eq_self.mpr (sideEffectCommands_isSideEffect event)

theorem sideEffectCommands_filter_isXadd (event : StreamedEvent) :
    (sideEffectCommands event).filter Command.isXadd = [] := by
  rw [List.filter_eq_nil_iff]
  intro c hc hx
  have hs := sideEffectCommands_isSideEffect event c hc
  cases c <;> simp_all [Command.isSideEffect, Command.isXadd]

/-- What the committing transaction does for one event of a batch with distinct ids. -/
theorem commandsFrom_atomicAckAndEmitSideEffects {batch : List StreamedEvent}
    (hnodup : (batch.map StreamedEvent.eventId).Nodup) {event : StreamedEvent}
    (h : event ∈ batch) (streamName : StreamName) (groupName : String) :
    commandsFrom event.eventId (atomicAckAndEmitSideEffects batch streamName groupName) =
      .xack streamName groupName event.eventId :: sideEffectCommands event := by
  unfold atomicAckAndEmitSideEffects acknowledgeEvent
  simp only [commandsFrom_append,
    commandsFrom_emitFrom_of_mem StreamedEvent.eventId _ hnodup h]
  simp [sideEffectCommands]

/-- What dead-lettering does for one event of a batch with distinct ids. -/
theorem commandsFrom_amortizeEvent {dumps : PyValue → Except Exn String}
    {batch : List StreamedEvent} (hnodup : (batch.map StreamedEvent.eventId).Nodup)
    {event : StreamedEvent} (h : event ∈ batch) {streamName : StreamName}
    {groupName : String} {dlqStreamName : StreamName} {log : CommandLog}
    (hlog : amortizeEvent dumps streamName groupName dlqStreamName batch = .ok log) :
    ∃ entry, commandsFrom event.eventId log =
      [.xack streamName groupName event.eventId,
        .xadd dlqStreamName entry event.eventId] := by
  have hall := (amortizeEvent_eq_ok_iff dumps streamName groupName dlqStreamName batch).mp
    ⟨log, hlog⟩
  obtain ⟨entry, hentry⟩ := hall event h
  refine ⟨entry, ?_⟩
  rw [amortizeEvent_eq_emitFrom dumps hlog,
    commandsFrom_emitFrom_of_mem StreamedEvent.eventId _ hnodup h]
  simp [amortizeCommands, hentry]

/-- Dead-lettering a part of the batch does nothing for the events outside it. -/
theorem commandsFrom_amortizeEvent_of_not_mem {dumps : PyValue → Except Exn String}
    {batch : List StreamedEvent} {i : Int} (h : ∀ e ∈ batch, e.eventId ≠ i)
    {streamName : StreamName} {groupName : String} {dlqStreamName : StreamName}
    {log : CommandLog}
    (hlog : amortizeEvent dumps streamName groupName dlqStreamName batch = .ok log) :
    commandsFrom i log = [] := by
  rw [amortizeEvent_eq_emitFrom dumps hlog]
  exact commandsFrom_emitFrom_of_not_mem StreamedEvent.eventId _ h

/-- The events handed to the dead letter queue are those not reported as inserted. -/
theorem not_successful_eq (batch : List StreamedEvent) (insertedIds : List Int) :
    (batch.filter fun event => event ∉ successfulEvents batch insertedIds) =
      batch.filter fun event => event.eventId ∉ insertedIds := by
  apply List.filter_congr
  intro event hmem
  simp [successfulEvents, hmem]

section
variable {dumps : PyValue → Except Exn String} {cfg : ConsumerSettings}
  {batch : List StreamedEvent} {event : StreamedEvent}

/-- An event for which nothing was executed meets no fate. -/
theorem not_exactlyOneFate_of_nothing {log : CommandLog} {inserted : Prop}
    (h : commandsFrom event.eventId log = []) :
    ¬ ExactlyOneFate cfg log event inserted := by
  intro hfate
  by_cases hin : inserted
  · have hack := hfate.acked hin
    simp [h] at hack
  · obtain ⟨entry, hdead⟩ := hfate.deadOnce hin
    simp [h] at hdead

/-- A committed event meets the fate of an inserted one. -/
theorem exactlyOneFate_of_committed {log : CommandLog}
    (h : commandsFrom event.eventId log =
      .xack cfg.streamName cfg.groupName event.eventId :: sideEffectCommands event)
    {inserted : Prop} (hin : inserted) : ExactlyOneFate cfg log event inserted where
  acked _ := by simp [h]
  emittedOnce _ := by
    simp [h, Command.isSideEffect, sideEffectCommands_filter_isSideEffect]
  notDead _ := by simp [h, Command.isXadd, sideEffectCommands_filter_isXadd]
  deadOnce hnot := absurd hin hnot
  nothingEmitted hnot := absurd hin hnot

/-- A dead-lettered event that emitted nothing meets the fate of a failed one. -/
theorem exactlyOneFate_of_dead {log : CommandLog} {entry : StreamEntry}
    (acks : List Command)
    (hacks : ∀ c ∈ acks, c = .xack cfg.streamName cfg.groupName event.eventId)
    (h : commandsFrom event.eventId log =
      acks ++ [.xadd cfg.deadLetterStreamName entry event.eventId])
    {inserted : Prop} (hout : ¬ inserted) : ExactlyOneFate cfg log event inserted where
  acked hin := absurd hin hout
  emittedOnce hin := absurd hin hout
  notDead hin := absurd hin hout
  deadOnce _ := by
    refine ⟨entry, ?_⟩
    have hnone : acks.filter Command.isXadd = [] := by
      rw [List.filter_eq_nil_iff]
      intro c hc
      simp [hacks c hc, Command.isXadd]
    simp [h, List.filter_append, hnone, Command.isXadd]
  nothingEmitted _ := by
    have hnone : acks.filter Command.isSideEffect = [] := by
      rw [List.filter_eq_nil_iff]
      intro c hc
      simp [hacks c hc, Command.isSideEffect]
    simp [h, List.filter_append, hnone, Command.isSideEffect]

/-- Without retries the loop body executes nothing. -/
theorem settleInsertion_of_no_retries (hzero : cfg.maxRetries = 0)
    (outcome : Except Exn (List Int)) :
    settleInsertion dumps cfg batch outcome = ([], none) := by
  have hexec : ∀ coroutine : ℕ → Except Exn CommandLog,
      executeWithRedisRetries 0 coroutine (some 0) = .ok none :=
    fun _ => executeWithRedisRetries_of_no_attempt rfl
  cases outcome with
  | error e => simp [settleInsertion, declareDeadWithRetries, hzero, hexec, Except.map]
  | ok ids =>
      simp [settleInsertion, declareDeadWithRetries, commitProcessedEvents,
        dlqAwareProcessEvents, hzero, hexec, Except.map]

/-- When the whole batch failed, every event meets its fate exactly when the whole
batch can be dead-lettered. -/
theorem settleInsertion_error_fates (hpos : 0 < cfg.maxRetries)
    (hnodup : (batch.map StreamedEvent.eventId).Nodup) (e : Exn) :
    (∀ event ∈ batch,
      ExactlyOneFate cfg (settleInsertion dumps cfg batch (.error e)).1 event False) ↔
    ∀ event ∈ batch, ∃ entry, event.cacheRepr dumps = .ok entry := by
  unfold settleInsertion
  simp only [declareDeadWithRetries_eq dumps hpos]
  rw [← amortizeEvent_eq_ok_iff dumps cfg.streamName cfg.groupName
    cfg.deadLetterStreamName batch]
  cases hdead : amortizeEvent dumps cfg.streamName cfg.groupName
      cfg.deadLetterStreamName batch with
  | error x =>
      constructor
      · intro hfates
        cases batch with
        | nil => simp [amortizeEvent] at hdead
        | cons event rest =>
            exact absurd (hfates event (List.mem_cons_self ..))
              (not_exactlyOneFate_of_nothing rfl)
      · rintro ⟨log, hlog⟩
        cases hlog
  | ok log =>
      refine ⟨fun _ => ⟨log, rfl⟩, fun _ event hevent => ?_⟩
      obtain ⟨entry, hentry⟩ := commandsFrom_amortizeEvent hnodup hevent hdead
      exact exactlyOneFate_of_dead [.xack cfg.streamName cfg.groupName event.eventId]
        (by simp) hentry (by simp)

/-- When the database call returned, every event meets its fate exactly when the
events that were not inserted can be dead-lettered and have no side effects. -/
theorem settleInsertion_ok_fates (hpos : 0 < cfg.maxRetries)
    (hnodup : (batch.map StreamedEvent.eventId).Nodup) (ids : List Int) :
    (∀ event ∈ batch, ExactlyOneFate cfg (settleInsertion dumps cfg batch (.ok ids)).1
      event (event.eventId ∈ ids)) ↔
    ∀ event ∈ batch, event.eventId ∉ ids →
      (∃ entry, event.cacheRepr dumps = .ok entry) ∧ event.sideEffects = {} := by
  have hcommit : ∀ event ∈ batch,
      commandsFrom event.eventId
        (atomicAckAndEmitSideEffects batch cfg.streamName cfg.groupName) =
      .xack cfg.streamName cfg.groupName event.eventId :: sideEffectCommands event :=
    fun event h => commandsFrom_atomicAckAndEmitSideEffects hnodup h _ _
  unfold settleInsertion
  simp only [declareDeadWithRetries_eq dumps hpos, commitProcessedEvents_eq dumps hpos,
    not_successful_eq]
  have hrest : ((batch.filter fun event => event.eventId ∉ ids).map
      StreamedEvent.eventId).Nodup :=
    (List.filter_sublist.map _).nodup hnodup
  cases hdead : amortizeEvent dumps cfg.streamName cfg.groupName cfg.deadLetterStreamName
      (batch.filter fun event => event.eventId ∉ ids) with
  | error x =>
      -- some event that was not inserted has no entry, and it is not dead-lettered
      obtain ⟨event, hfiltered, hentry⟩ := exists_without_entry dumps hdead
      obtain ⟨hmem, hnot⟩ := List.mem_filter.mp hfiltered
      have hout : event.eventId ∉ ids := by simpa using hnot
      constructor
      · intro hfates
        obtain ⟨entry, hx⟩ := (hfates event hmem).deadOnce hout
        simp [hcommit event hmem, Command.isXadd,
          sideEffectCommands_filter_isXadd] at hx
      · intro hcond
        exact absurd (hcond event hmem hout).1 hentry
  | ok log =>
      have hall := (amortizeEvent_eq_ok_iff dumps cfg.streamName cfg.groupName
        cfg.deadLetterStreamName _).mp ⟨log, hdead⟩
      -- the events of the dead letter queue are exactly those that were not inserted
      have hin : ∀ event ∈ batch, event.eventId ∈ ids → commandsFrom event.eventId log = [] := by
        intro event _ hids
        refine commandsFrom_amortizeEvent_of_not_mem ?_ hdead
        intro e he heq
        have hout := (List.mem_filter.mp he).2
        simp [heq, hids] at hout
      have hout : ∀ event ∈ batch, event.eventId ∉ ids → ∃ entry,
          commandsFrom event.eventId log =
            [.xack cfg.streamName cfg.groupName event.eventId,
              .xadd cfg.deadLetterStreamName entry event.eventId] := by
        intro event hmem hids
        exact commandsFrom_amortizeEvent hrest
          (List.mem_filter.mpr ⟨hmem, by simpa using hids⟩) hdead
      constructor
      · intro hfates event hmem hids
        refine ⟨hall event (List.mem_filter.mpr ⟨hmem, by simpa using hids⟩), ?_⟩
        obtain ⟨entry, hentry⟩ := hout event hmem hids
        have hnothing := (hfates event hmem).nothingEmitted hids
        simp [commandsFrom_append, hcommit event hmem, hentry, Command.isSideEffect,
          sideEffectCommands_filter_isSideEffect] at hnothing
        exact (sideEffectCommands_eq_nil_iff event).mp hnothing
      · intro hcond event hmem
        by_cases hids : event.eventId ∈ ids
        · refine exactlyOneFate_of_committed ?_ hids
          simp [commandsFrom_append, hcommit event hmem, hin event hmem hids]
        · obtain ⟨entry, hentry⟩ := hout event hmem hids
          have hnil := (sideEffectCommands_eq_nil_iff event).mpr (hcond event hmem hids).2
          have hdone : commandsFrom event.eventId
              (atomicAckAndEmitSideEffects batch cfg.streamName cfg.groupName ++ log) =
              [.xack cfg.streamName cfg.groupName event.eventId,
                .xack cfg.streamName cfg.groupName event.eventId] ++
              [.xadd cfg.deadLetterStreamName entry event.eventId] := by
            simp [commandsFrom_append, hcommit event hmem, hentry, hnil]
          exact exactlyOneFate_of_dead _ (by simp) hdone hids

end

/-- For every deduplicated batch and whatever the database call did, each event
meets exactly one fate if and only if `FatesDecided` holds. -/
theorem insertion_fates_iff (dumps : PyValue → Except Exn String) (cfg : ConsumerSettings)
    (batch : List StreamedEvent) (hnodup : (batch.map StreamedEvent.eventId).Nodup)
    (outcome : Except Exn (List Int)) :
    (∀ event ∈ batch, ExactlyOneFate cfg (settleInsertion dumps cfg batch outcome).1 event
      (ReportedInserted outcome event)) ↔
    FatesDecided dumps cfg batch outcome := by
  rcases List.eq_nil_or_concat batch with rfl | ⟨init, last, rfl⟩
  · simp [FatesDecided]
  have hne : init.concat last ≠ [] := by simp
  have hlast : last ∈ init.concat last := by simp
  rcases Nat.eq_zero_or_pos cfg.maxRetries with hzero | hpos
  · refine ⟨fun hfates => ?_, fun hcond => ?_⟩
    · refine absurd (hfates last hlast) (not_exactlyOneFate_of_nothing ?_)
      rw [settleInsertion_of_no_retries hzero]
      rfl
    · rcases hcond with hnil | ⟨hpos, _⟩
      · exact absurd hnil hne
      · omega
  · cases outcome with
    | error e =>
        simp only [FatesDecided, ReportedInserted, hne, false_or, hpos, true_and,
          not_false_eq_true, true_imp_iff, reduceCtorEq, exists_false, false_imp_iff,
          and_true]
        exact settleInsertion_error_fates hpos hnodup e
    | ok ids =>
        simp only [FatesDecided, ReportedInserted, hne, false_or, hpos, true_and,
          Except.ok.injEq, exists_eq', true_imp_iff]
        exact settleInsertion_ok_fates hpos hnodup ids

/-- The consumer of post events with three retries. -/
def postSettings : ConsumerSettings where
  maxRetries := 3
  streamName := .posts
  groupName := "POST_CREATE"
  deadLetterStreamName := .deadLetterQueue

/-- The creation of a post, which counts for its author. -/
def postCreation (eventId : Int) (author : String) : StreamedEvent where
  name := .postCreate
  payload := [("title", .str "first")]
  sideEffects :=
    { counterUpdates := [⟨"users:total_posts", deriveCacheKey "users" author,
        "total_posts", 1⟩] }
  eventId := eventId

/-- A batch of two posts by two authors, all of it inserted. -/
theorem insertion_fates_iff_all_inserted :
    (∀ event ∈ [postCreation 1 "a", postCreation 2 "b"], ExactlyOneFate postSettings
      (settleInsertion orjsonDumps postSettings [postCreation 1 "a", postCreation 2 "b"]
        (.ok [1, 2])).1 event (ReportedInserted (.ok [1, 2]) event)) ↔
    FatesDecided orjsonDumps postSettings [postCreation 1 "a", postCreation 2 "b"]
      (.ok [1, 2]) :=
  insertion_fates_iff orjsonDumps postSettings [postCreation 1 "a", postCreation 2 "b"]
    (by decide) (.ok [1, 2])

/-- The second post of the batch was not inserted, and its author's counter is
raised all the same. -/
theorem settleInsertion_counts_failed_event :
    postCreation 2 "b" ∈ [postCreation 1 "a", postCreation 2 "b"] ∧
      ¬ ExactlyOneFate postSettings
        (settleInsertion orjsonDumps postSettings [postCreation 1 "a", postCreation 2 "b"]
          (.ok [1])).1 (postCreation 2 "b")
        (ReportedInserted (.ok [1]) (postCreation 2 "b")) := by
  refine ⟨by decide, fun hfate => ?_⟩
  have hnothing := hfate.nothingEmitted (by simp [ReportedInserted, postCreation])
  exact absurd hnothing (by decide)

end DatabaseWorkers
end Tenjin
