import Mathlib.Data.List.Dedup
import Tenjin.DatabaseWorkers.InsertionFates
import Tenjin.DatabaseWorkers.Isolation
import Tenjin.Foundation.GuardedRun
import Tenjin.ResourceAuxillary.PreProcessing

/-!
# Insertion over many batches

One iteration of `queue_insertion_consumer` (`consumer.py`) over the committed
database, and what a sequence of iterations does to the entries of a stream.

* `Stream` gives the content of every entry; a batch is a list of entry ids, so
  the same entry may be handed over again in a batch or in a later one.
* `insertionIteration` is one pass of the consumer's loop: deduplication, trimming,
  insertion with retries, settling, and the end of `pool.connection()`.
* `ExactlyOnce` is the purpose.  The deduplication rows, the inserted rows and the
  emitted counters stay together as long as every iteration is `Sound`: after a
  rollback by `db_execute_with_retries` the deduplication rows are gone, and what
  is inserted then is committed without them.
-/

namespace Tenjin
namespace DatabaseWorkers

open Python Foundation ResourceAuxillary

/-- The entries of a stream by the number of their id. -/
structure Stream where
  entry : Int → StreamedEvent
  entry_eventId : ∀ i, (entry i).eventId = i

/-- The committed transactions and the Redis commands executed so far. -/
structure World where
  committed : List (List DbWrite)
  log : CommandLog

/-- Nothing has happened yet. -/
def World.empty : World := ⟨[], []⟩

/-- The write is part of a committed transaction. -/
def World.Committed (w : World) (d : DbWrite) : Prop := ∃ tx ∈ w.committed, d ∈ tx

instance (w : World) (d : DbWrite) : Decidable (w.Committed d) :=
  inferInstanceAs (Decidable (∃ tx ∈ w.committed, d ∈ tx))

/-- The ids that `batch_dedup_insert_events` inserts and returns: those of the batch
that `stream_events` does not hold yet, once each. -/
def freshEventIds (w : World) (eventIds : List Int) : List Int :=
  eventIds.dedup.filter fun i => ¬ w.Committed (.dedup i)

/-- `trim_duplicate_events` on the batch: `batch.remove` takes out the first event
that is equal to the one at hand. -/
def trimDuplicateEvents (freshEventIds : List Int) (batch : List StreamedEvent) :
    List StreamedEvent :=
  batch.foldl (fun rest event =>
    if event.eventId ∉ freshEventIds then rest.erase event else rest) batch

/-- The acknowledgements of `trim_duplicate_events`. -/
def trimAcknowledgements (cfg : ConsumerSettings) (freshEventIds : List Int)
    (batch : List StreamedEvent) : CommandLog :=
  acknowledgeEvent (batch.filter fun event => event.eventId ∉ freshEventIds)
    cfg.streamName cfg.groupName

/-- One batch: the ids of its entries, and the answers of the insertion function. -/
structure Delivery where
  eventIds : List Int
  insert : ℕ → List StreamedEvent → Except Exn (List Int)

section
variable (dumps : PyValue → Except Exn String) (cfg : ConsumerSettings) (stream : Stream)

/-- The events of a batch. -/
def batchOf (ids : List Int) : List StreamedEvent := ids.map stream.entry

/-- One pass of the loop of `queue_insertion_consumer`. -/
def insertionIteration (w : World) (d : Delivery) : World :=
  let batch := batchOf stream d.eventIds
  let fresh := freshEventIds w (batch.map StreamedEvent.eventId)
  let conn := (Connection.idle w.committed).execute (fresh.map .dedup)
  let acks := trimAcknowledgements cfg fresh batch
  let batch := trimDuplicateEvents fresh batch
  if batch = [] then
    ⟨conn.commit.committed, w.log ++ acks⟩
  else
    let (result, st) := dbExecuteWithRetries InsertState.rollback cfg.maxRetries
      (batchInsertWithIsolation d.insert batch) none ⟨conn, [], 0⟩
    let outcome := result.map fun _ => st.insertedIds
    let (commands, exception) := settleInsertion dumps cfg batch outcome
    -- leaving `pool.connection()` commits, or rolls back when an exception leaves it
    let conn := if exception = none then st.conn.commit else st.conn.rollback
    ⟨conn.committed, w.log ++ acks ++ commands⟩

/-- The transition system of a consumer that is handed batch after batch. -/
def insertionStep (w : World) (d : Delivery) : Option World :=
  some (insertionIteration dumps cfg stream w d)

end

/-- The counter updates that have been emitted for an entry. -/
def emittedCounters (w : World) (i : Int) : List Command :=
  (commandsFrom i w.log).filter Command.isHincrby

/-- Each entry's row is written by at most one committed transaction, its counter
updates are emitted at most once, and a committed row comes with its event id. -/
structure ExactlyOnce (stream : Stream) (w : World) : Prop where
  rowOnce : ∀ i, (w.committed.filter fun tx => .row i ∈ tx).length ≤ 1
  countersOnce : ∀ i, emittedCounters w i = [] ∨
    emittedCounters w i = counterSideEffects (stream.entry i)
  rowDeduplicated : ∀ i, w.Committed (.row i) → w.Committed (.dedup i)

/-- Trimming keeps exactly the events with a fresh id. -/
theorem trimDuplicateEvents_eq_filter (fresh : List Int) (batch : List StreamedEvent) :
    trimDuplicateEvents fresh batch = batch.filter fun e => e.eventId ∈ fresh := by
  -- `kept` is the part of the batch that the loop has passed
  have hloop : ∀ (todo kept : List StreamedEvent), (∀ e ∈ kept, e.eventId ∈ fresh) →
      todo.foldl (fun rest event =>
        if event.eventId ∉ fresh then rest.erase event else rest) (kept ++ todo) =
      kept ++ todo.filter fun e => e.eventId ∈ fresh := by
    intro todo
    induction todo with
    | nil => simp
    | cons e todo ih =>
        intro kept hkept
        by_cases he : e.eventId ∈ fresh
        · have hnext := ih (kept ++ [e]) (by
            intro x hx
            rcases List.mem_append.mp hx with hx | hx
            · exact hkept x hx
            · rw [List.mem_singleton.mp hx]; exact he)
          simpa [he] using hnext
        · have hnot : e ∉ kept := fun hmem => he (hkept e hmem)
          have hnext := ih kept hkept
          simpa [he, List.erase_append_right _ hnot] using hnext
  exact hloop batch [] (by simp)

/-- What the function of `pre_processing.py` leaves of the batch, and what it executes. -/
theorem trimDuplicateEvents_executed (cfg : ConsumerSettings) (fresh : List Int)
    (execute : CommandLog → Except Exn Unit) (batch : List StreamedEvent) :
    ResourceAuxillary.trimDuplicateEvents fresh cfg.streamName cfg.groupName execute batch =
      (execute (trimAcknowledgements cfg fresh batch)).map fun _ =>
        (trimDuplicateEvents fresh batch, trimAcknowledgements cfg fresh batch) := by
  have hlog : trimAcknowledgements cfg fresh batch =
      (batch.filter fun event => event.eventId ∉ fresh).map
        (acknowledgement cfg.streamName cfg.groupName) := by
    rw [trimAcknowledgements, acknowledgeEvent, emitFrom]
    exact List.flatMap_pure_eq_map _ _
  rw [hlog, trimDuplicateEvents_eq_filter]
  exact trimDuplicateEvents_eq execute batch

/-- The events of a batch that are not recorded in `stream_events` yet. -/
def freshBatch (stream : Stream) (w : World) (d : Delivery) : List StreamedEvent :=
  (batchOf stream d.eventIds).filter fun e => ¬ w.Committed (.dedup e.eventId)

/-- The condition on the state before an iteration and on what the database answers
in it: no entry with counters is repeated among the fresh ones, nothing is inserted
after a transient error, and the events that go to the dead letter queue after the
batch was committed can be written there. -/
structure Sound (dumps : PyValue → Except Exn String) (cfg : ConsumerSettings)
    (stream : Stream) (w : World) (d : Delivery) : Prop where
  freshOnce : ∀ i ∈ d.eventIds, ¬ w.Committed (.dedup i) →
    (stream.entry i).sideEffects.counterUpdates ≠ [] → d.eventIds.count i = 1
  nothingAfterTransient : cfg.maxRetries ≤ 1 ∨
    ∀ n events e, d.insert n events = .error e → isPotentialTransientError e = true →
      ∀ m events', n < m → ∃ e', d.insert m events' = .error e' ∧ e' ≠ .integrityError
  settled : cfg.maxRetries = 0 ∨
    (∀ e ∈ freshBatch stream w d, ∃ entry, e.cacheRepr dumps = .ok entry) ∨
    (∀ e ∈ freshBatch stream w d, e.sideEffects.counterUpdates = []) ∨
    (∃ ids, d.insert 0 (freshBatch stream w d) = .ok ids ∧
      ∀ e ∈ freshBatch stream w d, e.eventId ∈ ids) ∨
    (∃ e, d.insert 0 (freshBatch stream w d) = .error e ∧ e ≠ .integrityError)

theorem batchOf_eventIds (stream : Stream) (ids : List Int) :
    (batchOf stream ids).map StreamedEvent.eventId = ids := by
  induction ids with
  | nil => rfl
  | cons i ids ih =>
      simp only [batchOf, List.map_cons, stream.entry_eventId] at ih ⊢
      rw [ih]

/-- Trimming leaves the fresh part of the batch. -/
theorem trimDuplicateEvents_eq_freshBatch (stream : Stream) (w : World) (d : Delivery) :
    trimDuplicateEvents (freshEventIds w d.eventIds) (batchOf stream d.eventIds) =
      freshBatch stream w d := by
  rw [trimDuplicateEvents_eq_filter, freshBatch]
  apply List.filter_congr
  intro e he
  have hid : e.eventId ∈ d.eventIds := by
    rw [← batchOf_eventIds stream d.eventIds]
    exact List.mem_map_of_mem he
  simp [freshEventIds, hid]

/-- The events of a batch with one id are copies of one entry. -/
theorem batchOf_filter_eventId (stream : Stream) (ids : List Int) (i : Int) :
    ((batchOf stream ids).filter fun e => e.eventId = i) =
      List.replicate (ids.count i) (stream.entry i) := by
  induction ids with
  | nil => rfl
  | cons j ids ih =>
      simp only [batchOf, List.map_cons] at ih ⊢
      by_cases h : j = i
      · subst h
        simp [stream.entry_eventId, ih, List.replicate_succ]
      · simp [stream.entry_eventId, h, ih]

/-- In a batch in which an entry with counters occurs at most once when it is fresh,
the counters of the fresh part are nothing, or those of one fresh entry. -/
theorem freshBatch_counters {dumps : PyValue → Except Exn String} {cfg : ConsumerSettings}
    {stream : Stream} {w : World} {d : Delivery} (h : Sound dumps cfg stream w d)
    (i : Int) :
    ((freshBatch stream w d).filter fun e => e.eventId = i).flatMap counterSideEffects = [] ∨
    (((freshBatch stream w d).filter fun e => e.eventId = i).flatMap counterSideEffects =
      counterSideEffects (stream.entry i) ∧ i ∈ d.eventIds ∧ ¬ w.Committed (.dedup i)) := by
  have hcopies : ((freshBatch stream w d).filter fun e => e.eventId = i) =
      if w.Committed (.dedup i) then [] else
        List.replicate (d.eventIds.count i) (stream.entry i) := by
    rw [freshBatch, List.filter_filter]
    split
    · rename_i hc
      rw [List.filter_eq_nil_iff]
      intro e _ he
      simp only [Bool.and_eq_true, decide_eq_true_eq] at he
      exact he.2 (he.1 ▸ hc)
    · rename_i hc
      rw [← batchOf_filter_eventId]
      apply List.filter_congr
      intro e _
      by_cases he : e.eventId = i
      · simp [he, hc]
      · simp [he]
  rw [hcopies]
  by_cases hc : w.Committed (.dedup i)
  · simp [hc]
  · simp only [hc, if_false]
    by_cases hmem : i ∈ d.eventIds
    · by_cases hcounters : (stream.entry i).sideEffects.counterUpdates = []
      · left
        simp [counterSideEffects, hcounters]
      · right
        have hone := h.freshOnce i hmem hc hcounters
        simp [hone, hmem]
    · left
      simp [List.count_eq_zero_of_not_mem hmem]

/-- After a rollback of everything, attempts that raise at once change nothing. -/
theorem dbRetryLoop_all_raise {insert : ℕ → List StreamedEvent → Except Exn (List Int)}
    (batch : List StreamedEvent) (remaining : ℕ) (e : Exn) (st : InsertState)
    (hidle : st.conn.current = none)
    (hraise : ∀ m events, st.calls ≤ m → ∃ e', insert m events = .error e' ∧
      e' ≠ .integrityError) :
    ∃ e' st', dbRetryLoop InsertState.rollback (batchInsertWithIsolation insert batch)
      remaining (some e) st = (.error e', st') ∧ st'.conn = st.conn := by
  have hroll : st.conn.rollback = st.conn := by
    simp [Connection.rollback, ← hidle]
  induction remaining generalizing e st with
  | zero => exact ⟨e, st, rfl, rfl⟩
  | succ n ih =>
      obtain ⟨e', hans, hne⟩ := hraise st.calls batch (Nat.le_refl _)
      rw [dbRetryLoop, isolation_of_error hans hne]
      dsimp only
      split
      · obtain ⟨x, st', hrun, hconn⟩ := ih e' (InsertState.rollback
          ⟨st.conn, st.insertedIds, st.calls + 1⟩) rfl
          (fun m events hm => hraise m events (by
            simp only [InsertState.rollback] at hm; omega))
          rfl
        exact ⟨x, st', hrun, hconn.trans hroll⟩
      · exact ⟨e', _, rfl, hroll⟩

/-- What the insertion with retries does to the open transaction of a sound
iteration: nothing when it is never tried, rows of the batch when it returns, and
when it raises the transaction is gone. -/
theorem dbExecuteWithRetries_insertion {dumps : PyValue → Except Exn String}
    {cfg : ConsumerSettings} {stream : Stream} {w : World} {d : Delivery}
    (h : Sound dumps cfg stream w d) (batch : List StreamedEvent)
    (committed : List (List DbWrite)) (ws : List DbWrite) :
    let start : InsertState := ⟨⟨committed, some ws⟩, [], 0⟩
    let run := dbExecuteWithRetries InsertState.rollback cfg.maxRetries
      (batchInsertWithIsolation d.insert batch) none start
    (cfg.maxRetries = 0 ∧ run = (.ok none, start)) ∨
    (0 < cfg.maxRetries ∧ ∃ st rows,
      batchInsertWithIsolation d.insert batch start = (.ok (), st) ∧
      run = (.ok (some ()), st) ∧ RowsOf batch rows ∧
      st.conn = ⟨committed, some (ws ++ rows)⟩) ∨
    (∃ e st, run = (.error e, st) ∧ st.conn = ⟨committed, none⟩) := by
  intro start run
  cases hmax : cfg.maxRetries with
  | zero => exact .inl ⟨rfl, by simp [run, dbExecuteWithRetries, attemptsOr, hmax, dbRetryLoop]⟩
  | succ n =>
      right
      obtain ⟨rows, hrows, hconn⟩ :=
        isolation_in_transaction d.insert batch start ws rfl
      have herr := isolation_error d.insert batch start
      have hrun : run = dbRetryLoop InsertState.rollback
          (batchInsertWithIsolation d.insert batch) (n + 1) none start := by
        simp [run, dbExecuteWithRetries, attemptsOr, hmax]
      rw [hrun, dbRetryLoop]
      cases hfirst : batchInsertWithIsolation d.insert batch start with
      | mk result st =>
        rw [hfirst] at hconn herr
        simp only at hconn herr
        cases result with
        | ok u => exact .inl ⟨Nat.succ_pos n, st, rows, rfl, rfl, hrows, hconn⟩
        | error e =>
            right
            have hrolled : (InsertState.rollback st).conn = ⟨committed, none⟩ := by
              simp only [InsertState.rollback, hconn]
              rfl
            dsimp only
            split
            · rename_i htransient
              cases n with
              | zero => exact ⟨e, _, rfl, hrolled⟩
              | succ n =>
                  -- the transaction is gone, so a later attempt must not succeed on an idle
                  -- connection
                  rcases herr.2 e rfl with hrec | ⟨i, es, _, hlt, hans⟩
                  · rw [hrec] at htransient; cases htransient
                  · have hafter := h.nothingAfterTransient.resolve_left (by omega)
                    obtain ⟨x, st', hloop, hsame⟩ := dbRetryLoop_all_raise batch (n + 1) e
                      (InsertState.rollback st) rfl (fun m events hm =>
                        hafter i es e hans htransient m events (by
                          simp only [InsertState.rollback] at hm; omega))
                    exact ⟨x, st', hloop, hsame.trans hrolled⟩
            · exact ⟨e, _, rfl, hrolled⟩

/-- Dead-lettering emits no counter update. -/
theorem amortizeEvent_counters {dumps : PyValue → Except Exn String}
    {streamName : StreamName} {groupName : String} {dlqStreamName : StreamName}
    {batch : List StreamedEvent} {log : CommandLog}
    (h : amortizeEvent dumps streamName groupName dlqStreamName batch = .ok log) (i : Int) :
    (commandsFrom i log).filter Command.isHincrby = [] := by
  rw [amortizeEvent_eq_emitFrom dumps h, commandsFrom_emitFrom, List.filter_eq_nil_iff]
  intro c hc
  obtain ⟨e, _, hce⟩ := List.mem_flatMap.mp hc
  unfold amortizeCommands at hce
  split at hce
  · simp only [List.mem_cons, List.not_mem_nil, or_false] at hce
    rcases hce with rfl | rfl <;> simp [Command.isHincrby]
  · cases hce

/-- Acknowledging emits no counter update. -/
theorem acknowledgeEvent_counters (batch : List StreamedEvent) (streamName : StreamName)
    (groupName : String) (i : Int) :
    (commandsFrom i (acknowledgeEvent batch streamName groupName)).filter
      Command.isHincrby = [] := by
  rw [acknowledgeEvent, commandsFrom_emitFrom, List.filter_eq_nil_iff]
  intro c hc
  obtain ⟨e, _, hce⟩ := List.mem_flatMap.mp hc
  rw [List.mem_singleton.mp hce]
  simp [Command.isHincrby]

/-- Of an event's commands, the counter updates are those that change a counter. -/
theorem filter_isHincrby (e : StreamedEvent) :
    (intentInvalidations e).filter Command.isHincrby = [] ∧
    (counterSideEffects e).filter Command.isHincrby = counterSideEffects e ∧
    (cacheInvalidationSideEffects e).filter Command.isHincrby = [] := by
  refine ⟨?_, ?_, ?_⟩
  · simp [intentInvalidations, List.filter_eq_nil_iff, Command.isHincrby]
  · simp [counterSideEffects, List.filter_eq_self, Command.isHincrby]
  · rw [List.filter_eq_nil_iff]
    intro c hc
    obtain ⟨u, _, hu⟩ := List.mem_flatMap.mp hc
    unfold cacheInvalidationCommands at hu
    split at hu <;> simp only [List.mem_cons, List.not_mem_nil, or_false] at hu
    · subst hu; simp [Command.isHincrby]
    · rcases hu with rfl | rfl <;> simp [Command.isHincrby]
    · subst hu; simp [Command.isHincrby]

/-- Filtering the commands of a loop is looping over the filtered commands. -/
theorem filter_commandsFrom_emitFrom (p : Command → Bool) (f : StreamedEvent → List Command)
    (batch : List StreamedEvent) (i : Int) :
    (commandsFrom i (emitFrom StreamedEvent.eventId f batch)).filter p =
      (batch.filter fun e => e.eventId = i).flatMap fun e => (f e).filter p := by
  rw [commandsFrom_emitFrom, List.filter_flatMap]

/-- The committing transaction emits the counters of every event of the batch. -/
theorem atomicAckAndEmitSideEffects_counters (batch : List StreamedEvent)
    (streamName : StreamName) (groupName : String) (i : Int) :
    (commandsFrom i (atomicAckAndEmitSideEffects batch streamName groupName)).filter
      Command.isHincrby =
    (batch.filter fun e => e.eventId = i).flatMap counterSideEffects := by
  have hnil : ∀ xs : List StreamedEvent, xs.flatMap (fun _ => ([] : List Command)) = [] := by
    simp [List.flatMap_eq_nil_iff]
  unfold atomicAckAndEmitSideEffects
  simp only [commandsFrom_append, List.filter_append, acknowledgeEvent_counters,
    filter_commandsFrom_emitFrom, filter_isHincrby, hnil, List.nil_append, List.append_nil]

section
variable {dumps : PyValue → Except Exn String} {cfg : ConsumerSettings}
  {batch : List StreamedEvent}

/-- A failed batch emits no counters. -/
theorem settleInsertion_error_counters (e : Exn) (i : Int) :
    (commandsFrom i (settleInsertion dumps cfg batch (.error e)).1).filter
      Command.isHincrby = [] := by
  rcases Nat.eq_zero_or_pos cfg.maxRetries with hzero | hpos
  · simp [settleInsertion_of_no_retries hzero]
  · simp only [settleInsertion, declareDeadWithRetries_eq dumps hpos]
    split
    · rfl
    · rename_i log hlog
      exact amortizeEvent_counters hlog i

/-- When the database call returned, the counters of the whole batch are emitted. -/
theorem settleInsertion_ok_counters (hpos : 0 < cfg.maxRetries) (ids : List Int) (i : Int) :
    (commandsFrom i (settleInsertion dumps cfg batch (.ok ids)).1).filter
      Command.isHincrby =
    (batch.filter fun e => e.eventId = i).flatMap counterSideEffects := by
  simp only [settleInsertion, declareDeadWithRetries_eq dumps hpos,
    commitProcessedEvents_eq dumps hpos]
  split
  · exact atomicAckAndEmitSideEffects_counters batch _ _ i
  · rename_i log hlog
    simp only [commandsFrom_append, List.filter_append,
      atomicAckAndEmitSideEffects_counters, amortizeEvent_counters hlog i, List.append_nil]

/-- When an exception leaves the loop body after the batch was committed, some event
that was not reported as inserted has no cache representation. -/
theorem settleInsertion_ok_raises (hpos : 0 < cfg.maxRetries) {ids : List Int}
    (h : (settleInsertion dumps cfg batch (.ok ids)).2 ≠ none) :
    ∃ e ∈ batch, e.eventId ∉ ids ∧ ¬ ∃ entry, e.cacheRepr dumps = .ok entry := by
  simp only [settleInsertion, declareDeadWithRetries_eq dumps hpos,
    commitProcessedEvents_eq dumps hpos, not_successful_eq] at h
  cases hdead : amortizeEvent dumps cfg.streamName cfg.groupName cfg.deadLetterStreamName
      (batch.filter fun event => event.eventId ∉ ids) with
  | ok log =>
      rw [hdead] at h
      exact absurd rfl h
  | error x =>
      obtain ⟨e, hfiltered, hentry⟩ := exists_without_entry dumps hdead
      obtain ⟨hmem, hout⟩ := List.mem_filter.mp hfiltered
      exact ⟨e, hmem, by simpa using hout, hentry⟩

end

section
variable {dumps : PyValue → Except Exn String} {cfg : ConsumerSettings}
  {stream : Stream} {w : World} {d : Delivery}

/-- Everything that a sound iteration can do: it commits nothing and emits no counter,
or it commits one transaction with the fresh ids and rows of fresh events, and emits
for each entry nothing, or its counters when it is fresh. -/
theorem insertionIteration_cases (h : Sound dumps cfg stream w d) :
    ((insertionIteration dumps cfg stream w d).committed = w.committed ∧
      ∀ i, emittedCounters (insertionIteration dumps cfg stream w d) i =
        emittedCounters w i) ∨
    ∃ rows, RowsOf (freshBatch stream w d) rows ∧
      (insertionIteration dumps cfg stream w d).committed =
        w.committed ++ [(freshEventIds w d.eventIds).map .dedup ++ rows] ∧
      ∀ i, emittedCounters (insertionIteration dumps cfg stream w d) i =
          emittedCounters w i ∨
        (emittedCounters (insertionIteration dumps cfg stream w d) i =
          emittedCounters w i ++ counterSideEffects (stream.entry i) ∧
          i ∈ d.eventIds ∧ ¬ w.Committed (.dedup i)) := by
  have hacks : ∀ i, (commandsFrom i (trimAcknowledgements cfg
      (freshEventIds w d.eventIds) (batchOf stream d.eventIds))).filter
      Command.isHincrby = [] :=
    fun i => acknowledgeEvent_counters _ _ _ i
  have htrim := trimDuplicateEvents_eq_freshBatch stream w d
  have hcounters := freshBatch_counters h
  unfold insertionIteration
  simp only [batchOf_eventIds, htrim]
  split
  · -- every event of the batch was a duplicate
    refine .inr ⟨[], RowsOf.nil _, by simp [Connection.idle, Connection.execute,
      Connection.commit], fun i => .inl ?_⟩
    simp [emittedCounters, hacks]
  have hdb := dbExecuteWithRetries_insertion h (freshBatch stream w d) w.committed
    ((freshEventIds w d.eventIds).map .dedup)
  simp only [Connection.idle, Connection.execute, Option.getD_none, List.nil_append] at hdb ⊢
  rcases hdb with ⟨hzero, hrun⟩ | ⟨hpos, st, rows, hreturn, hrun, hrows, hconn⟩ |
    ⟨e, st, hrun, hconn⟩
  · -- nothing was tried: the transaction holds the deduplication rows only
    refine .inr ⟨[], RowsOf.nil _, ?_, fun i => .inl ?_⟩
    · simp [hrun, settleInsertion_of_no_retries hzero, Connection.commit]
    · simp [emittedCounters, hacks, hrun, settleInsertion_of_no_retries hzero]
  · -- the insertion returned
    have hcommands : ∀ i, (commandsFrom i (settleInsertion dumps cfg
        (freshBatch stream w d) (.ok st.insertedIds)).1).filter Command.isHincrby = _ :=
      settleInsertion_ok_counters hpos st.insertedIds
    simp only [hrun, Except.map, hconn]
    cases hexc : (settleInsertion dumps cfg (freshBatch stream w d)
        (.ok st.insertedIds)).2 with
    | none =>
        refine .inr ⟨rows, hrows, by simp [Connection.commit], fun i => ?_⟩
        simp only [emittedCounters, commandsFrom_append, List.filter_append, hacks,
          hcommands, List.append_nil]
        rcases hcounters i with hnil | ⟨hone, hmem, hfresh⟩
        · exact .inl (by rw [hnil, List.append_nil])
        · exact .inr ⟨by rw [hone], hmem, hfresh⟩
    | some x =>
        refine .inl ⟨by simp [Connection.rollback], fun i => ?_⟩
        obtain ⟨e, hmem, hout, hentry⟩ := settleInsertion_ok_raises hpos
          (by rw [hexc]; simp)
        simp only [emittedCounters, commandsFrom_append, List.filter_append, hacks,
          hcommands, List.append_nil]
        -- the dead letter queue cannot be written: each way of being sound excludes it or
        -- leaves no counters to emit
        rcases h.settled with hzero | hentries | hnone | ⟨ids, hans, hall⟩ | ⟨x, hans, hne⟩
        · omega
        · exact absurd (hentries e hmem) hentry
        · have hnil : ((freshBatch stream w d).filter fun e => e.eventId = i).flatMap
              counterSideEffects = [] := by
            rw [List.flatMap_eq_nil_iff]
            intro e he
            simp [counterSideEffects, hnone e (List.mem_filter.mp he).1]
          rw [hnil, List.append_nil]
        · have hst := isolation_of_ok
            ⟨⟨w.committed, some ((freshEventIds w d.eventIds).map .dedup)⟩, [], 0⟩ rfl hans
          rw [hst] at hreturn
          simp only [Prod.mk.injEq, true_and] at hreturn
          rw [← hreturn] at hout
          exact absurd (hall e hmem) (by simpa using hout)
        · rw [isolation_of_error hans hne] at hreturn
          cases hreturn
  · -- the insertion raised, and everything was rolled back
    refine .inl ⟨?_, fun i => ?_⟩
    · simp only [hrun, Except.map, hconn]
      split <;> rfl
    · simp only [emittedCounters, hrun, Except.map, commandsFrom_append, List.filter_append,
        hacks, settleInsertion_error_counters, List.append_nil]

end

/-- What holds between iterations: every effect of an entry is covered by its
deduplication row. -/
structure DeduplicationInvariant (stream : Stream) (w : World) : Prop where
  exactlyOnce : ExactlyOnce stream w
  countersDeduplicated : ∀ i, emittedCounters w i ≠ [] → w.Committed (.dedup i)

theorem deduplicationInvariant_empty (stream : Stream) :
    DeduplicationInvariant stream World.empty where
  exactlyOnce :=
    { rowOnce := fun i => by simp [World.empty]
      countersOnce := fun i => .inl rfl
      rowDeduplicated := fun i h => by
        obtain ⟨tx, htx, _⟩ := h
        cases htx }
  countersDeduplicated i h := absurd rfl h

/-- What is committed after one more transaction. -/
theorem committed_append_iff {w w' : World} {tx : List DbWrite}
    (h : w'.committed = w.committed ++ [tx]) (x : DbWrite) :
    w'.Committed x ↔ w.Committed x ∨ x ∈ tx := by
  simp only [World.Committed, h, List.mem_append, List.mem_singleton]
  constructor
  · rintro ⟨tx', htx | rfl, hx⟩
    · exact .inl ⟨tx', htx, hx⟩
    · exact .inr hx
  · rintro (⟨tx', htx, hx⟩ | hx)
    · exact ⟨tx', .inl htx, hx⟩
    · exact ⟨tx, .inr rfl, hx⟩

/-- A row of the new transaction belongs to an entry that was fresh. -/
theorem fresh_of_row_mem {stream : Stream} {w : World} {d : Delivery} {rows : List DbWrite}
    (hrows : RowsOf (freshBatch stream w d) rows) {i : Int}
    (hi : .row i ∈ (freshEventIds w d.eventIds).map .dedup ++ rows) :
    i ∈ d.eventIds ∧ ¬ w.Committed (.dedup i) := by
  rcases List.mem_append.mp hi with hdedup | hrow
  · obtain ⟨j, _, hj⟩ := List.mem_map.mp hdedup
    cases hj
  · obtain ⟨e, he, hei⟩ := hrows _ hrow
    obtain ⟨hmem, hnot⟩ := List.mem_filter.mp he
    have hid : e.eventId ∈ d.eventIds := by
      rw [← batchOf_eventIds stream d.eventIds]
      exact List.mem_map_of_mem hmem
    injection hei with hei
    rw [hei]
    exact ⟨hid, by simpa using hnot⟩

/-- An iteration that commits nothing and emits no counter keeps the invariant. -/
theorem DeduplicationInvariant.of_same {stream : Stream} {w w' : World}
    (hinv : DeduplicationInvariant stream w) (hsame : w'.committed = w.committed)
    (hemitted : ∀ i, emittedCounters w' i = emittedCounters w i) :
    DeduplicationInvariant stream w' := by
  obtain ⟨⟨hrow, hcounters, hdedup⟩, hcovered⟩ := hinv
  have hcommitted : ∀ x, w'.Committed x ↔ w.Committed x := by
    intro x
    simp [World.Committed, hsame]
  refine ⟨⟨fun i => ?_, fun i => ?_, fun i hi => ?_⟩, fun i hi => ?_⟩
  · rw [hsame]
    exact hrow i
  · rw [hemitted]
    exact hcounters i
  · exact (hcommitted _).mpr (hdedup i ((hcommitted _).mp hi))
  · rw [hemitted] at hi
    exact (hcommitted _).mpr (hcovered i hi)

/-- A sound iteration keeps the invariant. -/
theorem insertionIteration_invariant {dumps : PyValue → Except Exn String}
    {cfg : ConsumerSettings} {stream : Stream} {w : World} {d : Delivery}
    (hinv : DeduplicationInvariant stream w) (h : Sound dumps cfg stream w d) :
    DeduplicationInvariant stream (insertionIteration dumps cfg stream w d) := by
  rcases insertionIteration_cases h with ⟨hsame, hemitted⟩ | ⟨rows, hrows, hnew, hemitted⟩
  · exact hinv.of_same hsame hemitted
  obtain ⟨⟨hrow, hcounters, hdedup⟩, hcovered⟩ := hinv
  have hcommitted := committed_append_iff hnew
  have hfresh : ∀ i, .row i ∈ (freshEventIds w d.eventIds).map .dedup ++ rows →
      i ∈ d.eventIds ∧ ¬ w.Committed (.dedup i) := fun i hi => fresh_of_row_mem hrows hi
  have hnewDedup : ∀ i ∈ d.eventIds, ¬ w.Committed (.dedup i) →
      (insertionIteration dumps cfg stream w d).Committed (.dedup i) := by
    intro i hmem hnot
    refine (hcommitted _).mpr (.inr (List.mem_append.mpr (.inl ?_)))
    exact List.mem_map_of_mem (by simp [freshEventIds, hmem, hnot])
  refine ⟨⟨fun i => ?_, fun i => ?_, fun i hi => ?_⟩, fun i hi => ?_⟩
  · rw [hnew, List.filter_append, List.length_append]
    by_cases hi : .row i ∈ (freshEventIds w d.eventIds).map .dedup ++ rows
    · -- its entry was fresh, so no earlier transaction holds its row
      have hnone : (w.committed.filter fun tx => .row i ∈ tx) = [] := by
        rw [List.filter_eq_nil_iff]
        intro tx htx hrowi
        exact (hfresh i hi).2 (hdedup i ⟨tx, htx, by simpa using hrowi⟩)
      simp [hnone, List.filter_cons]
      split <;> simp
    · have hold := hrow i
      simp only [List.filter_cons, hi, decide_false, Bool.false_eq_true, if_false,
        List.filter_nil, List.length_nil]
      omega
  · rcases hemitted i with hsame | ⟨hadd, hmem, hnot⟩
    · rw [hsame]
      exact hcounters i
    · have hnone : emittedCounters w i = [] := by
        by_contra hsome
        exact hnot (hcovered i hsome)
      right
      rw [hadd, hnone, List.nil_append]
  · rcases (hcommitted _).mp hi with hold | hi
    · exact (hcommitted _).mpr (.inl (hdedup i hold))
    · exact hnewDedup i (hfresh i hi).1 (hfresh i hi).2
  · rcases hemitted i with hsame | ⟨_, hmem, hnot⟩
    · rw [hsame] at hi
      exact (hcommitted _).mpr (.inl (hcovered i hi))
    · exact hnewDedup i hmem hnot

/-- In every run of a consumer whose iterations are all sound, whatever batches it is
handed, the entries of the stream are inserted exactly once in every state reached. -/
theorem insertion_exactly_once (dumps : PyValue → Except Exn String)
    (cfg : ConsumerSettings) (stream : Stream) (deliveries : List Delivery)
    (hsound : EachStep (insertionStep dumps cfg stream) (Sound dumps cfg stream)
      World.empty deliveries) :
    Always (insertionStep dumps cfg stream) (ExactlyOnce stream) World.empty deliveries := by
  have hall : Always (insertionStep dumps cfg stream) (DeduplicationInvariant stream)
      World.empty deliveries := by
    refine always_of_eachStep (fun _ _ _ _ _ _ => trivial) ?_ deliveries World.empty
      trivial (deduplicationInvariant_empty stream) hsound
    intro w d w' _ hinv hstep hsoundStep
    simp only [insertionStep, Option.some.injEq] at hstep
    rw [← hstep]
    exact insertionIteration_invariant hinv hsoundStep
  exact hall.imp fun w h => h.exactlyOnce

/-- A stream of post creations. -/
def postStream : Stream where
  entry i := postCreation i "a"
  entry_eventId _ := rfl

/-- The same entry twice, in two batches whose insertions succeed. -/
def repeatedDeliveries : List Delivery :=
  [⟨[1], fun _ _ => .ok [1]⟩, ⟨[1], fun _ _ => .ok [1]⟩]

theorem insertion_exactly_once_repeated :
    Always (insertionStep orjsonDumps postSettings postStream) (ExactlyOnce postStream)
      World.empty repeatedDeliveries := by
  have hsound : ∀ w, Sound orjsonDumps postSettings postStream w
      ⟨[1], fun _ _ => .ok [1]⟩ := by
    intro w
    refine ⟨?_, .inr ?_, .inr (.inr (.inr (.inl ⟨[1], rfl, ?_⟩)))⟩
    · intro i hi _ _
      simp only [List.mem_singleton] at hi
      simp [hi]
    · intro n events e he
      cases he
    · intro e he
      have hmem := (List.mem_filter.mp he).1
      simp only [batchOf, List.map_cons, List.map_nil, List.mem_singleton] at hmem
      rw [hmem]
      decide
  exact insertion_exactly_once orjsonDumps postSettings postStream repeatedDeliveries
    fun _ _ => ⟨hsound _, fun _ _ => ⟨hsound _, trivial⟩⟩

/-- A batch of one entry whose first insertion fails with a transient error. -/
def retriedDelivery : Delivery :=
  ⟨[1], fun n _ => if n = 0 then .error .operationalError else .ok [1]⟩

/-- The retry commits the row of the entry, and the rollback has taken its event id. -/
theorem insertionIteration_retried :
    (insertionIteration orjsonDumps postSettings postStream World.empty
      retriedDelivery).committed = [[.row 1]] := by
  have hfirst : batchInsertWithIsolation retriedDelivery.insert [postCreation 1 "a"]
      ⟨⟨[], some [.dedup 1]⟩, [], 0⟩ =
      (.error .operationalError, ⟨⟨[], some [.dedup 1]⟩, [], 1⟩) := by
    rw [batchInsertWithIsolation]
    rfl
  have hsecond : batchInsertWithIsolation retriedDelivery.insert [postCreation 1 "a"]
      ⟨⟨[], none⟩, [], 1⟩ = (.ok (), ⟨⟨[[.row 1]], none⟩, [1], 2⟩) := by
    rw [batchInsertWithIsolation]
    rfl
  have hrun : dbExecuteWithRetries InsertState.rollback postSettings.maxRetries
      (batchInsertWithIsolation retriedDelivery.insert [postCreation 1 "a"]) none
      ⟨⟨[], some [.dedup 1]⟩, [], 0⟩ = (.ok (some ()), ⟨⟨[[.row 1]], none⟩, [1], 2⟩) := by
    simp only [dbExecuteWithRetries, attemptsOr, postSettings, dbRetryLoop, hfirst]
    simp only [isPotentialTransientError, InsertState.rollback, Connection.rollback,
      if_true, hsecond]
  have htrim : trimDuplicateEvents [1] (batchOf postStream retriedDelivery.eventIds) =
      [postCreation 1 "a"] := by decide
  have hfresh : freshEventIds World.empty retriedDelivery.eventIds = [1] := by decide
  have hsettle : (settleInsertion orjsonDumps postSettings [postCreation 1 "a"]
      (.ok [1])).2 = none := by decide
  unfold insertionIteration
  simp only [batchOf_eventIds, hfresh, htrim]
  simp [Connection.idle, Connection.execute, World.empty, hrun, Except.map, hsettle,
    Connection.commit]

/-- The row of the entry is committed without its event id. -/
theorem insertion_not_exactly_once :
    ¬ Always (insertionStep orjsonDumps postSettings postStream) (ExactlyOnce postStream)
      World.empty [retriedDelivery] := by
  intro hall
  have hafter := (hall.2 _ rfl).rowDeduplicated 1
  simp only [World.Committed, insertionIteration_retried] at hafter
  exact absurd hafter (by decide)

end DatabaseWorkers
end Tenjin
