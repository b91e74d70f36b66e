import Tenjin.DatabaseWorkers.Associations
import Tenjin.ResourceAuxillary.RetryExecutors

/-!
# The ids that an insertion reports

`batch_insert_with_isolation` under `db_execute_with_retries`, with both insertion functions
of `insertions.py` and with failures at every statement: those of an insertion, and the one
that ends its block.

* `ReportState` is the connection with the list `inserted_ids`, and the calls of the
  insertion function: which rows the block of a call has left, and which ids it has reported.
* The first attempt works in the transaction that the deduplication has opened.  Behind its
  rollback every block is a transaction of its own, and nothing takes an id off the list.
* `ReportInv` says so of every state, and `kept_eq` which rows are kept in the end.
* Without failures at the end of a block this is the recursion of `Isolation`
  (`batchInsertReporting_rows`).
* Neither insertion function reports an id, so the list is right exactly when no accepted row
  is kept (`reportedIds_match_iff`).
-/

namespace Tenjin
namespace DatabaseWorkers

open Python Foundation ResourceAuxillary

/-- `STRONG_INSERTION_SQL`. -/
def strongInsertionSql : List Segment :=
  [.text "INSERT INTO ", .hole "table", .text " VALUES (", .hole "placeholders", .text ");"]

/-- `format_strong_insertion_sql`. -/
def formatStrongInsertionSql (table : String) (columns : List String) : Except Exn String :=
  sqlFormat strongInsertionSql
    [("table", identifier table), ("columns", identifiers columns),
      ("placeholders", pyJoin ", " (columns.map fun column => "%(" ++ column ++ ")s"))]

/-- What a call of an insertion function has done: the ids of the events whose rows it has
written, and the ids that it returns. -/
structure Insertion where
  written : List Int
  returned : List Int

section
variable (conv : Conversions) (db : AssociationDatabase)
  (executemany : ℕ → String → List (List (String × Cell)) → Except Exn Unit)

/-- `batch_insert_strong_entities`, called for the `n`-th time. -/
def batchInsertStrongEntities (n : ℕ) (events : List StreamedEvent) : Except Exn Insertion :=
  match events with
  | [] => .error .indexError
  | first :: _ =>
      match eventPayloadTypes first.name with
      -- marks the entire batch as failed
      | none => .ok ⟨[], []⟩
      | some fields => do
          let (table, _) ← resolveEntityMetadata first
          let columns := fields.map Prod.fst
          let insertionRecords ← events.mapM fun event =>
            (associationCells conv fields event).map (columns.zip ·)
          let insertionSql ← formatStrongInsertionSql table columns
          executemany n insertionSql insertionRecords
          return ⟨events.map fun event => event.eventId, []⟩

/-- The insertion function that `action` chooses.  The upsert returns the ids of the rows that
it writes. -/
def insertEntities (action : Option AssociationAction) (n : ℕ) (events : List StreamedEvent) :
    Except Exn Insertion :=
  match action with
  | some action =>
      (batchInsertAssociationEntities conv db action n events).map fun ids => ⟨ids, ids⟩
  | none => batchInsertStrongEntities conv executemany n events

end

/-- How the statement that ends a block fares: it may be executed without an answer. -/
inductive BlockEnd
  | executed
  | refused (e : Exn)
  | unanswered

/-- What the insertion function and the end of its block come to, at the `n`-th call. -/
structure InsertionEnvironment where
  insert : ℕ → List StreamedEvent → Except Exn Insertion
  blockEnd : ℕ → BlockEnd

/-- A call of the insertion function: whether its block was a part of an open transaction, the
rows that it has left there or committed, and the ids that it has reported. -/
structure InsertionCall where
  inTransaction : Bool
  written : List Int
  reported : List Int

/-- The connection, the list `inserted_ids` and the calls so far. -/
structure ReportState where
  conn : Connection DbWrite
  insertedIds : List Int
  calls : List InsertionCall

/-- The rollback leaves the list as it is. -/
def ReportState.rollback (st : ReportState) : ReportState :=
  { st with conn := st.conn.rollback }

/-- The connection after a block that writes rows. -/
def afterBlock (conn : Connection DbWrite) (written : List Int) : Connection DbWrite :=
  (conn.transaction fun c =>
    ((.ok () : Except Exn Unit), c.execute (written.map DbWrite.row))).2

section
variable (env : InsertionEnvironment)

/-- The `async with conn.transaction()` block.  The ids are added inside it. -/
def reportingBlock (events : List StreamedEvent) (st : ReportState) :
    Except Exn Unit × ReportState :=
  let inTransaction := st.conn.current.isSome
  match env.insert st.calls.length events with
  | .error e => (.error e, { st with calls := st.calls ++ [⟨inTransaction, [], []⟩] })
  | .ok insertion =>
      let insertedIds := st.insertedIds ++ insertion.returned
      let failed := st.calls ++ [⟨inTransaction, [], insertion.returned⟩]
      let done := st.calls ++ [⟨inTransaction, insertion.written, insertion.returned⟩]
      match env.blockEnd st.calls.length with
      | .refused e => (.error e, ⟨st.conn, insertedIds, failed⟩)
      | .executed => (.ok (), ⟨afterBlock st.conn insertion.written, insertedIds, done⟩)
      | .unanswered =>
          (.error .operationalError, ⟨afterBlock st.conn insertion.written, insertedIds, done⟩)

/-- `batch_insert_with_isolation`. -/
def batchInsertReporting (events : List StreamedEvent) (st : ReportState) :
    Except Exn Unit × ReportState :=
  match reportingBlock env events st with
  | (.ok _, st') => (.ok (), st')
  | (.error .integrityError, st') =>
      -- an empty sequence is its own half
      if events.length = 0 then (.error .recursionError, st')
      else if events.length = 1 then (.ok (), st')
      else
        let bisectedLength := events.length / 2
        match batchInsertReporting (events.take bisectedLength) st' with
        | (.error e, st'') => (.error e, st'')
        | (.ok _, st'') => batchInsertReporting (events.drop bisectedLength) st''
  | (.error e, st') => (.error e, st')
termination_by events.length
decreasing_by
  all_goals simp only [List.length_take, List.length_drop]
  all_goals omega

/-- The state in which the consumer starts the insertion: the ids of the fresh events are in
the open transaction. -/
def ReportState.start (committed : List (List DbWrite)) (fresh : List Int) : ReportState :=
  ⟨⟨committed, some (fresh.map .dedup)⟩, [], []⟩

/-- `db_execute_with_retries` of the insertion, as the consumer calls it. -/
def runInsertion (maxRetries : ℕ) (batch : List StreamedEvent) (st : ReportState) :
    Except Exn (Option Unit) × ReportState :=
  dbExecuteWithRetriesOn ReportState.rollback maxRetries (batchInsertReporting env batch) none st

end

/-- The ids of the rows among some writes. -/
def rowIds (writes : List DbWrite) : List Int :=
  writes.filterMap fun
    | .row eventId => some eventId
    | .dedup _ => none

/-- The rows that are committed by now or are part of the transaction being committed. -/
def keptRows (committed : List (List DbWrite)) (st : ReportState) : List Int :=
  rowIds ((st.conn.committed.drop committed.length).flatten ++ st.conn.current.getD [])

/-- Each id is listed exactly once, and exactly those of the rows are. -/
structure IdsMatchRows (ids rows : List Int) : Prop where
  once : ids.Nodup
  same : ∀ i, i ∈ ids ↔ i ∈ rows

/-- When the run returns normally, the list is right. -/
def ReportsMatch (committed : List (List DbWrite))
    (run : Except Exn (Option Unit) × ReportState) : Prop :=
  ∀ result st, run = (.ok result, st) → IdsMatchRows st.insertedIds (keptRows committed st)

/-- When the run returns normally, the calls whose rows the database has accepted were made in
the first transaction, and that one has been rolled back. -/
def AcceptedUndone (run : Except Exn (Option Unit) × ReportState) : Prop :=
  ∀ result st, run = (.ok result, st) →
    ∀ call ∈ st.calls, call.written ≠ [] → call.inTransaction = true ∧ st.conn.current = none

/-- The calls whose rows are kept. -/
def ReportState.staying (st : ReportState) : List InsertionCall :=
  if st.conn.current.isSome then st.calls
  else st.calls.filter fun call => !call.inTransaction

/-- The list holds what the calls have reported.  Either the first transaction is still open,
and holds the rows of all calls; or it was rolled back, and what is committed since then are
the rows of the calls that had a transaction of their own. -/
structure ReportInv (committed : List (List DbWrite)) (fresh : List Int) (st : ReportState) :
    Prop where
  ids : st.insertedIds = st.calls.flatMap InsertionCall.reported
  conn :
    (st.conn = ⟨committed, some (fresh.map DbWrite.dedup ++
        (st.calls.flatMap InsertionCall.written).map DbWrite.row)⟩ ∧
      ∀ call ∈ st.calls, call.inTransaction = true) ∨
    ∃ blocks : List (List Int),
      st.conn = ⟨committed ++ blocks.map fun block => block.map DbWrite.row, none⟩ ∧
      blocks.flatten = (st.calls.filter fun call => !call.inTransaction).flatMap
        InsertionCall.written

@[simp] theorem rowIds_append (ws ws' : List DbWrite) :
    rowIds (ws ++ ws') = rowIds ws ++ rowIds ws' := by
  simp [rowIds]

@[simp] theorem rowIds_dedup (ids : List Int) : rowIds (ids.map .dedup) = [] := by
  simp [rowIds, List.filterMap_map]

@[simp] theorem rowIds_row (ids : List Int) : rowIds (ids.map .row) = ids := by
  simp [rowIds, List.filterMap_map]

theorem rowIds_flatten (blocks : List (List Int)) :
    rowIds (blocks.map fun block => block.map DbWrite.row).flatten = blocks.flatten := by
  induction blocks with
  | nil => rfl
  | cons block blocks ih =>
      rw [List.map_cons, List.flatten_cons, rowIds_append, rowIds_row, ih, List.flatten_cons]

section
variable {committed : List (List DbWrite)} {fresh : List Int} {st : ReportState}

theorem ReportInv.start (committed : List (List DbWrite)) (fresh : List Int) :
    ReportInv committed fresh (ReportState.start committed fresh) where
  ids := rfl
  conn := .inl ⟨by simp [ReportState.start], fun call h => by cases h⟩

/-- The rows that are kept are those of the calls whose rows are kept. -/
theorem ReportInv.kept_eq (h : ReportInv committed fresh st) :
    keptRows committed st = st.staying.flatMap InsertionCall.written := by
  rcases h.conn with ⟨hconn, _⟩ | ⟨blocks, hconn, hblocks⟩
  · simp [keptRows, ReportState.staying, hconn]
  · simp only [keptRows, ReportState.staying, hconn, List.drop_left, Option.getD_none,
      List.append_nil, Option.isSome_none, Bool.false_eq_true, if_false]
    rw [rowIds_flatten, hblocks]

/-- Rolling back keeps the invariant. -/
theorem ReportInv.rollback (h : ReportInv committed fresh st) :
    ReportInv committed fresh st.rollback := by
  refine ⟨h.ids, .inr ?_⟩
  rcases h.conn with ⟨hconn, hall⟩ | ⟨blocks, hconn, hblocks⟩
  · -- the calls so far were all made in the transaction that is undone
    have hown : (st.calls.filter fun call => !call.inTransaction) = [] := by
      rw [List.filter_eq_nil_iff]
      intro call hcall
      simp [hall call hcall]
    refine ⟨[], ?_, ?_⟩
    · simp [ReportState.rollback, Connection.rollback, hconn]
    · show [] = _
      rw [show st.rollback.calls = st.calls from rfl, hown]
      rfl
  · exact ⟨blocks, by simp [ReportState.rollback, Connection.rollback, hconn], hblocks⟩

/-- One more call, whose block leaves its rows where it was run. -/
theorem ReportInv.call (h : ReportInv committed fresh st) (written reported : List Int) :
    ReportInv committed fresh ⟨afterBlock st.conn written, st.insertedIds ++ reported,
      st.calls ++ [⟨st.conn.current.isSome, written, reported⟩]⟩ := by
  refine ⟨by simp [h.ids], ?_⟩
  rcases h.conn with ⟨hconn, hall⟩ | ⟨blocks, hconn, hblocks⟩
  · left
    constructor
    · simp [afterBlock, Connection.transaction, Connection.execute, hconn]
    · intro call hcall
      rcases List.mem_append.mp hcall with hold | hnew
      · exact hall call hold
      · rw [List.mem_singleton.mp hnew, hconn]
        rfl
  · refine .inr ⟨blocks ++ [written], ?_, ?_⟩
    · simp [afterBlock, Connection.transaction, Connection.execute, Connection.commit, hconn]
    · rw [List.flatten_append, hblocks, hconn]
      simp

/-- One more call without rows changes nothing but the list. -/
theorem ReportInv.emptyCall (h : ReportInv committed fresh st) (reported : List Int) :
    ReportInv committed fresh ⟨st.conn, st.insertedIds ++ reported,
      st.calls ++ [⟨st.conn.current.isSome, [], reported⟩]⟩ := by
  refine ⟨by simp [h.ids], ?_⟩
  rcases h.conn with ⟨hconn, hall⟩ | ⟨blocks, hconn, hblocks⟩
  · left
    constructor
    · simp [hconn]
    · intro call hcall
      rcases List.mem_append.mp hcall with hold | hnew
      · exact hall call hold
      · rw [List.mem_singleton.mp hnew, hconn]
        rfl
  · refine .inr ⟨blocks, hconn, ?_⟩
    rw [hblocks, hconn]
    simp

end

section
variable {env : InsertionEnvironment}

/-- A property of states that one block keeps, the whole recursion keeps. -/
theorem batchInsertReporting_preserves {I : ReportState → Prop}
    (hblock : ∀ events st, I st → I (reportingBlock env events st).2)
    (events : List StreamedEvent) (st : ReportState) (hst : I st) :
    I (batchInsertReporting env events st).2 := by
  -- on the length of the batch: both halves of two or more are shorter
  induction hlen : events.length using Nat.strongRecOn generalizing events st with
  | ind n ih =>
      have hafter := hblock events st hst
      rw [batchInsertReporting]
      split
      · rename_i st' hrun
        rwa [hrun] at hafter
      · rename_i st' hrun
        rw [hrun] at hafter
        split
        · exact hafter
        split
        · exact hafter
        have hleft := ih _ (by rw [← hlen, List.length_take]; omega)
          (events.take (events.length / 2)) st' hafter rfl
        dsimp only
        split
        · rename_i e st'' hfirst
          rwa [hfirst] at hleft
        · rename_i st'' hfirst
          rw [hfirst] at hleft
          exact ih _ (by rw [← hlen, List.length_drop]; omega)
            (events.drop (events.length / 2)) st'' hleft rfl
      · rename_i e st' _ hrun
        rwa [hrun] at hafter

/-- So does the run with its retries, if the rollback keeps it. -/
theorem runInsertion_preserves {I : ReportState → Prop}
    (hblock : ∀ events st, I st → I (reportingBlock env events st).2)
    (hrollback : ∀ st, I st → I st.rollback) (maxRetries : ℕ) (batch : List StreamedEvent)
    (st : ReportState) (hst : I st) : I (runInsertion env maxRetries batch st).2 :=
  retry_preserves (fun st hst => batchInsertReporting_preserves hblock batch st hst) hrollback
    _ none st hst

theorem reportInv_block {committed : List (List DbWrite)} {fresh : List Int}
    (events : List StreamedEvent) (st : ReportState) (h : ReportInv committed fresh st) :
    ReportInv committed fresh (reportingBlock env events st).2 := by
  unfold reportingBlock
  split
  · have hempty := h.emptyCall []
    rwa [List.append_nil] at hempty
  · split
    · exact h.emptyCall _
    · exact h.call _ _
    · exact h.call _ _

variable (env) in
/-- Whatever fails, the rows that a run keeps are those of the calls whose rows are kept, and
the list holds what all calls have reported. -/
theorem runInsertion_spec (maxRetries : ℕ) (batch : List StreamedEvent)
    (committed : List (List DbWrite)) (fresh : List Int) :
    let st := (runInsertion env maxRetries batch (ReportState.start committed fresh)).2
    st.insertedIds = st.calls.flatMap InsertionCall.reported ∧
      keptRows committed st = st.staying.flatMap InsertionCall.written := by
  have hinv : ReportInv committed fresh
      (runInsertion env maxRetries batch (ReportState.start committed fresh)).2 :=
    runInsertion_preserves reportInv_block (fun _ h => h.rollback) maxRetries batch _
      (ReportInv.start committed fresh)
  exact ⟨hinv.ids, hinv.kept_eq⟩

variable (env) in
/-- Where no call ever returns an id, none is reported. -/
theorem reports_nothing
    (hnone : ∀ n events insertion, env.insert n events = .ok insertion → insertion.returned = [])
    (maxRetries : ℕ) (batch : List StreamedEvent) (committed : List (List DbWrite))
    (fresh : List Int) :
    ∀ call ∈ (runInsertion env maxRetries batch (ReportState.start committed fresh)).2.calls,
      call.reported = [] := by
  refine runInsertion_preserves (I := fun st => ∀ call ∈ st.calls, call.reported = [])
    (fun events st h => ?_) (fun st h => h) maxRetries batch _ (fun call hcall => by cases hcall)
  have hadd : ∀ call : InsertionCall, call.reported = [] →
      ∀ other ∈ st.calls ++ [call], other.reported = [] := by
    intro call hcall other hother
    rcases List.mem_append.mp hother with hold | hnew
    · exact h other hold
    · rw [List.mem_singleton.mp hnew]
      exact hcall
  unfold reportingBlock
  split
  · exact hadd _ rfl
  · rename_i insertion hinsert
    have hreturned := hnone _ _ _ hinsert
    split
    · exact hadd _ hreturned
    · exact hadd _ hreturned
    · exact hadd _ hreturned

end

/-- The environment in which each call writes a row for each event, or raises, and in which
every block that is reached ends well. -/
def rowsEnvironment (insert : ℕ → List StreamedEvent → Except Exn (List Int)) :
    InsertionEnvironment where
  insert n events := (insert n events).map fun ids => ⟨events.map (·.eventId), ids⟩
  blockEnd _ := .executed

/-- The parts of the state that `Isolation` has. -/
def ReportState.toInsertState (st : ReportState) : InsertState :=
  ⟨st.conn, st.insertedIds, st.calls.length⟩

theorem reportingBlock_rows (insert : ℕ → List StreamedEvent → Except Exn (List Int))
    (events : List StreamedEvent) (st : ReportState) :
    insertBlock insert events st.toInsertState =
      ((reportingBlock (rowsEnvironment insert) events st).1,
        (reportingBlock (rowsEnvironment insert) events st).2.toInsertState) := by
  obtain ⟨⟨committed, current⟩, insertedIds, calls⟩ := st
  cases hanswer : insert calls.length events with
  | error e =>
      rw [insertBlock_of_error hanswer]
      simp [reportingBlock, rowsEnvironment, ReportState.toInsertState, hanswer, Except.map]
  | ok ids =>
      have hrows : (events.map fun e => DbWrite.row e.eventId) =
          (events.map (·.eventId)).map DbWrite.row := by
        rw [List.map_map]
        rfl
      cases current <;>
        simp [insertBlock, reportingBlock, rowsEnvironment, ReportState.toInsertState,
          afterBlock, Connection.transaction, hanswer, hrows, Except.map]

/-- In that environment the recursion is the one of `Isolation`. -/
theorem batchInsertReporting_rows (insert : ℕ → List StreamedEvent → Except Exn (List Int))
    (events : List StreamedEvent) (st : ReportState) :
    batchInsertWithIsolation insert events st.toInsertState =
      ((batchInsertReporting (rowsEnvironment insert) events st).1,
        (batchInsertReporting (rowsEnvironment insert) events st).2.toInsertState) := by
  induction hlen : events.length using Nat.strongRecOn generalizing events st with
  | ind n ih =>
      rw [batchInsertWithIsolation, batchInsertReporting, reportingBlock_rows]
      cases hblock : reportingBlock (rowsEnvironment insert) events st with
      | mk answer st' =>
          cases answer with
          | ok _ => rfl
          | error exn =>
              by_cases hintegrity : exn = .integrityError
              · subst hintegrity
                dsimp only
                by_cases hempty : events.length = 0
                · simp only [hempty, if_true]
                by_cases hsingle : events.length = 1
                · rw [if_neg hempty, if_pos hsingle, if_neg hempty, if_pos hsingle]
                simp only [hempty, hsingle, if_false]
                -- the two halves, each from what the one before it has left
                rw [ih _ (by rw [← hlen, List.length_take]; omega)
                  (events.take (events.length / 2)) st' rfl]
                cases hfirst : batchInsertReporting (rowsEnvironment insert)
                    (events.take (events.length / 2)) st' with
                | mk result mid =>
                    cases result with
                    | error e => rfl
                    | ok _ =>
                        exact ih _ (by rw [← hlen, List.length_drop]; omega)
                          (events.drop (events.length / 2)) mid rfl
              · cases exn <;> first | rfl | exact absurd rfl hintegrity

section
variable {conv : Conversions} {db : AssociationDatabase}
  {executemany : ℕ → String → List (List (String × Cell)) → Except Exn Unit}

/-- Neither insertion function returns an id. -/
theorem insertEntities_returned {action : Option AssociationAction} {n : ℕ}
    {events : List StreamedEvent} {insertion : Insertion}
    (h : insertEntities conv db executemany action n events = .ok insertion) :
    insertion.returned = [] := by
  cases action with
  | some action =>
      cases hids : batchInsertAssociationEntities conv db action n events with
      | error e => simp [insertEntities, hids, Except.map] at h
      | ok ids =>
          exact absurd hids (batchInsertAssociationEntities_ne_ok conv db action n events ids)
  | none =>
      unfold insertEntities batchInsertStrongEntities at h
      dsimp only at h
      split at h
      · cases h
      split at h
      · cases h
        rfl
      obtain ⟨⟨table, _⟩, _, h⟩ := except_bind_eq_ok h
      obtain ⟨records, _, h⟩ := except_bind_eq_ok h
      obtain ⟨statement, _, h⟩ := except_bind_eq_ok h
      obtain ⟨_, _, h⟩ := except_bind_eq_ok h
      cases h
      rfl

end

/-- The rows of the calls that stay are none if and only if every call with accepted rows was
made in a transaction that is gone. -/
theorem staying_written_eq_nil_iff (st : ReportState) :
    st.staying.flatMap InsertionCall.written = [] ↔
      ∀ call ∈ st.calls, call.written ≠ [] →
        call.inTransaction = true ∧ st.conn.current = none := by
  rw [List.flatMap_eq_nil_iff]
  unfold ReportState.staying
  cases hcurrent : st.conn.current with
  | some writes =>
      simp only [Option.isSome_some, if_true, reduceCtorEq, and_false, imp_false, not_not]
  | none =>
      simp only [Option.isSome_none, Bool.false_eq_true, if_false, List.mem_filter,
        Bool.not_eq_true', and_true]
      constructor
      · intro h call hcall hwritten
        by_contra hown
        exact hwritten (h call ⟨hcall, by simpa using hown⟩)
      · intro h call hcall
        by_contra hwritten
        rw [h call hcall.1 hwritten] at hcall
        exact absurd hcall.2 (by decide)

/-- For every batch, both kinds of insertion and every pattern of failures: the reported ids
are those of the kept rows if and only if every row that the database has accepted was undone
with the first transaction. -/
theorem reportedIds_match_iff (conv : Conversions) (db : AssociationDatabase)
    (executemany : ℕ → String → List (List (String × Cell)) → Except Exn Unit)
    (blockEnd : ℕ → BlockEnd) (action : Option AssociationAction) (maxRetries : ℕ)
    (batch : List StreamedEvent) (committed : List (List DbWrite)) (fresh : List Int) :
    let run := runInsertion ⟨insertEntities conv db executemany action, blockEnd⟩ maxRetries
      batch (ReportState.start committed fresh)
    ReportsMatch committed run ↔ AcceptedUndone run := by
  intro run
  obtain ⟨hids, hkept⟩ := runInsertion_spec
    ⟨insertEntities conv db executemany action, blockEnd⟩ maxRetries batch committed fresh
  have hnothing := reports_nothing ⟨insertEntities conv db executemany action, blockEnd⟩
    (fun _ _ _ h => insertEntities_returned h) maxRetries batch committed fresh
  have hnil : run.2.insertedIds = [] := by
    rw [hids, List.flatMap_eq_nil_iff]
    exact hnothing
  unfold ReportsMatch AcceptedUndone
  apply forall_congr'
  intro result
  apply forall_congr'
  intro st
  apply imp_congr_right
  intro hrun
  have hst : run.2 = st := by rw [hrun]
  rw [← hst, hnil, ← staying_written_eq_nil_iff]
  show IdsMatchRows [] (keptRows committed run.2) ↔ _
  rw [hkept]
  constructor
  · intro h
    rw [List.eq_nil_iff_forall_not_mem]
    exact fun i hi => absurd ((h.same i).mpr hi) (List.not_mem_nil)
  · intro h
    exact ⟨List.nodup_nil, fun i => by rw [h]⟩

/-- A batch whose first block is executed is reported and kept as that block says. -/
theorem runInsertion_executed {env : InsertionEnvironment} {batch : List StreamedEvent}
    {insertion : Insertion} (hinsert : env.insert 0 batch = .ok insertion)
    (hend : env.blockEnd 0 = .executed) (maxRetries : ℕ) (committed : List (List DbWrite))
    (fresh : List Int) :
    runInsertion env (maxRetries + 1) batch (ReportState.start committed fresh) =
      (.ok (some ()),
        ⟨⟨committed, some (fresh.map DbWrite.dedup ++ insertion.written.map DbWrite.row)⟩,
          insertion.returned, [⟨true, insertion.written, insertion.returned⟩]⟩) := by
  have hblock : reportingBlock env batch (ReportState.start committed fresh) =
      (.ok (), ⟨⟨committed, some (fresh.map DbWrite.dedup ++ insertion.written.map .row)⟩,
        insertion.returned, [⟨true, insertion.written, insertion.returned⟩]⟩) := by
    simp [reportingBlock, ReportState.start, hinsert, hend, afterBlock, Connection.transaction,
      Connection.execute]
  have hattempt : batchInsertReporting env batch (ReportState.start committed fresh) =
      (.ok (), ⟨⟨committed, some (fresh.map DbWrite.dedup ++ insertion.written.map .row)⟩,
        insertion.returned, [⟨true, insertion.written, insertion.returned⟩]⟩) := by
    rw [batchInsertReporting, hblock]
  show retry isPotentialTransientError ReportState.rollback (batchInsertReporting env batch)
    (maxRetries + 1) none _ = _
  rw [retry, hattempt]

/-- A user reports a post. -/
def postReportEvent : StreamedEvent where
  name := .postReport
  payload := [("user_id", .int 7), ("post_id", .int 5), ("report_tag", .str "spam"),
    ("report_description", .str "links"), ("report_time", .str "2024-05-01T00:00:00+00:00")]
  sideEffects := {}
  eventId := 1

/-- The row of that report is kept, and its id is not reported. -/
theorem postReport_ids_not_matching :
    ¬ ReportsMatch [] (runInsertion
      ⟨insertEntities textConversions answeringDatabase (fun _ _ _ => .ok ()) none,
        fun _ => .executed⟩ 3 [postReportEvent] (ReportState.start [] [1])) := by
  intro hmatch
  have hinsert : insertEntities textConversions answeringDatabase (fun _ _ _ => .ok ()) none 0
      [postReportEvent] = .ok ⟨[1], []⟩ := rfl
  rw [runInsertion_executed hinsert rfl] at hmatch
  have hsame := (hmatch _ _ rfl).same 1
  have hkept : (1 : Int) ∈ keptRows []
      ⟨⟨[], some ([1].map DbWrite.dedup ++ [1].map DbWrite.row)⟩, [], [⟨true, [1], []⟩]⟩ := by
    decide
  exact absurd (hsame.mpr hkept) List.not_mem_nil

end DatabaseWorkers
end Tenjin
