import Tenjin.DatabaseWorkers.Isolation
import Tenjin.Foundation.Bisection

/-!
# What isolation leaves of a batch

`batch_insert_with_isolation` of `insertions.py` over any database.

* The database is a state of any type.  The insertion function answers from it, and the
  `async with conn.transaction()` around the call undoes what a call that raises has done.
* `batchInsertWithIsolationOn_eq_bisect` — with integrity errors alone it is a bisection,
  which splits the batch into pieces that take effect or are single events given up.
* On a connection whose insertion answers the same at every call it is the recursion of
  `Isolation` (`batchInsertWithIsolation_onConnection`).
-/

namespace Tenjin
namespace DatabaseWorkers

open Python Foundation ResourceAuxillary

variable {σ : Type}

/-- The database and the list `successfully_inserted`. -/
structure BatchState (σ : Type) where
  database : σ
  successfullyInserted : List Int

section
variable (insertEntities : List StreamedEvent → σ → Except Exn (List Int × σ))

/-- `batch_insert_with_isolation`, with the insertion function that `action` chooses. -/
def batchInsertWithIsolationOn (events : List StreamedEvent) (st : BatchState σ) :
    Except Exn Unit × BatchState σ :=
  match insertEntities events st.database with
  | .ok (ids, database) => (.ok (), ⟨database, st.successfullyInserted ++ ids⟩)
  | .error .integrityError =>
      -- an empty sequence is its own half
      if events.length = 0 then (.error .recursionError, st)
      else if events.length = 1 then (.ok (), st)
      else
        let bisectedLength := events.length / 2
        match batchInsertWithIsolationOn (events.take bisectedLength) st with
        | (.error e, st') => (.error e, st')
        | (.ok _, st') => batchInsertWithIsolationOn (events.drop bisectedLength) st'
  | .error e => (.error e, st)
termination_by events.length
decreasing_by
  all_goals simp only [List.length_take, List.length_drop]
  all_goals omega

/-- The insertion as an attempt: it takes effect, or fails. -/
def attemptInsertion (events : List StreamedEvent) (database : σ) : Option (List Int × σ) :=
  (insertEntities events database).toOption

end

/-- The ids that the pieces of a batch report. -/
def reportedIds (pieces : List (Piece StreamedEvent Int)) : List Int :=
  (pieces.map Piece.results).flatten

/-- The batch that the pieces make up. -/
def coveredEvents (pieces : List (Piece StreamedEvent Int)) : List StreamedEvent :=
  (pieces.map Piece.items).flatten

/-- The events of the pieces that took effect. -/
def insertedEvents (pieces : List (Piece StreamedEvent Int)) : List StreamedEvent :=
  (pieces.map Piece.inserted).flatten

section
variable {insertEntities : List StreamedEvent → σ → Except Exn (List Int × σ)}

theorem attemptInsertion_eq_none_iff {events : List StreamedEvent} {database : σ} :
    attemptInsertion insertEntities events database = none ↔
      ∃ exn, insertEntities events database = .error exn := by
  unfold attemptInsertion
  cases insertEntities events database with
  | ok outcome => simp [Except.toOption]
  | error exn => simp [Except.toOption]

/-- An insertion that raises nothing but integrity errors is isolated by bisection. -/
theorem batchInsertWithIsolationOn_eq_bisect
    (hatomic : ∀ events database exn, insertEntities events database = .error exn →
      exn = .integrityError)
    (events : List StreamedEvent) (hne : events ≠ []) (st : BatchState σ) :
    batchInsertWithIsolationOn insertEntities events st =
      (.ok (), ⟨(bisect (attemptInsertion insertEntities) events st.database).2,
        st.successfullyInserted ++
          (bisect (attemptInsertion insertEntities) events st.database).1⟩) := by
  -- the recursion and the bisection halve the same batches
  induction hlen : events.length using Nat.strongRecOn generalizing events st with
  | ind n ih =>
      rw [batchInsertWithIsolationOn]
      cases hanswer : insertEntities events st.database with
      | ok outcome =>
          obtain ⟨ids, database⟩ := outcome
          have hattempt : attemptInsertion insertEntities events st.database =
              some (ids, database) := by
            simp [attemptInsertion, hanswer, Except.toOption]
          rw [bisect_of_some hattempt]
      | error exn =>
          obtain rfl := hatomic events st.database exn hanswer
          have hattempt : attemptInsertion insertEntities events st.database = none :=
            attemptInsertion_eq_none_iff.mpr ⟨_, hanswer⟩
          have hpos : events.length ≠ 0 := fun h => hne (List.length_eq_zero_iff.mp h)
          simp only [hpos, if_false]
          by_cases hsingle : events.length = 1
          · rw [if_pos hsingle, bisect_of_single hattempt (by omega)]
            simp
          · rw [if_neg hsingle, bisect_of_halves hattempt (by omega)]
            have hhalves : events.take (events.length / 2) ≠ [] ∧
                events.drop (events.length / 2) ≠ [] := halves_ne_nil (by omega)
            rw [ih _ (by rw [← hlen, List.length_take]; omega)
              (events.take (events.length / 2)) hhalves.1 st rfl]
            dsimp only
            rw [ih _ (by rw [← hlen, List.length_drop]; omega)
              (events.drop (events.length / 2)) hhalves.2 _ rfl]
            simp only [List.append_assoc]

/-- The isolation splits the batch into consecutive pieces, each of which takes effect
once or is a single failed event, and reports the ids of the effective ones in order.
Where an insertion fails exactly for an offending event, the other events are inserted. -/
theorem batchInsertWithIsolationOn_isolates
    (hatomic : ∀ events database exn, insertEntities events database = .error exn →
      exn = .integrityError)
    (events : List StreamedEvent) (hne : events ≠ []) (st : BatchState σ) :
    ∃ pieces database,
      batchInsertWithIsolationOn insertEntities events st =
        (.ok (), ⟨database, st.successfullyInserted ++ reportedIds pieces⟩) ∧
      Threads (attemptInsertion insertEntities) st.database pieces database ∧
      coveredEvents pieces = events ∧
      ∀ offending : StreamedEvent → Bool,
        (∀ sub db, (∃ exn, insertEntities sub db = .error exn) ↔
          ∃ event ∈ sub, offending event = true) →
        insertedEvents pieces = events.filter fun event => !offending event := by
  obtain ⟨pieces, hthreads, hitems, hresults⟩ : ∃ pieces,
      Threads (attemptInsertion insertEntities) st.database pieces
        (bisect (attemptInsertion insertEntities) events st.database).2 ∧
      coveredEvents pieces = events ∧
      reportedIds pieces = (bisect (attemptInsertion insertEntities) events st.database).1 :=
    bisect_threads events hne st.database
  refine ⟨pieces, (bisect (attemptInsertion insertEntities) events st.database).2, ?_,
    hthreads, hitems, fun offending hoffending => ?_⟩
  · rw [batchInsertWithIsolationOn_eq_bisect hatomic events hne st, hresults]
  · have hfails : ∀ sub db, attemptInsertion insertEntities sub db = none ↔
        ∃ event ∈ sub, offending event = true := by
      intro sub db
      rw [attemptInsertion_eq_none_iff]
      exact hoffending sub db
    rw [← hitems]
    exact hthreads.inserted_eq hfails

/-- The creation of a post. -/
def creationOf (eventId : Int) : StreamedEvent where
  name := .postCreate
  payload := [("title", .str "first")]
  sideEffects := {}
  eventId := eventId

/-- An insertion into a table of ids that has a constraint against the id two. -/
def insertUnlessTwo (events : List StreamedEvent) (table : List Int) :
    Except Exn (List Int × List Int) :=
  if ∃ event ∈ events, event.eventId = 2 then .error .integrityError
  else .ok (events.map fun e => e.eventId, table ++ events.map fun e => e.eventId)

/-- The three posts one, two and three. -/
theorem batchInsertWithIsolationOn_isolates_three :
    ∃ pieces table,
      batchInsertWithIsolationOn insertUnlessTwo [creationOf 1, creationOf 2, creationOf 3]
          ⟨[7], []⟩ = (.ok (), ⟨table, reportedIds pieces⟩) ∧
      Threads (attemptInsertion insertUnlessTwo) [7] pieces table ∧
      coveredEvents pieces = [creationOf 1, creationOf 2, creationOf 3] ∧
      insertedEvents pieces = [creationOf 1, creationOf 3] := by
  have hatomic : ∀ events table exn, insertUnlessTwo events table = .error exn →
      exn = .integrityError := by
    intro events table exn h
    unfold insertUnlessTwo at h
    split at h
    · cases h
      rfl
    · cases h
  have hoffending : ∀ sub table, (∃ exn, insertUnlessTwo sub table = .error exn) ↔
      ∃ event ∈ sub, (event.eventId == 2) = true := by
    intro sub table
    unfold insertUnlessTwo
    split
    · rename_i h
      simpa using h
    · rename_i h
      simpa using h
  obtain ⟨pieces, table, hrun, hthreads, hbatch, hinserted⟩ :=
    batchInsertWithIsolationOn_isolates hatomic [creationOf 1, creationOf 2, creationOf 3]
      (by simp) ⟨[7], []⟩
  exact ⟨pieces, table, hrun, hthreads, hbatch, hinserted (fun e => e.eventId == 2) hoffending⟩

/-- The insertion on a connection, in a transaction or savepoint of its own. -/
def onConnection (insert : List StreamedEvent → Except Exn (List Int))
    (events : List StreamedEvent) (conn : Connection DbWrite) :
    Except Exn (List Int × Connection DbWrite) :=
  let (answer, conn') := conn.transaction fun c =>
    match insert events with
    | .ok ids => (.ok ids, c.execute (events.map fun e => .row e.eventId))
    | .error e => (.error e, c)
  answer.map fun ids => (ids, conn')

/-- One block over a connection is the insertion on it. -/
theorem insertBlock_onConnection (insert : List StreamedEvent → Except Exn (List Int))
    (events : List StreamedEvent) (st : InsertState) :
    insertBlock (fun _ => insert) events st =
      match onConnection insert events st.conn with
      | .ok (ids, conn) => (.ok (), ⟨conn, st.insertedIds ++ ids, st.calls + 1⟩)
      | .error e => (.error e, ⟨st.conn, st.insertedIds, st.calls + 1⟩) := by
  cases hanswer : insert events with
  | error e =>
      have herror : (fun _ : ℕ => insert) st.calls events = .error e := hanswer
      rw [insertBlock_of_error herror]
      obtain ⟨⟨committed, current⟩, inserted, calls⟩ := st
      cases current <;> simp [onConnection, Connection.transaction, hanswer, Except.map]
  | ok ids =>
      obtain ⟨⟨committed, current⟩, inserted, calls⟩ := st
      cases current <;>
        simp [insertBlock, onConnection, Connection.transaction, hanswer, Except.map]

/-- The recursion over a connection is the one over a database that is a connection. -/
theorem batchInsertWithIsolation_onConnection
    (insert : List StreamedEvent → Except Exn (List Int)) (events : List StreamedEvent)
    (st : InsertState) :
    ∃ calls, batchInsertWithIsolation (fun _ => insert) events st =
      ((batchInsertWithIsolationOn (onConnection insert) events
          ⟨st.conn, st.insertedIds⟩).1,
        ⟨(batchInsertWithIsolationOn (onConnection insert) events
            ⟨st.conn, st.insertedIds⟩).2.database,
          (batchInsertWithIsolationOn (onConnection insert) events
            ⟨st.conn, st.insertedIds⟩).2.successfullyInserted, calls⟩) := by
  induction hlen : events.length using Nat.strongRecOn generalizing events st with
  | ind n ih =>
      rw [batchInsertWithIsolation, batchInsertWithIsolationOn, insertBlock_onConnection]
      cases hanswer : onConnection insert events st.conn with
      | ok outcome => exact ⟨st.calls + 1, rfl⟩
      | error exn =>
          by_cases hintegrity : exn = .integrityError
          · subst hintegrity
            dsimp only
            by_cases hempty : events.length = 0
            · simp only [hempty, if_true]
              exact ⟨st.calls + 1, rfl⟩
            · simp only [hempty, if_false]
              by_cases hsingle : events.length = 1
              · simp only [hsingle, if_true]
                exact ⟨st.calls + 1, rfl⟩
              · simp only [hsingle, if_false]
                -- the two halves, each from what the one before it has left
                obtain ⟨leftCalls, hleft⟩ := ih _ (by rw [← hlen, List.length_take]; omega)
                  (events.take (events.length / 2)) ⟨st.conn, st.insertedIds, st.calls + 1⟩ rfl
                rw [hleft]
                dsimp only
                cases hfirst : batchInsertWithIsolationOn (onConnection insert)
                    (events.take (events.length / 2)) ⟨st.conn, st.insertedIds⟩ with
                | mk result mid =>
                    cases result with
                    | error e => exact ⟨leftCalls, rfl⟩
                    | ok _ =>
                        dsimp only
                        obtain ⟨rightCalls, hright⟩ :=
                          ih _ (by rw [← hlen, List.length_drop]; omega)
                            (events.drop (events.length / 2))
                            ⟨mid.database, mid.successfullyInserted, leftCalls⟩ rfl
                        exact ⟨rightCalls, hright⟩
          · refine ⟨st.calls + 1, ?_⟩
            cases exn <;> first | rfl | exact absurd rfl hintegrity

end

end DatabaseWorkers
end Tenjin
