import Tenjin.Foundation.Connection
import Tenjin.ResourceAuxillary.Events
import Tenjin.ResourceAuxillary.Qos

/-!
# Insertion with isolation of failures

`batch_insert_with_isolation` of `insertions.py` over a connection.

* `insert n events` is what the insertion function answers when it is called for
  the `n`-th time of the iteration, with `events`: it raises, or it writes a row
  for each event and reports some ids.
* Inside an open transaction the recursion only sets savepoints, so it commits
  nothing and adds rows of its events to that transaction (`isolation_in_transaction`).
* A transient error comes from a call that raised it (`isolation_transient`).
-/

namespace Tenjin
namespace DatabaseWorkers

open Python Foundation ResourceAuxillary

/-- A row that the consumer writes. -/
inductive DbWrite
  /-- The id of an event, in `stream_events`. -/
  | dedup (eventId : Int)
  /-- The row that an event inserts. -/
  | row (eventId : Int)
  deriving DecidableEq

/-- What one iteration of the consumer works on: its connection, the list
`inserted_ids` and the number of calls of the insertion function so far. -/
structure InsertState where
  conn : Connection DbWrite
  insertedIds : List Int
  calls : ℕ

/-- The rollback of the connection leaves `inserted_ids` as it is. -/
def InsertState.rollback (st : InsertState) : InsertState :=
  { st with conn := st.conn.rollback }

section
variable (insert : ℕ → List StreamedEvent → Except Exn (List Int))

/-- The `async with conn.transaction()` block around one insertion. -/
def insertBlock (events : List StreamedEvent) (st : InsertState) :
    Except Exn Unit × InsertState :=
  let (answer, conn) := st.conn.transaction fun c =>
    match insert st.calls events with
    | .ok ids => (.ok ids, c.execute (events.map fun e => .row e.eventId))
    | .error e => (.error e, c)
  match answer with
  | .ok ids => (.ok (), ⟨conn, st.insertedIds ++ ids, st.calls + 1⟩)
  | .error e => (.error e, ⟨conn, st.insertedIds, st.calls + 1⟩)

/-- `batch_insert_with_isolation`.  Halving an empty sequence gives it back, so an
integrity error on it recurses without end. -/
def batchInsertWithIsolation (events : List StreamedEvent) (st : InsertState) :
    Except Exn Unit × InsertState :=
  match insertBlock insert events st with
  | (.ok _, st') => (.ok (), st')
  | (.error .integrityError, st') =>
      -- both halves of an empty sequence are empty again
      if events.length = 0 then (.error .recursionError, st')
      else if events.length = 1 then (.ok (), st')
      else
        let bisectedLength := events.length / 2
        match batchInsertWithIsolation (events.take bisectedLength) st' with
        | (.error e, st'') => (.error e, st'')
        | (.ok _, st'') => batchInsertWithIsolation (events.drop bisectedLength) st''
  | (.error e, st') => (.error e, st')
termination_by events.length
decreasing_by
  all_goals simp only [List.length_take, List.length_drop]
  all_goals omega

end

section
variable {insert : ℕ → List StreamedEvent → Except Exn (List Int)}

/-- What one block does inside an open transaction. -/
theorem insertBlock_in_transaction {events : List StreamedEvent} {st : InsertState}
    {ws : List DbWrite} (hopen : st.conn.current = some ws) :
    insertBlock insert events st =
      match insert st.calls events with
      | .ok ids =>
          (.ok (), ⟨⟨st.conn.committed, some (ws ++ events.map fun e => .row e.eventId)⟩,
            st.insertedIds ++ ids, st.calls + 1⟩)
      | .error e => (.error e, ⟨st.conn, st.insertedIds, st.calls + 1⟩) := by
  obtain ⟨⟨committed, current⟩, inserted, calls⟩ := st
  simp only at hopen
  subst hopen
  cases h : insert calls events <;>
    simp [insertBlock, Connection.transaction, Connection.execute, h]

/-- A block that raises leaves the connection as it was. -/
theorem insertBlock_of_error {events : List StreamedEvent} {st : InsertState} {e : Exn}
    (h : insert st.calls events = .error e) :
    insertBlock insert events st =
      (.error e, ⟨st.conn, st.insertedIds, st.calls + 1⟩) := by
  obtain ⟨⟨committed, current⟩, inserted, calls⟩ := st
  simp only at h
  cases current <;> simp [insertBlock, Connection.transaction, Connection.rollback, h]

/-- A block raises what the insertion function raises. -/
theorem insertBlock_error {events : List StreamedEvent} {st st' : InsertState} {e : Exn}
    (h : insertBlock insert events st = (.error e, st')) :
    insert st.calls events = .error e ∧ st'.calls = st.calls + 1 := by
  obtain ⟨⟨committed, current⟩, inserted, calls⟩ := st
  cases current <;> cases ha : insert calls events <;>
    simp_all [insertBlock, Connection.transaction]
  · obtain ⟨_, rfl⟩ := h; rfl
  · obtain ⟨_, rfl⟩ := h; rfl

theorem insertBlock_calls (insert : ℕ → List StreamedEvent → Except Exn (List Int))
    (events : List StreamedEvent) (st : InsertState) :
    (insertBlock insert events st).2.calls = st.calls + 1 := by
  obtain ⟨⟨committed, current⟩, inserted, calls⟩ := st
  cases current <;> cases ha : insert calls events <;>
    simp_all [insertBlock, Connection.transaction]

/-- The rows of a batch. -/
def RowsOf (events : List StreamedEvent) (ws : List DbWrite) : Prop :=
  ∀ w ∈ ws, ∃ e ∈ events, w = .row e.eventId

theorem RowsOf.nil (events : List StreamedEvent) : RowsOf events [] := by
  intro w hw
  cases hw

theorem RowsOf.append {events : List StreamedEvent} {ws ws' : List DbWrite}
    (h : RowsOf events ws) (h' : RowsOf events ws') : RowsOf events (ws ++ ws') := by
  intro w hw
  rcases List.mem_append.mp hw with hw | hw
  · exact h w hw
  · exact h' w hw

theorem RowsOf.of_sublist {events events' : List StreamedEvent} {ws : List DbWrite}
    (h : RowsOf events' ws) (hsub : ∀ e ∈ events', e ∈ events) : RowsOf events ws := by
  intro w hw
  obtain ⟨e, he, hwe⟩ := h w hw
  exact ⟨e, hsub e he, hwe⟩

theorem rowsOf_map (events : List StreamedEvent) :
    RowsOf events (events.map fun e => .row e.eventId) := by
  intro w hw
  obtain ⟨e, he, rfl⟩ := List.mem_map.mp hw
  exact ⟨e, he, rfl⟩

/-- Inside an open transaction a block adds rows of its events, or nothing. -/
theorem insertBlock_rows (insert : ℕ → List StreamedEvent → Except Exn (List Int))
    (events : List StreamedEvent) (st : InsertState) (ws : List DbWrite)
    (hopen : st.conn.current = some ws) :
    ∃ rows, RowsOf events rows ∧
      (insertBlock insert events st).2.conn = ⟨st.conn.committed, some (ws ++ rows)⟩ := by
  rw [insertBlock_in_transaction hopen]
  cases insert st.calls events with
  | ok ids => exact ⟨_, rowsOf_map events, rfl⟩
  | error e =>
      refine ⟨[], RowsOf.nil events, ?_⟩
      simp [← hopen]

/-- The induction rule of the recursion: what holds of the outcome of every single
block and is kept by putting the two halves of a batch one after the other holds of
the whole recursion. -/
theorem isolation_induction
    (P : List StreamedEvent → InsertState → Except Exn Unit × InsertState → Prop)
    (inserted : ∀ {events st st'}, insertBlock insert events st = (.ok (), st') →
      P events st (.ok (), st'))
    (empty : ∀ {events st st'},
      insertBlock insert events st = (.error .integrityError, st') →
      P events st (.error .recursionError, st'))
    (single : ∀ {events st st'},
      insertBlock insert events st = (.error .integrityError, st') →
      P events st (.ok (), st'))
    (raised : ∀ {events st e st'}, insertBlock insert events st = (.error e, st') →
      P events st (.error e, st'))
    (leftFailed : ∀ {events st st₁ e st₂},
      insertBlock insert events st = (.error .integrityError, st₁) →
      P (events.take (events.length / 2)) st₁ (.error e, st₂) →
      P events st (.error e, st₂))
    (halves : ∀ {events st st₁ st₂ result},
      insertBlock insert events st = (.error .integrityError, st₁) →
      P (events.take (events.length / 2)) st₁ (.ok (), st₂) →
      P (events.drop (events.length / 2)) st₂ result →
      P events st result)
    (events : List StreamedEvent) (st : InsertState) :
    P events st (batchInsertWithIsolation insert events st) := by
  -- on the length of the batch: both halves of a batch of two or more are shorter
  induction hlen : events.length using Nat.strongRecOn generalizing events st with
  | ind n ih =>
    rw [batchInsertWithIsolation]
    split
    · rename_i hblock
      exact inserted hblock
    · rename_i st₁ hblock
      split
      · exact empty hblock
      split
      · exact single hblock
      rename_i hzero hone
      have hleft := ih _ (by simp only [List.length_take]; omega)
        (events.take (events.length / 2)) st₁ rfl
      dsimp only
      split
      · rename_i e st₂ hfirst
        rw [hfirst] at hleft
        exact leftFailed hblock hleft
      · rename_i st₂ hfirst
        rw [hfirst] at hleft
        exact halves hblock hleft (ih _ (by simp only [List.length_drop]; omega)
          (events.drop (events.length / 2)) st₂ rfl)
    · rename_i e st₁ hne hblock
      exact raised hblock

/-- Inside an open transaction the recursion commits nothing: whatever happens, it
leaves the transaction open and has added rows of its events to it. -/
theorem isolation_in_transaction
    (insert : ℕ → List StreamedEvent → Except Exn (List Int))
    (events : List StreamedEvent) (st : InsertState) :
    ∀ ws, st.conn.current = some ws →
      ∃ rows, RowsOf events rows ∧
        (batchInsertWithIsolation insert events st).2.conn =
          ⟨st.conn.committed, some (ws ++ rows)⟩ := by
  -- every way in which a single block ends the recursion
  have hblock : ∀ {events : List StreamedEvent} {st st' : InsertState}
      {r : Except Exn Unit}, insertBlock insert events st = (r, st') →
      ∀ ws, st.conn.current = some ws → ∃ rows, RowsOf events rows ∧
        st'.conn = ⟨st.conn.committed, some (ws ++ rows)⟩ := by
    intro events st st' r h ws hopen
    have hrows := insertBlock_rows insert events st ws hopen
    rwa [h] at hrows
  refine isolation_induction
    (fun events st result => ∀ ws, st.conn.current = some ws → ∃ rows,
      RowsOf events rows ∧ result.2.conn = ⟨st.conn.committed, some (ws ++ rows)⟩)
    hblock hblock hblock hblock ?_ ?_ events st
  · intro events st st₁ e st₂ h hleft ws hopen
    obtain ⟨rows, hrows, hconn⟩ := hblock h ws hopen
    obtain ⟨rows₁, hrows₁, hconn₁⟩ := hleft (ws ++ rows) (by rw [hconn])
    simp only [hconn] at hconn₁
    refine ⟨rows ++ rows₁, hrows.append ?_, ?_⟩
    · exact hrows₁.of_sublist fun e he => List.mem_of_mem_take he
    · simp [hconn₁]
  · intro events st st₁ st₂ result h hleft hright ws hopen
    obtain ⟨rows, hrows, hconn⟩ := hblock h ws hopen
    obtain ⟨rows₁, hrows₁, hconn₁⟩ := hleft (ws ++ rows) (by rw [hconn])
    simp only [hconn] at hconn₁
    obtain ⟨rows₂, hrows₂, hconn₂⟩ := hright (ws ++ rows ++ rows₁) (by rw [hconn₁])
    refine ⟨rows ++ rows₁ ++ rows₂, (hrows.append ?_).append ?_, ?_⟩
    · exact hrows₁.of_sublist fun e he => List.mem_of_mem_take he
    · exact hrows₂.of_sublist fun e he => List.mem_of_mem_drop he
    · simp [hconn₂, hconn₁]

/-- An error that leaves the recursion was raised by one of its calls of the insertion
function, or is the endless recursion. -/
theorem isolation_error (insert : ℕ → List StreamedEvent → Except Exn (List Int))
    (events : List StreamedEvent) (st : InsertState) :
    st.calls < (batchInsertWithIsolation insert events st).2.calls ∧
    ∀ e, (batchInsertWithIsolation insert events st).1 = .error e →
      e = .recursionError ∨ ∃ i es, st.calls ≤ i ∧
        i < (batchInsertWithIsolation insert events st).2.calls ∧
        insert i es = .error e := by
  -- the number of calls only grows, which orders the calls of the two halves
  have hcalls : ∀ {events : List StreamedEvent} {st st' : InsertState}
      {r : Except Exn Unit}, insertBlock insert events st = (r, st') →
      st'.calls = st.calls + 1 := by
    intro events st st' r h
    have hc := insertBlock_calls insert events st
    rwa [h] at hc
  refine isolation_induction
    (fun _ st result => st.calls < result.2.calls ∧ ∀ e, result.1 = .error e →
      e = .recursionError ∨ ∃ i es, st.calls ≤ i ∧ i < result.2.calls ∧
        insert i es = .error e) ?_ ?_ ?_ ?_ ?_ ?_ events st
  · intro events st st' h
    exact ⟨by simp [hcalls h], by simp⟩
  · intro events st st' h
    exact ⟨by simp [hcalls h], fun e he => .inl (by simpa using he.symm)⟩
  · intro events st st' h
    exact ⟨by simp [hcalls h], by simp⟩
  · intro events st e st' h
    refine ⟨by simp [hcalls h], fun x hx => .inr ?_⟩
    simp only [Except.error.injEq] at hx
    subst hx
    exact ⟨st.calls, events, Nat.le_refl _, by simp [hcalls h], (insertBlock_error h).1⟩
  · intro events st st₁ e st₂ h hleft
    have hc := hcalls h
    obtain ⟨hlt, herr⟩ := hleft
    refine ⟨by omega, fun x hx => ?_⟩
    rcases herr x hx with hrec | ⟨i, es, hlow, hhigh, hans⟩
    · exact .inl hrec
    · exact .inr ⟨i, es, by omega, hhigh, hans⟩
  · intro events st st₁ st₂ result h hleft hright
    have hc := hcalls h
    have hlt₁ := hleft.1
    obtain ⟨hlt₂, herr⟩ := hright
    simp only at hlt₁
    refine ⟨by omega, fun x hx => ?_⟩
    rcases herr x hx with hrec | ⟨i, es, hlow, hhigh, hans⟩
    · exact .inl hrec
    · exact .inr ⟨i, es, by omega, hhigh, hans⟩

/-- When no insertion ever returns, the connection stays as it was, also where the
recursion ends without an error. -/
theorem isolation_conn_of_never_inserted
    (hnever : ∀ n events ids, insert n events ≠ .ok ids)
    (events : List StreamedEvent) (st : InsertState) :
    (batchInsertWithIsolation insert events st).2.conn = st.conn := by
  have hblock : ∀ {events : List StreamedEvent} {st st' : InsertState}
      {r : Except Exn Unit}, insertBlock insert events st = (r, st') →
      st'.conn = st.conn := by
    intro events st st' r h
    -- a block that raises rolls its savepoint back
    cases hans : insert st.calls events with
    | ok ids => exact absurd hans (hnever _ _ ids)
    | error e =>
        rw [insertBlock_of_error hans] at h
        cases h
        rfl
  refine isolation_induction (fun _ st result => result.2.conn = st.conn)
    hblock hblock hblock hblock ?_ ?_ events st
  · intro events st st₁ e st₂ h hleft
    exact hleft.trans (hblock h)
  · intro events st st₁ st₂ result h hleft hright
    exact hright.trans (hleft.trans (hblock h))

/-- A batch whose insertion raises at once changes nothing. -/
theorem isolation_of_error {events : List StreamedEvent} {st : InsertState} {e : Exn}
    (h : insert st.calls events = .error e) (hne : e ≠ .integrityError) :
    batchInsertWithIsolation insert events st =
      (.error e, ⟨st.conn, st.insertedIds, st.calls + 1⟩) := by
  rw [batchInsertWithIsolation, insertBlock_of_error h]
  split <;> simp_all

/-- When the insertion of the whole batch succeeds at once, nothing is isolated. -/
theorem isolation_of_ok {events : List StreamedEvent} (st : InsertState)
    {ws : List DbWrite} {ids : List Int} (hopen : st.conn.current = some ws)
    (h : insert st.calls events = .ok ids) :
    batchInsertWithIsolation insert events st =
      (.ok (), ⟨⟨st.conn.committed, some (ws ++ events.map fun e => .row e.eventId)⟩,
        st.insertedIds ++ ids, st.calls + 1⟩) := by
  rw [batchInsertWithIsolation, insertBlock_in_transaction hopen, h]

end

end DatabaseWorkers
end Tenjin
