import Tenjin.DatabaseWorkers.CascadeDeletion
import Tenjin.Foundation.Generator
import Tenjin.ResourceAuxillary.RetryExecutors

/-!
# Deletions under retries

`queue_deletion_consumer` makes one generator of the rows to delete, and hands it to every
attempt of its batch deletion function.

* `DeletionAttempt` is what an attempt comes to: it fails at a row, or executes its statement
  with all the rows that it was given.  `softDeleteAttempt` is `soft_delete_strong_entity`.
* `DeletionSurvives` is the purpose: every attempt is given what the first one was given, and
  a success has marked every entity of the batch.
* `PulledByTheLastOnly` says that no attempt that is followed by another one has taken a row.
  That is when the deletion survives (`deletion_survives_iff`).
* `takesAll_survives_iff` — a function that first takes all rows must not be attempted again.
* `deployed_softDelete_survives` — the statement of the repository is never executed, so
  nothing is attempted twice.
-/

namespace Tenjin
namespace DatabaseWorkers

open Python Foundation ResourceAuxillary

/-- A row of `deletion_data`: an id, the time of the deletion and the event's id. -/
abbrev DeletionRow := PyValue × PyValue × Int

/-- The row of an event. -/
def deletionRow (identifierColumn : String) (event : StreamedEvent) :
    Except Exn DeletionRow := do
  let id ← event.payloadField identifierColumn
  let deletedAt ← event.payloadField "deleted_at"
  return (id, deletedAt, event.eventId)

/-- One attempt of a batch deletion function. -/
inductive DeletionAttempt
  /-- It asks for some rows and raises. -/
  | failsAt (rows : ℕ) (e : Exn)
  /-- It asks for all rows, and what follows answers. -/
  | executes (answer : List DeletionRow → Except Exn Unit)

/-- The number of rows that an attempt takes of a batch. -/
def DeletionAttempt.taken (batch : List StreamedEvent) : DeletionAttempt → ℕ
  | .failsAt rows _ => min rows batch.length
  | .executes _ => batch.length

/-- What an attempt comes to on what the generator has left: the rows that it has marked. -/
def DeletionAttempt.run (identifierColumn : String) (deletionData : List StreamedEvent) :
    DeletionAttempt → Except Exn (List DeletionRow) × List StreamedEvent
  | .failsAt rows e =>
      match pull (deletionRow identifierColumn) rows deletionData with
      | (.error keyError, left) => (.error keyError, left)
      | (.ok _, left) => (.error e, left)
  | .executes answer =>
      match drain (deletionRow identifierColumn) deletionData with
      | (.error keyError, left) => (.error keyError, left)
      | (.ok rows, left) => ((answer rows).map fun _ => rows, left)

/-- The generator, the entities that the open transaction has marked, and what each attempt
so far was given. -/
structure DeletionState where
  deletionData : List StreamedEvent
  marked : List PyValue
  given : List (List StreamedEvent)

/-- The rollback of the connection leaves the generator as it is. -/
def DeletionState.rollback (st : DeletionState) : DeletionState := { st with marked := [] }

section
variable (identifierColumn : String) (attempts : ℕ → DeletionAttempt)

/-- `deletion_callable`. -/
def deletionCallable (st : DeletionState) : Except Exn Unit × DeletionState :=
  let given := st.given ++ [st.deletionData]
  match (attempts st.given.length).run identifierColumn st.deletionData with
  | (.error e, left) => (.error e, ⟨left, st.marked, given⟩)
  | (.ok rows, left) => (.ok (), ⟨left, st.marked ++ rows.map Prod.fst, given⟩)

/-- `db_execute_with_retries` of the deletion of a batch. -/
def runDeletion (maxRetries : ℕ) (batch : List StreamedEvent) :
    Except Exn (Option Unit) × DeletionState :=
  dbExecuteWithRetriesOn DeletionState.rollback maxRetries
    (deletionCallable identifierColumn attempts) none ⟨batch, [], []⟩

end

/-- Every attempt is given the same data as the first one, and a successful run has marked
every entity that the batch names. -/
structure DeletionSurvives (identifierColumn : String) (batch : List StreamedEvent)
    (run : Except Exn (Option Unit) × DeletionState) : Prop where
  sameData : ∀ data ∈ run.2.given, run.2.given.head? = some data
  allMarked : run.1 = .ok (some ()) →
    ∀ event ∈ batch, ∃ id, event.payloadField identifierColumn = .ok id ∧ id ∈ run.2.marked

/-- Given the whole batch, the attempt fails with an error that leads to another one. -/
def DeletionAttempt.FailsTransiently (identifierColumn : String) (batch : List StreamedEvent)
    (attempt : DeletionAttempt) : Prop :=
  ∃ e left, attempt.run identifierColumn batch = (.error e, left) ∧
    isPotentialTransientError e = true

/-- As long as attempts fail transiently and another one follows, no row is taken. -/
def PulledByTheLastOnly (identifierColumn : String) (attempts : ℕ → DeletionAttempt)
    (maxRetries : ℕ) (batch : List StreamedEvent) : Prop :=
  ∀ k, k + 1 < maxRetries →
    (∀ i ≤ k, (attempts i).FailsTransiently identifierColumn batch) →
    (attempts k).taken batch = 0

section
variable {identifierColumn : String} {attempts : ℕ → DeletionAttempt}
  {batch : List StreamedEvent}

/-- Only a missing payload field keeps an event from being a row. -/
theorem deletionRow_error {event : StreamedEvent} {e : Exn}
    (h : deletionRow identifierColumn event = .error e) : ∃ field, e = .keyError field := by
  have hfield : ∀ field e, event.payloadField field = .error e → e = .keyError field := by
    intro field e hfield
    unfold Event.payloadField at hfield
    split at hfield
    · cases hfield
    · cases hfield
      rfl
  cases hid : event.payloadField identifierColumn with
  | error e' =>
      simp only [deletionRow, hid, bind, Except.bind] at h
      cases h
      exact ⟨_, hfield _ _ hid⟩
  | ok id =>
      cases hdeleted : event.payloadField "deleted_at" with
      | error e' =>
          simp only [deletionRow, hid, hdeleted, bind, Except.bind] at h
          cases h
          exact ⟨_, hfield _ _ hdeleted⟩
      | ok deletedAt => simp [deletionRow, hid, hdeleted, bind, Except.bind, pure, Except.pure] at h

/-- A transient failure leaves the generator as it was if and only if it has taken no row. -/
theorem DeletionAttempt.left_eq_iff {attempt : DeletionAttempt} {data left : List StreamedEvent}
    {e : Exn} (hrun : attempt.run identifierColumn data = (.error e, left))
    (htransient : isPotentialTransientError e = true) :
    left = data ↔ attempt.taken data = 0 := by
  -- a missing field would not be transient
  have hread : ∀ {n : ℕ} {other : List StreamedEvent},
      pull (deletionRow identifierColumn) n data ≠ (.error e, other) := by
    intro n other hpull
    obtain ⟨event, _, herror⟩ := pull_error hpull
    obtain ⟨field, rfl⟩ := deletionRow_error herror
    cases htransient
  cases attempt with
  | failsAt rows e' =>
      simp only [DeletionAttempt.run] at hrun
      split at hrun
      · rename_i hpull
        cases hrun
        exact absurd hpull hread
      · rename_i hpull
        cases hrun
        rw [(pull_ok hpull).1]
        exact drop_eq_self_iff rows data
  | executes answer =>
      simp only [DeletionAttempt.run] at hrun
      split at hrun
      · rename_i hdrain
        cases hrun
        exact absurd hdrain hread
      · rename_i hdrain
        obtain ⟨rfl, _⟩ := drain_ok hdrain
        have hleft : left = [] := (congrArg Prod.snd hrun).symm
        rw [hleft]
        show [] = data ↔ data.length = 0
        rw [List.length_eq_zero_iff, eq_comm]

/-- The state before an attempt when no attempt so far has taken a row. -/
def untouched (batch : List StreamedEvent) (m : ℕ) : DeletionState :=
  ⟨batch, [], List.replicate m batch⟩

/-- An attempt in that state. -/
theorem deletionCallable_untouched (m : ℕ) :
    deletionCallable identifierColumn attempts (untouched batch m) =
      match (attempts m).run identifierColumn batch with
      | (.error e, left) => (.error e, ⟨left, [], List.replicate (m + 1) batch⟩)
      | (.ok rows, left) =>
          (.ok (), ⟨left, rows.map Prod.fst, List.replicate (m + 1) batch⟩) := by
  simp only [deletionCallable, untouched, List.length_replicate, List.nil_append]
  rw [List.replicate_succ']

/-- An attempt is given what the generator has left. -/
theorem deletionCallable_given (st : DeletionState) :
    (deletionCallable identifierColumn attempts st).2.given =
      st.given ++ [st.deletionData] := by
  unfold deletionCallable
  dsimp only
  split <;> rfl

/-- Failed attempts leave the generator untouched as long as none of them takes a row. -/
theorem failedAttempts_untouched {maxRetries : ℕ}
    (hlast : PulledByTheLastOnly identifierColumn attempts maxRetries batch) {k : ℕ}
    {s t : DeletionState}
    (h : FailedAttempts isPotentialTransientError DeletionState.rollback
      (deletionCallable identifierColumn attempts) k s t) :
    ∀ m, s = untouched batch m → m + k < maxRetries →
      (∀ i < m, (attempts i).FailsTransiently identifierColumn batch) →
      t = untouched batch (m + k) := by
  induction h with
  | zero s =>
      intro m hs _ _
      exact hs
  | @succ k s s' t e hrun htransient _ ih =>
      intro m hs hm hbefore
      subst hs
      rw [deletionCallable_untouched] at hrun
      split at hrun
      · rename_i e' left hattempt
        cases hrun
        have hfails : (attempts m).FailsTransiently identifierColumn batch :=
          ⟨e, left, hattempt, htransient⟩
        have hupto : ∀ i ≤ m, (attempts i).FailsTransiently identifierColumn batch := by
          intro i hi
          rcases Nat.eq_or_lt_of_le hi with rfl | hlt
          · exact hfails
          · exact hbefore i hlt
        have htaken : (attempts m).taken batch = 0 := hlast m (by omega) hupto
        have hleft : left = batch := (DeletionAttempt.left_eq_iff hattempt htransient).mpr htaken
        subst hleft
        have hrest := ih (m + 1) rfl (by omega) fun i hi => hupto i (by omega)
        rw [hrest, Nat.add_assoc, Nat.add_comm 1 k]
      · cases hrun

/-- Attempts that fail without taking a row. -/
theorem failedAttempts_of_taken (k : ℕ)
    (hfails : ∀ i < k, (attempts i).FailsTransiently identifierColumn batch)
    (htaken : ∀ i < k, (attempts i).taken batch = 0) :
    FailedAttempts isPotentialTransientError DeletionState.rollback
      (deletionCallable identifierColumn attempts) k (untouched batch 0) (untouched batch k) := by
  induction k with
  | zero => exact .zero _
  | succ k ih =>
      have hbefore := ih (fun i hi => hfails i (by omega)) fun i hi => htaken i (by omega)
      obtain ⟨e, left, hattempt, htransient⟩ := hfails k (Nat.lt_succ_self k)
      have hleft : left = batch :=
        (DeletionAttempt.left_eq_iff hattempt htransient).mpr (htaken k (Nat.lt_succ_self k))
      subst hleft
      have hrun : deletionCallable identifierColumn attempts (untouched left k) =
          (.error e, untouched left (k + 1)) := by
        rw [deletionCallable_untouched, hattempt]
        rfl
      exact hbefore.snoc hrun htransient

/-- An attempt that succeeds has marked the entities of all the rows that it was given. -/
theorem DeletionAttempt.ok_marks {attempt : DeletionAttempt} {data left : List StreamedEvent}
    {rows : List DeletionRow} (hrun : attempt.run identifierColumn data = (.ok rows, left)) :
    ∀ event ∈ data, ∃ id, event.payloadField identifierColumn = .ok id ∧
      id ∈ rows.map Prod.fst := by
  cases attempt with
  | failsAt taken e =>
      simp only [DeletionAttempt.run] at hrun
      split at hrun <;> cases hrun
  | executes answer =>
      simp only [DeletionAttempt.run] at hrun
      split at hrun
      · cases hrun
      · rename_i pulled _ hdrain
        obtain ⟨_, hrows⟩ := drain_ok hdrain
        have hpulled : pulled = rows := by
          have hanswer := congrArg Prod.fst hrun
          dsimp only at hanswer
          cases hdb : answer pulled with
          | error e =>
              rw [hdb] at hanswer
              cases hanswer
          | ok _ =>
              rw [hdb] at hanswer
              cases hanswer
              rfl
        subst hpulled
        intro event hevent
        have hread : deletionRow identifierColumn event ∈ pulled.map Except.ok := by
          rw [← hrows]
          exact List.mem_map_of_mem hevent
        obtain ⟨row, hrow, hok⟩ := List.mem_map.mp hread
        obtain ⟨id, hid, hrest⟩ := except_bind_eq_ok hok.symm
        obtain ⟨deletedAt, _, hrest⟩ := except_bind_eq_ok hrest
        cases hrest
        exact ⟨id, hid, List.mem_map_of_mem hrow⟩

/-- What an attempt that is followed by another one leaves is given to that one. -/
theorem given_of_failed {maxRetries k : ℕ} (hmore : k + 1 < maxRetries) {e : Exn}
    {left : List StreamedEvent}
    (hbefore : FailedAttempts isPotentialTransientError DeletionState.rollback
      (deletionCallable identifierColumn attempts) k (untouched batch 0) (untouched batch k))
    (hattempt : (attempts k).run identifierColumn batch = (.error e, left))
    (htransient : isPotentialTransientError e = true) :
    (runDeletion identifierColumn attempts maxRetries batch).2.given.head? = some batch ∧
      left ∈ (runDeletion identifierColumn attempts maxRetries batch).2.given := by
  have hrun : deletionCallable identifierColumn attempts (untouched batch k) =
      (.error e, ⟨left, [], List.replicate (k + 1) batch⟩) := by
    rw [deletionCallable_untouched, hattempt]
  obtain ⟨last, hrest⟩ := (hbefore.snoc hrun htransient).retry_eq (maxRetries - (k + 1)) none
  have hloop : runDeletion identifierColumn attempts maxRetries batch =
      retry isPotentialTransientError DeletionState.rollback
        (deletionCallable identifierColumn attempts) (maxRetries - (k + 2) + 1) last
        ⟨left, [], List.replicate (k + 1) batch⟩ := by
    rw [show maxRetries - (k + 2) + 1 = maxRetries - (k + 1) by omega]
    rw [show maxRetries - (k + 1) + (k + 1) = maxRetries by omega] at hrest
    exact hrest
  rw [hloop]
  apply retry_succ_preserves
    (I := fun st : DeletionState => st.given.head? = some batch ∧ left ∈ st.given)
  · intro st hst
    obtain ⟨hhead, hmem⟩ := hst
    obtain ⟨rest, hgiven⟩ := List.head?_eq_some_iff.mp hhead
    rw [deletionCallable_given]
    exact ⟨by rw [hgiven]; rfl, List.mem_append_left _ hmem⟩
  · intro st hst
    exact hst
  · rw [deletionCallable_given]
    exact ⟨rfl, List.mem_append_right _ (List.mem_singleton_self left)⟩

/-- If no attempt but the last takes a row, the run ends with one of them on the whole batch. -/
theorem runDeletion_untouched {maxRetries : ℕ} (hmax : 0 < maxRetries)
    (hlast : PulledByTheLastOnly identifierColumn attempts maxRetries batch) :
    ∃ k, ((∃ rows left, (attempts k).run identifierColumn batch = (.ok rows, left) ∧
        runDeletion identifierColumn attempts maxRetries batch =
          (.ok (some ()), ⟨left, rows.map Prod.fst, List.replicate (k + 1) batch⟩)) ∨
      ∃ e left, runDeletion identifierColumn attempts maxRetries batch =
        (.error e, ⟨left, [], List.replicate (k + 1) batch⟩)) := by
  obtain ⟨n, rfl⟩ := Nat.exists_eq_add_of_lt hmax
  rw [Nat.zero_add] at hlast ⊢
  obtain ⟨k, hk, t, hfailed, hend⟩ := retry_cases isPotentialTransientError
    DeletionState.rollback (deletionCallable identifierColumn attempts) n none
    (untouched batch 0)
  have ht := failedAttempts_untouched hlast hfailed 0 rfl (by omega) fun i hi => by omega
  rw [Nat.zero_add] at ht
  subst ht
  refine ⟨k, ?_⟩
  rcases hend with ⟨_, t', hrun, hretry⟩ | ⟨e, t', hrun, _, hretry⟩
  · left
    rw [deletionCallable_untouched] at hrun
    split at hrun
    · cases hrun
    · rename_i rows left hattempt
      cases hrun
      exact ⟨rows, left, hattempt, hretry⟩
  · right
    rw [deletionCallable_untouched] at hrun
    split at hrun
    · rename_i e' left hattempt
      cases hrun
      exact ⟨e, left, hretry⟩
    · cases hrun

end

/-- For every batch, every number of retries and every way in which the attempts fare: the
deletion survives if and only if no attempt that is followed by another one takes a row. -/
theorem deletion_survives_iff (identifierColumn : String) (attempts : ℕ → DeletionAttempt)
    (maxRetries : ℕ) (batch : List StreamedEvent) :
    DeletionSurvives identifierColumn batch
        (runDeletion identifierColumn attempts maxRetries batch) ↔
      PulledByTheLastOnly identifierColumn attempts maxRetries batch := by
  constructor
  · intro hsurvives k
    -- on the number of the attempt: none before it takes a row
    induction k using Nat.strongRecOn with
    | ind k ih =>
        intro hmore hfails
        have hnone : ∀ i < k, (attempts i).taken batch = 0 :=
          fun i hi => ih i hi (by omega) fun j hj => hfails j (by omega)
        obtain ⟨e, left, hattempt, htransient⟩ := hfails k (Nat.le_refl k)
        have hbefore := failedAttempts_of_taken k (fun i hi => hfails i (by omega)) hnone
        obtain ⟨hhead, hmem⟩ := given_of_failed hmore hbefore hattempt htransient
        have hsame := hsurvives.sameData left hmem
        rw [hhead] at hsame
        exact (DeletionAttempt.left_eq_iff hattempt htransient).mp (Option.some.inj hsame).symm
  · intro hlast
    rcases Nat.eq_zero_or_pos maxRetries with rfl | hmax
    · constructor
      · intro data hdata
        cases hdata
      · intro hok
        cases hok
    obtain ⟨k, ⟨rows, left, hattempt, hrun⟩ | ⟨e, left, hrun⟩⟩ := runDeletion_untouched hmax hlast
    · rw [hrun]
      constructor
      · intro data hdata
        rw [List.eq_of_mem_replicate hdata]
        rfl
      · intro _
        exact DeletionAttempt.ok_marks hattempt
    · rw [hrun]
      constructor
      · intro data hdata
        rw [List.eq_of_mem_replicate hdata]
        rfl
      · intro hok
        cases hok

/-- A function that first takes all rows survives exactly when it is not attempted again. -/
theorem takesAll_survives_iff (identifierColumn : String)
    (answers : ℕ → List DeletionRow → Except Exn Unit) (maxRetries : ℕ)
    {batch : List StreamedEvent} (hbatch : batch ≠ []) :
    DeletionSurvives identifierColumn batch
        (runDeletion identifierColumn (fun n => .executes (answers n)) maxRetries batch) ↔
      (1 < maxRetries →
        ¬ (DeletionAttempt.executes (answers 0)).FailsTransiently identifierColumn batch) := by
  rw [deletion_survives_iff]
  have htaken : ∀ k, (DeletionAttempt.executes (answers k)).taken batch ≠ 0 :=
    fun k h => hbatch (List.length_eq_zero_iff.mp h)
  constructor
  · intro hlast hmore hfails
    refine htaken 0 (hlast 0 hmore ?_)
    intro i hi
    rw [Nat.le_zero.mp hi]
    exact hfails
  · intro hnot k hmore hfails
    exact absurd (hfails 0 (Nat.zero_le k)) (hnot (by omega))

section
variable (literal : PyValue → String) (execute : ℕ → String → Except Exn Unit)

/-- `prepare_strong_deletion_sql`. -/
def prepareStrongDeletionSql (strongTemplate : List Segment) (table identifierColumn : String)
    (deletionData : List DeletionRow) : Except Exn String :=
  sqlFormat strongTemplate
    [("table", identifier table), ("identifier", identifier identifierColumn),
      ("deletion_column", identifier "deleted"), ("deleted_at", identifier "deletion_time"),
      ("values_collection", pyJoin ", " (deletionData.map fun (id, deletedAt, eventId) =>
        "(" ++ literal id ++ ", true, " ++ literal deletedAt ++ ", " ++ toString eventId ++
          ")"))]

/-- The `n`-th attempt of `soft_delete_strong_entity`: composing the statement takes all rows,
and then the database answers to it. -/
def softDeleteAttempt (strongTemplate : List Segment) (table identifierColumn : String)
    (n : ℕ) : DeletionAttempt :=
  .executes fun rows => do
    let deletionStatement ← prepareStrongDeletionSql literal strongTemplate table
      identifierColumn rows
    execute n deletionStatement

/-- The statement of the repository cannot be composed, so the first attempt is the last. -/
theorem deployed_softDelete_survives (table identifierColumn : String) (maxRetries : ℕ)
    (batch : List StreamedEvent) :
    DeletionSurvives identifierColumn batch
      (runDeletion identifierColumn
        (softDeleteAttempt literal execute strongDeletionSql table identifierColumn)
        maxRetries batch) := by
  rw [deletion_survives_iff]
  intro k _ hfails
  obtain ⟨e, left, hattempt, htransient⟩ := hfails k (Nat.le_refl k)
  simp only [softDeleteAttempt, DeletionAttempt.run] at hattempt
  split at hattempt
  · rename_i hdrain
    cases hattempt
    obtain ⟨event, _, hread⟩ := pull_error hdrain
    obtain ⟨field, rfl⟩ := deletionRow_error hread
    cases htransient
  · cases hattempt
    cases htransient

end

/-- A user deletes a post. -/
def postDeleteEvent : StreamedEvent where
  name := .postDelete
  payload := [("post_id", .int 5), ("deleted_at", .str "2024-05-01T00:00:00+00:00")]
  sideEffects := {}
  eventId := 1

/-- The connection is lost at the first statement, and the second attempt has no rows. -/
theorem deletion_after_operationalError :
    ¬ DeletionSurvives "post_id" [postDeleteEvent]
      (runDeletion "post_id"
        (fun n => .executes fun _ => if n = 0 then .error .operationalError else .ok ())
        3 [postDeleteEvent]) := by
  intro hsurvives
  have hsame := hsurvives.sameData [] (by decide)
  cases hsame

end DatabaseWorkers
end Tenjin
