import Tenjin.DatabaseWorkers.DeadCounters
import Tenjin.DatabaseWorkers.Deduplication
import Tenjin.ResourceAuxillary.DeadLettering

/-!
# Recording dead events

`dlq_consumer` (`dlq_workers.py`): any number of workers that deduplicate the events of the
dead letter stream, insert them into the tables of the dead letter queue and acknowledge
them.  `recordStep` goes from one point of the consumer to the next, and a worker can crash
at every point.

* The branch of the duplicates has no `continue`: a duplicate is acknowledged and then
  inserted like any other event.
* The deduplication commits on its own, so an event can be a duplicate of itself that has
  never been recorded.
* `RecordedOnce` is the purpose, and `KeepsRecords` the condition on the steps of a run:
  `recordedOnce_of_eachStep`.
* `faultyStep_reaches` — after a step that does not meet it, the run can go on to a state
  in which an event is lost or recorded twice.
-/

namespace Tenjin
namespace DatabaseWorkers

open Python Foundation ResourceAuxillary

/-- The tables of the dead letter queue, one for each composed statement. -/
inductive DlqTable
  | events
  | counters
  | sideEffects
  deriving DecidableEq

/-- What one insertion writes. -/
structure DlqRow where
  table : DlqTable
  event : StreamedEvent
  params : DlqParameters
  deriving DecidableEq

/-- The number of an event as the text columns of `stream_events` and `dlq_events` have it. -/
def recordKey (event : StreamedEvent) : String := toString event.eventId

/-- The primary key of `dlq_events` refuses the row.  The other two tables number their rows
themselves. -/
def DlqRow.Conflicts (row : DlqRow) (rows : List DlqRow) : Prop :=
  row.table = .events ∧
    ∃ other ∈ rows, other.table = .events ∧ recordKey other.event = recordKey row.event

instance (row : DlqRow) (rows : List DlqRow) : Decidable (row.Conflicts rows) :=
  inferInstanceAs (Decidable (_ ∧ ∃ other ∈ rows, _))

/-- What becomes of one attempt: it has no effect and raises, has its effect and raises, or
has its effect and is answered. -/
inductive AttemptFate
  | refused (e : Exn)
  | unanswered (e : Exn)
  | answered
  deriving DecidableEq

/-- The answer of an attempt that nothing stands against. -/
def AttemptFate.answer : AttemptFate → Except Exn Unit
  | .refused e => .error e
  | .unanswered e => .error e
  | .answered => .ok ()

/-- `_insert_dlq_record`: the statement and the commit. -/
def insertDlqRecord (rows : List DlqRow) (row : DlqRow) (fate : AttemptFate) :
    Except Exn Unit × List DlqRow :=
  match fate with
  | .refused e => (.error e, rows)
  | _ => if row.Conflicts rows then (.error .integrityError, rows)
      else (fate.answer, rows ++ [row])

/-- The body of the loop of `db_execute_with_retries`, after an attempt has been answered. -/
def afterDbAttempt (remaining : ℕ) (answer : Except Exn Unit) : CallStatus :=
  match answer with
  | .ok _ => .returned
  | .error e =>
      if isPotentialTransientError e then .atHead (remaining - 1) (some e) else .raised e

/-- The three calls of `_acknowledge_dlq_event` and `acknowledge_event`, in their order. -/
inductive AckCall
  | duplicate
  | first
  | second
  deriving DecidableEq

/-- Where a consumer stands. -/
inductive ConsumerPoint
  | waiting
  | received (event : StreamedEvent)
  | inserting (event : StreamedEvent) (params : DlqParameters) (status : CallStatus)
  | acknowledging (call : AckCall) (event : StreamedEvent) (status : CallStatus)
  /-- The exception has left the consumer. -/
  | stopped (e : Exn)

/-- The settings of the consumers, and for each worker the table of its statement. -/
structure DlqSettings where
  conv : Conversions
  loads : String → Option PyValue
  maxRetries : ℕ
  tableOf : ℕ → DlqTable

/-- The keys of `stream_events`, the rows of the dead letter tables, the events for which an
acknowledgement has been executed, and the workers. -/
structure RecordState where
  table : List String
  rows : List DlqRow
  acked : List StreamedEvent
  workers : ℕ → ConsumerPoint

/-- Nothing is recorded, and every worker waits.  Other consumers share `stream_events`. -/
def RecordState.initial (table : List String) : RecordState :=
  ⟨table, [], [], fun _ => .waiting⟩

/-- One worker goes to a point. -/
def RecordState.moveTo (s : RecordState) (w : ℕ) (p : ConsumerPoint) : RecordState :=
  { s with workers := Function.update s.workers w p }

/-- What happens next.  Any event can be delivered at any time. -/
inductive RecordAction
  | deliver (w : ℕ) (event : StreamedEvent)
  | dedup (w : ℕ) (fate : NetworkFate)
  /-- An attempt of the call that the worker is in. -/
  | attempt (w : ℕ) (fate : AttemptFate)
  /-- The call is over, and the worker goes on behind it. -/
  | proceed (w : ℕ)
  /-- The worker is started again. -/
  | crash (w : ℕ)

section
variable (cfg : DlqSettings)

/-- The parameters are computed and the retrying insertion begins. -/
def startInsertion (event : StreamedEvent) : ConsumerPoint :=
  match getDlqInsertionParameters cfg.conv cfg.loads event with
  | .ok params => .inserting event params (.atHead cfg.maxRetries none)
  | .error e => .stopped e

/-- A retrying acknowledgement begins. -/
def startAcknowledgement (call : AckCall) (event : StreamedEvent) : ConsumerPoint :=
  .acknowledging call event (.atHead cfg.maxRetries none)

/-- The point behind a call that has returned or raised. -/
def nextPoint : ConsumerPoint → Option ConsumerPoint
  | .inserting event _ .returned => some (startAcknowledgement cfg .first event)
  -- there is no `continue` after the acknowledgement of a duplicate
  | .acknowledging .duplicate event .returned => some (startInsertion cfg event)
  | .acknowledging .first event .returned => some (startAcknowledgement cfg .second event)
  | .acknowledging .second _ .returned => some .waiting
  | .inserting _ _ (.raised e) => some (.stopped e)
  | .acknowledging _ _ (.raised e) => some (.stopped e)
  | _ => none

/-- One step of the workers. -/
def recordStep (s : RecordState) : RecordAction → Option RecordState
  | .deliver w event =>
      match s.workers w with
      | .waiting => some (s.moveTo w (.received event))
      | _ => none
  | .dedup w fate =>
      match s.workers w with
      | .received event =>
          let (fresh, table) := dedupInsertEvent s.table event.eventId
          match fate with
          | .notExecuted => some (s.moveTo w (.stopped .operationalError))
          | .unanswered => some ({ s with table }.moveTo w (.stopped .operationalError))
          | .answered =>
              some ({ s with table }.moveTo w
                (if fresh then startInsertion cfg event
                else startAcknowledgement cfg .duplicate event))
      | _ => none
  | .attempt w fate =>
      match s.workers w with
      | .inserting event params (.running remaining _) =>
          let (answer, rows) := insertDlqRecord s.rows ⟨cfg.tableOf w, event, params⟩ fate
          some ({ s with rows }.moveTo w
            (.inserting event params (afterDbAttempt remaining answer)))
      | .acknowledging call event (.running remaining _) =>
          let acked :=
            match fate with
            | .refused _ => s.acked
            | _ => s.acked ++ [event]
          some ({ s with acked }.moveTo w
            (.acknowledging call event (.afterAttempt remaining fate.answer)))
      | _ => none
  | .proceed w => (nextPoint cfg (s.workers w)).map (s.moveTo w)
  | .crash w => some (s.moveTo w .waiting)

/-- The rows of an event. -/
def RecordState.rowsOf (s : RecordState) (event : StreamedEvent) : List DlqRow :=
  s.rows.filter fun row => row.event = event

/-- The rows of an acknowledged event are recorded exactly once, and those of any event at
most once. -/
structure RecordedOnce (s : RecordState) : Prop where
  none_twice : ∀ event, (s.rowsOf event).length ≤ 1
  acked : ∀ event ∈ s.acked, ∃ row, s.rowsOf event = [row] ∧
    getDlqInsertionParameters cfg.conv cfg.loads event = .ok row.params

/-- The event is in `dlq_events`, and the worker inserts there, too. -/
def Harmless (s : RecordState) (w : ℕ) (event : StreamedEvent) : Prop :=
  cfg.tableOf w = .events ∧ ∃ row ∈ s.rows, row.event = event ∧ row.table = .events

/-- The condition on a step.  The branch of the duplicates is taken for harmless events
only, and an insertion that has been committed is attempted again on `dlq_events` only. -/
def KeepsRecords (s : RecordState) : RecordAction → Prop
  | .dedup w .answered => ∀ event, s.workers w = .received event →
      recordKey event ∈ s.table → Harmless cfg s w event
  | .attempt w (.unanswered e) => ∀ event params remaining exception,
      s.workers w = .inserting event params (.running remaining exception) →
      isPotentialTransientError e = true → 1 < remaining → cfg.tableOf w = .events
  | _ => True

/-- The key of the event that is being inserted. -/
def ConsumerPoint.pendingKey : ConsumerPoint → Option String
  | .inserting event _ (.running _ _) => some (recordKey event)
  | _ => none

/-- The event has a row. -/
def RecordState.Recorded (s : RecordState) (event : StreamedEvent) : Prop :=
  ∃ row ∈ s.rows, row.event = event

/-- No row has the key of the event, and no other worker is inserting one with it. -/
def RecordState.Fresh (s : RecordState) (w : ℕ) (event : StreamedEvent) : Prop :=
  (∀ row ∈ s.rows, recordKey row.event ≠ recordKey event) ∧
    ∀ w' ≠ w, (s.workers w').pendingKey ≠ some (recordKey event)

/-- What is known of the event of a worker at a point.  Without retries no call makes an
attempt, and the worker passes all of them. -/
def PointSound (s : RecordState) (w : ℕ) : ConsumerPoint → Prop
  | .inserting event params (.running _ _) =>
      getDlqInsertionParameters cfg.conv cfg.loads event = .ok params ∧
        recordKey event ∈ s.table ∧ (Harmless cfg s w event ∨ s.Fresh w event)
  | .inserting event _ .returned => s.Recorded event ∨ cfg.maxRetries = 0
  | .acknowledging .duplicate event _ => Harmless cfg s w event
  | .acknowledging _ event status =>
      s.Recorded event ∨ (cfg.maxRetries = 0 ∧ status = .returned)
  | _ => True

/-- What the steps that meet the condition keep. -/
structure Tracked (s : RecordState) : Prop where
  keys_nodup : (s.rows.map fun row => recordKey row.event).Nodup
  keyed : ∀ row ∈ s.rows, recordKey row.event ∈ s.table
  own : ∀ row ∈ s.rows,
    getDlqInsertionParameters cfg.conv cfg.loads row.event = .ok row.params
  acked : ∀ event ∈ s.acked, s.Recorded event
  points : ∀ w, PointSound cfg s w (s.workers w)

end

/-- One round of the loop as the executor has it.  A rollback takes no committed row back. -/
theorem dbRetryLoop_round {σ : Type} (coroutine : σ → Except Exn Unit × σ)
    (remaining : ℕ) (exception : Option Exn) (s : σ) :
    dbRetryLoop id coroutine (remaining + 1) exception s =
      match afterDbAttempt (remaining + 1) (coroutine s).1 with
      | .returned => (.ok (some ()), (coroutine s).2)
      | .raised e => (.error e, (coroutine s).2)
      | .running left e => dbRetryLoop id coroutine left e (coroutine s).2 := by
  rw [dbRetryLoop]
  obtain ⟨answer, s'⟩ := coroutine s
  cases answer with
  | ok u => rfl
  | error e =>
      cases hagain : isPotentialTransientError e with
      | false => simp [afterDbAttempt, hagain]
      | true => cases remaining <;> simp [afterDbAttempt, CallStatus.atHead, dbRetryLoop, hagain]

section
variable {cfg : DlqSettings} {s : RecordState} {w : ℕ} {event : StreamedEvent}

@[simp] theorem moveTo_workers_self (p : ConsumerPoint) : (s.moveTo w p).workers w = p :=
  Function.update_self ..

theorem moveTo_workers_of_ne {w' : ℕ} (hne : w' ≠ w) (p : ConsumerPoint) :
    (s.moveTo w p).workers w' = s.workers w' :=
  Function.update_of_ne hne ..

theorem Harmless.recorded (h : Harmless cfg s w event) : s.Recorded event := by
  obtain ⟨-, row, hrow, hevent, -⟩ := h
  exact ⟨row, hrow, hevent⟩

/-- The primary key refuses a harmless event. -/
theorem Harmless.conflicts (h : Harmless cfg s w event) (params : DlqParameters) :
    DlqRow.Conflicts ⟨cfg.tableOf w, event, params⟩ s.rows := by
  obtain ⟨htable, row, hrow, hevent, hevents⟩ := h
  exact ⟨htable, row, hrow, hevents, by rw [hevent]⟩

/-- A row of an event whose key has a row is the one. -/
theorem Tracked.row_unique (h : Tracked cfg s) {row row' : DlqRow} (hrow : row ∈ s.rows)
    (hrow' : row' ∈ s.rows) (hkey : recordKey row.event = recordKey row'.event) :
    row = row' :=
  List.inj_on_of_nodup_map h.keys_nodup hrow hrow' hkey

/-- The rows of an event that has one. -/
theorem Tracked.rowsOf_eq (h : Tracked cfg s) {row : DlqRow} (hrow : row ∈ s.rows) :
    s.rowsOf row.event = [row] := by
  have hnodup : (s.rowsOf row.event).Nodup := (List.Nodup.of_map _ h.keys_nodup).filter _
  have hmem : row ∈ s.rowsOf row.event := List.mem_filter.mpr ⟨hrow, by simp⟩
  have hall : ∀ row' ∈ s.rowsOf row.event, row' = row := by
    intro row' hrow'
    obtain ⟨hin, hevent⟩ := List.mem_filter.mp hrow'
    exact h.row_unique hin hrow (by rw [of_decide_eq_true hevent])
  rw [List.eq_replicate_of_mem hall] at hnodup hmem ⊢
  have hlength : (s.rowsOf row.event).length = 1 := by
    have hle := List.nodup_replicate.mp hnodup
    have hpos := List.length_pos_of_mem hmem
    rw [List.length_replicate] at hpos
    omega
  rw [hlength]
  rfl

/-- The invariant gives the purpose. -/
theorem Tracked.recordedOnce (h : Tracked cfg s) : RecordedOnce cfg s where
  none_twice event := by
    cases hrows : s.rowsOf event with
    | nil => exact Nat.zero_le 1
    | cons row rest =>
        have hmem : row ∈ s.rowsOf event := hrows ▸ List.mem_cons_self ..
        obtain ⟨hrow, hevent⟩ := List.mem_filter.mp hmem
        have hone := h.rowsOf_eq hrow
        rw [of_decide_eq_true hevent, hrows] at hone
        rw [hone]
        exact Nat.le_refl 1
  acked event hacked := by
    obtain ⟨row, hrow, rfl⟩ := h.acked event hacked
    exact ⟨row, h.rowsOf_eq hrow, h.own row hrow⟩

/-- What is known of a worker stays known when the tables grow and its event stays fresh. -/
theorem PointSound.mono {t : RecordState} {p : ConsumerPoint} (h : PointSound cfg s w p)
    (hrows : ∀ row ∈ s.rows, row ∈ t.rows) (htable : ∀ key ∈ s.table, key ∈ t.table)
    (hfresh : ∀ event, p.pendingKey = some (recordKey event) → s.Fresh w event →
      t.Fresh w event) : PointSound cfg t w p := by
  have hharmless : ∀ event, Harmless cfg s w event → Harmless cfg t w event := by
    intro event hharmless
    obtain ⟨hevents, row, hrow, hrest⟩ := hharmless
    exact ⟨hevents, row, hrows row hrow, hrest⟩
  have hrecorded : ∀ event, s.Recorded event → t.Recorded event := by
    intro event hrecorded
    obtain ⟨row, hrow, hevent⟩ := hrecorded
    exact ⟨row, hrows row hrow, hevent⟩
  cases p with
  | waiting => trivial
  | received event => trivial
  | stopped e => trivial
  | inserting event params status =>
      cases status with
      | running remaining exception =>
          obtain ⟨hparams, hkey, hcase⟩ := h
          refine ⟨hparams, htable _ hkey, ?_⟩
          rcases hcase with hcase | hcase
          · exact .inl (hharmless event hcase)
          · exact .inr (hfresh event rfl hcase)
      | returned => exact h.imp_left (hrecorded event)
      | raised e => trivial
  | acknowledging call event status =>
      cases call with
      | duplicate => exact hharmless event h
      | first => exact h.imp_left (hrecorded event)
      | second => exact h.imp_left (hrecorded event)

/-- The key of an event that is being inserted is in `stream_events`. -/
theorem Tracked.pendingKey_mem (h : Tracked cfg s) (w : ℕ) {key : String}
    (hkey : (s.workers w).pendingKey = some key) : key ∈ s.table := by
  have hpoint := h.points w
  unfold ConsumerPoint.pendingKey at hkey
  split at hkey
  · rename_i event params remaining exception hworker
    rw [hworker] at hpoint
    cases hkey
    exact hpoint.2.1
  · cases hkey

/-- One worker goes on while the tables grow.  The keys of the new rows and the key that the
worker is now inserting are not those of the other workers' fresh events. -/
theorem Tracked.grow (h : Tracked cfg s) {t : RecordState} {p : ConsumerPoint}
    (hworkers : t.workers = Function.update s.workers w p)
    (hnodup : (t.rows.map fun row => recordKey row.event).Nodup)
    (hkeyed : ∀ row ∈ t.rows, recordKey row.event ∈ t.table)
    (hown : ∀ row ∈ t.rows,
      getDlqInsertionParameters cfg.conv cfg.loads row.event = .ok row.params)
    (hacked : ∀ event ∈ t.acked, t.Recorded event)
    (hrows : ∀ row ∈ s.rows, row ∈ t.rows) (htable : ∀ key ∈ s.table, key ∈ t.table)
    (hothers : ∀ w' ≠ w, ∀ event, (s.workers w').pendingKey = some (recordKey event) →
      s.Fresh w' event → (∀ row ∈ t.rows, recordKey row.event ≠ recordKey event) ∧
        p.pendingKey ≠ some (recordKey event))
    (hself : PointSound cfg t w p) : Tracked cfg t where
  keys_nodup := hnodup
  keyed := hkeyed
  own := hown
  acked := hacked
  points w' := by
    by_cases hw : w' = w
    · subst hw
      rwa [hworkers, Function.update_self]
    · have hpoint : t.workers w' = s.workers w' := by rw [hworkers, Function.update_of_ne hw]
      rw [hpoint]
      refine (h.points w').mono hrows htable fun event hpending hfresh => ?_
      obtain ⟨hnew, hp⟩ := hothers w' hw event hpending hfresh
      refine ⟨hnew, fun w'' hne => ?_⟩
      by_cases hw'' : w'' = w
      · subst hw''
        rwa [hworkers, Function.update_self]
      · rw [hworkers, Function.update_of_ne hw'']
        exact hfresh.2 w'' hne

/-- What a worker knows of the others does not depend on where it stands itself. -/
theorem PointSound.moveTo {p : ConsumerPoint} (h : PointSound cfg s w p) (p' : ConsumerPoint) :
    PointSound cfg (s.moveTo w p') w p := by
  refine h.mono (fun _ hrow => hrow) (fun _ hkey => hkey) fun event _ hfresh => ?_
  refine ⟨hfresh.1, fun w' hw => ?_⟩
  rw [moveTo_workers_of_ne hw]
  exact hfresh.2 w' hw

/-- One worker goes on with nothing else changed, and inserts none of the other workers'
fresh events. -/
theorem Tracked.moveTo (h : Tracked cfg s) {p : ConsumerPoint}
    (hpending : ∀ w' ≠ w, ∀ event, s.Fresh w' event → p.pendingKey ≠ some (recordKey event))
    (hself : PointSound cfg s w p) : Tracked cfg (s.moveTo w p) :=
  h.grow rfl h.keys_nodup h.keyed h.own h.acked (fun _ hrow => hrow) (fun _ hkey => hkey)
    (fun w' hw event _ hfresh => ⟨hfresh.1, hpending w' hw event hfresh⟩) (hself.moveTo p)

/-- One worker goes on and inserts nothing, or the same event as before. -/
theorem Tracked.moveTo_quiet (h : Tracked cfg s) {p : ConsumerPoint}
    (hpending : p.pendingKey = none ∨ p.pendingKey = (s.workers w).pendingKey)
    (hself : PointSound cfg s w p) : Tracked cfg (s.moveTo w p) := by
  refine h.moveTo (fun w' hw event hfresh => ?_) hself
  rcases hpending with hpending | hpending
  · simp [hpending]
  · rw [hpending]
    exact hfresh.2 w hw.symm

/-- The calls that begin: without retries they have returned. -/
theorem atHead_none (n : ℕ) :
    (n = 0 ∧ CallStatus.atHead n none = .returned) ∨
      ∃ remaining, CallStatus.atHead n none = .running remaining none := by
  cases n with
  | zero => exact .inl ⟨rfl, rfl⟩
  | succ n => exact .inr ⟨n + 1, rfl⟩

/-- A worker at which an acknowledgement of a recorded event begins. -/
theorem pointSound_startAcknowledgement {call : AckCall}
    (hevent : (call = .duplicate → Harmless cfg s w event) ∧
      (call ≠ .duplicate → s.Recorded event ∨ cfg.maxRetries = 0)) :
    PointSound cfg s w (startAcknowledgement cfg call event) := by
  have hlater : call ≠ .duplicate → s.Recorded event ∨
      (cfg.maxRetries = 0 ∧ CallStatus.atHead cfg.maxRetries none = .returned) := by
    intro hcall
    rcases hevent.2 hcall with hrecorded | hzero
    · exact .inl hrecorded
    · exact .inr ⟨hzero, by rw [hzero]; rfl⟩
  cases call with
  | duplicate => exact hevent.1 rfl
  | first => exact hlater (by simp)
  | second => exact hlater (by simp)

/-- A worker at which the insertion of an event begins. -/
theorem pointSound_startInsertion (hkey : recordKey event ∈ s.table)
    (hcase : Harmless cfg s w event ∨ s.Fresh w event) :
    PointSound cfg s w (startInsertion cfg event) := by
  unfold startInsertion
  cases hparams : getDlqInsertionParameters cfg.conv cfg.loads event with
  | error e => trivial
  | ok params =>
      rcases atHead_none cfg.maxRetries with ⟨hzero, hhead⟩ | ⟨remaining, hhead⟩
      · rw [hhead]
        exact .inr hzero
      · rw [hhead]
        exact ⟨hparams, hkey, hcase⟩

variable (cfg) in
/-- It inserts no other event. -/
theorem pendingKey_startInsertion (event : StreamedEvent) :
    (startInsertion cfg event).pendingKey = none ∨
      (startInsertion cfg event).pendingKey = some (recordKey event) := by
  unfold startInsertion
  cases getDlqInsertionParameters cfg.conv cfg.loads event with
  | error e => exact .inl rfl
  | ok params =>
      rcases atHead_none cfg.maxRetries with ⟨-, hhead⟩ | ⟨remaining, hhead⟩ <;> rw [hhead]
      · exact .inl rfl
      · exact .inr rfl

/-- An event whose key is new is fresh. -/
theorem Tracked.fresh_of_new (h : Tracked cfg s) (hkey : recordKey event ∉ s.table) :
    s.Fresh w event :=
  ⟨fun row hrow heq => hkey (heq ▸ h.keyed row hrow),
    fun w' _ hpending => hkey (h.pendingKey_mem w' hpending)⟩

/-- The deduplication of an event whose key is new. -/
theorem Tracked.dedup_new (h : Tracked cfg s) (hkey : recordKey event ∉ s.table)
    {p : ConsumerPoint} (hpending : p.pendingKey = none ∨ p.pendingKey = some (recordKey event))
    (hself : PointSound cfg { s with table := s.table ++ [recordKey event] } w p) :
    Tracked cfg ({ s with table := s.table ++ [recordKey event] }.moveTo w p) := by
  have hgrow : ∀ key ∈ s.table, key ∈ s.table ++ [recordKey event] :=
    fun key hmem => List.mem_append_left _ hmem
  refine h.grow rfl h.keys_nodup (fun row hrow => hgrow _ (h.keyed row hrow)) h.own h.acked
    (fun _ hrow => hrow) hgrow (fun w' _ event' hpending' hfresh' => ⟨hfresh'.1, ?_⟩)
    (hself.moveTo p)
  intro hp
  rcases hpending with hnone | hsome
  · rw [hnone] at hp
    cases hp
  -- the other worker's event would have a new key, too
  · rw [hsome, ← hpending'] at hp
    exact hkey (h.pendingKey_mem w' hp.symm)

/-- The calls that go on after an attempt of an insertion have an attempt left. -/
theorem afterDbAttempt_running {remaining left : ℕ} {answer : Except Exn Unit}
    {exception : Option Exn} (h : afterDbAttempt remaining answer = .running left exception) :
    1 < remaining ∧ ∃ e, answer = .error e ∧ isPotentialTransientError e = true := by
  cases answer with
  | ok u => cases h
  | error e =>
      unfold afterDbAttempt at h
      dsimp only at h
      split at h
      · rename_i hagain
        match remaining with
        | 0 | 1 => cases h
        | remaining + 2 => exact ⟨by omega, e, rfl, hagain⟩
      · cases h

/-- A call that has returned after an attempt of an insertion has been answered. -/
theorem afterDbAttempt_returned {remaining : ℕ} {answer : Except Exn Unit}
    (h : afterDbAttempt remaining answer = .returned) : answer = .ok () := by
  cases answer with
  | ok u => rfl
  | error e =>
      unfold afterDbAttempt at h
      dsimp only at h
      split at h
      · match remaining with
        | 0 | 1 | remaining + 2 => cases h
      · cases h

/-- An attempt of an insertion writes nothing, or one row without a conflict. -/
theorem insertDlqRecord_cases (rows : List DlqRow) (row : DlqRow) (fate : AttemptFate) :
    (∃ e, insertDlqRecord rows row fate = (.error e, rows) ∧
        (fate = .refused e ∨ (row.Conflicts rows ∧ e = .integrityError))) ∨
      (¬ row.Conflicts rows ∧ (∀ e, fate ≠ .refused e) ∧
        insertDlqRecord rows row fate = (fate.answer, rows ++ [row])) := by
  by_cases hconflict : row.Conflicts rows
  · refine .inl ?_
    cases fate with
    | refused e => exact ⟨e, rfl, .inl rfl⟩
    | unanswered e => exact ⟨_, if_pos hconflict, .inr ⟨hconflict, rfl⟩⟩
    | answered => exact ⟨_, if_pos hconflict, .inr ⟨hconflict, rfl⟩⟩
  · cases fate with
    | refused e => exact .inl ⟨e, rfl, .inl rfl⟩
    | unanswered e => exact .inr ⟨hconflict, by simp, if_neg hconflict⟩
    | answered => exact .inr ⟨hconflict, by simp, if_neg hconflict⟩

/-- An attempt that writes nothing. -/
theorem Tracked.attempt_unwritten (h : Tracked cfg s) {params : DlqParameters}
    {remaining : ℕ} {exception : Option Exn}
    (hworker : s.workers w = .inserting event params (.running remaining exception)) (e : Exn) :
    Tracked cfg (s.moveTo w (.inserting event params (afterDbAttempt remaining (.error e)))) := by
  have hpoint := h.points w
  rw [hworker] at hpoint
  cases hstatus : afterDbAttempt remaining (.error e) with
  | running left exception' =>
      exact h.moveTo_quiet (.inr (by rw [hworker]; rfl)) hpoint
  | returned => cases afterDbAttempt_returned hstatus
  | raised e' => exact h.moveTo_quiet (.inl rfl) trivial

/-- An attempt that writes a row.  The call goes on only if the primary key refuses the next
attempt. -/
theorem Tracked.attempt_written (h : Tracked cfg s) {params : DlqParameters}
    {remaining : ℕ} {exception : Option Exn}
    (hworker : s.workers w = .inserting event params (.running remaining exception))
    {row : DlqRow} (hrow : row = ⟨cfg.tableOf w, event, params⟩)
    (hfree : ¬ row.Conflicts s.rows) {status : CallStatus}
    (hagain : ∀ left exception', status = .running left exception' → cfg.tableOf w = .events) :
    Tracked cfg ({ s with rows := s.rows ++ [row] }.moveTo w
      (.inserting event params status)) := by
  have hpoint := h.points w
  rw [hworker] at hpoint
  obtain ⟨hparams, hkey, hcase⟩ := hpoint
  have hfresh : s.Fresh w event :=
    hcase.resolve_left fun hharmless => hfree (hrow ▸ hharmless.conflicts params)
  have hevent : row.event = event := by rw [hrow]
  have hpending : (s.workers w).pendingKey = some (recordKey event) := by
    rw [hworker]
    rfl
  have hin : row ∈ s.rows ++ [row] := List.mem_append_right _ (List.mem_singleton_self _)
  have hrecorded : ∀ event', s.Recorded event' →
      ∃ row' ∈ s.rows ++ [row], row'.event = event' := by
    intro event' hrecorded
    obtain ⟨row', hrow', hevent'⟩ := hrecorded
    exact ⟨row', List.mem_append_left _ hrow', hevent'⟩
  refine h.grow rfl ?_ ?_ ?_ (fun event' hacked => hrecorded event' (h.acked event' hacked))
    (fun row hrow => List.mem_append_left _ hrow) (fun _ hkey => hkey) ?_ ?_
  · show ((s.rows ++ [row]).map fun row => recordKey row.event).Nodup
    rw [List.map_append, List.nodup_append]
    refine ⟨h.keys_nodup, List.nodup_singleton _, ?_⟩
    intro key hmem key' hmem'
    obtain ⟨row', hrow', rfl⟩ := List.mem_map.mp hmem
    rw [List.map_singleton, List.mem_singleton, hevent] at hmem'
    rw [hmem']
    exact hfresh.1 row' hrow'
  · refine List.forall_mem_append.mpr ⟨h.keyed, ?_⟩
    rw [List.forall_mem_singleton, hevent]
    exact hkey
  · refine List.forall_mem_append.mpr ⟨h.own, ?_⟩
    rw [List.forall_mem_singleton, hrow]
    exact hparams
  · intro w' hw event' hpending' hfresh'
    have hne : recordKey event ≠ recordKey event' := by
      intro heq
      exact hfresh'.2 w hw.symm (heq ▸ hpending)
    refine ⟨List.forall_mem_append.mpr ⟨hfresh'.1, ?_⟩, ?_⟩
    · rw [List.forall_mem_singleton, hevent]
      exact hne
    · cases status with
      | running left exception' => exact fun heq => hne (Option.some.inj heq)
      | returned => simp [ConsumerPoint.pendingKey]
      | raised e => simp [ConsumerPoint.pendingKey]
  · cases status with
    | running left exception' =>
        have htable := hagain left exception' rfl
        exact ⟨hparams, hkey, .inl ⟨htable, row, hin, hevent, by rw [hrow]; exact htable⟩⟩
    | returned => exact .inl ⟨row, hin, hevent⟩
    | raised e => trivial

/-- An attempt to acknowledge an event, executed or not. -/
theorem Tracked.attempt_acknowledgement (h : Tracked cfg s) {call : AckCall} {remaining : ℕ}
    {exception : Option Exn}
    (hworker : s.workers w = .acknowledging call event (.running remaining exception))
    {acked : List StreamedEvent} (hacked : ∀ event' ∈ acked, event' ∈ s.acked ∨ event' = event)
    (status : CallStatus) :
    Tracked cfg ({ s with acked }.moveTo w (.acknowledging call event status)) := by
  have hpoint := h.points w
  rw [hworker] at hpoint
  have hrecorded : s.Recorded event := by
    cases call with
    | duplicate => exact Harmless.recorded hpoint
    | first => exact hpoint.resolve_right fun hzero => by cases hzero.2
    | second => exact hpoint.resolve_right fun hzero => by cases hzero.2
  refine h.grow rfl h.keys_nodup h.keyed h.own ?_ (fun _ hrow => hrow) (fun _ hkey => hkey)
    (fun w' _ event' _ hfresh => ⟨hfresh.1, by simp [ConsumerPoint.pendingKey]⟩) ?_
  · intro event' hmem
    rcases hacked event' hmem with hold | rfl
    · exact h.acked event' hold
    · exact hrecorded
  · cases call with
    | duplicate => exact hpoint
    | first => exact .inl hrecorded
    | second => exact .inl hrecorded

/-- A worker goes on behind its call. -/
theorem Tracked.proceed (h : Tracked cfg s) {p : ConsumerPoint}
    (hnext : nextPoint cfg (s.workers w) = some p) : Tracked cfg (s.moveTo w p) := by
  have hpoint := h.points w
  unfold nextPoint at hnext
  split at hnext
  · rename_i event params hworker
    rw [hworker] at hpoint
    cases hnext
    exact h.moveTo_quiet (.inl rfl)
      (pointSound_startAcknowledgement ⟨by simp, fun _ => hpoint⟩)
  · rename_i event hworker
    rw [hworker] at hpoint
    cases hnext
    obtain ⟨row, hrow, hevent⟩ := Harmless.recorded hpoint
    refine h.moveTo (fun w' _ event' hfresh => ?_)
      (pointSound_startInsertion (hevent ▸ h.keyed row hrow) (.inl hpoint))
    -- the duplicate has a row, so its event is fresh nowhere
    rcases pendingKey_startInsertion cfg event with hpending | hpending
    · simp [hpending]
    · rw [hpending, ← hevent]
      exact fun heq => hfresh.1 row hrow (Option.some.inj heq)
  · rename_i event hworker
    rw [hworker] at hpoint
    cases hnext
    exact h.moveTo_quiet (.inl rfl)
      (pointSound_startAcknowledgement ⟨by simp, fun _ => hpoint.imp_right And.left⟩)
  · cases hnext
    exact h.moveTo_quiet (.inl rfl) trivial
  · cases hnext
    exact h.moveTo_quiet (.inl rfl) trivial
  · cases hnext
    exact h.moveTo_quiet (.inl rfl) trivial
  · cases hnext

/-- A deduplication.  What is known of the event behind it is asked for only if it is a
duplicate that is answered. -/
theorem Tracked.dedup (h : Tracked cfg s) {t : RecordState} {fate : NetworkFate}
    (hworker : s.workers w = .received event)
    (hduplicate : fate = .answered → recordKey event ∈ s.table → Harmless cfg s w event)
    (hstep : recordStep cfg s (.dedup w fate) = some t) : Tracked cfg t := by
  simp only [recordStep, hworker] at hstep
  by_cases hkey : recordKey event ∈ s.table
  · have hanswer : dedupInsertEvent s.table event.eventId = (false, s.table) := if_pos hkey
    rw [hanswer] at hstep
    cases fate with
    | notExecuted =>
        cases hstep
        exact h.moveTo_quiet (.inl rfl) trivial
    | unanswered =>
        cases hstep
        exact h.moveTo_quiet (.inl rfl) trivial
    | answered =>
        cases hstep
        exact h.moveTo_quiet (.inl rfl)
          (pointSound_startAcknowledgement ⟨fun _ => hduplicate rfl hkey, by simp⟩)
  · have hanswer : dedupInsertEvent s.table event.eventId =
        (true, s.table ++ [recordKey event]) := if_neg hkey
    rw [hanswer] at hstep
    cases fate with
    | notExecuted =>
        cases hstep
        exact h.moveTo_quiet (.inl rfl) trivial
    | unanswered =>
        cases hstep
        exact h.dedup_new hkey (.inl rfl) trivial
    | answered =>
        cases hstep
        exact h.dedup_new hkey (pendingKey_startInsertion cfg event)
          (pointSound_startInsertion (List.mem_append_right _ (List.mem_singleton_self _))
            (.inr (h.fresh_of_new hkey)))

/-- An attempt of an insertion.  One that is committed and tried again is on `dlq_events`. -/
theorem Tracked.attempt_insertion (h : Tracked cfg s) {params : DlqParameters} {remaining : ℕ}
    {exception : Option Exn} {fate : AttemptFate}
    (hworker : s.workers w = .inserting event params (.running remaining exception))
    (hagain : ∀ e, fate = .unanswered e → isPotentialTransientError e = true →
      1 < remaining → cfg.tableOf w = .events) {answer : Except Exn Unit} {rows : List DlqRow}
    (hinsert : insertDlqRecord s.rows ⟨cfg.tableOf w, event, params⟩ fate = (answer, rows)) :
    Tracked cfg ({ s with rows }.moveTo w
      (.inserting event params (afterDbAttempt remaining answer))) := by
  rcases insertDlqRecord_cases s.rows ⟨cfg.tableOf w, event, params⟩ fate with
    ⟨e, hcase, -⟩ | ⟨hfree, hfate, hcase⟩
  · rw [hinsert] at hcase
    cases hcase
    exact h.attempt_unwritten hworker e
  · rw [hinsert] at hcase
    cases hcase
    refine h.attempt_written hworker rfl hfree fun left exception' hstatus => ?_
    obtain ⟨hleft, e, hanswer, htransient⟩ := afterDbAttempt_running hstatus
    cases fate with
    | refused e' => exact absurd rfl (hfate e')
    | answered => cases hanswer
    | unanswered e' =>
        cases hanswer
        exact hagain e rfl htransient hleft

/-- What a step that meets the condition keeps. -/
theorem Tracked.step (h : Tracked cfg s) {t : RecordState} {a : RecordAction}
    (hstep : recordStep cfg s a = some t) (hkeeps : KeepsRecords cfg s a) : Tracked cfg t := by
  cases a with
  | deliver w event =>
      simp only [recordStep] at hstep
      split at hstep
      · cases hstep
        exact h.moveTo_quiet (.inl rfl) trivial
      · cases hstep
  | dedup w fate =>
      cases hworker : s.workers w with
      | received event =>
          refine h.dedup hworker (fun hfate hkey => ?_) hstep
          subst hfate
          exact hkeeps event hworker hkey
      | _ => simp [recordStep, hworker] at hstep
  | attempt w fate =>
      simp only [recordStep] at hstep
      split at hstep
      · rename_i event params remaining exception hworker
        cases hstep
        refine h.attempt_insertion hworker (fun e hfate => ?_) rfl
        subst hfate
        exact hkeeps event params remaining exception hworker
      · rename_i call event remaining exception hworker
        cases hstep
        refine h.attempt_acknowledgement hworker (fun event' hmem => ?_) _
        have hadded : event' ∈ s.acked ++ [event] := by
          cases fate with
          | refused e => exact List.mem_append_left _ hmem
          | unanswered e => exact hmem
          | answered => exact hmem
        exact (List.mem_append.mp hadded).imp_right List.mem_singleton.mp
      · cases hstep
  | proceed w =>
      obtain ⟨p, hnext, rfl⟩ := Option.map_eq_some_iff.mp hstep
      exact h.proceed hnext
  | crash w =>
      cases hstep
      exact h.moveTo_quiet (.inl rfl) trivial

/-- A recorded event that is being inserted, and that the primary key does not refuse, is
recorded a second time by the next attempt that is answered. -/
theorem recordedTwice {params : DlqParameters} {remaining : ℕ} {exception : Option Exn}
    (hworker : s.workers w = .inserting event params (.running remaining exception))
    (hrecorded : s.Recorded event)
    (hfree : ¬ DlqRow.Conflicts ⟨cfg.tableOf w, event, params⟩ s.rows) :
    ∃ t, recordStep cfg s (.attempt w .answered) = some t ∧ ¬ RecordedOnce cfg t := by
  have hinsert : insertDlqRecord s.rows ⟨cfg.tableOf w, event, params⟩ .answered =
      (.ok (), s.rows ++ [⟨cfg.tableOf w, event, params⟩]) := if_neg hfree
  have hstep : recordStep cfg s (.attempt w .answered) = some ({ s with
      rows := s.rows ++ [DlqRow.mk (cfg.tableOf w) event params] }.moveTo w
        (.inserting event params .returned)) := by
    simp only [recordStep, hworker, hinsert]
    rfl
  refine ⟨_, hstep, fun honce => ?_⟩
  obtain ⟨row, hrow, hevent⟩ := hrecorded
  have hold : row ∈ s.rowsOf event := List.mem_filter.mpr ⟨hrow, by simp [hevent]⟩
  have hlength := honce.none_twice event
  simp only [RecordState.rowsOf, RecordState.moveTo, List.filter_append, List.length_append]
    at hlength hold
  have hpos := List.length_pos_of_mem hold
  simp only [decide_true, List.filter_cons_of_pos, List.filter_nil, List.length_singleton]
    at hlength
  omega

/-- A duplicate that is not harmless is lost or recorded twice. -/
theorem duplicate_reaches (h : Tracked cfg s) (hretries : cfg.maxRetries ≠ 0)
    (hharmless : ¬ Harmless cfg s w event) :
    ∃ actions t, runActions (recordStep cfg)
      (s.moveTo w (startAcknowledgement cfg .duplicate event)) actions = some t ∧
        ¬ RecordedOnce cfg t := by
  obtain ⟨remaining, hhead⟩ := (atHead_none cfg.maxRetries).resolve_left fun h => hretries h.1
  let acked : RecordState := { s with acked := s.acked ++ [event] }.moveTo w
    (.acknowledging .duplicate event .returned)
  have hack : recordStep cfg (s.moveTo w (startAcknowledgement cfg .duplicate event))
      (.attempt w .answered) = some acked := by
    simp only [recordStep, moveTo_workers_self, startAcknowledgement, hhead]
    simp [acked, RecordState.moveTo, CallStatus.afterAttempt, AttemptFate.answer]
  by_cases hrecorded : s.Recorded event
  · obtain ⟨row, hrow, hevent⟩ := hrecorded
    have hparams : getDlqInsertionParameters cfg.conv cfg.loads event = .ok row.params :=
      hevent ▸ h.own row hrow
    let inserting : RecordState := acked.moveTo w
      (.inserting event row.params (.running remaining none))
    have hproceed : recordStep cfg acked (.proceed w) = some inserting := by
      simp only [recordStep, acked, moveTo_workers_self, nextPoint, startInsertion, hparams,
        hhead]
      rfl
    have hfree : ¬ DlqRow.Conflicts ⟨cfg.tableOf w, event, row.params⟩ inserting.rows := by
      intro hconflict
      obtain ⟨htable, other, hother, hevents, hkey⟩ := hconflict
      have hsame : other = row := h.row_unique hother hrow (by rw [hkey, hevent])
      exact hharmless ⟨htable, row, hrow, hevent, hsame ▸ hevents⟩
    obtain ⟨t, hinsert, ht⟩ := recordedTwice (s := inserting) (moveTo_workers_self _)
      ⟨row, hrow, hevent⟩ hfree
    exact ⟨[.attempt w .answered, .proceed w, .attempt w .answered], t,
      by simp only [runActions, hack, hproceed, hinsert], ht⟩
  · refine ⟨_, acked, runActions_one hack, fun honce => ?_⟩
    obtain ⟨row, hrow, -⟩ := honce.acked event
      (List.mem_append_right _ (List.mem_singleton_self _))
    have hmem : row ∈ acked.rowsOf event := hrow ▸ List.mem_singleton_self _
    obtain ⟨hin, hevent⟩ := List.mem_filter.mp hmem
    exact hrecorded ⟨row, hin, of_decide_eq_true hevent⟩

/-- After a step that does not meet the condition the run can go on to a state in which an
event is lost or recorded twice. -/
theorem faultyStep_reaches (h : Tracked cfg s) (hretries : cfg.maxRetries ≠ 0)
    {t : RecordState} {a : RecordAction} (hstep : recordStep cfg s a = some t)
    (hfaulty : ¬ KeepsRecords cfg s a) :
    ∃ actions u, runActions (recordStep cfg) t actions = some u ∧ ¬ RecordedOnce cfg u := by
  unfold KeepsRecords at hfaulty
  split at hfaulty
  · rename_i w
    push Not at hfaulty
    obtain ⟨event, hworker, hkey, hharmless⟩ := hfaulty
    have hanswer : dedupInsertEvent s.table event.eventId = (false, s.table) := if_pos hkey
    simp only [recordStep, hworker, hanswer] at hstep
    cases hstep
    exact duplicate_reaches h hretries hharmless
  · rename_i w e
    push Not at hfaulty
    obtain ⟨event, params, remaining, exception, hworker, hagain, hleft, htable⟩ := hfaulty
    have hfree : ∀ rows, ¬ DlqRow.Conflicts ⟨cfg.tableOf w, event, params⟩ rows :=
      fun rows hconflict => htable hconflict.1
    have hinsert : insertDlqRecord s.rows ⟨cfg.tableOf w, event, params⟩ (.unanswered e) =
        (.error e, s.rows ++ [⟨cfg.tableOf w, event, params⟩]) := if_neg (hfree _)
    obtain ⟨left, rfl⟩ : ∃ left, remaining = left + 2 := ⟨remaining - 2, by omega⟩
    have hstatus : afterDbAttempt (left + 2) (.error e) = .running (left + 1) (some e) := by
      simp [afterDbAttempt, hagain, CallStatus.atHead]
    simp only [recordStep, hworker, hinsert, hstatus] at hstep
    cases hstep
    let written : RecordState :=
      { s with rows := s.rows ++ [DlqRow.mk (cfg.tableOf w) event params] }.moveTo w
        (.inserting event params (.running (left + 1) (some e)))
    have hrecorded : written.Recorded event :=
      ⟨_, List.mem_append_right _ (List.mem_singleton_self _), rfl⟩
    obtain ⟨u, hsecond, hu⟩ := recordedTwice (s := written) (moveTo_workers_self _) hrecorded
      (hfree _)
    exact ⟨_, u, runActions_one hsecond, hu⟩
  · exact absurd trivial hfaulty

variable (cfg) in
theorem tracked_initial (table : List String) : Tracked cfg (.initial table) where
  keys_nodup := List.nodup_nil
  keyed row hrow := by cases hrow
  own row hrow := by cases hrow
  acked event hacked := by cases hacked
  points _ := trivial

variable (cfg) in
/-- In a run whose steps all meet the condition the rows of an acknowledged event are recorded
exactly once, and those of any event at most once. -/
theorem recordedOnce_of_eachStep (table : List String) {actions : List RecordAction}
    (hkeeps : EachStep (recordStep cfg) (KeepsRecords cfg) (.initial table) actions) :
    Always (recordStep cfg) (RecordedOnce cfg) (.initial table) actions := by
  have htracked : Always (recordStep cfg) (Tracked cfg) (.initial table) actions :=
    always_of_eachStep (I := fun _ => True) (fun _ _ _ _ _ _ => trivial)
      (fun _ _ _ _ h hstep hkeeps => h.step hstep hkeeps) actions _ trivial
      (tracked_initial cfg table) hkeeps
  exact htracked.imp fun _ h => h.recordedOnce

end

/-- Consumers for the table of dead events and, with every other number, for that of the side
effects. -/
def twoConsumers : DlqSettings := ⟨textConversions, emptyTexts, 3,
  fun w => if w % 2 = 0 then .events else .sideEffects⟩

/-- A malformed entry of the stream. -/
def malformedEntry : StreamedEvent := ⟨⟨.malformed, [], {}⟩, 17⟩

/-- A malformed entry is recorded and acknowledged, and a worker that has crashed in between
takes it for a duplicate that the primary key refuses. -/
def recordedEntry : List RecordAction :=
  [.deliver 0 malformedEntry, .dedup 0 .answered, .attempt 0 .answered, .crash 0,
    .deliver 0 malformedEntry, .dedup 0 .answered, .attempt 0 .answered, .proceed 0,
    .attempt 0 .answered]

/-- The entry is recorded once in every state of this run. -/
theorem recordedEntry_recordedOnce :
    Always (recordStep twoConsumers) (RecordedOnce twoConsumers) (.initial []) recordedEntry := by
  refine recordedOnce_of_eachStep twoConsumers [] ?_
  refine .cons rfl trivial (.cons rfl ?_ (.cons rfl trivial (.cons rfl trivial
    (.cons rfl trivial (.cons rfl ?_ (.cons rfl trivial (.cons rfl trivial
    (.cons rfl trivial trivial))))))))
  · intro event _ hkey
    cases hkey
  · intro event hworker _
    cases hworker
    exact ⟨rfl, _, List.mem_singleton_self _, rfl, rfl⟩

/-- An event whose one side effect has failed. -/
def failedSideEffect : StreamedEvent :=
  ⟨⟨.dlqSideEffects, [], { cacheInvalidations := [⟨"posts:5", .invalidate, .mapping⟩] }⟩, 23⟩

/-- The worker crashes between the deduplication and the insertion, and acknowledges the
event as a duplicate when it is delivered again. -/
def lostEvent : List RecordAction :=
  [.deliver 0 malformedEntry, .dedup 0 .answered, .crash 0, .deliver 0 malformedEntry,
    .dedup 0 .answered, .attempt 0 .answered]

/-- The worker crashes between the insertion and the acknowledgement, and inserts the event
again when it is delivered again. -/
def twiceRecorded : List RecordAction :=
  [.deliver 1 failedSideEffect, .dedup 1 .answered, .attempt 1 .answered, .crash 1,
    .deliver 1 failedSideEffect, .dedup 1 .answered, .attempt 1 .answered, .proceed 1,
    .attempt 1 .answered]

/-- The first event is acknowledged without a row, and the second one has two. -/
theorem redelivery_not_recordedOnce :
    ¬ Always (recordStep twoConsumers) (RecordedOnce twoConsumers) (.initial []) lostEvent ∧
      ¬ Always (recordStep twoConsumers) (RecordedOnce twoConsumers) (.initial [])
        twiceRecorded := by
  constructor
  · intro h
    have hrun : ∃ s, runActions (recordStep twoConsumers) (.initial []) lostEvent = some s ∧
        s.rows = [] ∧ s.acked = [malformedEntry] := ⟨_, rfl, rfl, rfl⟩
    obtain ⟨s, hs, hrows, hacked⟩ := hrun
    obtain ⟨row, hrow, -⟩ := (h.last hs).acked malformedEntry (by simp [hacked])
    simp [RecordState.rowsOf, hrows] at hrow
  · intro h
    have hrun : ∃ s, runActions (recordStep twoConsumers) (.initial []) twiceRecorded = some s ∧
        s.rows.map DlqRow.event = [failedSideEffect, failedSideEffect] := ⟨_, rfl, rfl⟩
    obtain ⟨s, hs, hrows⟩ := hrun
    have hlength := (h.last hs).none_twice failedSideEffect
    have hall : s.rowsOf failedSideEffect = s.rows := by
      refine List.filter_eq_self.mpr fun row hrow => ?_
      have hmem : row.event ∈ s.rows.map DlqRow.event := List.mem_map_of_mem hrow
      simpa [hrows] using hmem
    rw [hall, ← List.length_map DlqRow.event, hrows] at hlength
    simp at hlength

end DatabaseWorkers
end Tenjin
