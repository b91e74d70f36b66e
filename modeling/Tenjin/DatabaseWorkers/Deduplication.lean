import Mathlib.Data.List.Dedup
import Tenjin.Foundation.GuardedRun
import Tenjin.Python.Separated
import Tenjin.ResourceAuxillary.SqlTemplates
import Tenjin.ResourceAuxillary.StreamIds

/-!
# Deduplication across streams

All consumers record the numbers of their events in the one table `stream_events`, whose
primary key is a text (`db_qos.py`).  Streams assign their IDs independently.

* `dedupInsertEvent` is the step of the consumers that take one event at a time.
* `batchDedupInsertEvents` and `trimmedEvents` are the step of the batch consumers, for
  the statement that `prepare_batch_dedup_sql` formats and for the one that it was
  meant to format.
* `FirstDeliveryKept` is the purpose: what is taken for a duplicate has been handed to
  the deduplication before.
-/

namespace Tenjin
namespace DatabaseWorkers

open Python Foundation ResourceAuxillary

/-- The statement that the batch deduplication formats: the code's own one, or the one
written for it. -/
inductive DedupStatement
  | single
  | batch
  deriving DecidableEq

/-- The template of the statement. -/
def DedupStatement.template : DedupStatement → List Segment
  | .single => singleDedupStatement
  | .batch => batchDedupStatement

/-- `dedup_insert_event` on the keys of `stream_events`: an `IntegrityError` on the
primary key is the answer `False`. -/
def dedupInsertEvent (table : List String) (eventId : Int) : Bool × List String :=
  if toString eventId ∈ table then (false, table) else (true, table ++ [toString eventId])

/-- `batch_dedup_insert_events`: the keys that are inserted come back as the column has
them, as texts. -/
def batchDedupInsertEvents (statement : DedupStatement) (tempTable : String)
    (table : List String) (eventIds : List Int) :
    Except Exn (List PyValue × List String) :=
  match sqlFormat statement.template (batchDedupArguments tempTable) with
  | .error e => .error e
  | .ok _ =>
      let fresh := (eventIds.map fun i => toString i).dedup.filter fun key => key ∉ table
      .ok (fresh.map .str, table ++ fresh)

/-- The events that `trim_duplicate_events` takes out of the batch. -/
def trimmedEvents (freshEventIds : List PyValue) (batch : List EntryRef) : List EntryRef :=
  batch.filter fun event => PyValue.int event.eventId ∉ freshEventIds

/-- What the deduplication made of an event that was handed to it. -/
inductive DedupOutcome
  | fresh
  | duplicate
  /-- The deduplication raised, and its transaction was rolled back. -/
  | raised
  deriving DecidableEq

/-- The streams, the deduplication table and every delivery so far, oldest first. -/
structure DedupState where
  lastId : StreamName → Option StreamId
  appended : List EntryRef
  table : List String
  history : List (EntryRef × DedupOutcome)

/-- Nothing has been appended yet. -/
def DedupState.initial : DedupState where
  lastId := fun _ => none
  appended := []
  table := []
  history := []

/-- The entries that have been handed to the deduplication. -/
def DedupState.delivered (s : DedupState) : List EntryRef := s.history.map Prod.fst

/-- The entries whose number the deduplication has recorded or found recorded. -/
def DedupState.recorded (s : DedupState) : List EntryRef :=
  (s.history.filter fun entry => entry.2 ≠ .raised).map Prod.fst

/-- What happens next: a stream takes an entry, or a consumer hands over an entry or a
batch of entries of its stream. -/
inductive DedupAction
  | append (e : EntryRef)
  | deliver (e : EntryRef)
  | deliverBatch (stream : StreamName) (ids : List StreamId) (tempTable : String)

/-- The outcome of each entry of a batch. -/
def batchOutcomes (freshEventIds : List PyValue) (batch : List EntryRef) :
    List (EntryRef × DedupOutcome) :=
  batch.map fun e =>
    (e, if e ∈ trimmedEvents freshEventIds batch then .duplicate else .fresh)

/-- One step.  A stream only takes an ID that is greater than its last one. -/
def dedupStep (statement : DedupStatement) (s : DedupState) : DedupAction → Option DedupState
  | .append e =>
      if ∀ last ∈ s.lastId e.stream, last.Before e.id then
        some { s with
          lastId := (fun stream => if stream = e.stream then some e.id else s.lastId stream)
          appended := s.appended ++ [e] }
      else none
  | .deliver e =>
      if e ∈ s.appended then
        let (fresh, table) := dedupInsertEvent s.table e.eventId
        some { s with
          table
          history := s.history ++ [(e, if fresh then .fresh else .duplicate)] }
      else none
  | .deliverBatch stream ids tempTable =>
      let batch := ids.map (EntryRef.mk stream)
      if ∀ e ∈ batch, e ∈ s.appended then
        match batchDedupInsertEvents statement tempTable s.table
            (batch.map EntryRef.eventId) with
        | .error _ => some { s with history := s.history ++ batch.map fun e => (e, .raised) }
        | .ok (fresh, table) =>
            some { s with table, history := s.history ++ batchOutcomes fresh batch }
      else none

/-- Whatever is taken for a duplicate has been delivered before. -/
def FirstDeliveryKept (s : DedupState) : Prop :=
  ∀ front e back, s.history = front ++ (e, .duplicate) :: back → e ∈ front.map Prod.fst

/-- The condition on a step.  A single event has been delivered before, or no recorded
entry has its number; with the statement for batches, every entry of a batch has been
delivered before. -/
def NumberUnused (statement : DedupStatement) (s : DedupState) : DedupAction → Prop
  | .append _ => True
  | .deliver e => e ∈ s.delivered ∨ ∀ e' ∈ s.recorded, e'.id.number ≠ e.id.number
  | .deliverBatch stream ids _ =>
      statement = .single ∨ ∀ id ∈ ids, EntryRef.mk stream id ∈ s.delivered

/-- The table holds the keys of the recorded entries. -/
def TableRecords (s : DedupState) : Prop :=
  ∀ key, key ∈ s.table ↔ ∃ e ∈ s.recorded, key = toString e.eventId

/-- A number is never one of the texts that the batch statement returns. -/
theorem trimmedEvents_of_texts (fresh : List String) (batch : List EntryRef) :
    trimmedEvents (fresh.map .str) batch = batch := by
  rw [trimmedEvents, List.filter_eq_self]
  intro e _
  simp

/-- So every entry of the batch is taken for a duplicate. -/
theorem batchOutcomes_of_texts (fresh : List String) (batch : List EntryRef) :
    batchOutcomes (fresh.map .str) batch = batch.map fun e => (e, .duplicate) := by
  apply List.map_congr_left
  intro e he
  simp [trimmedEvents_of_texts, he]

/-- One more delivery keeps the property if it is no duplicate, or not the first one. -/
theorem firstDeliveryKept_append (s : DedupState) (e : EntryRef) (o : DedupOutcome) :
    FirstDeliveryKept { s with history := s.history ++ [(e, o)] } ↔
      FirstDeliveryKept s ∧ (o = .duplicate → e ∈ s.delivered) := by
  constructor
  · intro h
    refine ⟨fun front e' back hs => ?_, fun ho => ?_⟩
    · refine h front e' (back ++ [(e, o)]) ?_
      show s.history ++ [(e, o)] = front ++ (e', .duplicate) :: (back ++ [(e, o)])
      rw [hs]
      simp
    · exact h s.history e [] (by rw [ho])
  · rintro ⟨hkept, hnew⟩ front e' back hs
    rcases List.eq_nil_or_concat' back with rfl | ⟨back, last, rfl⟩
    · have hs' : s.history ++ [(e, o)] = front ++ [(e', .duplicate)] := hs
      obtain ⟨rfl, hlast⟩ := List.append_inj' hs' rfl
      simp only [List.cons.injEq, Prod.mk.injEq, and_true] at hlast
      obtain ⟨rfl, rfl⟩ := hlast
      exact hnew rfl
    · have hs' : s.history ++ [(e, o)] = (front ++ (e', .duplicate) :: back) ++ [last] := by
        have hsum : s.history ++ [(e, o)] =
          front ++ (e', .duplicate) :: (back ++ [last]) := hs
        rw [hsum]
        simp
      exact hkept front e' back (List.append_inj' hs' rfl).1

/-- A batch of duplicates keeps the property if none of its entries is new. -/
theorem firstDeliveryKept_append_duplicates (s : DedupState) (batch : List EntryRef) :
    FirstDeliveryKept { s with history := s.history ++ batch.map fun e => (e, .duplicate) } ↔
      FirstDeliveryKept s ∧ ∀ e ∈ batch, e ∈ s.delivered := by
  induction batch generalizing s with
  | nil => simp
  | cons e batch ih =>
      have hcons : s.history ++ (e :: batch).map (fun e => (e, DedupOutcome.duplicate)) =
          (s.history ++ [(e, .duplicate)]) ++ batch.map fun e => (e, .duplicate) := by
        simp
      have hnext := ih { s with history := s.history ++ [(e, .duplicate)] }
      rw [hcons, hnext, firstDeliveryKept_append]
      have hdelivered : ({ s with history := s.history ++ [(e, .duplicate)] } :
          DedupState).delivered = s.delivered ++ [e] := by
        simp [DedupState.delivered]
      rw [hdelivered]
      constructor
      · rintro ⟨⟨hkept, he⟩, hbatch⟩
        refine ⟨hkept, fun e' he' => ?_⟩
        rcases List.mem_cons.mp he' with rfl | he'
        · exact he rfl
        · -- a copy of the head in the rest of the batch is no new entry either
          rcases List.mem_append.mp (hbatch e' he') with h | h
          · exact h
          · rw [List.mem_singleton.mp h]
            exact he rfl
      · rintro ⟨hkept, hbatch⟩
        exact ⟨⟨hkept, fun _ => hbatch e (List.mem_cons_self ..)⟩, fun e' he' =>
          List.mem_append_left _ (hbatch e' (List.mem_cons_of_mem _ he'))⟩

/-- A batch for which the deduplication raised keeps the property. -/
theorem firstDeliveryKept_append_raised (s : DedupState) (batch : List EntryRef) :
    FirstDeliveryKept { s with history := s.history ++ batch.map fun e => (e, .raised) } ↔
      FirstDeliveryKept s := by
  induction batch generalizing s with
  | nil => simp
  | cons e batch ih =>
      have hcons : s.history ++ (e :: batch).map (fun e => (e, DedupOutcome.raised)) =
          (s.history ++ [(e, .raised)]) ++ batch.map fun e => (e, .raised) := by
        simp
      have hnext := ih { s with history := s.history ++ [(e, .raised)] }
      rw [hcons, hnext, firstDeliveryKept_append]
      simp

/-- What a step does: it appends to a stream, or adds deliveries to the history. -/
theorem dedupStep_cases {statement : DedupStatement} {s s' : DedupState} {a : DedupAction}
    (h : dedupStep statement s a = some s') :
    (∃ e, a = .append e ∧ s'.table = s.table ∧ s'.history = s.history) ∨
    (∃ e, a = .deliver e ∧ toString e.eventId ∈ s.table ∧ s'.table = s.table ∧
      s'.history = s.history ++ [(e, .duplicate)]) ∨
    (∃ e, a = .deliver e ∧ toString e.eventId ∉ s.table ∧
      s'.table = s.table ++ [toString e.eventId] ∧
      s'.history = s.history ++ [(e, .fresh)]) ∨
    (∃ stream ids tempTable, a = .deliverBatch stream ids tempTable ∧ statement = .single ∧
      s'.table = s.table ∧
      s'.history = s.history ++ (ids.map (EntryRef.mk stream)).map fun e => (e, .raised)) ∨
    (∃ stream ids tempTable, a = .deliverBatch stream ids tempTable ∧ statement = .batch ∧
      (∀ key, key ∈ s'.table ↔ key ∈ s.table ∨ ∃ id ∈ ids, key = toString (id.number : Int)) ∧
      s'.history =
        s.history ++ (ids.map (EntryRef.mk stream)).map fun e => (e, .duplicate)) := by
  cases a with
  | append e =>
      simp only [dedupStep] at h
      split at h
      · cases h
        exact .inl ⟨e, rfl, rfl, rfl⟩
      · cases h
  | deliver e =>
      simp only [dedupStep, dedupInsertEvent] at h
      split at h
      · by_cases hkey : toString e.eventId ∈ s.table
        · simp only [hkey, if_true] at h
          cases h
          exact .inr (.inl ⟨e, rfl, hkey, rfl, rfl⟩)
        · simp only [hkey, if_false] at h
          cases h
          exact .inr (.inr (.inl ⟨e, rfl, hkey, rfl, rfl⟩))
      · cases h
  | deliverBatch stream ids tempTable =>
      simp only [dedupStep] at h
      split at h
      · cases statement with
        | single =>
            have hraise : batchDedupInsertEvents .single tempTable s.table
                ((ids.map (EntryRef.mk stream)).map EntryRef.eventId) =
                .error (.keyError "event_id") := rfl
            rw [hraise] at h
            cases h
            exact .inr (.inr (.inr (.inl ⟨stream, ids, tempTable, rfl, rfl, rfl, rfl⟩)))
        | batch =>
            obtain ⟨text, htext⟩ := sqlFormat_batchDedupStatement tempTable
            simp only [batchDedupInsertEvents, DedupStatement.template, htext,
              batchOutcomes_of_texts] at h
            cases h
            refine .inr (.inr (.inr (.inr ⟨stream, ids, tempTable, rfl, rfl, ?_, rfl⟩)))
            intro key
            by_cases hkey : key ∈ s.table
            · simp [hkey]
            · simp only [hkey, List.mem_append, List.mem_filter, List.mem_dedup, false_or,
                List.mem_map, EntryRef.eventId, decide_eq_true_eq, not_false_eq_true,
                and_true]
              constructor
              · rintro ⟨_, ⟨_, ⟨id, hid, rfl⟩, rfl⟩, rfl⟩
                exact ⟨id, hid, rfl⟩
              · rintro ⟨id, hid, rfl⟩
                exact ⟨_, ⟨_, ⟨id, hid, rfl⟩, rfl⟩, rfl⟩
      · cases h

/-- Every step keeps the table in line with the recorded entries. -/
theorem tableRecords_step {statement : DedupStatement} {s s' : DedupState} {a : DedupAction}
    (hI : TableRecords s) (h : dedupStep statement s a = some s') : TableRecords s' := by
  rcases dedupStep_cases h with ⟨e, _, htable, hhistory⟩ | ⟨e, _, hkey, htable, hhistory⟩ |
    ⟨e, _, _, htable, hhistory⟩ | ⟨stream, ids, _, _, _, htable, hhistory⟩ |
    ⟨stream, ids, _, _, _, htable, hhistory⟩
  · intro key
    simpa [DedupState.recorded, htable, hhistory] using hI key
  · intro key
    have hrecorded : s'.recorded = s.recorded ++ [e] := by
      simp [DedupState.recorded, hhistory]
    obtain ⟨e', he', heq⟩ := (hI _).mp hkey
    rw [htable, hI key, hrecorded]
    constructor
    · rintro ⟨x, hx, rfl⟩
      exact ⟨x, List.mem_append_left _ hx, rfl⟩
    · rintro ⟨x, hx, rfl⟩
      rcases List.mem_append.mp hx with hx | hx
      · exact ⟨x, hx, rfl⟩
      · rw [List.mem_singleton.mp hx]
        exact ⟨e', he', heq⟩
  · intro key
    have hrecorded : s'.recorded = s.recorded ++ [e] := by
      simp [DedupState.recorded, hhistory]
    rw [htable, hrecorded, List.mem_append, hI key]
    simp only [List.mem_append, List.mem_singleton, or_and_right, exists_or, exists_eq_left]
  · intro key
    have hrecorded : s'.recorded = s.recorded := by
      simp [DedupState.recorded, hhistory]
    rw [htable, hrecorded]
    exact hI key
  · intro key
    have hrecorded : s'.recorded = s.recorded ++ ids.map (EntryRef.mk stream) := by
      have hall : ((ids.map (EntryRef.mk stream)).map fun e => (e, DedupOutcome.duplicate)).filter
          (fun entry => entry.2 ≠ .raised) =
          (ids.map (EntryRef.mk stream)).map fun e => (e, .duplicate) := by
        rw [List.filter_eq_self]
        simp
      rw [DedupState.recorded, hhistory, List.filter_append, List.map_append, hall]
      simp [DedupState.recorded, Function.comp_def]
    rw [htable key, hrecorded, hI key]
    simp only [List.mem_append, or_and_right, exists_or, List.mem_map, EntryRef.eventId]
    constructor
    · rintro (h | ⟨id, hid, rfl⟩)
      · exact .inl h
      · exact .inr ⟨⟨stream, id⟩, ⟨id, hid, rfl⟩, rfl⟩
    · rintro (h | ⟨_, ⟨id, hid, rfl⟩, rfl⟩)
      · exact .inl h
      · exact .inr ⟨id, hid, rfl⟩

/-- Where the table is in line, a key is in it when a recorded entry has the number. -/
theorem key_mem_table_iff {s : DedupState} (hI : TableRecords s) (e : EntryRef) :
    toString e.eventId ∈ s.table ↔ ∃ e' ∈ s.recorded, e'.id.number = e.id.number := by
  rw [hI]
  constructor
  · rintro ⟨e', he', heq⟩
    exact ⟨e', he', (Int.ofNat.inj (toString_inj.mp heq)).symm⟩
  · rintro ⟨e', he', heq⟩
    exact ⟨e', he', by rw [EntryRef.eventId, EntryRef.eventId, heq]⟩

/-- One step keeps the property if and only if it meets the condition. -/
theorem firstDeliveryKept_step_iff {statement : DedupStatement} {s s' : DedupState}
    {a : DedupAction} (hI : TableRecords s) (hQ : FirstDeliveryKept s)
    (h : dedupStep statement s a = some s') :
    FirstDeliveryKept s' ↔ NumberUnused statement s a := by
  have hcongr : ∀ t : DedupState, s'.history = t.history →
      (FirstDeliveryKept s' ↔ FirstDeliveryKept t) := by
    intro t ht
    simp only [FirstDeliveryKept, ht]
  rcases dedupStep_cases h with ⟨e, rfl, _, hhistory⟩ | ⟨e, rfl, hkey, _, hhistory⟩ |
    ⟨e, rfl, hkey, _, hhistory⟩ | ⟨stream, ids, _, rfl, rfl, _, hhistory⟩ |
    ⟨stream, ids, _, rfl, rfl, _, hhistory⟩
  · rw [hcongr s hhistory]
    exact iff_of_true hQ trivial
  · -- the key is taken, so only an earlier delivery of the entry justifies the outcome
    rw [hcongr { s with history := s.history ++ [(e, .duplicate)] } hhistory,
      firstDeliveryKept_append]
    obtain ⟨e', he', heq⟩ := (key_mem_table_iff hI e).mp hkey
    constructor
    · exact fun hkept => .inl (hkept.2 rfl)
    · rintro (hdelivered | hunused)
      · exact ⟨hQ, fun _ => hdelivered⟩
      · exact absurd heq (hunused e' he')
  · rw [hcongr { s with history := s.history ++ [(e, .fresh)] } hhistory,
      firstDeliveryKept_append]
    refine iff_of_true ⟨hQ, fun ho => by cases ho⟩ (.inr fun e' he' heq => ?_)
    exact hkey ((key_mem_table_iff hI e).mpr ⟨e', he', heq⟩)
  · rw [hcongr { s with history := s.history ++
      (ids.map (EntryRef.mk stream)).map fun e => (e, .raised) } hhistory,
      firstDeliveryKept_append_raised]
    exact iff_of_true hQ (.inl rfl)
  · rw [hcongr { s with history := s.history ++
      (ids.map (EntryRef.mk stream)).map fun e => (e, .duplicate) } hhistory,
      firstDeliveryKept_append_duplicates]
    simp only [NumberUnused, reduceCtorEq, false_or, List.mem_map]
    constructor
    · rintro ⟨_, hbatch⟩ id hid
      exact hbatch _ ⟨id, hid, rfl⟩
    · intro hids
      refine ⟨hQ, ?_⟩
      rintro _ ⟨id, hid, rfl⟩
      exact hids id hid

/-- In every state of a run no event is taken for a duplicate at its first delivery, if
and only if every step of the run meets the condition. -/
theorem always_firstDeliveryKept_iff (statement : DedupStatement)
    (actions : List DedupAction) :
    Always (dedupStep statement) FirstDeliveryKept DedupState.initial actions ↔
      EachStep (dedupStep statement) (NumberUnused statement) DedupState.initial actions := by
  refine always_iff_eachStep (fun s a s' hI _ h => tableRecords_step hI h)
    (fun s a s' hI hQ h hG => (firstDeliveryKept_step_iff hI hQ h).mpr hG)
    (fun s a s' hI hQ h hG hQ' => hG ((firstDeliveryKept_step_iff hI hQ h).mp hQ'))
    actions DedupState.initial ?_ ?_
  · intro key
    simp [DedupState.initial, DedupState.recorded]
  · intro front e back hs
    simp [DedupState.initial] at hs

/-- Two streams take an entry in the same millisecond; the event that is delivered second
is taken for a duplicate. -/
theorem same_millisecond_not_kept :
    ¬ Always (dedupStep .single) FirstDeliveryKept DedupState.initial
      [.append ⟨.downstreamDeletions, ⟨1700000000000, 0⟩⟩,
        .append ⟨.downstreamCounterDecrements, ⟨1700000000000, 0⟩⟩,
        .deliver ⟨.downstreamDeletions, ⟨1700000000000, 0⟩⟩,
        .deliver ⟨.downstreamCounterDecrements, ⟨1700000000000, 0⟩⟩] := by
  intro hall
  have hkept := (((hall.2 _ rfl).2 _ rfl).2 _ rfl).2 _ rfl
  have hfirst := hkept [(⟨.downstreamDeletions, ⟨1700000000000, 0⟩⟩, .fresh)]
    ⟨.downstreamCounterDecrements, ⟨1700000000000, 0⟩⟩ [] rfl
  revert hfirst
  decide

end DatabaseWorkers
end Tenjin
