import Tenjin.DatabaseWorkers.ExactlyOnce
import Tenjin.ResourceAuxillary.StreamIds

/-!
# Which entry an acknowledgement reaches

Four functions finish events: `acknowledge_event`, `amortize_event` and
`atomic_ack_and_emit_side_effects` (`post_processing.py`) and `trim_duplicate_events`
(`pre_processing.py`).  All of them hand the derived event id to `XACK`, which reads an
integer as milliseconds with sequence 0.

* `pendingAfter` runs the acknowledgements of a log on the pending list of the group.
* `number_not_own` — no event id is read as the ID of the event's own entry.
* `first_entry_stays` — of any batch, the entry with the earliest milliseconds stays.
-/

namespace Tenjin
namespace DatabaseWorkers

open Python Foundation ResourceAuxillary

/-- An entry of a stream with the event in its fields.  Redis accepts every ID but 0-0. -/
structure StreamRecord where
  id : StreamId
  nonzero : id.ms ≠ 0 ∨ id.seq ≠ 0
  event : Event

/-- The event that is constructed from the entry. -/
def StreamRecord.streamed (r : StreamRecord) : StreamedEvent :=
  { r.event with eventId := r.id.number }

/-- It is what `construct_from_stream_record` returns. -/
theorem StreamRecord.construct (r : StreamRecord) :
    constructFromStreamRecord r.id.text (.ok r.event) = .ok r.streamed := by
  simp only [constructFromStreamRecord, deriveEventId_text]
  rfl

/-- The functions that finish events; trimming is given the fresh event ids. -/
inductive FinishingPath
  | acknowledgeEvent
  | amortizeEvent
  | atomicAckAndEmitSideEffects
  | trimDuplicateEvents (freshEventIds : List Int)

/-- The entries of the batch that the function finishes. -/
def FinishingPath.finished (path : FinishingPath) (batch : List StreamRecord) :
    List StreamRecord :=
  match path with
  | .trimDuplicateEvents fresh => batch.filter fun r => r.streamed.eventId ∉ fresh
  | _ => batch

/-- The commands that the function executes.  When dead-lettering raises while it builds
its pipeline, it executes none. -/
def FinishingPath.log (dumps : PyValue → Except Exn String) (cfg : ConsumerSettings)
    (path : FinishingPath) (batch : List StreamRecord) : CommandLog :=
  let events := batch.map StreamRecord.streamed
  match path with
  | .acknowledgeEvent => ResourceAuxillary.acknowledgeEvent events cfg.streamName cfg.groupName
  | .amortizeEvent =>
      match ResourceAuxillary.amortizeEvent dumps cfg.streamName cfg.groupName
          cfg.deadLetterStreamName events with
      | .ok log => log
      | .error _ => []
  | .atomicAckAndEmitSideEffects =>
      ResourceAuxillary.atomicAckAndEmitSideEffects events cfg.streamName cfg.groupName
  | .trimDuplicateEvents fresh => trimAcknowledgements cfg fresh events

/-- `XACK` on the pending list of the group: the entry with the ID leaves it, and an
integer that is no ID is refused. -/
def xackPending (pending : List StreamId) (n : Int) : List StreamId :=
  match readStreamId n with
  | none => pending
  | some id => pending.filter (· ≠ id)

/-- The pending list of the group after a log of commands. -/
def pendingAfter (cfg : ConsumerSettings) (pending : List StreamId) (log : CommandLog) :
    List StreamId :=
  log.foldl (fun rest entry =>
    match entry.2 with
    | .xack stream group n =>
        if stream = cfg.streamName ∧ group = cfg.groupName then xackPending rest n else rest
    | _ => rest) pending

/-- Each finished event is acknowledged by the ID of its own entry, and exactly the
finished entries leave the pending list. -/
structure AcksOwnEntries (dumps : PyValue → Except Exn String) (cfg : ConsumerSettings)
    (path : FinishingPath) (batch : List StreamRecord) (pending : List StreamId) : Prop where
  denotes : ∀ r ∈ path.finished batch, ∃ n,
    (r.streamed.eventId, Command.xack cfg.streamName cfg.groupName n) ∈
      path.log dumps cfg batch ∧ readStreamId n = some r.id
  leaves : pendingAfter cfg pending (path.log dumps cfg batch) =
    pending.filter fun id => id ∉ (path.finished batch).map StreamRecord.id

/-- The log acknowledges, in any order and among other commands, event ids of entries
that are finished. -/
def AcksOnly (finished : List StreamRecord) (log : CommandLog) : Prop :=
  ∀ i stream group n, (i, Command.xack stream group n) ∈ log →
    i = n ∧ ∃ r ∈ finished, n = r.streamed.eventId

/-- The number of a valid ID is read as an ID with later milliseconds. -/
theorem lt_ms_of_read {r : StreamRecord} {id : StreamId}
    (h : readStreamId r.streamed.eventId = some id) : r.id.ms < id.ms := by
  have hnumber : r.id.ms < r.id.number := lt_concatNumerals r.nonzero
  rw [StreamRecord.streamed, readStreamId_natCast] at h
  split at h
  · cases h
    exact hnumber
  · cases h

/-- No event id denotes the entry that the event was constructed from. -/
theorem number_not_own (r : StreamRecord) : readStreamId r.streamed.eventId ≠ some r.id := by
  intro h
  have hlt := lt_ms_of_read h
  omega

theorem acksOnly_acknowledgeEvent (streamName : StreamName) (groupName : String)
    (batch : List StreamRecord) :
    AcksOnly batch (ResourceAuxillary.acknowledgeEvent (batch.map StreamRecord.streamed)
      streamName groupName) := by
  intro i stream group n hmem
  obtain ⟨e, he, hcommand⟩ := List.mem_flatMap.mp hmem
  obtain ⟨r, hr, rfl⟩ := List.mem_map.mp he
  simp only [List.map_cons, List.map_nil, List.mem_singleton, Prod.mk.injEq,
    Command.xack.injEq] at hcommand
  obtain ⟨rfl, _, _, rfl⟩ := hcommand
  exact ⟨rfl, r, hr, rfl⟩

/-- A loop that emits no acknowledgement. -/
theorem acksOnly_emitFrom (finished : List StreamRecord)
    {emit : StreamedEvent → List Command}
    (hemit : ∀ e, ∀ c ∈ emit e, ∀ stream group n, c ≠ .xack stream group n)
    (events : List StreamedEvent) :
    AcksOnly finished (emitFrom StreamedEvent.eventId emit events) := by
  intro i stream group n hmem
  obtain ⟨e, _, hcommand⟩ := List.mem_flatMap.mp hmem
  obtain ⟨c, hc, heq⟩ := List.mem_map.mp hcommand
  exact absurd (Prod.mk.inj heq).2 (hemit e c hc stream group n)

theorem AcksOnly.append {finished : List StreamRecord}
    {log log' : CommandLog} (h : AcksOnly finished log) (h' : AcksOnly finished log') :
    AcksOnly finished (log ++ log') := by
  intro i stream group n hmem
  rcases List.mem_append.mp hmem with hmem | hmem
  · exact h i stream group n hmem
  · exact h' i stream group n hmem

/-- Every path acknowledges the event ids of what it finishes, and nothing else. -/
theorem acksOnly_log (dumps : PyValue → Except Exn String) (cfg : ConsumerSettings)
    (path : FinishingPath) (batch : List StreamRecord) :
    AcksOnly (path.finished batch) (path.log dumps cfg batch) := by
  cases path with
  | acknowledgeEvent => exact acksOnly_acknowledgeEvent _ _ batch
  | amortizeEvent =>
      simp only [FinishingPath.log, FinishingPath.finished]
      split
      · rename_i log hlog
        rw [amortizeEvent_eq_emitFrom dumps hlog]
        intro i stream group n hmem
        obtain ⟨e, he, hcommand⟩ := List.mem_flatMap.mp hmem
        obtain ⟨r, hr, rfl⟩ := List.mem_map.mp he
        obtain ⟨c, hc, heq⟩ := List.mem_map.mp hcommand
        obtain ⟨rfl, rfl⟩ := Prod.mk.inj heq
        simp only [amortizeCommands] at hc
        split at hc
        · simp only [List.mem_cons, Command.xack.injEq, reduceCtorEq, List.not_mem_nil,
            or_false] at hc
          exact ⟨hc.2.2.symm, r, hr, hc.2.2⟩
        · cases hc
      · intro i stream group n hmem
        cases hmem
  | atomicAckAndEmitSideEffects =>
      refine AcksOnly.append (AcksOnly.append (AcksOnly.append
        (acksOnly_acknowledgeEvent _ _ batch) ?_) ?_) ?_
      · refine acksOnly_emitFrom _ (fun e c hc stream group n heq => ?_) _
        subst heq
        simp [intentInvalidations] at hc
      · refine acksOnly_emitFrom _ (fun e c hc stream group n heq => ?_) _
        subst heq
        simp [counterSideEffects] at hc
      · refine acksOnly_emitFrom _ (fun e c hc stream group n heq => ?_) _
        subst heq
        obtain ⟨u, _, hu⟩ := List.mem_flatMap.mp hc
        simp only [cacheInvalidationCommands] at hu
        split at hu <;> simp at hu
  | trimDuplicateEvents fresh =>
      have hfilter : (batch.map StreamRecord.streamed).filter (fun e => e.eventId ∉ fresh) =
          ((FinishingPath.trimDuplicateEvents fresh).finished batch).map
            StreamRecord.streamed := by
        rw [FinishingPath.finished, List.filter_map]
        rfl
      simp only [FinishingPath.log, trimAcknowledgements]
      rw [hfilter]
      exact acksOnly_acknowledgeEvent _ _ _

/-- An entry that no acknowledgement of the log denotes stays pending. -/
theorem mem_pendingAfter {cfg : ConsumerSettings} {id : StreamId} {log : CommandLog}
    (hlog : ∀ i stream group n, (i, Command.xack stream group n) ∈ log →
      readStreamId n ≠ some id)
    {pending : List StreamId} (h : id ∈ pending) : id ∈ pendingAfter cfg pending log := by
  induction log generalizing pending with
  | nil => exact h
  | cons entry log ih =>
      obtain ⟨i, c⟩ := entry
      have hrest : ∀ i stream group n, (i, Command.xack stream group n) ∈ log →
          readStreamId n ≠ some id :=
        fun i stream group n hmem => hlog i stream group n (List.mem_cons_of_mem _ hmem)
      refine ih hrest ?_
      cases c with
      | xack stream group n =>
          have hne := hlog i stream group n (List.mem_cons_self ..)
          dsimp only
          split
          · unfold xackPending
            split
            · exact h
            · rename_i id' hid
              have hdiff : id ≠ id' := fun heq => hne (heq ▸ hid)
              simp [h, hdiff]
          · exact h
      | _ => exact h

/-- A nonempty batch has an entry with the earliest milliseconds. -/
theorem exists_earliest {batch : List StreamRecord} (hne : batch ≠ []) :
    ∃ r ∈ batch, ∀ r' ∈ batch, r.id.ms ≤ r'.id.ms := by
  have hsome : {r | r ∈ batch}.Nonempty := List.exists_mem_of_ne_nil batch hne
  obtain ⟨r, hr, hleast⟩ :=
    (InvImage.wf (fun r : StreamRecord => r.id.ms) Nat.lt_wfRel.wf).has_min _ hsome
  exact ⟨r, hr, fun r' hr' => Nat.le_of_not_lt (hleast r' hr')⟩

/-- Of the finished entries, the one with the earliest milliseconds stays pending. -/
theorem first_entry_stays (dumps : PyValue → Except Exn String) (cfg : ConsumerSettings)
    (path : FinishingPath) {batch : List StreamRecord} {pending : List StreamId}
    (hne : path.finished batch ≠ [])
    (hpending : ∀ r ∈ path.finished batch, r.id ∈ pending) :
    ∃ r ∈ path.finished batch, r.id ∈ pendingAfter cfg pending (path.log dumps cfg batch) := by
  obtain ⟨r, hr, hleast⟩ := exists_earliest hne
  refine ⟨r, hr, mem_pendingAfter (fun i stream group n hmem hread => ?_) (hpending r hr)⟩
  obtain ⟨_, r', hr', rfl⟩ := acksOnly_log dumps cfg path batch i stream group n hmem
  have hlater : r'.id.ms < r.id.ms := lt_ms_of_read hread
  have hearlier := hleast r' hr'
  omega

/-- On no path is an event acknowledged by the ID of its own entry, and no call that
finishes pending entries takes exactly these out of the pending list. -/
theorem never_acksOwnEntries (dumps : PyValue → Except Exn String) (cfg : ConsumerSettings)
    (path : FinishingPath) (batch : List StreamRecord) (pending : List StreamId)
    (hne : path.finished batch ≠ [])
    (hpending : ∀ r ∈ path.finished batch, r.id ∈ pending) :
    (∀ r ∈ path.finished batch, ∀ n,
      (r.streamed.eventId, Command.xack cfg.streamName cfg.groupName n) ∈
        path.log dumps cfg batch → readStreamId n ≠ some r.id) ∧
    pendingAfter cfg pending (path.log dumps cfg batch) ≠
      pending.filter (fun id => id ∉ (path.finished batch).map StreamRecord.id) ∧
    ¬ AcksOwnEntries dumps cfg path batch pending := by
  have hstays : pendingAfter cfg pending (path.log dumps cfg batch) ≠
      pending.filter fun id => id ∉ (path.finished batch).map StreamRecord.id := by
    intro heq
    obtain ⟨r, hr, hmem⟩ := first_entry_stays dumps cfg path hne hpending
    rw [heq] at hmem
    have hout := (List.mem_filter.mp hmem).2
    simp only [decide_eq_true_eq] at hout
    exact hout (List.mem_map_of_mem hr)
  refine ⟨fun r _ n hmem hread => ?_, hstays, fun hown => hstays hown.leaves⟩
  obtain ⟨rfl, _⟩ := acksOnly_log dumps cfg path batch _ _ _ n hmem
  exact number_not_own r hread

/-- The first entry of a millisecond, with a saved post. -/
def savedPost : StreamRecord where
  id := ⟨1700000000000, 0⟩
  nonzero := .inl (by decide)
  event := { name := .postSave, payload := [], sideEffects := {} }

/-- Acknowledging it leaves it pending. -/
theorem savedPost_stays_pending :
    ¬ AcksOwnEntries (fun _ => .ok "") postSettings .acknowledgeEvent [savedPost]
      [⟨1700000000000, 0⟩] := by
  intro h
  have hleaves := h.leaves
  revert hleaves
  decide

theorem never_acksOwnEntries_savedPost :
    (∀ r ∈ [savedPost], ∀ n,
      (r.streamed.eventId, Command.xack postSettings.streamName postSettings.groupName n) ∈
        FinishingPath.acknowledgeEvent.log (fun _ => .ok "") postSettings [savedPost] →
      readStreamId n ≠ some r.id) ∧
    pendingAfter postSettings [⟨1700000000000, 0⟩]
        (FinishingPath.acknowledgeEvent.log (fun _ => .ok "") postSettings [savedPost]) ≠
      List.filter (fun id => id ∉ [savedPost].map StreamRecord.id) [⟨1700000000000, 0⟩] ∧
    ¬ AcksOwnEntries (fun _ => .ok "") postSettings .acknowledgeEvent [savedPost]
      [⟨1700000000000, 0⟩] :=
  never_acksOwnEntries (fun _ => .ok "") postSettings .acknowledgeEvent [savedPost]
    [⟨1700000000000, 0⟩] (by simp [FinishingPath.finished])
    (by simp [FinishingPath.finished, savedPost])

end DatabaseWorkers
end Tenjin
