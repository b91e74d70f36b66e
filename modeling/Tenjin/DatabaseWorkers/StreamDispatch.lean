import Mathlib.Data.List.Nodup
import Tenjin.DatabaseWorkers.StreamReader
import Tenjin.Foundation.GuardedRun

/-!
# The dispatchers of a stream

`upstream_dispatcher` and `downstream_dispatcher` of `stream_readers.py` as consumers of a
Redis stream: entries arrive, the consumers behind the internal queues acknowledge what they
have got, and the dispatcher reads.  An entry is named by its place in the stream.

* `readTagged` is the loop of `stream_reader` with these names: `readTagged_untag`.
* `eventMapping` groups the events by their queues, `dispatchStep` is one of the three kinds
  of steps.
* `DispatchSound` is the purpose, in every state of a run.
* `always_dispatchSound_iff` — a run is sound exactly if the dispatcher passes on the ID that
  it keeps (it passes the flag it was started with), no entry of a history read has been put
  on a queue before, and the entries of every reply can be read and have their queues.
-/

namespace Tenjin
namespace DatabaseWorkers

open Python Foundation ResourceAuxillary

/-- The values of `requested_id`: 0 and `">"`. -/
inductive RequestedId
  | history
  | new
  deriving DecidableEq

/-- What `stream_reader` gets for `requested_id`. -/
inductive ReadArgument
  | id (requestedId : RequestedId)
  | flag (readHistory : Bool)
  deriving DecidableEq

/-- Which of its variables the dispatcher passes on: `read_history`, as the code has it, or
`requested_id`. -/
inductive PassedVariable
  | readHistory
  | requestedId

/-- What a dispatcher is started with. -/
structure DispatcherSettings where
  passed : PassedVariable
  readHistory : Bool
  /-- `CONSUMER_READ_SIZE`. -/
  readSize : ℕ
  readSize_pos : 0 < readSize
  /-- `CONSUMER_BLOCK_TIME`; a read for new entries waits for ever if it is 0. -/
  blockTime : ℕ
  decodeResponses : Bool
  queueMapping : EventName → Option String
  /-- The upstream dispatcher puts the events of a queue as one tuple. -/
  upstream : Bool

/-- An event with the place of its entry. -/
abbrev TaggedEvent := ℕ × StreamedEvent

/-- What is put on a queue, or is to be. -/
abbrev QueueBatch := String × List TaggedEvent

/-- The places of the entries that have been put. -/
def putTags (puts : List QueueBatch) : List ℕ := puts.flatMap fun put => put.2.map Prod.fst

/-- The stream and its consumer group, as far as this consumer is concerned, and the
dispatcher. -/
structure DispatchState where
  /-- So many entries are in the stream, and so many have been delivered. -/
  appended : ℕ
  delivered : ℕ
  /-- The entries that are delivered to this consumer and not acknowledged, in order. -/
  pending : List ℕ
  requestedId : RequestedId
  alive : Bool
  /-- The reads, the latest first, and whether their replies had no entries. -/
  reads : List (ReadArgument × Bool)
  /-- What the reads have returned. -/
  returned : List ℕ
  puts : List QueueBatch
  deadLetters : List TaggedEvent

/-- The entries that have been put on a queue of a consumer or on the dead letter queue. -/
def DispatchState.queued (s : DispatchState) : List ℕ :=
  putTags s.puts ++ s.deadLetters.map Prod.fst

/-- The stream and the consumer group when the dispatcher is started, with the entries that
this consumer has not acknowledged. -/
structure GroupStart where
  appended : ℕ
  delivered : ℕ
  delivered_le : delivered ≤ appended
  history : List ℕ
  ascending : history.Pairwise (· < ·)
  below : ∀ k ∈ history, k < delivered

inductive DispatchLabel
  | arrive
  /-- A consumer acknowledges an entry that it has got. -/
  | ack (k : ℕ)
  /-- The dispatcher reads the stream once and works off the reply. -/
  | read

/-- Put an event into the list of its queue in `event_mapping`. -/
def addToQueue (queue : String) (item : TaggedEvent) : List QueueBatch → List QueueBatch
  | [] => [(queue, [item])]
  | (q, items) :: batches =>
      if q = queue then (q, items ++ [item]) :: batches
      else (q, items) :: addToQueue queue item batches

/-- The loop that fills `event_mapping`. -/
def eventMapping (queueMapping : EventName → Option String) :
    List TaggedEvent → List QueueBatch → Except Exn (List QueueBatch)
  | [], batches => .ok batches
  | item :: rest, batches =>
      match queueMapping item.2.name with
      | none => .error (.keyError item.2.name.value)
      | some queue => eventMapping queueMapping rest (addToQueue queue item batches)

/-- The loop over `event_mapping`: a tuple for each queue, or event by event. -/
def putBatches (upstream : Bool) (batches : List QueueBatch) : List QueueBatch :=
  if upstream then batches
  else batches.flatMap fun batch => batch.2.map fun item => (batch.1, [item])

section Dispatcher

variable (intOf : PyValue → Option Int) (loads : String → Option PyValue)
  (records : ℕ → RawRecord) (settings : DispatcherSettings)

/-- `readEntries` with the places of the entries. -/
def readTagged : List ℕ → Except Exn (List TaggedEvent) × List TaggedEvent
  | [] => (.ok [], [])
  | k :: rest =>
      match constructReply intOf loads settings.decodeResponses (records k) with
      | .ok event => ((readTagged rest).1.map ((k, event) :: ·), (readTagged rest).2)
      | .error .valueError =>
          match safeConstructFromMalformedStream (records k).id.text
              ((records k).fields.map fun (key, value) => (key, .str value)) with
          | .error e => (.error e, [])
          | .ok malformed => ((readTagged rest).1, (k, malformed) :: (readTagged rest).2)
      | .error e => (.error e, [])

/-- The dispatcher works off a reply with the entries `ks` of its stream. -/
def workOff (ks : List ℕ) (s : DispatchState) : DispatchState :=
  let reply := readTagged intOf loads records settings ks
  let noted := { s with
    returned := s.returned ++ ks, deadLetters := s.deadLetters ++ reply.2 }
  match reply.1 with
  | .error _ => { noted with alive := false }
  | .ok events =>
      let requestedId :=
        if events.isEmpty ∧ s.requestedId = .history then .new else s.requestedId
      match eventMapping settings.queueMapping events [] with
      | .error _ => { noted with requestedId, alive := false }
      | .ok batches =>
          { noted with requestedId, puts := s.puts ++ putBatches settings.upstream batches }

/-- What the dispatcher passes to `stream_reader`. -/
def passedArgument (s : DispatchState) : ReadArgument :=
  match settings.passed with
  | .readHistory => .flag settings.readHistory
  | .requestedId => .id s.requestedId

/-- The entries that `XREADGROUP` returns for an ID: pending ones from the start, or new
ones. -/
def replyTo (s : DispatchState) : RequestedId → List ℕ
  | .history => s.pending.take settings.readSize
  | .new => List.range' s.delivered (min settings.readSize (s.appended - s.delivered))

/-- A read has been answered: new entries are delivered to the consumer by it. -/
def DispatchState.answered (s : DispatchState) (requestedId : RequestedId) (ks : List ℕ) :
    DispatchState :=
  let asked := { s with reads := (.id requestedId, ks.isEmpty) :: s.reads }
  match requestedId with
  | .history => asked
  | .new => { asked with delivered := s.delivered + ks.length, pending := s.pending ++ ks }

/-- The dispatcher reads: an ID is answered, a flag is refused by the client. -/
def readStep (s : DispatchState) : Option DispatchState :=
  match passedArgument settings s with
  | .flag readHistory =>
      some { s with reads := (.flag readHistory, false) :: s.reads, alive := false }
  | .id requestedId =>
      let ks := replyTo settings s requestedId
      if requestedId = .new ∧ ks.isEmpty then
        -- the reply has no stream, which `stream_reader` does not expect
        if settings.blockTime = 0 then none
        else some { s with reads := (.id .new, true) :: s.reads, alive := false }
      else some (workOff intOf loads records settings ks (s.answered requestedId ks))

def dispatchStep (s : DispatchState) : DispatchLabel → Option DispatchState
  | .arrive => some { s with appended := s.appended + 1 }
  | .ack k =>
      if k ∈ s.pending ∧ k ∈ s.queued then some { s with pending := s.pending.erase k }
      else none
  | .read => if s.alive then readStep intOf loads records settings s else none

/-- The dispatcher at its start. -/
def DispatchState.start (group : GroupStart) : DispatchState where
  appended := group.appended
  delivered := group.delivered
  pending := group.history
  requestedId := if settings.readHistory then .history else .new
  alive := true
  reads := []
  returned := []
  puts := []
  deadLetters := []

/-- What the next read should ask for: the history up to the first empty read of it. -/
def expectedArgument (readHistory : Bool) (reads : List (ReadArgument × Bool)) : ReadArgument :=
  if readHistory = false ∨ (.id .history, true) ∈ reads then .id .new else .id .history

/-- Every read has asked for what it should, given the reads before it. -/
def ReadsInOrder (readHistory : Bool) : List (ReadArgument × Bool) → Prop
  | [] => True
  | read :: earlier =>
      read.1 = expectedArgument readHistory earlier ∧ ReadsInOrder readHistory earlier

/-- The history is read until it is empty and new entries after that, no entry is put on a
queue twice, every entry that a read has returned is put on one, and so is the whole history
once the dispatcher has gone over to new entries.  It ends with a read for new entries to
which there are none, and with nothing else. -/
structure DispatchSound (history : List ℕ) (s : DispatchState) : Prop where
  order : ReadsInOrder settings.readHistory s.reads
  switched : s.requestedId = .new ↔
    settings.readHistory = false ∨ (.id .history, true) ∈ s.reads
  once : s.queued.Nodup
  covered : ∀ k ∈ s.returned, k ∈ s.queued
  complete : settings.readHistory = true → s.requestedId = .new → ∀ k ∈ history, k ∈ s.queued
  ended : s.alive = false → s.reads.head? = some (.id .new, true)

/-- The client returns the entry as texts, and the entry is not misshapen. -/
def Readable (k : ℕ) : Prop :=
  settings.decodeResponses = true ∧ ¬ Misshapen intOf loads (records k).fields

/-- The entry is readable, and if it is well formed then its event has a queue. -/
def Fits (k : ℕ) : Prop :=
  Readable intOf loads records settings k ∧
    ∀ event, wellFormedEvent intOf loads (records k) = some event →
      settings.queueMapping event.name ≠ none

/-- The condition on a read: the dispatcher passes its ID on, every entry of the reply fits,
and of a history reply no entry has been put on a queue before and, unless it is empty, some
entry is well formed. -/
def ReadFine (s : DispatchState) : DispatchLabel → Prop
  | .read =>
      passedArgument settings s = .id s.requestedId ∧
      (∀ k ∈ replyTo settings s s.requestedId, Fits intOf loads records settings k) ∧
      (s.requestedId = .history →
        (∀ k ∈ replyTo settings s .history, k ∉ s.queued) ∧
        (replyTo settings s .history ≠ [] → ∃ k ∈ replyTo settings s .history,
          (wellFormedEvent intOf loads (records k)).isSome))
  | _ => True

/-- What holds of the entries in every state of a run. -/
structure DispatchInv (history : List ℕ) (s : DispatchState) : Prop where
  distinct : s.pending.Nodup
  below : ∀ k ∈ s.pending, k < s.delivered
  queuedBelow : ∀ k ∈ s.queued, k < s.delivered
  queuedFits : ∀ k ∈ s.queued, Fits intOf loads records settings k
  kept : ∀ k ∈ history, k ∈ s.pending ∨ k ∈ s.queued

end Dispatcher

section Reading

variable {intOf : PyValue → Option Int} {loads : String → Option PyValue}
  {records : ℕ → RawRecord} {settings : DispatcherSettings}

/-- A readable entry is well formed or raises a `ValueError`. -/
theorem constructReply_of_readable {k : ℕ} (h : Readable intOf loads records settings k) :
    constructReply intOf loads settings.decodeResponses (records k) =
      match wellFormedEvent intOf loads (records k) with
      | some event => .ok event
      | none => .error .valueError := by
  rw [constructReply, if_pos h.1]
  have honly := (constructRecord_onlyValueErrors_iff (records k)).mpr h.2
  cases hconstruct : constructRecord intOf loads (records k) with
  | ok event => rw [wellFormedEvent_of_ok hconstruct]
  | error e => rw [wellFormedEvent_of_error hconstruct, honly e hconstruct]

/-- Any other entry raises something else. -/
theorem constructReply_of_not_readable {k : ℕ}
    (h : ¬ Readable intOf loads records settings k) :
    ∃ e, e ≠ .valueError ∧
      constructReply intOf loads settings.decodeResponses (records k) = .error e := by
  cases htexts : settings.decodeResponses with
  | false => exact ⟨.typeError, by simp, rfl⟩
  | true =>
      have hmisshapen : Misshapen intOf loads (records k).fields := by
        by_contra hshape
        exact h ⟨htexts, hshape⟩
      have honly : ¬ OnlyValueErrors (constructRecord intOf loads (records k)) :=
        fun hall => (constructRecord_onlyValueErrors_iff (records k)).mp hall hmisshapen
      rw [constructReply, if_pos rfl]
      cases hconstruct : constructRecord intOf loads (records k) with
      | ok event =>
          rw [hconstruct] at honly
          exact absurd (raisesIn_ok event) honly
      | error e =>
          rw [hconstruct, onlyValueErrors_error] at honly
          exact ⟨e, honly, rfl⟩

theorem readTagged_cons_of_readable {k : ℕ} (h : Readable intOf loads records settings k)
    (rest : List ℕ) :
    readTagged intOf loads records settings (k :: rest) =
      match wellFormedEvent intOf loads (records k) with
      | some event =>
          ((readTagged intOf loads records settings rest).1.map ((k, event) :: ·),
            (readTagged intOf loads records settings rest).2)
      | none =>
          ((readTagged intOf loads records settings rest).1,
            (k, malformedEvent (records k)) ::
              (readTagged intOf loads records settings rest).2) := by
  rw [readTagged, constructReply_of_readable h]
  cases wellFormedEvent intOf loads (records k) with
  | some event => rfl
  | none =>
      dsimp only
      rw [safeConstruct_malformedEvent]

theorem readTagged_cons_of_not_readable {k : ℕ}
    (h : ¬ Readable intOf loads records settings k) (rest : List ℕ) :
    ∃ e, readTagged intOf loads records settings (k :: rest) = (.error e, []) := by
  obtain ⟨e, hne, hconstruct⟩ := constructReply_of_not_readable h
  refine ⟨e, ?_⟩
  rw [readTagged, hconstruct]
  cases e with
  | valueError => exact absurd rfl hne
  | _ => rfl

/-- Without the places it is the loop of `stream_reader`. -/
theorem readTagged_untag (ks : List ℕ) :
    readEntries intOf loads settings.decodeResponses (ks.map records) =
      ((readTagged intOf loads records settings ks).1.map (List.map Prod.snd),
        (readTagged intOf loads records settings ks).2.map Prod.snd) := by
  induction ks with
  | nil => rfl
  | cons k rest ih =>
      rw [List.map_cons, readEntries, readTagged, ih]
      by_cases hreadable : Readable intOf loads records settings k
      · rw [constructReply_of_readable hreadable]
        cases wellFormedEvent intOf loads (records k) with
        | some event => cases (readTagged intOf loads records settings rest).1 <;> rfl
        | none =>
            dsimp only
            rw [safeConstruct_malformedEvent]
            rfl
      · obtain ⟨e, hne, hconstruct⟩ := constructReply_of_not_readable hreadable
        rw [hconstruct]
        cases e with
        | valueError => exact absurd rfl hne
        | _ => rfl

/-- What is put on the dead letter queue are malformed entries of the reply. -/
theorem readTagged_dead {ks : List ℕ} {item : TaggedEvent}
    (h : item ∈ (readTagged intOf loads records settings ks).2) :
    item.1 ∈ ks ∧ Readable intOf loads records settings item.1 ∧
      wellFormedEvent intOf loads (records item.1) = none := by
  induction ks with
  | nil => cases h
  | cons k rest ih =>
      by_cases hreadable : Readable intOf loads records settings k
      · rw [readTagged_cons_of_readable hreadable] at h
        cases hform : wellFormedEvent intOf loads (records k) with
        | some event =>
            rw [hform] at h
            exact (ih h).imp_left (List.mem_cons_of_mem k)
        | none =>
            rw [hform] at h
            rcases List.mem_cons.mp h with rfl | h
            · exact ⟨List.mem_cons_self .., hreadable, hform⟩
            · exact (ih h).imp_left (List.mem_cons_of_mem k)
      · obtain ⟨e, hraise⟩ := readTagged_cons_of_not_readable hreadable rest
        rw [hraise] at h
        cases h

/-- A reply that is read has only readable entries. -/
theorem readTagged_ok {ks : List ℕ} {events : List TaggedEvent}
    (h : (readTagged intOf loads records settings ks).1 = .ok events) :
    ∀ k ∈ ks, Readable intOf loads records settings k := by
  induction ks generalizing events with
  | nil =>
      intro k hk
      cases hk
  | cons k rest ih =>
      by_cases hreadable : Readable intOf loads records settings k
      · rw [List.forall_mem_cons]
        refine ⟨hreadable, ?_⟩
        rw [readTagged_cons_of_readable hreadable] at h
        cases hrest : (readTagged intOf loads records settings rest).1 with
        | ok events => exact ih hrest
        | error e =>
            rw [hrest] at h
            cases hform : wellFormedEvent intOf loads (records k) <;> rw [hform] at h <;> cases h
      · obtain ⟨e, hraise⟩ := readTagged_cons_of_not_readable hreadable rest
        rw [hraise] at h
        cases h

/-- A reply of readable entries is sorted into events and malformed entries. -/
theorem readTagged_of_readable {ks : List ℕ}
    (h : ∀ k ∈ ks, Readable intOf loads records settings k) :
    readTagged intOf loads records settings ks =
      (.ok (ks.filterMap fun k => (wellFormedEvent intOf loads (records k)).map (k, ·)),
        (ks.filter fun k => (wellFormedEvent intOf loads (records k)).isNone).map
          fun k => (k, malformedEvent (records k))) := by
  induction ks with
  | nil => rfl
  | cons k rest ih =>
      rw [List.forall_mem_cons] at h
      rw [readTagged_cons_of_readable h.1, ih h.2]
      cases hform : wellFormedEvent intOf loads (records k) with
      | some event =>
          rw [List.filterMap_cons_some (by rw [hform]; rfl),
            List.filter_cons_of_neg (by simp [hform])]
          rfl
      | none =>
          rw [List.filterMap_cons_none (by rw [hform]; rfl),
            List.filter_cons_of_pos (by simp [hform])]
          rfl

end Reading

section Grouping

theorem putTags_append (puts later : List QueueBatch) :
    putTags (puts ++ later) = putTags puts ++ putTags later := List.flatMap_append ..

theorem putTags_addToQueue (queue : String) (item : TaggedEvent) (batches : List QueueBatch) :
    (putTags (addToQueue queue item batches)).Perm (item.1 :: putTags batches) := by
  induction batches with
  | nil => exact .refl _
  | cons batch batches ih =>
      obtain ⟨q, items⟩ := batch
      rw [addToQueue]
      split
      · simp only [putTags, List.flatMap_cons, List.map_append, List.map_cons, List.map_nil,
          List.append_assoc, List.singleton_append]
        exact List.perm_middle
      · simp only [putTags, List.flatMap_cons] at ih ⊢
        exact (ih.append_left _).trans List.perm_middle

/-- The loop that fills the mapping loses no event and adds none. -/
theorem eventMapping_tags {queueMapping : EventName → Option String} {items : List TaggedEvent}
    {batches batches' : List QueueBatch}
    (h : eventMapping queueMapping items batches = .ok batches') :
    (putTags batches').Perm (items.map Prod.fst ++ putTags batches) := by
  induction items generalizing batches with
  | nil =>
      cases h
      exact .refl _
  | cons item rest ih =>
      rw [eventMapping] at h
      split at h
      · cases h
      · rename_i queue _
        exact (ih h).trans (((putTags_addToQueue queue item batches).append_left _).trans
          List.perm_middle)

/-- It goes through exactly if every event has a queue. -/
theorem eventMapping_ok_iff {queueMapping : EventName → Option String}
    (items : List TaggedEvent) (batches : List QueueBatch) :
    (∃ batches', eventMapping queueMapping items batches = .ok batches') ↔
      ∀ item ∈ items, queueMapping item.2.name ≠ none := by
  induction items generalizing batches with
  | nil => exact iff_of_true ⟨batches, rfl⟩ (by simp)
  | cons item rest ih =>
      rw [List.forall_mem_cons, eventMapping]
      cases hqueue : queueMapping item.2.name with
      | none => simp
      | some queue => simpa using ih (addToQueue queue item batches)

@[simp] theorem putTags_putBatches (upstream : Bool) (batches : List QueueBatch) :
    putTags (putBatches upstream batches) = putTags batches := by
  cases upstream with
  | true => rfl
  | false =>
      simp only [putTags, putBatches, Bool.false_eq_true, if_false, List.flatMap_assoc]
      congr 1
      funext batch
      rw [List.flatMap_map]
      exact List.map_eq_flatMap.symm

end Grouping

section Working

/-- The places of the events that are tagged. -/
theorem map_fst_tagged (eventAt : ℕ → Option StreamedEvent) (ks : List ℕ) :
    (ks.filterMap fun k => (eventAt k).map fun event => (k, event)).map Prod.fst =
      ks.filter fun k => (eventAt k).isSome := by
  induction ks with
  | nil => rfl
  | cons k rest ih =>
      cases hevent : eventAt k with
      | none => rw [List.filterMap_cons_none (by rw [hevent]; rfl), ih,
          List.filter_cons_of_neg (by simp [hevent])]
      | some event => rw [List.filterMap_cons_some (by rw [hevent]; rfl), List.map_cons, ih,
          List.filter_cons_of_pos (by simp [hevent])]

variable {intOf : PyValue → Option Int} {loads : String → Option PyValue}
  {records : ℕ → RawRecord} {settings : DispatcherSettings}

@[simp] theorem workOff_returned (ks : List ℕ) (s : DispatchState) :
    (workOff intOf loads records settings ks s).returned = s.returned ++ ks := by
  simp only [workOff]
  split
  · rfl
  · split <;> rfl

@[simp] theorem workOff_reads (ks : List ℕ) (s : DispatchState) :
    (workOff intOf loads records settings ks s).reads = s.reads := by
  simp only [workOff]
  split
  · rfl
  · split <;> rfl

@[simp] theorem workOff_pending (ks : List ℕ) (s : DispatchState) :
    (workOff intOf loads records settings ks s).pending = s.pending := by
  simp only [workOff]
  split
  · rfl
  · split <;> rfl

@[simp] theorem workOff_delivered (ks : List ℕ) (s : DispatchState) :
    (workOff intOf loads records settings ks s).delivered = s.delivered := by
  simp only [workOff]
  split
  · rfl
  · split <;> rfl

theorem mem_queued {s : DispatchState} {k : ℕ} :
    k ∈ s.queued ↔ k ∈ putTags s.puts ∨ ∃ item ∈ s.deadLetters, item.1 = k := by
  rw [DispatchState.queued, List.mem_append, List.mem_map]

/-- What was put on a queue stays there. -/
theorem queued_workOff_of_queued {ks : List ℕ} {s : DispatchState} {k : ℕ}
    (h : k ∈ s.queued) : k ∈ (workOff intOf loads records settings ks s).queued := by
  rw [mem_queued] at h ⊢
  have hdead : ∀ later, (∃ item ∈ s.deadLetters, item.1 = k) →
      ∃ item ∈ s.deadLetters ++ later, item.1 = k := by
    rintro later ⟨item, hitem, rfl⟩
    exact ⟨item, List.mem_append_left _ hitem, rfl⟩
  simp only [workOff]
  split
  · exact h.imp_right (hdead _)
  · split
    · exact h.imp_right (hdead _)
    · refine h.imp (fun hput => ?_) (hdead _)
      dsimp only
      rw [putTags_append]
      exact List.mem_append_left _ hput

/-- Only entries of the reply that fit are put on a queue. -/
theorem queued_workOff_cases {ks : List ℕ} {s : DispatchState} {k : ℕ}
    (h : k ∈ (workOff intOf loads records settings ks s).queued) :
    k ∈ s.queued ∨ (k ∈ ks ∧ Fits intOf loads records settings k) := by
  have hdead : (∃ item ∈ s.deadLetters ++ (readTagged intOf loads records settings ks).2,
      item.1 = k) → k ∈ s.queued ∨ (k ∈ ks ∧ Fits intOf loads records settings k) := by
    rintro ⟨item, hitem, rfl⟩
    rcases List.mem_append.mp hitem with hold | hnew
    · exact .inl (mem_queued.mpr (.inr ⟨item, hold, rfl⟩))
    · obtain ⟨hmem, hreadable, hform⟩ := readTagged_dead hnew
      refine .inr ⟨hmem, hreadable, fun event hevent => ?_⟩
      rw [hform] at hevent
      cases hevent
  rw [mem_queued] at h
  simp only [workOff] at h
  split at h
  · exact h.elim (fun hput => .inl (mem_queued.mpr (.inl hput))) hdead
  · rename_i events hevents
    split at h
    · exact h.elim (fun hput => .inl (mem_queued.mpr (.inl hput))) hdead
    · rename_i batches hbatches
      refine h.elim (fun hput => ?_) hdead
      dsimp only at hput
      rw [putTags_append, putTags_putBatches, List.mem_append] at hput
      rcases hput with hold | hnew
      · exact .inl (mem_queued.mpr (.inl hold))
      · -- the reply was read, and the event of the entry has a queue
        have htag : k ∈ events.map Prod.fst := by
          simpa [putTags] using (eventMapping_tags hbatches).mem_iff.mp hnew
        obtain ⟨item, hitem, rfl⟩ := List.mem_map.mp htag
        have hreadable := readTagged_ok hevents
        rw [readTagged_of_readable hreadable] at hevents
        cases hevents
        obtain ⟨k, hk, hform⟩ := List.mem_filterMap.mp hitem
        obtain ⟨event, hevent, rfl⟩ := Option.map_eq_some_iff.mp hform
        refine .inr ⟨hk, hreadable k hk, fun other hother => ?_⟩
        rw [hevent] at hother
        cases hother
        exact (eventMapping_ok_iff _ _).mp ⟨batches, hbatches⟩ _ hitem

/-- A reply whose entries fit is worked off: each of its entries is put on a queue once. -/
theorem workOff_of_fits {ks : List ℕ} (s : DispatchState)
    (h : ∀ k ∈ ks, Fits intOf loads records settings k) :
    (workOff intOf loads records settings ks s).queued.Perm (s.queued ++ ks) ∧
      (workOff intOf loads records settings ks s).requestedId =
        (if (∀ k ∈ ks, wellFormedEvent intOf loads (records k) = none) ∧
          s.requestedId = .history then .new else s.requestedId) ∧
      (workOff intOf loads records settings ks s).alive = s.alive := by
  have hread := readTagged_of_readable fun k hk => (h k hk).1
  obtain ⟨events, hevents⟩ : ∃ events : List TaggedEvent, events =
      ks.filterMap fun k => (wellFormedEvent intOf loads (records k)).map (k, ·) := ⟨_, rfl⟩
  rw [← hevents] at hread
  have htags : events.map Prod.fst =
      ks.filter fun k => (wellFormedEvent intOf loads (records k)).isSome := by
    rw [hevents]
    exact map_fst_tagged _ ks
  have hempty : events.isEmpty = true ↔
      ∀ k ∈ ks, wellFormedEvent intOf loads (records k) = none := by
    rw [hevents, List.isEmpty_iff, List.filterMap_eq_nil_iff]
    simp
  have hqueues : ∀ item ∈ events, settings.queueMapping item.2.name ≠ none := by
    intro item hitem
    rw [hevents] at hitem
    obtain ⟨k, hk, hform⟩ := List.mem_filterMap.mp hitem
    obtain ⟨event, hevent, rfl⟩ := Option.map_eq_some_iff.mp hform
    exact (h k hk).2 event hevent
  obtain ⟨batches, hbatches⟩ := (eventMapping_ok_iff events []).mpr hqueues
  have hperm : (putTags batches).Perm (events.map Prod.fst ++ []) :=
    eventMapping_tags hbatches
  rw [htags, List.append_nil] at hperm
  simp only [workOff, hread, hbatches, hempty]
  refine ⟨?_, trivial, trivial⟩
  simp only [DispatchState.queued, putTags_append, putTags_putBatches, List.map_append,
    List.map_map]
  have hdead : (ks.filter fun k => (wellFormedEvent intOf loads (records k)).isNone).map
      (Prod.fst ∘ fun k => (k, malformedEvent (records k))) =
      ks.filter fun k => (wellFormedEvent intOf loads (records k)).isNone := by
    simp [Function.comp_def]
  rw [hdead]
  have hsplit : ((ks.filter fun k => (wellFormedEvent intOf loads (records k)).isSome) ++
      ks.filter fun k => (wellFormedEvent intOf loads (records k)).isNone).Perm ks := by
    simpa using List.filter_append_perm
      (fun k => (wellFormedEvent intOf loads (records k)).isSome) ks
  rw [List.append_assoc, List.append_assoc]
  refine .append_left _ (((hperm.append_right _).trans ?_))
  exact (List.perm_append_comm_assoc _ _ _).trans (hsplit.append_left _)

end Working

section Steps

variable {intOf : PyValue → Option Int} {loads : String → Option PyValue}
  {records : ℕ → RawRecord} {settings : DispatcherSettings} {history : List ℕ}
  {s s' : DispatchState}

@[simp] theorem answered_queued (s : DispatchState) (requestedId : RequestedId) (ks : List ℕ) :
    (s.answered requestedId ks).queued = s.queued := by
  cases requestedId <;> rfl

@[simp] theorem answered_returned (s : DispatchState) (requestedId : RequestedId)
    (ks : List ℕ) : (s.answered requestedId ks).returned = s.returned := by
  cases requestedId <;> rfl

@[simp] theorem answered_reads (s : DispatchState) (requestedId : RequestedId) (ks : List ℕ) :
    (s.answered requestedId ks).reads = (.id requestedId, ks.isEmpty) :: s.reads := by
  cases requestedId <;> rfl

@[simp] theorem answered_alive (s : DispatchState) (requestedId : RequestedId) (ks : List ℕ) :
    (s.answered requestedId ks).alive = s.alive := by
  cases requestedId <;> rfl

@[simp] theorem answered_requestedId (s : DispatchState) (requestedId : RequestedId)
    (ks : List ℕ) : (s.answered requestedId ks).requestedId = s.requestedId := by
  cases requestedId <;> rfl

/-- The three ways in which a read ends. -/
theorem readStep_cases (h : readStep intOf loads records settings s = some s') :
    (∃ readHistory, passedArgument settings s = .flag readHistory ∧
      s' = { s with reads := (.flag readHistory, false) :: s.reads, alive := false }) ∨
    (passedArgument settings s = .id s.requestedId ∧ s.requestedId = .new ∧
      replyTo settings s s.requestedId = [] ∧
      s' = { s with reads := (.id .new, true) :: s.reads, alive := false }) ∨
    (passedArgument settings s = .id s.requestedId ∧
      s' = workOff intOf loads records settings (replyTo settings s s.requestedId)
        (s.answered s.requestedId (replyTo settings s s.requestedId))) := by
  rw [readStep] at h
  cases hpassed : settings.passed with
  | readHistory =>
      have hflag : passedArgument settings s = .flag settings.readHistory := by
        rw [passedArgument, hpassed]
      rw [hflag] at h
      cases h
      exact .inl ⟨_, hflag, rfl⟩
  | requestedId =>
      have hid : passedArgument settings s = .id s.requestedId := by
        rw [passedArgument, hpassed]
      rw [hid] at h
      dsimp only at h
      split at h
      · rename_i hempty
        split at h
        · cases h
        · cases h
          exact .inr (.inl ⟨hid, hempty.1, List.isEmpty_iff.mp hempty.2, rfl⟩)
      · cases h
        exact .inr (.inr ⟨hid, rfl⟩)

theorem dispatchStep_cases {label : DispatchLabel}
    (h : dispatchStep intOf loads records settings s label = some s') :
    (label = .arrive ∧ s' = { s with appended := s.appended + 1 }) ∨
    (∃ k, label = .ack k ∧ k ∈ s.queued ∧ s' = { s with pending := s.pending.erase k }) ∨
    (label = .read ∧ s.alive = true ∧ readStep intOf loads records settings s = some s') := by
  cases label with
  | arrive =>
      cases h
      exact .inl ⟨rfl, rfl⟩
  | ack k =>
      rw [dispatchStep] at h
      split at h
      · rename_i hack
        cases h
        exact .inr (.inl ⟨k, rfl, hack.2, rfl⟩)
      · cases h
  | read =>
      rw [dispatchStep] at h
      split at h
      · rename_i halive
        exact .inr (.inr ⟨rfl, halive, h⟩)
      · cases h

/-- A reply names no entry twice. -/
theorem nodup_replyTo (h : s.pending.Nodup) (requestedId : RequestedId) :
    (replyTo settings s requestedId).Nodup := by
  cases requestedId with
  | history => exact h.sublist (List.take_sublist _ _)
  | new => exact List.nodup_range'

/-- New entries come after the ones that are delivered. -/
theorem mem_replyTo_new {k : ℕ} (h : k ∈ replyTo settings s .new) :
    s.delivered ≤ k ∧ k < s.delivered + (replyTo settings s .new).length := by
  rw [replyTo, List.mem_range'_1] at h
  rw [replyTo, List.length_range']
  exact h

/-- What has been put on a queue is not new. -/
theorem DispatchInv.not_mem_replyTo_new (h : DispatchInv intOf loads records settings history s)
    {k : ℕ} (hk : k ∈ replyTo settings s .new) : k ∉ s.queued := by
  intro hqueued
  exact absurd (h.queuedBelow k hqueued) (not_lt.mpr (mem_replyTo_new hk).1)

theorem DispatchInv.answered (h : DispatchInv intOf loads records settings history s)
    (requestedId : RequestedId) :
    DispatchInv intOf loads records settings history
      (s.answered requestedId (replyTo settings s requestedId)) := by
  cases requestedId with
  | history => exact ⟨h.distinct, h.below, h.queuedBelow, h.queuedFits, h.kept⟩
  | new =>
      refine ⟨?_, ?_, ?_, h.queuedFits, fun k hk => ?_⟩
      · refine List.nodup_append.mpr ⟨h.distinct, nodup_replyTo h.distinct _, ?_⟩
        rintro k hold k' hnew rfl
        exact absurd (h.below k hold) (not_lt.mpr (mem_replyTo_new hnew).1)
      · intro k hk
        rcases List.mem_append.mp hk with hold | hnew
        · exact (h.below k hold).trans_le (Nat.le_add_right _ _)
        · exact (mem_replyTo_new hnew).2
      · intro k hk
        exact (h.queuedBelow k hk).trans_le (Nat.le_add_right _ _)
      · exact (h.kept k hk).imp_left (List.mem_append_left _)

/-- Working off delivered entries keeps the invariant. -/
theorem DispatchInv.workOff {ks : List ℕ}
    (h : DispatchInv intOf loads records settings history s) (hks : ∀ k ∈ ks, k ∈ s.pending) :
    DispatchInv intOf loads records settings history
      (workOff intOf loads records settings ks s) := by
  refine ⟨?_, ?_, ?_, ?_, ?_⟩
  · rw [workOff_pending]
    exact h.distinct
  · rw [workOff_pending, workOff_delivered]
    exact h.below
  · intro k hk
    rw [workOff_delivered]
    rcases queued_workOff_cases hk with hold | ⟨hnew, _⟩
    · exact h.queuedBelow k hold
    · exact h.below k (hks k hnew)
  · intro k hk
    rcases queued_workOff_cases hk with hold | ⟨_, hfits⟩
    · exact h.queuedFits k hold
    · exact hfits
  · intro k hk
    rw [workOff_pending]
    exact (h.kept k hk).imp_right queued_workOff_of_queued

/-- What a reply names is delivered. -/
theorem mem_pending_answered {requestedId : RequestedId} {k : ℕ}
    (h : k ∈ replyTo settings s requestedId) :
    k ∈ (s.answered requestedId (replyTo settings s requestedId)).pending := by
  cases requestedId with
  | history => exact List.mem_of_mem_take h
  | new => exact List.mem_append_right _ h

theorem DispatchInv.step {label : DispatchLabel}
    (h : DispatchInv intOf loads records settings history s)
    (hstep : dispatchStep intOf loads records settings s label = some s') :
    DispatchInv intOf loads records settings history s' := by
  rcases dispatchStep_cases hstep with
    ⟨rfl, rfl⟩ | ⟨k, rfl, hqueued, rfl⟩ | ⟨rfl, _, hread⟩
  · exact ⟨h.distinct, h.below, h.queuedBelow, h.queuedFits, h.kept⟩
  · refine ⟨h.distinct.erase k, fun j hj => h.below j (List.mem_of_mem_erase hj),
      h.queuedBelow, h.queuedFits, fun j hj => ?_⟩
    by_cases hsame : j = k
    · subst hsame
      exact .inr hqueued
    · exact (h.kept j hj).imp_left (List.mem_erase_of_ne hsame).mpr
  · rcases readStep_cases hread with
      ⟨readHistory, _, rfl⟩ | ⟨_, _, _, rfl⟩ | ⟨_, rfl⟩
    · exact ⟨h.distinct, h.below, h.queuedBelow, h.queuedFits, h.kept⟩
    · exact ⟨h.distinct, h.below, h.queuedBelow, h.queuedFits, h.kept⟩
    · exact (h.answered _).workOff fun k hk => mem_pending_answered hk

/-- The ID of a sound dispatcher is what its next read should ask for. -/
theorem DispatchSound.expected (h : DispatchSound settings history s) :
    ReadArgument.id s.requestedId = expectedArgument settings.readHistory s.reads := by
  rw [expectedArgument]
  split
  · rename_i hswitched
    rw [h.switched.mpr hswitched]
  · rename_i hnot
    cases hid : s.requestedId with
    | history => rfl
    | new => exact absurd (h.switched.mp hid) hnot

/-- The dispatcher goes over to new entries after the empty reply, and not before. -/
theorem requestedId_workOff_iff (hfine : ReadFine intOf loads records settings s .read)
    (hid : s.requestedId = .history) :
    (workOff intOf loads records settings (replyTo settings s s.requestedId)
        (s.answered s.requestedId (replyTo settings s s.requestedId))).requestedId = .new ↔
      replyTo settings s .history = [] := by
  obtain ⟨_, hfits, hhistory⟩ := hfine
  obtain ⟨_, hrequested, _⟩ :=
    workOff_of_fits (s.answered s.requestedId (replyTo settings s s.requestedId)) hfits
  rw [answered_requestedId] at hrequested
  rw [hrequested]
  constructor
  · intro hnew
    by_contra hne
    obtain ⟨k, hk, hform⟩ := (hhistory hid).2 hne
    rw [if_neg, hid] at hnew
    · cases hnew
    · rintro ⟨hnone, _⟩
      rw [hnone k (hid ▸ hk)] at hform
      cases hform
  · intro hnil
    refine if_pos ⟨fun k hk => ?_, hid⟩
    rw [hid, hnil] at hk
    cases hk

/-- A reply whose entries fit and are fresh is worked off soundly. -/
theorem DispatchSound.workOff (h : DispatchSound settings history s)
    (hinv : DispatchInv intOf loads records settings history s)
    (hfine : ReadFine intOf loads records settings s .read) (halive : s.alive = true) :
    DispatchSound settings history
      (workOff intOf loads records settings (replyTo settings s s.requestedId)
        (s.answered s.requestedId (replyTo settings s s.requestedId))) := by
  obtain ⟨hqueued, hrequested, hworking⟩ :=
    workOff_of_fits (s.answered s.requestedId (replyTo settings s s.requestedId)) hfine.2.1
  rw [answered_queued] at hqueued
  rw [answered_requestedId] at hrequested
  rw [answered_alive, halive] at hworking
  have hfresh : ∀ k ∈ replyTo settings s s.requestedId, k ∉ s.queued := by
    cases hid : s.requestedId with
    | history => exact (hfine.2.2 hid).1
    | new => exact fun k hk => hinv.not_mem_replyTo_new hk
  have hmoves := requestedId_workOff_iff hfine
  refine ⟨?_, ?_, ?_, ?_, ?_, fun hended => absurd hended (by simp [hworking])⟩
  · rw [workOff_reads, answered_reads]
    exact ⟨h.expected, h.order⟩
  · cases hid : s.requestedId with
    | new =>
        have hswitched := h.switched.mp hid
        rw [← hid, hrequested, workOff_reads, answered_reads, hid]
        simpa using hswitched
    | history =>
        have hnot : ¬ (settings.readHistory = false ∨ (.id .history, true) ∈ s.reads) :=
          fun hswitched => by simp [h.switched.mpr hswitched] at hid
        rw [← hid, hmoves hid, workOff_reads, answered_reads, hid]
        push Not at hnot
        by_cases hnil : replyTo settings s .history = []
        · simp [hnil]
        · simp [hnil, hnot]
  · refine hqueued.nodup_iff.mpr (List.nodup_append.mpr ⟨h.once, nodup_replyTo hinv.distinct _, ?_⟩)
    rintro k hold k' hnew rfl
    exact hfresh k hnew hold
  · intro k hk
    rw [workOff_returned, answered_returned, List.mem_append] at hk
    rw [hqueued.mem_iff, List.mem_append]
    exact hk.imp_left (h.covered k)
  · intro hread hnew k hk
    rw [hqueued.mem_iff, List.mem_append]
    left
    cases hid : s.requestedId with
    | new => exact h.complete hread hid k hk
    | history =>
        -- the last reply of the history was empty, so nothing is pending
        have hnil := (hmoves hid).mp hnew
        have hpending : s.pending = [] := by
          rcases List.take_eq_nil_iff.mp hnil with hzero | hpending
          · exact absurd hzero settings.readSize_pos.ne'
          · exact hpending
        rcases hinv.kept k hk with hkept | hkept
        · rw [hpending] at hkept
          cases hkept
        · exact hkept

/-- A step that meets the condition keeps a dispatcher sound. -/
theorem DispatchSound.step {label : DispatchLabel} (h : DispatchSound settings history s)
    (hinv : DispatchInv intOf loads records settings history s)
    (hstep : dispatchStep intOf loads records settings s label = some s')
    (hfine : ReadFine intOf loads records settings s label) :
    DispatchSound settings history s' := by
  rcases dispatchStep_cases hstep with ⟨rfl, rfl⟩ | ⟨k, rfl, _, rfl⟩ | ⟨rfl, halive, hread⟩
  · exact ⟨h.order, h.switched, h.once, h.covered, h.complete, h.ended⟩
  · exact ⟨h.order, h.switched, h.once, h.covered, h.complete, h.ended⟩
  · rcases readStep_cases hread with ⟨readHistory, hflag, _⟩ | ⟨_, hnew, _, rfl⟩ | ⟨_, rfl⟩
    · rw [hfine.1] at hflag
      cases hflag
    · refine ⟨⟨?_, h.order⟩, ?_, h.once, h.covered, h.complete, fun _ => rfl⟩
      · rw [← h.expected, hnew]
      · have hswitched := h.switched
        simpa using hswitched
    · exact h.workOff hinv hfine halive

/-- A step that does not meet the condition ends soundness. -/
theorem DispatchSound.step_of_not_fine {label : DispatchLabel}
    (h : DispatchSound settings history s)
    (hinv : DispatchInv intOf loads records settings history s)
    (hstep : dispatchStep intOf loads records settings s label = some s')
    (hbad : ¬ ReadFine intOf loads records settings s label) :
    ¬ DispatchSound settings history s' := by
  intro hsound
  have hinv' := hinv.step hstep
  rcases dispatchStep_cases hstep with ⟨rfl, rfl⟩ | ⟨k, rfl, _, rfl⟩ | ⟨rfl, _, hread⟩
  · exact hbad trivial
  · exact hbad trivial
  · rcases readStep_cases hread with
      ⟨readHistory, _, rfl⟩ | ⟨hid, hnew, hempty, _⟩ | ⟨hid, rfl⟩
    · have hexpected := hsound.order.1
      rw [expectedArgument] at hexpected
      split at hexpected <;> cases hexpected
    · refine hbad ⟨hid, fun k hk => ?_, fun hhistory => ?_⟩
      · rw [hempty] at hk
        cases hk
      · rw [hnew] at hhistory
        cases hhistory
    · have hfits : ∀ k ∈ replyTo settings s s.requestedId,
          Fits intOf loads records settings k := by
        intro k hk
        apply hinv'.queuedFits
        apply hsound.covered
        rw [workOff_returned]
        exact List.mem_append_right _ hk
      obtain ⟨hqueued, hrequested, _⟩ :=
        workOff_of_fits (s.answered s.requestedId (replyTo settings s s.requestedId)) hfits
      rw [answered_queued] at hqueued
      rw [answered_requestedId] at hrequested
      refine hbad ⟨hid, hfits, fun hhistory => ⟨fun k hk hold => ?_, fun hne => ?_⟩⟩
      · -- an entry that is put on a queue again
        have honce := hqueued.nodup_iff.mp hsound.once
        rw [hhistory] at honce
        exact (List.nodup_append.mp honce).2.2 k hold k hk rfl
      · -- a reply of malformed entries only, after which the dispatcher goes over too early
        by_contra hnone
        push Not at hnone
        have hnew := hrequested
        rw [hhistory, if_pos ⟨fun k hk => by simpa using hnone k hk, rfl⟩] at hnew
        rw [hhistory] at hsound
        have hswitched := hsound.switched.mp hnew
        rw [workOff_reads, answered_reads] at hswitched
        have hbefore : settings.readHistory = false ∨ (.id .history, true) ∈ s.reads := by
          simpa [hne] using hswitched
        rw [h.switched.mpr hbefore] at hhistory
        cases hhistory

end Steps

/-- A run of a dispatcher with any arrivals and acknowledgements is sound in all of its
states exactly if every read meets the condition. -/
theorem always_dispatchSound_iff (intOf : PyValue → Option Int)
    (loads : String → Option PyValue) (records : ℕ → RawRecord)
    (settings : DispatcherSettings) (group : GroupStart) (labels : List DispatchLabel) :
    Always (dispatchStep intOf loads records settings) (DispatchSound settings group.history)
        (.start settings group) labels ↔
      EachStep (dispatchStep intOf loads records settings)
        (ReadFine intOf loads records settings) (.start settings group) labels := by
  have hinv : DispatchInv intOf loads records settings group.history (.start settings group) :=
    ⟨group.ascending.imp Nat.ne_of_lt, group.below, fun k hk => (by cases hk),
      fun k hk => (by cases hk), fun k hk => .inl hk⟩
  have hsound : DispatchSound settings group.history (.start settings group) := by
    refine ⟨trivial, ?_, List.nodup_nil, fun k hk => (by cases hk), fun hread hnew => ?_,
      nofun⟩
    · cases hread : settings.readHistory <;> simp [DispatchState.start, hread]
    · simp [DispatchState.start, hread] at hnew
  exact always_iff_eachStep (fun s label s' hinv _ hstep => hinv.step hstep)
    (fun s label s' hinv hsound hstep hfine => hsound.step hinv hstep hfine)
    (fun s label s' hinv hsound hstep hbad => hsound.step_of_not_fine hinv hstep hbad)
    labels _ hinv hsound

/-- The settings with the variable that the code passes on. -/
def DispatcherSettings.written (settings : DispatcherSettings) : DispatcherSettings :=
  { settings with passed := .readHistory }

/-- The flag is refused, so as the code has it a run is sound exactly if the dispatcher does
not come to read. -/
theorem always_dispatchSound_written_iff (intOf : PyValue → Option Int)
    (loads : String → Option PyValue) (records : ℕ → RawRecord)
    (settings : DispatcherSettings) (group : GroupStart) (labels : List DispatchLabel) :
    Always (dispatchStep intOf loads records settings.written)
        (DispatchSound settings.written group.history) (.start settings.written group) labels ↔
      EachStep (dispatchStep intOf loads records settings.written)
        (fun _ label => label ≠ .read) (.start settings.written group) labels := by
  have hread : ∀ s label,
      ReadFine intOf loads records settings.written s label ↔ label ≠ .read := by
    intro s label
    cases label with
    | arrive => simp [ReadFine]
    | ack k => simp [ReadFine]
    | read => simp [ReadFine, passedArgument, DispatcherSettings.written]
  rw [always_dispatchSound_iff]
  exact eachStep_congr (fun s label _ _ => hread s label) labels _

/-- When the runs of a dispatcher are sound: with either variable that may be passed on, and
with the one of the code. -/
theorem dispatchers_sound_iff (intOf : PyValue → Option Int) (loads : String → Option PyValue)
    (records : ℕ → RawRecord) (settings : DispatcherSettings) (group : GroupStart)
    (labels : List DispatchLabel) :
    (Always (dispatchStep intOf loads records settings) (DispatchSound settings group.history)
        (.start settings group) labels ↔
      EachStep (dispatchStep intOf loads records settings)
        (ReadFine intOf loads records settings) (.start settings group) labels) ∧
    (Always (dispatchStep intOf loads records settings.written)
        (DispatchSound settings.written group.history) (.start settings.written group) labels ↔
      EachStep (dispatchStep intOf loads records settings.written)
        (fun _ label => label ≠ .read) (.start settings.written group) labels) :=
  ⟨always_dispatchSound_iff intOf loads records settings group labels,
    always_dispatchSound_written_iff intOf loads records settings group labels⟩

/-- The settings of a deployed dispatcher of users' saves. -/
def savesSettings : DispatcherSettings where
  passed := .readHistory
  readHistory := true
  readSize := 1000
  readSize_pos := by decide
  blockTime := 500
  decodeResponses := true
  queueMapping := fun name => if name = .postSave then some "post_save_insertions" else none
  upstream := true

/-- A save without side effects. -/
def savedRecord : RawRecord :=
  ⟨⟨17, 0⟩,
    [("name", "POST_SAVE"), ("payload", "\x7b\x7d"), ("side_effects", "\x7b\x7d")]⟩

/-- One entry is pending. -/
def pendingSave : GroupStart := ⟨1, 1, le_rfl, [0], by decide, by decide⟩

/-- The first read raises. -/
theorem pendingSave_not_dispatched :
    ¬ Always (dispatchStep plainInt emptyTexts (fun _ => savedRecord) savesSettings.written)
      (DispatchSound savesSettings.written pendingSave.history)
      (.start savesSettings.written pendingSave) [.read] := by
  intro hrun
  rw [always_dispatchSound_written_iff] at hrun
  exact (hrun _ rfl).1 rfl

end DatabaseWorkers
end Tenjin
