import Tenjin.Foundation.BoundedWindow
import Tenjin.Foundation.GuardedRun
import Tenjin.ResourceAuxillary.PostProcessing
import Tenjin.ResourceAuxillary.StreamIds

/-!
# The dead letter queue of all streams

Consumers of any streams dead-letter events with `amortize_event` under
`execute_with_redis_retries` (`post_processing.py`, `qos.py`).  The attempts of the calls
interleave, and each one is a transaction of acknowledgements and `XADD` commands with the
event id as the explicit ID.  `XADD` refuses an ID that is not greater than the last one of
the stream, and a refused command leaves the others of its transaction executed.

* `DlqServer` is what Redis holds; `execute` runs one command of the transaction.
* `dlqStep` runs the calls, one attempt at a time.
* `NothingLost` is the purpose: what is acknowledged is in the queue, and the events of a
  call that has returned are in it exactly once.
* `Accepts` is the exact condition on an executed attempt.
-/

namespace Tenjin
namespace ResourceAuxillary

open Python Foundation

/-- An entry of the dead letter queue, with the entry whose event it holds. -/
structure DeadLetter where
  id : StreamId
  fields : StreamEntry
  origin : EntryRef
  deriving DecidableEq

/-- The dead letter queue, and the entries whose acknowledgement has been executed. -/
structure DlqServer where
  lastId : StreamId
  letters : List DeadLetter
  acked : List EntryRef

/-- The event of the entry is in the queue. -/
def DlqServer.Holds (server : DlqServer) (e : EntryRef) : Prop :=
  ∃ letter ∈ server.letters, letter.origin = e

/-- `XACK` with what Redis reads as the ID, issued for an entry; the flag says that the
answer is an error. -/
def executeXack (server : DlqServer) (origin : EntryRef) : Option StreamId → DlqServer × Bool
  | none => (server, true)
  | some _ => ({ server with acked := server.acked ++ [origin] }, false)

/-- `XADD` with what Redis reads as the explicit ID. -/
def executeXadd (server : DlqServer) (origin : EntryRef) (fields : StreamEntry) :
    Option StreamId → DlqServer × Bool
  | none => (server, true)
  | some id =>
      if server.lastId.Before id then
        ({ server with
          lastId := id
          letters := server.letters ++ [⟨id, fields, origin⟩] }, false)
      else (server, true)

/-- One command that is issued for an entry. -/
def execute (server : DlqServer) (origin : EntryRef) : Command → DlqServer × Bool
  | .xack _ _ n => executeXack server origin (readStreamId n)
  | .xadd _ fields n => executeXadd server origin fields (readStreamId n)
  | _ => (server, false)

theorem execute_xack (server : DlqServer) (origin : EntryRef) (stream : StreamName)
    (group : String) (n : Int) :
    execute server origin (.xack stream group n) =
      executeXack server origin (readStreamId n) := rfl

theorem execute_xadd (server : DlqServer) (origin : EntryRef) (stream : StreamName)
    (fields : StreamEntry) (n : Int) :
    execute server origin (.xadd stream fields n) =
      executeXadd server origin fields (readStreamId n) := rfl

/-- The commands of a transaction, all of them, and whether any is answered with an
error. -/
def executeAll (server : DlqServer) : List (EntryRef × Command) → DlqServer × Bool
  | [] => (server, false)
  | (origin, command) :: commands =>
      let (server, failed) := execute server origin command
      let (server, failedLater) := executeAll server commands
      (server, failed || failedLater)

/-- Where the loop of `execute_with_redis_retries` stands. -/
inductive CallStatus
  | running (remaining : ℕ) (exception : Option Exn)
  | returned
  | raised (e : Exn)

/-- The head of the loop, with `remaining` attempts left. -/
def CallStatus.atHead (remaining : ℕ) (exception : Option Exn) : CallStatus :=
  match remaining, exception with
  | 0, none => .returned
  | 0, some e => .raised e
  | remaining + 1, exception => .running (remaining + 1) exception

/-- The body of the loop, after an attempt has been answered. -/
def CallStatus.afterAttempt (remaining : ℕ) (answer : Except Exn Unit) : CallStatus :=
  match answer with
  | .ok _ => .returned
  | .error (.redisError true) => .atHead (remaining - 1) (some (.redisError true))
  | .error e => .raised e

/-- One round of the loop as the executor has it: returned and raised calls are over, and
a running one goes on. -/
theorem redisRetryLoop_round (coroutine : ℕ → Except Exn Unit) (remaining attempt : ℕ)
    (exception : Option Exn) :
    redisRetryLoop coroutine (remaining + 1) attempt exception =
      match CallStatus.afterAttempt (remaining + 1) (coroutine attempt) with
      | .returned => .ok (some ())
      | .raised e => .error e
      | .running left e => redisRetryLoop coroutine left (attempt + 1) e := by
  cases hanswer : coroutine attempt with
  | ok u => simp [redisRetryLoop, CallStatus.afterAttempt, hanswer]
  | error e =>
      by_cases hnetwork : e = .redisError true
      · subst hnetwork
        cases remaining <;>
          simp [redisRetryLoop, CallStatus.afterAttempt, CallStatus.atHead, hanswer]
      · simp [redisRetryLoop, CallStatus.afterAttempt, hanswer]

/-- A call of `declare_dead_with_retries` or of the fallback in
`dlq_aware_process_events`. -/
structure DlqCall where
  streamName : StreamName
  groupName : String
  ids : List StreamId
  status : CallStatus

/-- The queue and all calls so far. -/
structure DlqState where
  server : DlqServer
  calls : List DlqCall

/-- An empty queue, whatever ID it last had, and no calls. -/
def DlqState.initial (lastId : StreamId) : DlqState := ⟨⟨lastId, [], []⟩, []⟩

/-- What becomes of an attempt on the network: the transaction may not reach Redis, or be
executed without an answer, or be executed and answered. -/
inductive NetworkFate
  | notExecuted
  | unanswered
  | answered
  deriving DecidableEq

/-- What happens next: a consumer starts a call, or a running call makes an attempt. -/
inductive DlqAction
  | start (streamName : StreamName) (groupName : String) (ids : List StreamId) (attempts : ℕ)
  | attempt (i : ℕ) (fate : NetworkFate)

section
variable (dumps : PyValue → Except Exn String) (dlqStreamName : StreamName)
  (contents : EntryRef → Event)

/-- The event of an entry, as it is constructed from the stream. -/
def streamedOf (e : EntryRef) : StreamedEvent := { contents e with eventId := e.eventId }

/-- The commands of `amortize_event` for a batch, each with the entry it is issued for. -/
def amortizeTransaction (streamName : StreamName) (groupName : String)
    (batch : List EntryRef) : List (EntryRef × Command) :=
  emitFrom id
    (fun e => amortizeCommands dumps streamName groupName dlqStreamName
      (streamedOf contents e)) batch

/-- They are the commands that `amortize_event` executes. -/
theorem amortizeTransaction_eq {streamName : StreamName} {groupName : String}
    {batch : List EntryRef} {log : CommandLog}
    (h : amortizeEvent dumps streamName groupName dlqStreamName
      (batch.map (streamedOf contents)) = .ok log) :
    (amortizeTransaction dumps dlqStreamName contents streamName groupName batch).map
      Prod.snd = log.map Prod.snd := by
  rw [amortizeEvent_eq_emitFrom dumps h]
  simp only [amortizeTransaction, emitFrom, List.flatMap_map, List.map_flatMap,
    List.map_map]
  rfl

/-- One attempt of `amortize_event`: its answer, and the queue afterwards. -/
def amortizeAttempt (server : DlqServer) (call : DlqCall) (fate : NetworkFate) :
    Except Exn Unit × DlqServer :=
  let batch := call.ids.map (EntryRef.mk call.streamName)
  match amortizeEvent dumps call.streamName call.groupName dlqStreamName
      (batch.map (streamedOf contents)) with
  | .error e => (.error e, server)
  | .ok _ =>
      let (executed, failed) := executeAll server
        (amortizeTransaction dumps dlqStreamName contents call.streamName call.groupName batch)
      match fate with
      | .notExecuted => (.error (.redisError true), server)
      | .unanswered => (.error (.redisError true), executed)
      | .answered => (if failed then .error (.redisError false) else .ok (), executed)

/-- One step of the consumers. -/
def dlqStep (maxRetries : ℕ) (s : DlqState) : DlqAction → Option DlqState
  | .start streamName groupName ids attempts =>
      some { s with
        calls := s.calls ++ [⟨streamName, groupName, ids,
          .atHead (attemptsOr (some attempts) maxRetries) none⟩] }
  | .attempt i fate =>
      match s.calls[i]? with
      | none => none
      | some call =>
          match call.status with
          | .running remaining _ =>
              let (answer, server) :=
                amortizeAttempt dumps dlqStreamName contents s.server call fate
              some ⟨server, s.calls.set i
                { call with status := .afterAttempt remaining answer }⟩
          | _ => none

/-- Every acknowledged entry is in the queue, and the events of every call that has
returned are in it exactly once, with their fields. -/
structure NothingLost (s : DlqState) : Prop where
  acked : ∀ e ∈ s.server.acked, s.server.Holds e
  returned : ∀ call ∈ s.calls, call.status = .returned →
    ∀ id ∈ call.ids, ∃ letter,
      (s.server.letters.filter fun l => l.origin = ⟨call.streamName, id⟩) = [letter] ∧
      (streamedOf contents ⟨call.streamName, id⟩).cacheRepr dumps = .ok letter.fields

/-- The queue takes an event behind those of `front`, or holds it by then: its number fits
into an ID only if it is greater than the last ID and the numbers in front of it. -/
def AcceptsOne (server : DlqServer) (front : List EntryRef) (e : EntryRef) : Prop :=
  e.id.number < idLimit →
    server.Holds e ∨ e ∈ front ∨
      (server.lastId.ms < e.id.number ∧
        ∀ e' ∈ front, e'.id.number < idLimit → e'.id.number < e.id.number)

/-- The queue takes every event of the batch, or holds it already. -/
def Accepts (server : DlqServer) (batch : List EntryRef) : Prop :=
  ∀ front e back, batch = front ++ e :: back → AcceptsOne server front e

/-- The condition on a step.  A call is allowed an attempt, or its events are in the queue
already; an attempt that is executed is accepted as a whole. -/
def NumbersGrow (maxRetries : ℕ) (s : DlqState) : DlqAction → Prop
  | .start streamName _ ids attempts =>
      0 < attemptsOr (some attempts) maxRetries ∨
        ∀ id ∈ ids, s.server.Holds ⟨streamName, id⟩
  | .attempt i fate =>
      ∀ call ∈ s.calls[i]?, fate = .notExecuted ∨
        (∃ id ∈ call.ids, ¬ ∃ fields,
          (streamedOf contents ⟨call.streamName, id⟩).cacheRepr dumps = .ok fields) ∨
        Accepts s.server (call.ids.map (EntryRef.mk call.streamName))

/-- What every queue that consumers have written keeps: an entry's ID is the number of its
event and not above the last ID, no event is in it twice, and the fields are the event's. -/
structure DlqServer.Valid (server : DlqServer) : Prop where
  ids : ∀ letter ∈ server.letters, letter.origin.id.number ≤ server.lastId.ms
  origins : (server.letters.map DeadLetter.origin).Nodup
  fields : ∀ letter ∈ server.letters,
    (streamedOf contents letter.origin).cacheRepr dumps = .ok letter.fields

end

/-- The two commands of one event in one step. -/
def deadLetterOne (server : DlqServer) (e : EntryRef) (fields : StreamEntry) :
    DlqServer × Bool :=
  if e.id.number < idLimit then
    if server.lastId.ms < e.id.number then
      (⟨⟨e.id.number, 0⟩, server.letters ++ [⟨⟨e.id.number, 0⟩, fields, e⟩],
        server.acked ++ [e]⟩, false)
    else (⟨server.lastId, server.letters, server.acked ++ [e]⟩, true)
  else (server, true)

section
variable {dumps : PyValue → Except Exn String} {dlqStreamName : StreamName}
  {contents : EntryRef → Event} {streamName : StreamName} {groupName : String}
  {server : DlqServer} {e : EntryRef} {fields : StreamEntry}

/-- The commands of one event in front of others. -/
theorem executeAll_pair (origin : EntryRef) (first second : Command)
    (commands : List (EntryRef × Command)) :
    executeAll server ((origin, first) :: (origin, second) :: commands) =
      let one := execute (execute server origin first).1 origin second
      ((executeAll one.1 commands).1,
        ((execute server origin first).2 || one.2) || (executeAll one.1 commands).2) := by
  simp only [executeAll, Bool.or_assoc]

/-- The acknowledgement and the `XADD` of one event. -/
theorem execute_pair (streamName : StreamName) (groupName : String)
    (dlqStreamName : StreamName) (server : DlqServer) (e : EntryRef) (fields : StreamEntry) :
    let acked := execute server e (.xack streamName groupName e.eventId)
    let added := execute acked.1 e (.xadd dlqStreamName fields e.eventId)
    added.1 = (deadLetterOne server e fields).1 ∧
      (acked.2 || added.2) = (deadLetterOne server e fields).2 := by
  dsimp only
  rw [execute_xack, execute_xadd]
  by_cases hfits : e.id.number < idLimit
  · have hread : readStreamId e.eventId = some ⟨e.id.number, 0⟩ := by
      rw [EntryRef.eventId, readStreamId_natCast, if_pos hfits]
    rw [hread, executeXack, executeXadd, deadLetterOne, if_pos hfits]
    by_cases hlast : server.lastId.ms < e.id.number
    · have hbefore : server.lastId.Before ⟨e.id.number, 0⟩ := .inl hlast
      rw [if_pos hbefore, if_pos hlast]
      exact ⟨rfl, rfl⟩
    · have hbefore : ¬ server.lastId.Before ⟨e.id.number, 0⟩ := by
        rintro (hms | ⟨_, hseq⟩)
        · exact hlast hms
        · exact Nat.not_lt_zero _ hseq
      rw [if_neg hbefore, if_neg hlast]
      exact ⟨rfl, rfl⟩
  · have hread : readStreamId e.eventId = none := by
      rw [EntryRef.eventId, readStreamId_natCast, if_neg hfits]
    rw [hread, executeXack, executeXadd, deadLetterOne, if_neg hfits]
    exact ⟨rfl, rfl⟩

/-- A transaction deals with its events one after the other. -/
theorem executeAll_cons (hfields : (streamedOf contents e).cacheRepr dumps = .ok fields)
    (batch : List EntryRef) :
    executeAll server (amortizeTransaction dumps dlqStreamName contents streamName groupName
        (e :: batch)) =
      ((executeAll (deadLetterOne server e fields).1
          (amortizeTransaction dumps dlqStreamName contents streamName groupName batch)).1,
        (deadLetterOne server e fields).2 ||
          (executeAll (deadLetterOne server e fields).1
            (amortizeTransaction dumps dlqStreamName contents streamName groupName
              batch)).2) := by
  have hcommands : amortizeTransaction dumps dlqStreamName contents streamName groupName
      (e :: batch) =
      (e, .xack streamName groupName e.eventId) ::
        (e, .xadd dlqStreamName fields e.eventId) ::
        amortizeTransaction dumps dlqStreamName contents streamName groupName batch := by
    have hid : (streamedOf contents e).eventId = e.eventId := rfl
    simp [amortizeTransaction, emitFrom, amortizeCommands, hfields, hid]
  obtain ⟨hserver, hfailed⟩ :=
    execute_pair streamName groupName dlqStreamName server e fields
  rw [hcommands, executeAll_pair]
  dsimp only
  rw [hserver, hfailed]

/-- What is in the queue stays there. -/
theorem deadLetterOne_holds {x : EntryRef} (h : server.Holds x) :
    (deadLetterOne server e fields).1.Holds x := by
  obtain ⟨letter, hmem, horigin⟩ := h
  refine ⟨letter, ?_, horigin⟩
  unfold deadLetterOne
  split
  · split
    · exact List.mem_append_left _ hmem
    · exact hmem
  · exact hmem

/-- An acknowledgement stays. -/
theorem deadLetterOne_acked {x : EntryRef} (h : x ∈ server.acked) :
    x ∈ (deadLetterOne server e fields).1.acked := by
  unfold deadLetterOne
  split
  · split
    · exact List.mem_append_left _ h
    · exact List.mem_append_left _ h
  · exact h

/-- Only the event itself is acknowledged, and only if its number fits into an ID. -/
theorem acked_of_deadLetterOne {x : EntryRef}
    (h : x ∈ (deadLetterOne server e fields).1.acked) :
    x ∈ server.acked ∨ (x = e ∧ e.id.number < idLimit) := by
  unfold deadLetterOne at h
  split at h
  · rename_i hfits
    have hor : x ∈ server.acked ∨ x = e := by
      split at h
      · simpa using h
      · simpa using h
    exact hor.imp_right fun hx => ⟨hx, hfits⟩
  · exact .inl h

/-- An accepted event whose number fits is in the queue afterwards. -/
theorem holds_deadLetterOne (h : AcceptsOne server [] e) (hfits : e.id.number < idLimit) :
    (deadLetterOne server e fields).1.Holds e := by
  rcases h hfits with hin | hin | ⟨hlast, _⟩
  · exact deadLetterOne_holds hin
  · cases hin
  · rw [deadLetterOne, if_pos hfits, if_pos hlast]
    exact ⟨_, List.mem_append_right _ (List.mem_singleton_self _), rfl⟩

/-- The last ID never goes back. -/
theorem deadLetterOne_lastId :
    server.lastId.ms ≤ (deadLetterOne server e fields).1.lastId.ms := by
  unfold deadLetterOne
  split
  · split
    · rename_i hlast
      exact hlast.le
    · exact Nat.le_refl _
  · exact Nat.le_refl _

/-- A new entry of the queue is the event that was dead-lettered, above the last ID. -/
theorem holds_of_deadLetterOne {x : EntryRef}
    (h : (deadLetterOne server e fields).1.Holds x) :
    server.Holds x ∨ (x = e ∧ server.lastId.ms < e.id.number) := by
  obtain ⟨letter, hmem, horigin⟩ := h
  unfold deadLetterOne at hmem
  split at hmem
  · split at hmem
    · rename_i hlast
      rcases List.mem_append.mp hmem with hmem | hmem
      · exact .inl ⟨letter, hmem, horigin⟩
      · rw [List.mem_singleton.mp hmem] at horigin
        exact .inr ⟨horigin.symm, hlast⟩
    · exact .inl ⟨letter, hmem, horigin⟩
  · exact .inl ⟨letter, hmem, horigin⟩

theorem deadLetterOne_valid (hvalid : server.Valid dumps contents)
    (hfields : (streamedOf contents e).cacheRepr dumps = .ok fields) :
    (deadLetterOne server e fields).1.Valid dumps contents := by
  unfold deadLetterOne
  split
  · split
    · rename_i hlast
      have hnew : e ∉ server.letters.map DeadLetter.origin := by
        intro hmem
        obtain ⟨letter, hletter, rfl⟩ := List.mem_map.mp hmem
        have hle := hvalid.ids letter hletter
        omega
      refine ⟨fun letter hletter => ?_, ?_, fun letter hletter => ?_⟩
      · rcases List.mem_append.mp hletter with hold | hone
        · exact Nat.le_trans (hvalid.ids letter hold) hlast.le
        · rw [List.mem_singleton.mp hone]
      · rw [List.map_append, List.map_singleton]
        exact nodup_append_singleton hvalid.origins hnew
      · rcases List.mem_append.mp hletter with hold | hone
        · exact hvalid.fields letter hold
        · rw [List.mem_singleton.mp hone]
          exact hfields
    · exact ⟨hvalid.ids, hvalid.origins, hvalid.fields⟩
  · exact hvalid

/-- An acknowledged event that the queue has passed over never gets into it. -/
theorem executeAll_lost {batch : List EntryRef}
    (hall : ∀ e ∈ batch, ∃ fields, (streamedOf contents e).cacheRepr dumps = .ok fields)
    {x : EntryRef} (hacked : x ∈ server.acked) (hout : ¬ server.Holds x)
    (hpassed : x.id.number ≤ server.lastId.ms) :
    let after := (executeAll server
      (amortizeTransaction dumps dlqStreamName contents streamName groupName batch)).1
    x ∈ after.acked ∧ ¬ after.Holds x := by
  induction batch generalizing server with
  | nil => exact ⟨hacked, hout⟩
  | cons e batch ih =>
      obtain ⟨fields, hfields⟩ := hall e (List.mem_cons_self ..)
      rw [executeAll_cons hfields]
      refine ih (fun e' he' => hall e' (List.mem_cons_of_mem _ he'))
        (deadLetterOne_acked hacked) (fun hin => ?_)
        (Nat.le_trans hpassed deadLetterOne_lastId)
      rcases holds_of_deadLetterOne hin with hin | ⟨rfl, hlast⟩
      · exact hout hin
      · omega

/-- A transaction keeps the queue valid and keeps what is in it; and when no command is
answered with an error, all of its events are in the queue. -/
theorem executeAll_spec (streamName : StreamName) {batch : List EntryRef}
    (hall : ∀ e ∈ batch, ∃ fields, (streamedOf contents e).cacheRepr dumps = .ok fields)
    (hvalid : server.Valid dumps contents) :
    let result := executeAll server
      (amortizeTransaction dumps dlqStreamName contents streamName groupName batch)
    result.1.Valid dumps contents ∧ (∀ x, server.Holds x → result.1.Holds x) ∧
      (result.2 = false → ∀ e ∈ batch, result.1.Holds e) := by
  induction batch generalizing server with
  | nil => exact ⟨hvalid, fun x hx => hx, fun _ e he => by cases he⟩
  | cons e batch ih =>
      obtain ⟨fields, hfields⟩ := hall e (List.mem_cons_self ..)
      obtain ⟨hvalid', hkept, hadded⟩ :=
        ih (fun e' he' => hall e' (List.mem_cons_of_mem _ he'))
          (deadLetterOne_valid hvalid hfields)
      rw [executeAll_cons hfields]
      refine ⟨hvalid', fun x hx => hkept x (deadLetterOne_holds hx), fun hok x hx => ?_⟩
      simp only [Bool.or_eq_false_iff] at hok
      rcases List.mem_cons.mp hx with rfl | hx
      · refine hkept x ?_
        have hone := hok.1
        unfold deadLetterOne at hone ⊢
        split at hone
        · split at hone
          · rename_i hfits hlast
            simp only [hfits, hlast, if_true]
            exact ⟨_, List.mem_append_right _ (List.mem_singleton_self _), rfl⟩
          · cases hone
        · cases hone
      · exact hadded hok.2 x hx

/-- What holds behind an event that is accepted, when the event has been dealt with. -/
theorem acceptsOne_cons (hhead : AcceptsOne server [] e) (fields : StreamEntry)
    (front : List EntryRef) (x : EntryRef) :
    AcceptsOne server (e :: front) x ↔
      AcceptsOne (deadLetterOne server e fields).1 front x := by
  unfold deadLetterOne
  split
  · rename_i hfits
    split
    · rename_i hlast
      -- the event is added, and its number is the last ID now
      have hholds : DlqServer.Holds ⟨⟨e.id.number, 0⟩,
          server.letters ++ [⟨⟨e.id.number, 0⟩, fields, e⟩], server.acked ++ [e]⟩ x ↔
          server.Holds x ∨ x = e := by
        simp only [DlqServer.Holds, List.mem_append, List.mem_singleton, or_and_right,
          exists_or, exists_eq_left]
        exact or_congr_right eq_comm
      simp only [AcceptsOne, hholds, List.mem_cons, forall_eq_or_imp, hfits, true_imp_iff]
      refine forall_congr' fun _ => ?_
      constructor
      · rintro (h | (h | h) | ⟨_, hnumber, hfront⟩)
        · exact .inl (.inl h)
        · exact .inl (.inr h)
        · exact .inr (.inl h)
        · exact .inr (.inr ⟨hnumber, hfront⟩)
      · rintro ((h | h) | h | ⟨hnumber, hfront⟩)
        · exact .inl h
        · exact .inr (.inl (.inl h))
        · exact .inr (.inl (.inr h))
        · exact .inr (.inr ⟨by omega, hnumber, hfront⟩)
    · rename_i hlast
      -- the queue holds the event already, so its number is not above the last ID
      have hin : server.Holds e := by
        rcases hhead hfits with h | h | h
        · exact h
        · cases h
        · exact absurd h.1 hlast
      have hholds : DlqServer.Holds ⟨server.lastId, server.letters, server.acked ++ [e]⟩ x ↔
          server.Holds x := Iff.rfl
      simp only [AcceptsOne, hholds, List.mem_cons, forall_eq_or_imp, hfits, true_imp_iff]
      refine forall_congr' fun _ => ?_
      constructor
      · rintro (h | (rfl | h) | ⟨hnumber, _, hfront⟩)
        · exact .inl h
        · exact .inl hin
        · exact .inr (.inl h)
        · exact .inr (.inr ⟨hnumber, hfront⟩)
      · rintro (h | h | ⟨hnumber, hfront⟩)
        · exact .inl h
        · exact .inr (.inl (.inr h))
        · exact .inr (.inr ⟨hnumber, by omega, hfront⟩)
  · rename_i hfits
    simp only [AcceptsOne, List.mem_cons, forall_eq_or_imp, hfits, false_imp_iff, true_and]
    refine forall_congr' fun hx => ?_
    have hne : x ≠ e := by
      rintro rfl
      exact hfits hx
    simp only [hne, false_or]

/-- The acceptance of a batch, event by event. -/
theorem accepts_cons (fields : StreamEntry) (batch : List EntryRef) :
    Accepts server (e :: batch) ↔
      AcceptsOne server [] e ∧ Accepts (deadLetterOne server e fields).1 batch := by
  constructor
  · intro h
    have hhead : AcceptsOne server [] e := h [] e batch rfl
    refine ⟨hhead, fun front x back hbatch => ?_⟩
    rw [← acceptsOne_cons hhead fields]
    exact h (e :: front) x back (by rw [hbatch]; rfl)
  · rintro ⟨hhead, htail⟩ front x back hbatch
    cases front with
    | nil =>
        obtain ⟨rfl, _⟩ := List.cons.inj hbatch
        exact hhead
    | cons y front =>
        obtain ⟨rfl, hrest⟩ := List.cons.inj hbatch
        rw [acceptsOne_cons hhead fields]
        exact htail front x back hrest

/-- What a transaction acknowledges is in the queue afterwards if and only if the queue
accepts the batch. -/
theorem executeAll_acked_iff {batch : List EntryRef}
    (hall : ∀ e ∈ batch, ∃ fields, (streamedOf contents e).cacheRepr dumps = .ok fields)
    (hacked : ∀ x ∈ server.acked, server.Holds x) :
    let after := (executeAll server
      (amortizeTransaction dumps dlqStreamName contents streamName groupName batch)).1
    (∀ x ∈ after.acked, after.Holds x) ↔ Accepts server batch := by
  induction batch generalizing server with
  | nil =>
      refine iff_of_true hacked fun front e back hbatch => ?_
      simp at hbatch
  | cons e batch ih =>
      obtain ⟨fields, hfields⟩ := hall e (List.mem_cons_self ..)
      have htail : ∀ e' ∈ batch, ∃ fields,
          (streamedOf contents e').cacheRepr dumps = .ok fields :=
        fun e' he' => hall e' (List.mem_cons_of_mem _ he')
      dsimp only
      rw [executeAll_cons hfields, accepts_cons fields]
      by_cases hhead : AcceptsOne server [] e
      · have hkept : ∀ x ∈ (deadLetterOne server e fields).1.acked,
            (deadLetterOne server e fields).1.Holds x := by
          intro x hx
          rcases acked_of_deadLetterOne hx with hx | ⟨rfl, hfits⟩
          · exact deadLetterOne_holds (hacked x hx)
          · exact holds_deadLetterOne hhead hfits
        exact (ih htail hkept).trans (and_iff_right hhead).symm
      · -- an event that is refused is acknowledged, and never gets into the queue
        obtain ⟨hfits, hrefused⟩ := Classical.not_imp.mp hhead
        have hout : ¬ server.Holds e := fun h => hrefused (.inl h)
        have hpassed : e.id.number ≤ server.lastId.ms := by
          by_contra hlast
          exact hrefused (.inr (.inr ⟨by omega, fun _ h => by cases h⟩))
        have hout' : ¬ (deadLetterOne server e fields).1.Holds e := by
          intro hin
          rcases holds_of_deadLetterOne hin with hin | ⟨_, hlast⟩
          · exact hout hin
          · omega
        have hacked' : e ∈ (deadLetterOne server e fields).1.acked := by
          rw [deadLetterOne, if_pos hfits, if_neg (by omega)]
          exact List.mem_append_right _ (List.mem_singleton_self _)
        obtain ⟨hin, hnever⟩ := executeAll_lost htail hacked' hout'
          (Nat.le_trans hpassed deadLetterOne_lastId)
        exact iff_of_false (fun h => hnever (h e hin)) (fun h => hhead h.1)

end

end ResourceAuxillary
end Tenjin
