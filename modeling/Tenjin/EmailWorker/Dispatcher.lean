import Mathlib.Data.List.Perm.Basic
import Tenjin.EmailWorker.Outgoing
import Tenjin.Foundation.GuardedRun
import Tenjin.ResourceAuxillary.PostProcessing

/-!
# The dispatcher of the email worker

`clean_user_email_payloads` of `qos.py` and `email_dispatcher` of `tasks.py`, batch after
batch.  A batch is what the deduplication leaves; Redis and the database do what they are
asked to.

* `dispatchRound` is the body of the loop of the dispatcher; an exception ends the task.
* `Partitioned` is the purpose: the events are split into the ones that were sent and
  committed and the ones that were dead-lettered for a reason.
* `cleanUserEmailPayloads_length` — every invalid payload costs the batch an event.
* `eachStep_partitioned_iff` — the rounds that do what they should: those without an event,
  and those with one valid event that can be dead-lettered and is never delivered.
-/

namespace Tenjin
namespace EmailWorker

open Python Foundation ResourceAuxillary

/-- `UserEmailPayload`. -/
structure UserEmailPayload where
  recipient : PyValue
  sender : PyValue
  bodyKwargs : PyValue

/-- `parse_user_email_payload`. -/
def parseUserEmailPayload (event : StreamedEvent) : Except Exn UserEmailPayload := do
  let recipient ← event.payloadField "recipient"
  let sender ← event.payloadField "sender"
  let bodyKwargs ← event.payloadField "body_kwargs"
  return ⟨recipient, sender, bodyKwargs⟩

/-- The payload of the event can be parsed. -/
def ValidPayload (event : StreamedEvent) : Prop :=
  ∃ payload, parseUserEmailPayload event = .ok payload

/-- The loop of `clean_user_email_payloads` over the copy of the events, from index `i` on.
What is popped is the event at that index of the list that the pops have shortened. -/
def cleanLoop : (i : ℕ) → (copy events improperEventsBuffer : List StreamedEvent) →
    Except Exn (List StreamedEvent × List StreamedEvent)
  | _, [], events, improperEventsBuffer => .ok (events, improperEventsBuffer)
  | i, event :: copy, events, improperEventsBuffer =>
      match parseUserEmailPayload event with
      | .ok _ => cleanLoop (i + 1) copy events improperEventsBuffer
      | .error _ =>
          match events[i]? with
          | none => .error .indexError
          | some popped =>
              cleanLoop (i + 1) copy (events.eraseIdx i) (improperEventsBuffer ++ [popped])

/-- `clean_user_email_payloads`: what is left of the events and of the buffer. -/
def cleanUserEmailPayloads (events improperEventsBuffer : List StreamedEvent) :
    Except Exn (List StreamedEvent × List StreamedEvent) :=
  cleanLoop 0 events events improperEventsBuffer

/-- What the dispatcher is started with. -/
structure DispatcherInput where
  worker : EmailWorkerConfig
  streamName : StreamName
  groupName : String
  dlqStreamName : StreamName

/-- The batch of a round, what `send_message` does in it, and the clock. -/
structure EmailRound where
  batch : List StreamedEvent
  outcomes : ℕ → ℕ → SendOutcome
  clock : ℕ → Rat

/-- What a round has done: the events that it has tried to send, has delivered, has added
to the dead letter queue and has committed.  It is over, or the task has ended in it. -/
structure RoundResult where
  attempted : List StreamedEvent := []
  sent : List StreamedEvent := []
  deadLettered : List StreamedEvent := []
  committed : List StreamedEvent := []
  errorData : ErrorData
  alive : Bool

/-- The log adds the event to a stream. -/
def addsToStream (log : CommandLog) (event : StreamedEvent) : Bool :=
  log.any fun entry => entry.1 = event.eventId && entry.2.isXadd

/-- The log acknowledges the event and does not add it to a stream. -/
def acknowledges (log : CommandLog) (event : StreamedEvent) : Bool :=
  log.any (fun entry => entry.1 = event.eventId) && !addsToStream log event

section Dispatcher

variable (dumps : PyValue → Except Exn String) (input : DispatcherInput)

/-- The body of the loop of `email_dispatcher`, from the fresh batch on. -/
def dispatchRound (errorData : ErrorData) (round : EmailRound) : RoundResult :=
  if round.batch = [] then { errorData, alive := true }
  else
    match cleanUserEmailPayloads round.batch [] with
    | .error _ => { errorData, alive := false }
    | .ok (batch, _) =>
        -- the batch is declared dead, and not `invalid_events_buffer`
        match declareDeadWithRetries dumps input.worker.maxRetries batch input.streamName
            input.groupName input.dlqStreamName input.worker.maxRetries with
        | .error _ => { errorData, alive := false }
        | .ok deadLog =>
            let deadLettered := batch.filter (addsToStream deadLog)
            match batchSendEmails input.worker round.outcomes round.clock batch errorData with
            | (.returned, s) =>
                match commitProcessedEvents dumps input.worker.maxRetries batch
                    input.groupName input.streamName input.dlqStreamName with
                | .error _ =>
                    { attempted := s.attempted, sent := s.sent, deadLettered,
                      errorData := s.smtpErrorData, alive := false }
                | .ok log =>
                    { attempted := s.attempted, sent := s.sent, deadLettered,
                      committed := batch.filter (acknowledges log),
                      errorData := s.smtpErrorData, alive := true }
            | (_, s) =>
                { attempted := s.attempted, sent := s.sent, deadLettered,
                  errorData := s.smtpErrorData, alive := false }

/-- The variables of the dispatcher between two rounds. -/
structure DispatcherState where
  errorData : ErrorData
  alive : Bool

/-- A round of the dispatcher, while its task runs. -/
def dispatchStep (s : DispatcherState) (round : EmailRound) : Option DispatcherState :=
  if s.alive then
    let result := dispatchRound dumps input s.errorData round
    some ⟨result.errorData, result.alive⟩
  else none

/-- The events of the batch are split into the ones that were sent and committed and the
ones that were dead-lettered, because they are invalid or because sending them failed. -/
structure Partitioned (batch : List StreamedEvent) (result : RoundResult) : Prop where
  split : (result.committed ++ result.deadLettered).Perm batch
  sent : ∀ event ∈ result.committed, event ∈ result.sent
  unsent : ∀ event ∈ result.deadLettered, event ∉ result.sent
  reason : ∀ event ∈ result.deadLettered, ¬ ValidPayload event ∨ event ∈ result.attempted

/-- The round of a state does what it should. -/
def RoundPartitioned (s : DispatcherState) (round : EmailRound) : Prop :=
  Partitioned round.batch (dispatchRound dumps input s.errorData round)

/-- The batch is empty, or holds one valid event, as often as may be, that can be
dead-lettered and that no attempt delivers. -/
def RoundCondition (round : EmailRound) : Prop :=
  round.batch = [] ∨
    ∃ event ∈ round.batch, (∀ other ∈ round.batch, other = event) ∧ ValidPayload event ∧
      0 < input.worker.maxRetries ∧ (∃ entry, event.cacheRepr dumps = .ok entry) ∧
      NeverDelivers input.worker round.outcomes 0

end Dispatcher

section Cleaning

/-- The loop leaves valid events alone. -/
theorem cleanLoop_of_valid {copy : List StreamedEvent} (h : ∀ event ∈ copy, ValidPayload event)
    (i : ℕ) (events improperEventsBuffer : List StreamedEvent) :
    cleanLoop i copy events improperEventsBuffer = .ok (events, improperEventsBuffer) := by
  induction copy generalizing i with
  | nil => rfl
  | cons event copy ih =>
      obtain ⟨payload, hpayload⟩ := h event (List.mem_cons_self ..)
      rw [cleanLoop, hpayload]
      exact ih (fun other hother => h other (List.mem_cons_of_mem _ hother)) (i + 1)

/-- The loop moves events to the buffer, and at least one if some payload is invalid. -/
theorem cleanLoop_length {i : ℕ} {copy events buffer events' buffer' : List StreamedEvent}
    (h : cleanLoop i copy events buffer = .ok (events', buffer')) :
    events'.length + buffer'.length = events.length + buffer.length ∧
      buffer.length ≤ buffer'.length ∧
      ((∃ event ∈ copy, ¬ ValidPayload event) → buffer.length < buffer'.length) := by
  induction copy generalizing i events buffer with
  | nil =>
      cases h
      exact ⟨rfl, le_rfl, fun ⟨_, hmem, _⟩ => (by cases hmem)⟩
  | cons event copy ih =>
      rw [cleanLoop] at h
      split at h
      · rename_i payload hpayload
        obtain ⟨hlength, hgrows, hinvalid⟩ := ih h
        refine ⟨hlength, hgrows, ?_⟩
        rintro ⟨other, hother, hbad⟩
        rcases List.mem_cons.mp hother with rfl | hother
        · exact absurd ⟨payload, hpayload⟩ hbad
        · exact hinvalid ⟨other, hother, hbad⟩
      · split at h
        · cases h
        · rename_i popped hpopped
          obtain ⟨hindex, _⟩ := List.getElem?_eq_some_iff.mp hpopped
          obtain ⟨hlength, hgrows, _⟩ := ih h
          rw [List.length_eraseIdx_of_lt hindex] at hlength
          rw [List.length_append, List.length_singleton] at hlength hgrows
          exact ⟨by omega, by omega, fun _ => by omega⟩

/-- Cleaning keeps all events exactly if all of them are valid. -/
theorem cleanUserEmailPayloads_length {batch left buffer : List StreamedEvent}
    (h : cleanUserEmailPayloads batch [] = .ok (left, buffer)) :
    left.length ≤ batch.length ∧
      ((∃ event ∈ batch, ¬ ValidPayload event) → left.length < batch.length) := by
  obtain ⟨hlength, _, hinvalid⟩ := cleanLoop_length h
  rw [List.length_nil] at hlength hinvalid
  exact ⟨by omega, fun hbad => by have := hinvalid hbad; omega⟩

end Cleaning

section Rounds

variable {dumps : PyValue → Except Exn String} {input : DispatcherInput}

/-- The events that were declared dead are in the log of it. -/
theorem declareDead_adds {maxRetries : ℕ} (hretries : 0 < maxRetries)
    {batch : List StreamedEvent} {streamName dlqStreamName : StreamName} {groupName : String}
    {log : CommandLog}
    (h : declareDeadWithRetries dumps maxRetries batch streamName groupName dlqStreamName
      maxRetries = .ok log) :
    batch.filter (addsToStream log) = batch := by
  rw [declareDeadWithRetries_eq dumps hretries] at h
  have hentries := (amortizeEvent_eq_ok_iff dumps streamName groupName dlqStreamName batch).mp
    ⟨log, h⟩
  have hlog := amortizeEvent_eq_emitFrom dumps h
  rw [List.filter_eq_self]
  intro event hevent
  obtain ⟨entry, hentry⟩ := hentries event hevent
  rw [addsToStream, List.any_eq_true]
  refine ⟨(event.eventId, .xadd dlqStreamName entry event.eventId), ?_, by simp [Command.isXadd]⟩
  rw [hlog, emitFrom, List.mem_flatMap]
  refine ⟨event, hevent, List.mem_map.mpr ⟨_, ?_, rfl⟩⟩
  simp [amortizeCommands, hentry]

/-- Without retries nothing is declared dead. -/
theorem declareDead_zero {batch : List StreamedEvent} {streamName dlqStreamName : StreamName}
    {groupName : String} :
    declareDeadWithRetries dumps 0 batch streamName groupName dlqStreamName 0 = .ok [] := by
  unfold declareDeadWithRetries
  rw [executeWithRedisRetries_of_no_attempt rfl]
  rfl

/-- A round that declares dead what cleaning has left, and then dies while sending. -/
theorem dispatchRound_of_left {round : EmailRound} {left buffer : List StreamedEvent}
    {deadLog : CommandLog} (hne : round.batch ≠ [])
    (hclean : cleanUserEmailPayloads round.batch [] = .ok (left, buffer))
    (hdead : declareDeadWithRetries dumps input.worker.maxRetries left input.streamName
      input.groupName input.dlqStreamName input.worker.maxRetries = .ok deadLog)
    (hleft : left ≠ []) :
    let ending := (batchSendEmails input.worker round.outcomes round.clock left []).2
    dispatchRound dumps input [] round =
      { attempted := ending.attempted, sent := ending.sent,
        deadLettered := left.filter (addsToStream deadLog),
        errorData := ending.smtpErrorData, alive := false } := by
  have hraises : ∃ exn,
      (batchSendEmails input.worker round.outcomes round.clock left []).1 = .raised exn :=
    batchSendEmails_raises hleft
  obtain ⟨exn, hraises⟩ := hraises
  simp only [dispatchRound, if_neg hne, hclean, hdead]
  cases hsending : batchSendEmails input.worker round.outcomes round.clock left [] with
  | mk ending s =>
      rw [hsending] at hraises
      dsimp only at hraises
      rw [hraises]

/-- Only a round that has nothing left to send is survived, and it commits nothing. -/
theorem dispatchRound_spec (dumps : PyValue → Except Exn String) (input : DispatcherInput)
    {round : EmailRound} (hne : round.batch ≠ []) :
    let result := dispatchRound dumps input [] round
    result.committed = [] ∧ (result.alive = true → result.errorData = []) ∧
      (result.deadLettered ≠ [] → ∃ left buffer, ∃ deadLog : CommandLog,
        cleanUserEmailPayloads round.batch [] = .ok (left, buffer) ∧ left ≠ [] ∧
        declareDeadWithRetries dumps input.worker.maxRetries left input.streamName
          input.groupName input.dlqStreamName input.worker.maxRetries = .ok deadLog) := by
  cases hclean : cleanUserEmailPayloads round.batch [] with
  | error exn => simp [dispatchRound, hne, hclean]
  | ok cleaned =>
      obtain ⟨left, buffer⟩ := cleaned
      cases hdead : declareDeadWithRetries dumps input.worker.maxRetries left input.streamName
          input.groupName input.dlqStreamName input.worker.maxRetries with
      | error exn => simp [dispatchRound, hne, hclean, hdead]
      | ok deadLog =>
          by_cases hleft : left = []
          · subst hleft
            simp only [dispatchRound, if_neg hne, hclean, hdead, batchSendEmails_nil]
            split
            · exact ⟨rfl, fun _ => rfl, fun h => absurd rfl h⟩
            · exact ⟨rfl, fun _ => rfl, fun h => absurd rfl h⟩
          · rw [dispatchRound_of_left hne hclean hdead hleft]
            refine ⟨rfl, fun halive => (by cases halive), fun _ => ?_⟩
            exact ⟨left, buffer, deadLog, rfl, hleft, hdead⟩

/-- A round with events that does what it should meets the condition. -/
theorem condition_of_partitioned {round : EmailRound} (hne : round.batch ≠ [])
    (h : Partitioned round.batch (dispatchRound dumps input [] round)) :
    RoundCondition dumps input round := by
  obtain ⟨hsplit, _, hunsent, hreason⟩ := h
  obtain ⟨hcommitted, _, hdeadLettered⟩ := dispatchRound_spec dumps input hne
  rw [hcommitted, List.nil_append] at hsplit
  have hdead : (dispatchRound dumps input [] round).deadLettered ≠ [] := by
    intro hnil
    rw [hnil] at hsplit
    exact hne hsplit.symm.eq_nil
  obtain ⟨left, buffer, deadLog, hclean, hleft, hlog⟩ := hdeadLettered hdead
  rw [dispatchRound_of_left hne hclean hlog hleft] at hsplit hunsent hreason
  dsimp only at hsplit hunsent hreason
  -- everything is in the dead letter queue, so cleaning has taken nothing away
  have hvalid : ∀ event ∈ round.batch, ValidPayload event := by
    by_contra hbad
    push Not at hbad
    have hshorter := (cleanUserEmailPayloads_length hclean).2 hbad
    have hfiltered := List.length_filter_le (addsToStream deadLog) left
    rw [hsplit.length_eq] at hfiltered
    exact absurd hshorter (not_lt.mpr hfiltered)
  rw [cleanUserEmailPayloads, cleanLoop_of_valid hvalid] at hclean
  cases hclean
  have hretries : 0 < input.worker.maxRetries := by
    by_contra hzero
    rw [Nat.eq_zero_of_not_pos hzero, declareDead_zero] at hlog
    cases hlog
    have hnone : round.batch.filter (addsToStream []) = [] := by
      simp [List.filter_eq_nil_iff, addsToStream]
    rw [hnone] at hsplit
    exact hne hsplit.symm.eq_nil
  rw [declareDead_adds hretries hlog] at hunsent hreason
  rw [declareDeadWithRetries_eq dumps hretries] at hlog
  have hentries := (amortizeEvent_eq_ok_iff dumps _ _ _ round.batch).mp ⟨deadLog, hlog⟩
  cases hbatch : round.batch with
  | nil => exact absurd hbatch hne
  | cons event rest =>
      rw [hbatch] at hunsent hreason hvalid hentries
      have hevent : event ∈ event :: rest := List.mem_cons_self ..
      have hfirst := batchSendEmails_first round.outcomes round.clock hretries event rest
      have hnever : NeverDelivers input.worker round.outcomes 0 := by
        by_contra hdelivers
        exact hunsent event hevent (hfirst.2 hdelivers)
      refine .inr ⟨event, hbatch ▸ hevent, ?_, hvalid event hevent, hretries,
        hentries event hevent, hnever⟩
      intro other hother
      rw [hbatch] at hother
      rcases hreason other hother with hinvalid | htried
      · exact absurd (hvalid other hother) hinvalid
      · exact (hfirst.1 hnever).2.2 other htried

/-- Under the condition a round does what it should: the event is dead-lettered, and every
attempt to send it fails. -/
theorem partitioned_of_condition {round : EmailRound} {event : StreamedEvent}
    (hevent : event ∈ round.batch) (hsame : ∀ other ∈ round.batch, other = event)
    (hvalid : ValidPayload event) (hretries : 0 < input.worker.maxRetries)
    (hentry : ∃ entry, event.cacheRepr dumps = .ok entry)
    (hnever : NeverDelivers input.worker round.outcomes 0) :
    Partitioned round.batch (dispatchRound dumps input [] round) := by
  have hne : round.batch ≠ [] := List.ne_nil_of_mem hevent
  have hclean : cleanUserEmailPayloads round.batch [] = .ok (round.batch, []) :=
    cleanLoop_of_valid (fun other hother => hsame other hother ▸ hvalid) 0 _ _
  obtain ⟨deadLog, hlog⟩ : ∃ log, amortizeEvent dumps input.streamName input.groupName
      input.dlqStreamName round.batch = .ok log :=
    (amortizeEvent_eq_ok_iff dumps _ _ _ round.batch).mpr
      fun other hother => hsame other hother ▸ hentry
  rw [← declareDeadWithRetries_eq dumps hretries] at hlog
  rw [dispatchRound_of_left hne hclean hlog hne, declareDead_adds hretries hlog]
  cases hbatch : round.batch with
  | nil => exact absurd hbatch hne
  | cons first rest =>
      have hfirst : first = event := hsame first (hbatch ▸ List.mem_cons_self ..)
      subst hfirst
      obtain ⟨hunsent, htried, _⟩ :=
        (batchSendEmails_first round.outcomes round.clock hretries first rest).1 hnever
      refine ⟨.refl _, fun other h => (by cases h), fun other _ => ?_, fun other hother => ?_⟩
      · dsimp only
        rw [hunsent]
        exact List.not_mem_nil
      · rw [hsame other (hbatch ▸ hother)]
        exact .inr htried

/-- A round does what it should exactly under the condition. -/
theorem partitioned_iff (round : EmailRound) :
    Partitioned round.batch (dispatchRound dumps input [] round) ↔
      RoundCondition dumps input round := by
  by_cases hne : round.batch = []
  · have hround : dispatchRound dumps input [] round = { errorData := [], alive := true } :=
      if_pos hne
    rw [hround, hne]
    exact ⟨fun _ => .inl hne, fun _ => ⟨.refl _, by simp, by simp, by simp⟩⟩
  · constructor
    · exact condition_of_partitioned hne
    · rintro (hempty | ⟨event, hevent, hsame, hvalid, hretries, hentry, hnever⟩)
      · exact absurd hempty hne
      · exact partitioned_of_condition hevent hsame hvalid hretries hentry hnever

/-- With a serialiser that refuses bytes, as the deployed one does, only a round without
events does what it should. -/
theorem partitioned_iff_of_rejectsBytes (h : RejectsBytes dumps) (round : EmailRound) :
    Partitioned round.batch (dispatchRound dumps input [] round) ↔ round.batch = [] := by
  rw [partitioned_iff]
  constructor
  · rintro (hempty | ⟨event, _, _, _, _, ⟨entry, hentry⟩, _⟩)
    · exact hempty
    · exact absurd hentry (StreamedEvent.cacheRepr_ne_ok_of_rejectsBytes h event entry)
  · exact .inl

/-- A task that is alive has noted no errors. -/
def ErrorFree (s : DispatcherState) : Prop := s.alive = true → s.errorData = []

theorem ErrorFree.step {s s' : DispatcherState} {round : EmailRound} (h : ErrorFree s)
    (hstep : dispatchStep dumps input s round = some s') : ErrorFree s' := by
  unfold dispatchStep at hstep
  split at hstep
  · rename_i halive
    cases hstep
    rw [h halive]
    by_cases hne : round.batch = []
    · intro _
      show (dispatchRound dumps input [] round).errorData = []
      rw [dispatchRound, if_pos hne]
    · exact (dispatchRound_spec dumps input hne).2.1
  · cases hstep

end Rounds

/-- In every run of the dispatcher, each round splits its batch as it should exactly if
each of them meets the condition. -/
theorem eachStep_partitioned_iff (dumps : PyValue → Except Exn String)
    (input : DispatcherInput) (rounds : List EmailRound) :
    EachStep (dispatchStep dumps input) (RoundPartitioned dumps input) ⟨[], true⟩ rounds ↔
      EachStep (dispatchStep dumps input) (fun _ round => RoundCondition dumps input round)
        ⟨[], true⟩ rounds := by
  refine eachStep_iff_of_kept (I := ErrorFree) ?_ (fun s round s' h hstep _ => h.step hstep)
    rounds _ (fun _ => rfl)
  intro s round s' h hstep
  have halive : s.alive = true := by
    by_contra hdead
    rw [dispatchStep, if_neg hdead] at hstep
    cases hstep
  unfold RoundPartitioned
  rw [h halive]
  exact partitioned_iff round

/-- A registration email with all its fields. -/
def registrationEmail : StreamedEvent where
  name := .userRegistrationEmail
  payload := [("recipient", .str "mia@tenjin.org"), ("sender", .str "noreply@tenjin.org"),
    ("body_kwargs", .dict [])]
  sideEffects := {}
  eventId := 17000000000000

/-- The only worker, which takes two errors in half a minute and attempts an email twice. -/
def loneMailer : DispatcherInput := ⟨⟨2, 30, 2⟩, .userEmails, "mailers", .userEmails⟩

/-- The email is delivered at the first attempt, if it is attempted. -/
def deliveredRound : EmailRound := ⟨[registrationEmail], fun _ _ => .delivered, fun _ => 0⟩

/-- It is not attempted: dead-lettering the valid events of the batch raises. -/
theorem registrationEmail_not_partitioned :
    ¬ EachStep (dispatchStep orjsonDumps loneMailer) (RoundPartitioned orjsonDumps loneMailer)
      ⟨[], true⟩ [deliveredRound] := by
  intro hrun
  obtain ⟨hround, _⟩ := hrun _ rfl
  have hempty := (partitioned_iff_of_rejectsBytes orjsonDumps_rejectsBytes _).mp hround
  cases hempty

end EmailWorker
end Tenjin
