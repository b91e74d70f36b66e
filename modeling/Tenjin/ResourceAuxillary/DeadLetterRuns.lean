import Tenjin.ResourceAuxillary.DeadLettering

/-!
# Runs of dead-lettering calls

From the transaction of one attempt to the runs of any number of calls whose attempts
interleave.

* `amortizeAttempt_cases` — an attempt leaves the queue as it is and fails, or executes
  the whole transaction.
* `nothingLost_step_iff` — one step keeps the purpose exactly under `NumbersGrow`.
* `always_nothingLost_iff` — so does a run, from any empty queue.
-/

namespace Tenjin
namespace ResourceAuxillary

open Python Foundation

variable {dumps : PyValue → Except Exn String} {dlqStreamName : StreamName}
  {contents : EntryRef → Event}

/-- A call whose attempt has failed has not returned. -/
theorem afterAttempt_error_ne_returned (remaining : ℕ) (e : Exn) :
    CallStatus.afterAttempt remaining (.error e) ≠ .returned := by
  unfold CallStatus.afterAttempt
  split
  · rename_i h
    cases h
  · cases remaining - 1 <;> simp [CallStatus.atHead]
  · simp

/-- The events of a call. -/
def DlqCall.batch (call : DlqCall) : List EntryRef := call.ids.map (EntryRef.mk call.streamName)

/-- Every event of a call has a cache representation. -/
def Serialisable (dumps : PyValue → Except Exn String) (contents : EntryRef → Event)
    (call : DlqCall) : Prop :=
  ∀ e ∈ call.batch, ∃ fields, (streamedOf contents e).cacheRepr dumps = .ok fields

/-- The queue after the transaction of a call. -/
def executedBy (dumps : PyValue → Except Exn String) (dlqStreamName : StreamName)
    (contents : EntryRef → Event) (server : DlqServer) (call : DlqCall) : DlqServer × Bool :=
  executeAll server (amortizeTransaction dumps dlqStreamName contents call.streamName
    call.groupName call.batch)

/-- What an attempt does.  It fails and leaves the queue as it is, because the transaction
is not built or does not reach Redis; or the transaction is executed, and the attempt only
succeeds if no command is answered with an error. -/
theorem amortizeAttempt_cases (dumps : PyValue → Except Exn String)
    (dlqStreamName : StreamName) (contents : EntryRef → Event) (server : DlqServer) (call : DlqCall)
    (fate : NetworkFate) :
    ((fate = .notExecuted ∨ ¬ Serialisable dumps contents call) ∧
      ∃ e, amortizeAttempt dumps dlqStreamName contents server call fate =
        (.error e, server)) ∨
    (fate ≠ .notExecuted ∧ Serialisable dumps contents call ∧
      ∃ answer, amortizeAttempt dumps dlqStreamName contents server call fate =
        (answer, (executedBy dumps dlqStreamName contents server call).1) ∧
        (answer = .ok () → (executedBy dumps dlqStreamName contents server call).2 = false)) := by
  have hbuild := amortizeEvent_eq_ok_iff dumps call.streamName call.groupName dlqStreamName
    (call.batch.map (streamedOf contents))
  simp only [List.forall_mem_map] at hbuild
  cases hlog : amortizeEvent dumps call.streamName call.groupName dlqStreamName
      (call.batch.map (streamedOf contents)) with
  | error e =>
      refine .inl ⟨.inr fun hall => ?_, e, ?_⟩
      · obtain ⟨log, hok⟩ := hbuild.mpr hall
        rw [hlog] at hok
        cases hok
      · unfold DlqCall.batch at hlog
        simp only [amortizeAttempt, hlog]
  | ok log =>
      have hall : Serialisable dumps contents call := hbuild.mp ⟨log, hlog⟩
      unfold DlqCall.batch at hlog
      cases fate with
      | notExecuted => exact .inl ⟨.inl rfl, .redisError true, by simp only [amortizeAttempt, hlog]⟩
      | unanswered =>
          refine .inr ⟨by simp, hall, .error (.redisError true), ?_, fun h => by cases h⟩
          simp only [amortizeAttempt, hlog]
          rfl
      | answered =>
          refine .inr ⟨by simp, hall, if (executedBy dumps dlqStreamName contents server
            call).2 then .error (.redisError false) else .ok (), ?_, fun h => ?_⟩
          · simp only [amortizeAttempt, hlog]
            rfl
          · split at h
            · cases h
            · rename_i hfailed
              simpa using hfailed

/-- What one step does to the queue and to the calls. -/
theorem dlqStep_cases {maxRetries : ℕ} {s s' : DlqState} {a : DlqAction}
    (h : dlqStep dumps dlqStreamName contents maxRetries s a = some s') :
    (∃ streamName groupName ids attempts, a = .start streamName groupName ids attempts ∧
      s' = ⟨s.server, s.calls ++ [⟨streamName, groupName, ids,
        .atHead (attemptsOr (some attempts) maxRetries) none⟩]⟩) ∨
    (∃ i fate call remaining answer server, a = .attempt i fate ∧
      s.calls[i]? = some call ∧
      amortizeAttempt dumps dlqStreamName contents s.server call fate = (answer, server) ∧
      s' = ⟨server, s.calls.set i { call with status := .afterAttempt remaining answer }⟩) := by
  cases a with
  | start streamName groupName ids attempts =>
      simp only [dlqStep, Option.some.injEq] at h
      exact .inl ⟨streamName, groupName, ids, attempts, rfl, h.symm⟩
  | attempt i fate =>
      simp only [dlqStep] at h
      split at h
      · cases h
      · rename_i call hcall
        split at h
        · rename_i remaining exception _
          simp only [Option.some.injEq] at h
          exact .inr ⟨i, fate, call, remaining, _, _, rfl, hcall, rfl, h.symm⟩
        · cases h

/-- In a valid queue, being in it means being in it once, with the right fields. -/
theorem nothingLost_iff {s : DlqState} (hvalid : s.server.Valid dumps contents) :
    NothingLost dumps contents s ↔
      (∀ e ∈ s.server.acked, s.server.Holds e) ∧
      ∀ call ∈ s.calls, call.status = .returned → ∀ e ∈ call.batch, s.server.Holds e := by
  constructor
  · intro h
    refine ⟨h.acked, fun call hcall hstatus e he => ?_⟩
    obtain ⟨id, hid, rfl⟩ := List.mem_map.mp he
    obtain ⟨letter, hfilter, _⟩ := h.returned call hcall hstatus id hid
    have hmem : letter ∈ s.server.letters.filter fun l => l.origin = ⟨call.streamName, id⟩ := by
      rw [hfilter]
      exact List.mem_singleton_self letter
    rw [List.mem_filter] at hmem
    exact ⟨letter, hmem.1, by simpa using hmem.2⟩
  · rintro ⟨hacked, hreturned⟩
    refine ⟨hacked, fun call hcall hstatus id hid => ?_⟩
    obtain ⟨letter, hletter, horigin⟩ :=
      hreturned call hcall hstatus ⟨call.streamName, id⟩ (List.mem_map_of_mem hid)
    refine ⟨letter, ?_, ?_⟩
    · rw [← horigin]
      exact filter_tag_eq_singleton DeadLetter.origin hvalid.origins hletter
    · rw [← horigin]
      exact hvalid.fields letter hletter

/-- The queue of the state is valid. -/
def ValidQueue (dumps : PyValue → Except Exn String) (contents : EntryRef → Event)
    (s : DlqState) : Prop :=
  s.server.Valid dumps contents

/-- Every step keeps the queue valid. -/
theorem valid_step {maxRetries : ℕ} {s s' : DlqState} {a : DlqAction}
    (hvalid : s.server.Valid dumps contents)
    (h : dlqStep dumps dlqStreamName contents maxRetries s a = some s') :
    s'.server.Valid dumps contents := by
  rcases dlqStep_cases h with ⟨_, _, _, _, _, rfl⟩ |
    ⟨i, fate, call, _, answer, server, _, _, hattempt, rfl⟩
  · exact hvalid
  · rcases amortizeAttempt_cases dumps dlqStreamName contents s.server call fate with
      ⟨_, e, hrun⟩ | ⟨_, hall, answer', hrun, _⟩
    · rw [hattempt] at hrun
      cases hrun
      exact hvalid
    · rw [hattempt] at hrun
      cases hrun
      exact (executeAll_spec _ hall hvalid).1

/-- One step keeps the purpose if and only if it meets the condition. -/
theorem nothingLost_step_iff {maxRetries : ℕ} {s s' : DlqState} {a : DlqAction}
    (hvalid : s.server.Valid dumps contents) (hQ : NothingLost dumps contents s)
    (h : dlqStep dumps dlqStreamName contents maxRetries s a = some s') :
    NothingLost dumps contents s' ↔ NumbersGrow dumps contents maxRetries s a := by
  have hvalid' := valid_step hvalid h
  rw [nothingLost_iff hvalid] at hQ
  obtain ⟨hacked, hreturned⟩ := hQ
  rw [nothingLost_iff hvalid']
  rcases dlqStep_cases h with ⟨streamName, groupName, ids, attempts, rfl, rfl⟩ |
    ⟨i, fate, call, remaining, answer, server, rfl, hcall, hattempt, rfl⟩
  · -- without an attempt the new call returns at once
    simp only [NumbersGrow, DlqCall.batch, List.mem_append, List.mem_singleton, or_imp,
      forall_and, forall_eq, List.forall_mem_map]
    cases hattempts : attemptsOr (some attempts) maxRetries with
    | zero =>
        simp only [CallStatus.atHead, true_imp_iff, Nat.lt_irrefl, false_or]
        constructor
        · exact fun hnew => hnew.2.2
        · exact fun hids => ⟨hacked, fun call hcall hstatus id hid =>
            hreturned call hcall hstatus _ (List.mem_map_of_mem hid), hids⟩
    | succ n =>
        refine iff_of_true ⟨hacked, fun call hcall hstatus id hid =>
          hreturned call hcall hstatus _ (List.mem_map_of_mem hid), fun hstatus => ?_⟩
          (.inl (Nat.succ_pos n))
        cases hstatus
  · have hbatch : ∀ status, DlqCall.batch { call with status } = call.batch := fun _ => rfl
    rcases amortizeAttempt_cases dumps dlqStreamName contents s.server call fate with
      ⟨hnot, e, hrun⟩ | ⟨hfate, hall, answer', hrun, hok⟩
    · -- the queue is as before, and the call has not returned
      rw [hattempt] at hrun
      cases hrun
      refine iff_of_true ⟨hacked, fun other hother hstatus => ?_⟩ ?_
      · rcases List.mem_or_eq_of_mem_set hother with hother | rfl
        · exact hreturned other hother hstatus
        · exact absurd hstatus (afterAttempt_error_ne_returned remaining e)
      · intro call' hcall'
        rw [hcall] at hcall'
        cases hcall'
        rcases hnot with hfate | hbuild
        · exact .inl hfate
        · refine .inr (.inl ?_)
          simpa [Serialisable, DlqCall.batch] using hbuild
    · rw [hattempt] at hrun
      cases hrun
      obtain ⟨_, hkept, hadded⟩ := executeAll_spec call.streamName hall hvalid
      have hcondition : NumbersGrow dumps contents maxRetries s (.attempt i fate) ↔
          Accepts s.server call.batch := by
        constructor
        · intro hgrow
          rcases hgrow call hcall with h | h | h
          · exact absurd h hfate
          · obtain ⟨id, hid, hnone⟩ := h
            exact absurd (hall _ (List.mem_map_of_mem hid)) hnone
          · exact h
        · intro haccepts call' hcall'
          rw [hcall] at hcall'
          cases hcall'
          exact .inr (.inr haccepts)
      refine Iff.trans (and_iff_left fun other hother hstatus e he => ?_)
        ((executeAll_acked_iff hall hacked).trans hcondition.symm)
      rcases List.mem_or_eq_of_mem_set hother with hother | rfl
      · exact hkept e (hreturned other hother hstatus e he)
      · -- an attempt that succeeds has added every event of the batch
        rw [hbatch] at he
        refine hadded (hok ?_) e he
        cases answer with
        | ok u => rfl
        | error x => exact absurd hstatus (afterAttempt_error_ne_returned remaining x)

/-- In every state of a run nothing is lost, if and only if every step of the run meets the
condition. -/
theorem always_nothingLost_iff (dumps : PyValue → Except Exn String)
    (dlqStreamName : StreamName) (contents : EntryRef → Event) (maxRetries : ℕ)
    (lastId : StreamId) (actions : List DlqAction) :
    Always (dlqStep dumps dlqStreamName contents maxRetries) (NothingLost dumps contents)
        (DlqState.initial lastId) actions ↔
      EachStep (dlqStep dumps dlqStreamName contents maxRetries)
        (NumbersGrow dumps contents maxRetries) (DlqState.initial lastId) actions := by
  have hvalid : ValidQueue dumps contents (DlqState.initial lastId) :=
    ⟨fun _ h => (by cases h), List.nodup_nil, fun _ h => (by cases h)⟩
  have hstart : NothingLost dumps contents (DlqState.initial lastId) :=
    ⟨fun _ h => (by cases h), fun _ h => (by cases h)⟩
  refine always_iff_eachStep (fun s a s' hI _ h => ?_) (fun s a s' hI hQ h hG => ?_)
    (fun s a s' hI hQ h hG hQ' => ?_) actions (DlqState.initial lastId) hvalid hstart
  · exact valid_step hI h
  · exact (nothingLost_step_iff hI hQ h).mpr hG
  · exact hG ((nothingLost_step_iff hI hQ h).mp hQ')

/-- Two saved posts, of which the later one is dead-lettered first. -/
def savedEvents : EntryRef → Event :=
  fun _ => { name := .postSave, payload := [], sideEffects := {} }

/-- With a serialiser that writes the events, the first event of a millisecond is lost when
the eleventh one of the millisecond before has been dead-lettered.  With orjson, which
refuses every event, an event is lost when no attempt is allowed. -/
theorem dead_letter_lost :
    ¬ Always (dlqStep (fun _ => .ok "") .deadLetterQueue savedEvents 2)
      (NothingLost (fun _ => .ok "") savedEvents) (DlqState.initial ⟨0, 0⟩)
      [.start .posts "POST_SAVE" [⟨1700000000000, 10⟩] 2, .attempt 0 .answered,
        .start .comments "COMMENT_VOTE" [⟨1700000000001, 0⟩] 2, .attempt 1 .answered] ∧
    ¬ Always (dlqStep orjsonDumps .deadLetterQueue savedEvents 0)
      (NothingLost orjsonDumps savedEvents) (DlqState.initial ⟨0, 0⟩)
      [.start .posts "POST_SAVE" [⟨1700000000000, 10⟩] 0] := by
  constructor
  · intro hall
    have hlost := (((hall.2 _ rfl).2 _ rfl).2 _ rfl).2 _ rfl
    obtain ⟨letter, hletter, horigin⟩ :=
      hlost.acked ⟨.comments, ⟨1700000000001, 0⟩⟩ (by decide)
    revert letter
    decide
  · intro hall
    obtain ⟨letter, hfilter, _⟩ := (hall.2 _ rfl).returned
      ⟨.posts, "POST_SAVE", [⟨1700000000000, 10⟩], .returned⟩ (List.mem_singleton_self _) rfl
      ⟨1700000000000, 10⟩ (List.mem_singleton_self _)
    cases hfilter

end ResourceAuxillary
end Tenjin
