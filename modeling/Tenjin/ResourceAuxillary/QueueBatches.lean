import Mathlib.Algebra.Order.Field.Rat
import Tenjin.Foundation.Loop
import Tenjin.ResourceAuxillary.Events

/-!
# Collecting a batch from the internal queue

The loop of `populate_events_batch_from_queue` (`pre_processing.py`), for any initial batch,
any arrivals and timeouts of the queue and any clock.

* `populateBody` is one round of the loop.  Its last argument says what stands behind the two
  branches that go on: nothing, as in the repository, or a return.
* `Ready` is the condition on which the call is to return, and `CompleteBatches` the purpose.
* `populate_complete_iff` — as the repository stands the purpose is met exactly when no round
  finds a batch that is ready: the loop is endless (`populate_endless`), and from then on it
  takes nothing off the queue (`ready_spins`).
* `populate_returning_complete` — with the return it is met always.
-/

namespace Tenjin
namespace ResourceAuxillary

open Foundation

/-- The policy of the consumer of an internal queue, as far as it decides when to return. -/
structure QueueConsumerPolicy where
  baseWaitingTime : ℕ
  batchSizeQuota : ℕ
  quota_pos : 1 ≤ batchSizeQuota

/-- What each `queue.get()` comes to, a tuple of events or a timeout, and what each call of
`time.monotonic()` returns. -/
structure QueueEnvironment where
  queue : ℕ → Option (List StreamedEvent)
  monotonic : ℕ → ℚ

/-- The variables of the loop, and how often the queue and the clock were read.
`firstEventAt` records for the purpose when the first event came into the batch. -/
structure BatchState where
  batch : List StreamedEvent
  referenceTime : ℚ
  gets : ℕ
  readings : ℕ
  firstEventAt : ℚ

/-- The state on entry.  The reference time stands for the time of what is in the batch. -/
def BatchState.entry (batch : List StreamedEvent) (referenceTime : ℚ) : BatchState :=
  ⟨batch, referenceTime, 0, 0, referenceTime⟩

section
variable (policy : QueueConsumerPolicy) (env : QueueEnvironment)

/-- How often the clock was read behind the first condition: it is read if the quota is not
reached. -/
def BatchState.readingsThen (st : BatchState) : ℕ :=
  if policy.batchSizeQuota ≤ st.batch.length then st.readings else st.readings + 1

/-- One round of the loop. -/
def populateBody (returns : Bool) (st : BatchState) : BatchState ⊕ BatchState :=
  let readings := st.readingsThen policy
  if ¬ (policy.batchSizeQuota ≤ st.batch.length ∨
      policy.baseWaitingTime < env.monotonic st.readings - st.referenceTime) then
    match env.queue st.gets with
    | some newEntries =>
        if st.batch = [] then
          let now := env.monotonic readings
          .inl ⟨newEntries, now, st.gets + 1, readings + 1,
            if newEntries = [] then st.firstEventAt else now⟩
        else
          .inl { st with
            batch := st.batch ++ newEntries
            gets := st.gets + 1
            readings := readings }
    | none => .inl { st with gets := st.gets + 1, readings := readings }
  else if st.batch = [] then
    .inl { st with referenceTime := env.monotonic readings, readings := readings + 1 }
  else if returns then .inr { st with readings := readings }
  else .inl { st with readings := readings }

/-- The batch is not empty, and it has reached the quota or its first event has waited for
more than the base waiting time. -/
def BatchState.Ready (st : BatchState) : Prop :=
  st.batch ≠ [] ∧
    (policy.batchSizeQuota ≤ st.batch.length ∨
      policy.baseWaitingTime < env.monotonic st.readings - st.firstEventAt)

/-- All tuples that the first `gets` reads have taken from the queue, in order. -/
def takenTuples (gets : ℕ) : List StreamedEvent :=
  ((List.range gets).filterMap env.queue).flatten

/-- The call returns in the round that finds the batch ready and in no other one, with the
content on entry followed by all that was taken from the queue. -/
structure CompleteBatches (entry : List StreamedEvent) (run : ℕ → BatchState ⊕ BatchState) :
    Prop where
  promptly : ∀ n st, run n = .inl st → st.Ready policy env → ∃ st', run (n + 1) = .inr st'
  onlyReady : ∀ n st st', run n = .inl st → run (n + 1) = .inr st' → st.Ready policy env
  content : ∀ n st, run n = .inr st → st.batch = entry ++ takenTuples env st.gets
  nonempty : ∀ n st, run n = .inr st → st.batch ≠ []

/-- A non-empty batch is measured by its first event, and the batch is its content on entry
followed by what was taken. -/
structure BatchInv (entry : List StreamedEvent) (st : BatchState) : Prop where
  reference : st.batch ≠ [] → st.referenceTime = st.firstEventAt
  content : st.batch = entry ++ takenTuples env st.gets

end

section
variable {policy : QueueConsumerPolicy} {env : QueueEnvironment}

theorem takenTuples_succ_some {gets : ℕ} {entries : List StreamedEvent}
    (h : env.queue gets = some entries) :
    takenTuples env (gets + 1) = takenTuples env gets ++ entries := by
  simp [takenTuples, List.range_succ, h]

theorem takenTuples_succ_none {gets : ℕ} (h : env.queue gets = none) :
    takenTuples env (gets + 1) = takenTuples env gets := by
  simp [takenTuples, List.range_succ, h]

theorem BatchInv.entry (batch : List StreamedEvent) (referenceTime : ℚ) :
    BatchInv env batch (BatchState.entry batch referenceTime) where
  reference _ := rfl
  content := by simp [BatchState.entry, takenTuples]

/-- A round that finds the batch ready comes to what stands behind the two branches. -/
theorem populateBody_ready {returns : Bool} {st : BatchState}
    (href : st.batch ≠ [] → st.referenceTime = st.firstEventAt) (hready : st.Ready policy env) :
    populateBody policy env returns st =
      if returns then .inr { st with readings := st.readingsThen policy }
      else .inl { st with readings := st.readingsThen policy } := by
  obtain ⟨hbatch, hcomplete⟩ := hready
  rw [← href hbatch] at hcomplete
  unfold populateBody
  dsimp only
  rw [if_neg (not_not.mpr hcomplete), if_neg hbatch]

/-- Only a round that finds the batch ready can return. -/
theorem populateBody_inr {returns : Bool} {st st' : BatchState}
    (href : st.batch ≠ [] → st.referenceTime = st.firstEventAt)
    (h : populateBody policy env returns st = .inr st') :
    returns = true ∧ st.Ready policy env ∧ st'.batch = st.batch ∧ st'.gets = st.gets := by
  unfold populateBody at h
  dsimp only at h
  split at h
  · split at h
    · split at h <;> cases h
    · cases h
  · rename_i hcomplete
    split at h
    · cases h
    · rename_i hbatch
      split at h
      · rename_i hreturns
        cases h
        refine ⟨hreturns, ⟨hbatch, ?_⟩, rfl, rfl⟩
        rw [← href hbatch]
        exact not_not.mp hcomplete
      · cases h

/-- A round that goes on keeps the invariant. -/
theorem BatchInv.body {returns : Bool} {entry : List StreamedEvent} {st st' : BatchState}
    (hst : BatchInv env entry st) (h : populateBody policy env returns st = .inl st') :
    BatchInv env entry st' := by
  unfold populateBody at h
  dsimp only at h
  split at h
  · split at h
    · rename_i newEntries hqueue
      split at h
      · -- the first event of a batch sets the reference time
        rename_i hempty
        cases h
        constructor
        · intro hne
          show _ = if newEntries = [] then _ else _
          rw [if_neg hne]
        · show newEntries = _
          rw [takenTuples_succ_some hqueue, ← List.append_assoc, ← hst.content, hempty,
            List.nil_append]
      · rename_i hbatch
        cases h
        constructor
        · exact fun _ => hst.reference hbatch
        · show st.batch ++ newEntries = _
          rw [takenTuples_succ_some hqueue, ← List.append_assoc, ← hst.content]
    · rename_i hqueue
      cases h
      constructor
      · exact hst.reference
      · show st.batch = _
        rw [takenTuples_succ_none hqueue]
        exact hst.content
  · split at h
    · rename_i hempty
      cases h
      exact ⟨fun hne => absurd hempty hne, hst.content⟩
    · split at h
      · cases h
      · cases h
        exact ⟨hst.reference, hst.content⟩

end

section
variable (policy : QueueConsumerPolicy) (env : QueueEnvironment) (entry : List StreamedEvent)
  (referenceTime : ℚ)

/-- `populate_events_batch_from_queue`, after a number of rounds. -/
def populateEventsBatchFromQueue (returns : Bool) (n : ℕ) : BatchState ⊕ BatchState :=
  rounds (populateBody policy env returns) n (BatchState.entry entry referenceTime)

/-- The invariant holds at the head of the loop. -/
theorem batchInv_rounds {returns : Bool} {n : ℕ} {st : BatchState}
    (h : populateEventsBatchFromQueue policy env entry referenceTime returns n = .inl st) :
    BatchInv env entry st :=
  rounds_preserves (fun _ _ hst hbody => hst.body hbody) (BatchInv.entry entry referenceTime) h

/-- As the repository stands, the call never returns. -/
theorem populate_endless (n : ℕ) :
    ∃ st, populateEventsBatchFromQueue policy env entry referenceTime false n = .inl st := by
  apply rounds_endless
  intro st st' h
  unfold populateBody at h
  dsimp only at h
  split at h
  · split at h
    · split at h <;> cases h
    · cases h
  · split at h <;> cases h

/-- From the round on that finds the batch ready, the loop goes round without waiting for
anything, and takes nothing off the queue any more. -/
theorem ready_spins (hclock : Monotone env.monotonic) {st : BatchState}
    (href : st.batch ≠ [] → st.referenceTime = st.firstEventAt) (hready : st.Ready policy env)
    (n : ℕ) :
    ∃ st', rounds (populateBody policy env false) n st = .inl st' ∧ st'.Ready policy env ∧
      st'.batch = st.batch ∧ st'.gets = st.gets ∧ st'.referenceTime = st.referenceTime ∧
      st'.firstEventAt = st.firstEventAt := by
  induction n with
  | zero => exact ⟨st, rfl, hready, rfl, rfl, rfl, rfl⟩
  | succ n ih =>
      obtain ⟨st', hround, hready', hbatch, hgets, hsame, hfirst⟩ := ih
      have href' : st'.batch ≠ [] → st'.referenceTime = st'.firstEventAt := by
        rw [hbatch, hsame, hfirst]
        exact href
      refine ⟨{ st' with readings := st'.readingsThen policy }, ?_, ⟨hready'.1, ?_⟩, hbatch,
        hgets, hsame, hfirst⟩
      · rw [rounds_succ hround]
        exact populateBody_ready href' hready'
      · have hlater : st'.readings ≤ st'.readingsThen policy := by
          unfold BatchState.readingsThen
          split <;> omega
        rcases hready'.2 with hquota | hwaited
        · exact .inl hquota
        · exact .inr (hwaited.trans_le (sub_le_sub_right (hclock hlater) _))

/-- For every batch on entry, all arrivals and timeouts, every clock and policy: the call
returns complete batches if and only if no round finds the batch ready. -/
theorem populate_complete_iff :
    CompleteBatches policy env entry
        (populateEventsBatchFromQueue policy env entry referenceTime false) ↔
      ∀ n st, populateEventsBatchFromQueue policy env entry referenceTime false n = .inl st →
        ¬ st.Ready policy env := by
  have hendless : ∀ n st',
      populateEventsBatchFromQueue policy env entry referenceTime false n ≠ .inr st' := by
    intro n st' h
    obtain ⟨st, hst⟩ := populate_endless policy env entry referenceTime n
    rw [hst] at h
    cases h
  constructor
  · intro hcomplete n st hround hready
    obtain ⟨st', hreturns⟩ := hcomplete.promptly n st hround hready
    exact hendless (n + 1) st' hreturns
  · intro hnever
    constructor
    · intro n st hround hready
      exact absurd hready (hnever n st hround)
    · intro n st st' _ hreturns
      exact absurd hreturns (hendless (n + 1) st')
    · intro n st hreturns
      exact absurd hreturns (hendless n st)
    · intro n st hreturns
      exact absurd hreturns (hendless n st)

/-- With a return behind the two branches, it always does. -/
theorem populate_returning_complete :
    CompleteBatches policy env entry
      (populateEventsBatchFromQueue policy env entry referenceTime true) := by
  have hreturned : ∀ n st,
      populateEventsBatchFromQueue policy env entry referenceTime true n = .inr st →
      st.batch = entry ++ takenTuples env st.gets ∧ st.batch ≠ [] := by
    intro n st hreturns
    obtain ⟨m, _, st', hround, hlast⟩ := rounds_result hreturns
    have hinv := batchInv_rounds policy env entry referenceTime hround
    obtain ⟨_, hready, hbatch, hgets⟩ := populateBody_inr hinv.reference hlast
    rw [hbatch, hgets]
    exact ⟨hinv.content, hready.1⟩
  constructor
  · intro n st hround hready
    have hinv := batchInv_rounds policy env entry referenceTime hround
    refine ⟨_, (rounds_succ hround).trans (populateBody_ready hinv.reference hready)⟩
  · intro n st st' hround hreturns
    have hinv := batchInv_rounds policy env entry referenceTime hround
    have hlast : populateBody policy env true st = .inr st' :=
      (rounds_succ hround).symm.trans hreturns
    exact (populateBody_inr hinv.reference hlast).2.1
  · exact fun n st hreturns => (hreturned n st hreturns).1
  · exact fun n st hreturns => (hreturned n st hreturns).2

/-- Where nothing arrives, no round finds the batch ready. -/
theorem never_ready_of_no_arrivals (returns : Bool)
    (hnothing : ∀ n entries, env.queue n = some entries → entries = []) (n : ℕ)
    (st : BatchState)
    (h : populateEventsBatchFromQueue policy env [] referenceTime returns n = .inl st) :
    ¬ st.Ready policy env := by
  intro hready
  apply hready.1
  rw [(batchInv_rounds policy env [] referenceTime h).content, List.nil_append, takenTuples,
    List.flatten_eq_nil_iff]
  intro entries hentries
  obtain ⟨m, _, hm⟩ := List.mem_filterMap.mp hentries
  exact hnothing m entries hm

end

/-- A batch that is full on entry is never returned. -/
theorem fullBatch_not_returned :
    ¬ CompleteBatches ⟨0, 1, Nat.le_refl 1⟩ ⟨fun _ => none, fun _ => 0⟩
      [{ name := .postSave, payload := [], sideEffects := {}, eventId := 1 }]
      (populateEventsBatchFromQueue ⟨0, 1, Nat.le_refl 1⟩ ⟨fun _ => none, fun _ => 0⟩
        [{ name := .postSave, payload := [], sideEffects := {}, eventId := 1 }] 0 false) := by
  intro hcomplete
  obtain ⟨st', hreturns⟩ := hcomplete.promptly 0 _ rfl ⟨by simp [BatchState.entry],
    .inl (Nat.le_refl 1)⟩
  obtain ⟨st, hst⟩ := populate_endless ⟨0, 1, Nat.le_refl 1⟩ ⟨fun _ => none, fun _ => 0⟩
    [{ name := .postSave, payload := [], sideEffects := {}, eventId := 1 }] 0 1
  rw [hst] at hreturns
  cases hreturns

end ResourceAuxillary
end Tenjin
