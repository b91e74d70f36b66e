import Tenjin.ResourceAuxillary.PostProcessing
import Tenjin.ResourceAuxillary.RetryExecutors

/-!
# Processing with a dead letter queue to fall back on

`dlq_aware_process_events` of `qos.py` over coroutines that work on a state: the processing
is retried, and when it raises the dead-lettering is, with an attempt of its own for a
network error.

* `dlqAwareProcessEvents_eq` — on coroutines that answer in turn this is the function of
  `PostProcessing`.
* `PipelineState` counts the runs of the two pipelines and records which took effect.
* `pipeline_spec` — one executor runs its pipeline at most as often as it is allowed, and
  the pipeline has taken effect exactly when the executor returns.
-/

namespace Tenjin
namespace ResourceAuxillary

open Python Foundation

section
variable {σ : Type}

/-- `dlq_aware_process_events`. -/
def dlqAwareProcessEventsOn (maxRetries : ℕ) (redisCoroutine amortize : σ → Except Exn Unit × σ)
    (attempts : Int) (s : σ) : Except Exn Unit × σ :=
  match executeWithRedisRetriesOn maxRetries redisCoroutine (some attempts) s with
  | (.ok _, s') => (.ok (), s')
  | (.error e, s') =>
      let dlqAttempts := if isNetworkError e then 1 else attempts
      match executeWithRedisRetriesOn maxRetries amortize (some dlqAttempts) s' with
      | (.ok _, s'') => (.ok (), s'')
      | (.error e, s'') => (.error e, s'')

end

/-- A coroutine that answers in turn and adds the commands that it has executed to a log. -/
def logging (answers : ℕ → Except Exn CommandLog) (s : ℕ × CommandLog) :
    Except Exn Unit × (ℕ × CommandLog) :=
  match answers s.1 with
  | .ok log => (.ok (), (s.1 + 1, s.2 ++ log))
  | .error e => (.error e, (s.1 + 1, s.2))

/-- A loop over such a coroutine adds the commands of the answer that it gives. -/
theorem retry_logging (answers : ℕ → Except Exn CommandLog) (remaining attempt : ℕ)
    (exception : Option Exn) (log : CommandLog) :
    ∃ attempt', retry isNetworkError id (logging answers) remaining exception (attempt, log) =
      match redisRetryLoop answers remaining attempt exception with
      | .ok executed => (.ok (executed.map fun _ => ()), (attempt', log ++ executed.getD []))
      | .error e => (.error e, (attempt', log)) := by
  rw [redisRetryLoop_eq_retry]
  induction remaining generalizing attempt exception with
  | zero =>
      refine ⟨attempt, ?_⟩
      cases exception with
      | none => simp [retry]
      | some e => rfl
  | succ n ih =>
      cases hanswer : answers attempt with
      | ok executed =>
          refine ⟨attempt + 1, ?_⟩
          simp [retry, logging, answering, hanswer]
      | error e =>
          by_cases hagain : isNetworkError e = true
          · obtain ⟨attempt', hrest⟩ := ih (attempt + 1) (some e)
            refine ⟨attempt', ?_⟩
            simp only [retry, logging, answering, hanswer, hagain, if_true, id]
            exact hrest
          · refine ⟨attempt + 1, ?_⟩
            simp [retry, logging, answering, hanswer, hagain]

/-- The executor over such a coroutine. -/
theorem executeOn_logging (maxRetries : ℕ) (answers : ℕ → Except Exn CommandLog)
    (attempts attempt : ℕ) (log : CommandLog) :
    ∃ attempt', executeWithRedisRetriesOn maxRetries (logging answers) (some (attempts : Int))
        (attempt, log) =
      match redisRetryLoop answers (attemptsOr (some attempts) maxRetries) attempt none with
      | .ok executed => (.ok (executed.map fun _ => ()), (attempt', log ++ executed.getD []))
      | .error e => (.error e, (attempt', log)) := by
  have hcount : attemptCount (some (attempts : Int)) maxRetries =
      attemptsOr (some attempts) maxRetries := attemptCount_natCast (some attempts) maxRetries
  rw [executeWithRedisRetriesOn, hcount]
  exact retry_logging answers _ attempt none log

/-- A coroutine that always answers the same does not depend on the number of the attempt. -/
theorem redisRetryLoop_const_attempt {α : Type} (answer : Except Exn α)
    (remaining attempt attempt' : ℕ) :
    redisRetryLoop (fun _ => answer) remaining attempt none =
      redisRetryLoop (fun _ => answer) remaining attempt' none := by
  cases remaining with
  | zero => rfl
  | succ n => rw [redisRetryLoop_const, redisRetryLoop_const]

/-- On coroutines that answer in turn, it is the function over answers. -/
theorem dlqAwareProcessEvents_eq (dumps : PyValue → Except Exn String) (maxRetries : ℕ)
    (events : List StreamedEvent) (redisCoroutine : ℕ → Except Exn CommandLog) (attempts : ℕ)
    (eventStreamName : StreamName) (groupName : String) (dlqStreamName : StreamName) :
    dlqAwareProcessEvents dumps maxRetries events redisCoroutine attempts eventStreamName
        groupName dlqStreamName =
      match dlqAwareProcessEventsOn maxRetries (logging redisCoroutine)
        (logging fun _ => amortizeEvent dumps eventStreamName groupName dlqStreamName events)
        attempts (1, []) with
      | (.ok _, s) => .ok s.2
      | (.error e, _) => .error e := by
  obtain ⟨attempt, hprocessing⟩ := executeOn_logging maxRetries redisCoroutine attempts 1 []
  unfold dlqAwareProcessEvents dlqAwareProcessEventsOn executeWithRedisRetries
  rw [hprocessing]
  cases redisRetryLoop redisCoroutine (attemptsOr (some attempts) maxRetries) 1 none with
  | ok executed => simp
  | error e =>
      have hnetwork : isNetworkError e = true ↔ e = .redisError true := by
        cases e <;> simp [isNetworkError]
      have hdlqAttempts : (if isNetworkError e then (1 : Int) else (attempts : Int)) =
          ((if e = .redisError true then 1 else attempts : ℕ) : Int) := by
        simp only [hnetwork]
        split <;> rfl
      dsimp only
      rw [hdlqAttempts]
      obtain ⟨attempt', hdead⟩ := executeOn_logging maxRetries
        (fun _ => amortizeEvent dumps eventStreamName groupName dlqStreamName events)
        (if e = .redisError true then 1 else attempts) attempt []
      rw [hdead, redisRetryLoop_const_attempt _ _ attempt 1]
      cases redisRetryLoop (fun _ =>
          amortizeEvent dumps eventStreamName groupName dlqStreamName events)
          (attemptsOr (some (if e = .redisError true then 1 else attempts)) maxRetries) 1 none with
      | ok executed => simp [Except.map]
      | error e' => rfl

/-- The two transactions of the function. -/
inductive Pipeline
  | processing
  | deadLettering
  deriving DecidableEq

/-- How often each of them has been run, and which have taken effect, in order. -/
structure PipelineState where
  runs : Pipeline → ℕ
  effects : List Pipeline

/-- Nothing has been run yet. -/
def PipelineState.initial : PipelineState := ⟨fun _ => 0, []⟩

/-- All runs of both. -/
def PipelineState.totalRuns (s : PipelineState) : ℕ :=
  s.runs .processing + s.runs .deadLettering

/-- One run of a pipeline.  A failed one has no effect. -/
def runPipeline (outcomes : Pipeline → ℕ → Except Exn Unit) (p : Pipeline) (s : PipelineState) :
    Except Exn Unit × PipelineState :=
  let runs := Function.update s.runs p (s.runs p + 1)
  match outcomes p (s.runs p) with
  | .ok _ => (.ok (), ⟨runs, s.effects ++ [p]⟩)
  | .error e => (.error e, ⟨runs, s.effects⟩)

/-- A run of the pipeline succeeds within these attempts, after network errors only. -/
def GetsThrough (outcomes : Pipeline → ℕ → Except Exn Unit) (p : Pipeline) (attempts : Int) :
    Prop :=
  ∃ k : ℕ, (k : Int) < attempts ∧ outcomes p k = .ok () ∧
    ∀ j < k, ∃ e, outcomes p j = .error e ∧ isNetworkError e = true

/-- Every attempt of the processing ends with a network error. -/
def NetworkDown (outcomes : Pipeline → ℕ → Except Exn Unit) (attempts : Int) : Prop :=
  ∀ k : ℕ, (k : Int) < attempts → ∃ e, outcomes .processing k = .error e ∧ isNetworkError e = true

/-- What the function owes to its caller, when it is allowed this number of attempts.  While
the network is down, dead-lettering has one attempt. -/
structure ExactlyOneEffect (outcomes : Pipeline → ℕ → Except Exn Unit) (attempts : Int)
    (run : Except Exn Unit × PipelineState) : Prop where
  returned : run.1 = .ok () → ∃ p, run.2.effects = [p]
  raised : ∀ e, run.1 = .error e → run.2.effects = []
  neverProcessedAfter : ∀ i j : ℕ, run.2.effects[i]? = some Pipeline.deadLettering →
    run.2.effects[j]? = some Pipeline.processing → j < i
  bounded : (run.2.totalRuns : Int) ≤ 2 * attempts
  processes : GetsThrough outcomes .processing attempts →
    run.1 = .ok () ∧ run.2.effects = [.processing]
  deadLetters : ¬ GetsThrough outcomes .processing attempts →
    GetsThrough outcomes .deadLettering 1 ∨
      ¬ NetworkDown outcomes attempts ∧ GetsThrough outcomes .deadLettering attempts →
    run.1 = .ok () ∧ run.2.effects = [.deadLettering]

section
variable {outcomes : Pipeline → ℕ → Except Exn Unit} {p : Pipeline}

theorem GetsThrough.mono {attempts attempts' : Int} (h : GetsThrough outcomes p attempts)
    (hle : attempts ≤ attempts') : GetsThrough outcomes p attempts' := by
  obtain ⟨k, hk, hok, hfailed⟩ := h
  exact ⟨k, Int.lt_of_lt_of_le hk hle, hok, hfailed⟩

/-- A pipeline whose last attempt has failed does not get through. -/
theorem not_getsThrough_of_error {attempts : Int} {k : ℕ} {e : Exn}
    (hfailed : ∀ j < k, ∃ e, outcomes p j = .error e ∧ isNetworkError e = true)
    (herror : outcomes p k = .error e)
    (hlast : isNetworkError e = false ∨ (k : Int) + 1 = attempts) :
    ¬ GetsThrough outcomes p attempts := by
  rintro ⟨k', hk', hok, hbefore⟩
  rcases Nat.lt_trichotomy k k' with hlt | rfl | hlt
  · -- then the last attempt is one of those before the success
    obtain ⟨e', he', hnetwork⟩ := hbefore k hlt
    rw [herror] at he'
    cases he'
    rcases hlast with hlast | hlast
    · rw [hnetwork] at hlast
      cases hlast
    · omega
  · rw [herror] at hok
    cases hok
  · obtain ⟨e', he', _⟩ := hfailed k' hlt
    rw [hok] at he'
    cases he'

/-- Failed runs only count, and they are network errors. -/
theorem failedAttempts_runPipeline {k : ℕ} {s t : PipelineState}
    (h : FailedAttempts isNetworkError id (runPipeline outcomes p) k s t) :
    t = ⟨Function.update s.runs p (s.runs p + k), s.effects⟩ ∧
      ∀ j < k, ∃ e, outcomes p (s.runs p + j) = .error e ∧ isNetworkError e = true := by
  induction h with
  | zero s =>
      refine ⟨?_, fun j hj => absurd hj (Nat.not_lt_zero j)⟩
      show s = ⟨Function.update s.runs p (s.runs p), s.effects⟩
      rw [Function.update_eq_self]
  | @succ k s s' t e hrun hnetwork _ ih =>
      simp only [runPipeline] at hrun
      split at hrun
      · cases hrun
      · rename_i e' hfirst
        cases hrun
        obtain ⟨rfl, hlater⟩ := ih
        simp only [id, Function.update_self] at hlater
        refine ⟨?_, fun j hj => ?_⟩
        · simp only [id, Function.update_self, Function.update_idem, Nat.add_assoc,
            Nat.add_comm 1]
        · cases j with
          | zero => exact ⟨e, hfirst, hnetwork⟩
          | succ j =>
              rw [← Nat.add_assoc, Nat.add_right_comm]
              exact hlater j (Nat.lt_of_succ_lt_succ hj)

variable (outcomes) in
/-- An executor that is allowed an attempt runs its pipeline at least once and at most as
often as it is allowed, behind network errors only, and returns exactly when the pipeline has
taken effect. -/
theorem pipeline_spec (maxRetries : ℕ) {attempts : Int} (hpos : 1 ≤ attempts) (p : Pipeline)
    (s : PipelineState) :
    ∃ k : ℕ, (k : Int) < attempts ∧
      (∀ j < k, ∃ e, outcomes p (s.runs p + j) = .error e ∧ isNetworkError e = true) ∧
      ((outcomes p (s.runs p + k) = .ok () ∧
        executeWithRedisRetriesOn maxRetries (runPipeline outcomes p) (some attempts) s =
          (.ok (some ()),
            ⟨Function.update s.runs p (s.runs p + (k + 1)), s.effects ++ [p]⟩)) ∨
        ∃ e, outcomes p (s.runs p + k) = .error e ∧
          (isNetworkError e = false ∨ (k : Int) + 1 = attempts) ∧
          executeWithRedisRetriesOn maxRetries (runPipeline outcomes p) (some attempts) s =
            (.error e, ⟨Function.update s.runs p (s.runs p + (k + 1)), s.effects⟩)) := by
  obtain ⟨n, hn⟩ : ∃ n, attemptCount (some attempts) maxRetries = n + 1 := by
    refine ⟨attempts.toNat - 1, ?_⟩
    show (if attempts = 0 then maxRetries else attempts.toNat) = _
    rw [if_neg (by omega)]
    omega
  have hbound : ((n + 1 : ℕ) : Int) = attempts := by
    rw [← hn]
    show ((if attempts = 0 then maxRetries else attempts.toNat : ℕ) : Int) = _
    rw [if_neg (by omega)]
    omega
  unfold executeWithRedisRetriesOn
  rw [hn]
  obtain ⟨k, hk, t, hfailed, hend⟩ := retry_cases isNetworkError id
    (runPipeline outcomes p) n none s
  obtain ⟨rfl, hnetwork⟩ := failedAttempts_runPipeline hfailed
  refine ⟨k, by omega, hnetwork, ?_⟩
  rcases hend with ⟨a, t', hrun, hretry⟩ | ⟨e, t', hrun, hlast, hretry⟩
  · simp only [runPipeline, Function.update_self] at hrun
    split at hrun
    · rename_i hok
      cases hrun
      refine .inl ⟨hok, ?_⟩
      rw [hretry]
      simp only [Function.update_idem, Nat.add_assoc]
    · cases hrun
  · simp only [runPipeline, Function.update_self] at hrun
    split at hrun
    · cases hrun
    · rename_i herror
      cases hrun
      refine .inr ⟨e, herror, hlast.imp_right fun hk => by omega, ?_⟩
      rw [hretry]
      simp only [id, Function.update_idem, Nat.add_assoc]

section
variable {attempts : Int} {runs : Pipeline → ℕ}

/-- Network errors up to the last attempt mean that the network is down. -/
theorem networkDown_of_lastAttempt {k : ℕ} {e : Exn}
    (hnetwork : ∀ j < k, ∃ e, outcomes .processing j = .error e ∧ isNetworkError e = true)
    (herror : outcomes .processing k = .error e) (hkind : isNetworkError e = true)
    (hlast : (k : Int) + 1 = attempts) : NetworkDown outcomes attempts := by
  intro j hj
  rcases Nat.lt_or_ge j k with hlt | hge
  · exact hnetwork j hlt
  · obtain rfl : j = k := by omega
    exact ⟨e, herror, hkind⟩

/-- The attempts that the dead-lettering has after this error are enough when its condition
holds. -/
theorem getsThrough_deadLettering {k : ℕ} {e : Exn} (hpos : 1 ≤ attempts)
    (hnetwork : ∀ j < k, ∃ e, outcomes .processing j = .error e ∧ isNetworkError e = true)
    (herror : outcomes .processing k = .error e)
    (hlast : isNetworkError e = false ∨ (k : Int) + 1 = attempts)
    (h : GetsThrough outcomes .deadLettering 1 ∨
      ¬ NetworkDown outcomes attempts ∧ GetsThrough outcomes .deadLettering attempts) :
    GetsThrough outcomes .deadLettering (if isNetworkError e then 1 else attempts) := by
  cases hkind : isNetworkError e with
  | false =>
      rw [if_neg Bool.false_ne_true]
      rcases h with hone | ⟨_, hall⟩
      · exact hone.mono hpos
      · exact hall
  | true =>
      rw [if_pos rfl]
      refine h.resolve_right fun hup => hup.1 ?_
      exact networkDown_of_lastAttempt hnetwork herror hkind
        (hlast.resolve_left (by simp [hkind]))

/-- The processing has taken effect. -/
theorem exactlyOneEffect_of_processed (hthrough : GetsThrough outcomes .processing attempts)
    (hruns : ((⟨runs, [.processing]⟩ : PipelineState).totalRuns : Int) ≤ 2 * attempts) :
    ExactlyOneEffect outcomes attempts (.ok (), ⟨runs, [.processing]⟩) where
  returned := fun _ => ⟨.processing, rfl⟩
  raised := by
    intro e h
    cases h
  neverProcessedAfter := by
    intro i j hi _
    cases i with
    | zero => cases hi
    | succ i => cases hi
  bounded := hruns
  processes := fun _ => ⟨rfl, rfl⟩
  deadLetters := fun hnot => absurd hthrough hnot

/-- The dead-lettering has taken effect instead. -/
theorem exactlyOneEffect_of_deadLettered
    (hnot : ¬ GetsThrough outcomes .processing attempts)
    (hruns : ((⟨runs, [.deadLettering]⟩ : PipelineState).totalRuns : Int) ≤ 2 * attempts) :
    ExactlyOneEffect outcomes attempts (.ok (), ⟨runs, [.deadLettering]⟩) where
  returned := fun _ => ⟨.deadLettering, rfl⟩
  raised := by
    intro e h
    cases h
  neverProcessedAfter := by
    intro i j _ hj
    cases j with
    | zero => cases hj
    | succ j => cases hj
  bounded := hruns
  processes := fun h => absurd h hnot
  deadLetters := fun _ _ => ⟨rfl, rfl⟩

/-- Neither has. -/
theorem exactlyOneEffect_of_failed {e : Exn}
    (hnot : ¬ GetsThrough outcomes .processing attempts)
    (hdead : ¬ (GetsThrough outcomes .deadLettering 1 ∨
      ¬ NetworkDown outcomes attempts ∧ GetsThrough outcomes .deadLettering attempts))
    (hruns : ((⟨runs, []⟩ : PipelineState).totalRuns : Int) ≤ 2 * attempts) :
    ExactlyOneEffect outcomes attempts (.error e, ⟨runs, []⟩) where
  returned := by
    intro h
    cases h
  raised := fun _ _ => rfl
  neverProcessedAfter := by
    intro i j hi _
    cases hi
  bounded := hruns
  processes := fun h => absurd h hnot
  deadLetters := fun _ h => absurd h hdead

end

/-- With an attempt allowed, exactly one of processing and dead-lettering takes effect when
the function returns, and neither when it raises; and it returns when the processing gets
through, or else the dead-lettering. -/
theorem dlqAware_exactlyOneEffect (maxRetries : ℕ) (attempts : Int) (hpos : 1 ≤ attempts)
    (outcomes : Pipeline → ℕ → Except Exn Unit) :
    ExactlyOneEffect outcomes attempts (dlqAwareProcessEventsOn maxRetries
      (runPipeline outcomes .processing) (runPipeline outcomes .deadLettering) attempts
      PipelineState.initial) := by
  obtain ⟨k, hk, hnetwork, hprocessing⟩ :=
    pipeline_spec outcomes maxRetries hpos .processing PipelineState.initial
  simp only [PipelineState.initial, Nat.zero_add] at hnetwork hprocessing
  unfold dlqAwareProcessEventsOn
  rcases hprocessing with ⟨hok, hprocessed⟩ | ⟨e, herror, hlast, hfailed⟩
  · rw [PipelineState.initial, hprocessed]
    refine exactlyOneEffect_of_processed ⟨k, hk, hok, hnetwork⟩ ?_
    simp [PipelineState.totalRuns]
    omega
  · have hnot : ¬ GetsThrough outcomes .processing attempts :=
      not_getsThrough_of_error hnetwork herror hlast
    rw [PipelineState.initial, hfailed]
    have hdlqPos : (1 : Int) ≤ if isNetworkError e then 1 else attempts := by
      split <;> omega
    have hdlqLe : (if isNetworkError e then 1 else attempts) ≤ attempts := by
      split <;> omega
    obtain ⟨l, hl, hlater, hdead⟩ := pipeline_spec outcomes maxRetries hdlqPos .deadLettering
      ⟨Function.update (fun _ => 0) .processing (k + 1), []⟩
    have hnone : Function.update (fun _ => 0) Pipeline.processing (k + 1)
        Pipeline.deadLettering = 0 := rfl
    simp only [hnone, Nat.zero_add] at hlater hdead
    have htotal : ∀ effects, (PipelineState.totalRuns ⟨Function.update
        (Function.update (fun _ => 0) .processing (k + 1)) .deadLettering (l + 1), effects⟩ :
          Int) ≤ 2 * attempts := by
      intro effects
      simp [PipelineState.totalRuns, Function.update]
      omega
    dsimp only
    rcases hdead with ⟨_, hdead⟩ | ⟨e', herror', hlast', hdead⟩
    · rw [hdead]
      exact exactlyOneEffect_of_deadLettered hnot (htotal _)
    · rw [hdead]
      refine exactlyOneEffect_of_failed hnot (fun hallowed => ?_) (htotal _)
      exact not_getsThrough_of_error hlater herror' hlast'
        (getsThrough_deadLettering hpos hnetwork herror hlast hallowed)

/-- The processing fails once for good, and the first dead-lettering gets through. -/
def fallbackOutcomes (p : Pipeline) (_ : ℕ) : Except Exn Unit :=
  if p = .processing then .error .typeError else .ok ()

/-- Then the dead-lettering takes effect. -/
theorem dlqAware_exactlyOneEffect_fallback :
    (dlqAwareProcessEventsOn 3 (runPipeline fallbackOutcomes .processing)
        (runPipeline fallbackOutcomes .deadLettering) 2 PipelineState.initial).1 = .ok () ∧
      (dlqAwareProcessEventsOn 3 (runPipeline fallbackOutcomes .processing)
        (runPipeline fallbackOutcomes .deadLettering) 2 PipelineState.initial).2.effects =
          [.deadLettering] := by
  have heffect := dlqAware_exactlyOneEffect 3 2 (by decide) fallbackOutcomes
  refine heffect.deadLetters ?_ (.inl ⟨0, by decide, rfl, fun j hj => absurd hj (by omega)⟩)
  rintro ⟨k, _, hok, _⟩
  cases hok

end

end ResourceAuxillary
end Tenjin
