import Tenjin.Foundation.GuardedRun
import Tenjin.Python.Runtime

/-!
# Shutting down the workers of a process

`tasks_wrapper` of `bootup.py`, in any interleaving with its workers.  The workers finish one
after the other, with any outcome, and any number of them may finish before the wrapper is
resumed from a wait.

* `ShutdownState` are the workers that have finished, the status and what the wrapper waits
  for; `shutdownStep` is one step of a worker or of the wrapper.
* `ShutsDownCleanly` is the purpose: when a worker has failed, the wrapper ends with the
  exception of a failed worker, after setting the status and after all workers have ended.
* `ShutdownInv` is what holds in every run.
* `shutsDownCleanly_iff` — the purpose is met exactly if the wrapper finds one finished
  worker behind the first wait, and another one that is not finished.
* `wrapper_progress` — once all workers have finished, the wrapper comes to its end.
-/

namespace Tenjin
namespace DatabaseWorkers

open Python Foundation

/-- How the task of a worker ends. -/
inductive TaskOutcome
  | returned
  | failed (exn : Exn)
  | cancelled
  deriving DecidableEq

/-- How `tasks_wrapper` ends; it does not return. -/
inductive WrapperEnd
  /-- `raise exception`, with the exception of this worker. -/
  | reraised (worker : String)
  | assertionError
  | cancelledError
  | raised (exn : Exn)
  deriving DecidableEq

/-- What the wrapper waits for; `exception` is the worker whose exception it has saved, if
there was one. -/
inductive WrapperPhase
  | firstWait
  | secondWait (exception : Option String)
  | gathering (exception : Option String) (cancelled : List String)
  | ended (result : WrapperEnd)

/-- The workers that have finished, in this order, the status of the controller, and the
wrapper.  There is at least one worker. -/
structure ShutdownState where
  finished : List (String × TaskOutcome)
  statusOk : Bool
  phase : WrapperPhase

/-- What may happen. -/
inductive ShutdownLabel
  | finish (worker : String) (outcome : TaskOutcome)
  /-- The wrapper is resumed from its first wait. -/
  | firstWake
  /-- It is resumed from its second wait, or the time for that is up. -/
  | secondWake
  /-- It is resumed from `gather`. -/
  | gathered

/-- Before any worker has finished. -/
def ShutdownState.start : ShutdownState := ⟨[], true, .firstWait⟩

/-- A worker has finished. -/
def ShutdownState.Finished (s : ShutdownState) (worker : String) : Prop :=
  worker ∈ s.finished.map Prod.fst

instance (s : ShutdownState) (worker : String) : Decidable (s.Finished worker) :=
  inferInstanceAs (Decidable (worker ∈ s.finished.map Prod.fst))

/-- An outcome that `FIRST_EXCEPTION` waits for. -/
def TaskOutcome.isFailure : TaskOutcome → Bool
  | .failed _ => true
  | _ => false

/-- A worker has failed. -/
def ShutdownState.Failed (s : ShutdownState) : Prop :=
  ∃ task ∈ s.finished, task.2.isFailure = true

instance (s : ShutdownState) : Decidable s.Failed :=
  inferInstanceAs (Decidable (∃ task ∈ s.finished, task.2.isFailure = true))

section
variable (workers : List String)

/-- The workers that have not finished. -/
def ShutdownState.pending (s : ShutdownState) : List String :=
  workers.filter fun worker => ¬ s.Finished worker

/-- The part of the wrapper between its two waits.  A wait for nothing is a `ValueError`. -/
def afterFirstWait (s : ShutdownState) : ShutdownState :=
  match s.finished with
  | [(worker, outcome)] =>
      match outcome with
      -- `exception()` of a cancelled task
      | .cancelled => { s with phase := .ended .cancelledError }
      | .returned =>
          { s with
            statusOk := false
            phase :=
              if s.pending workers = [] then .ended (.raised .valueError) else .secondWait none }
      | .failed _ =>
          { s with
            statusOk := false
            phase :=
              if s.pending workers = [] then .ended (.raised .valueError)
              else .secondWait (some worker) }
  -- `assert len(failed) == 1`
  | _ => { s with phase := .ended .assertionError }

/-- One step.  The first wait is for a failure or for all workers; the second one has a
timeout; `gather` waits for the workers that were cancelled. -/
def shutdownStep (s : ShutdownState) : ShutdownLabel → Option ShutdownState
  | .finish worker outcome =>
      if worker ∈ workers ∧ ¬ s.Finished worker then
        some { s with finished := s.finished ++ [(worker, outcome)] }
      else none
  | .firstWake =>
      match s.phase with
      | .firstWait =>
          if s.Failed ∨ s.pending workers = [] then some (afterFirstWait workers s) else none
      | _ => none
  | .secondWake =>
      match s.phase with
      | .secondWait exception =>
          some { s with phase := .gathering exception (s.pending workers) }
      | _ => none
  | .gathered =>
      match s.phase with
      | .gathering exception cancelled =>
          if ∀ worker ∈ cancelled, s.Finished worker then
            match exception with
            | some worker => some { s with phase := .ended (.reraised worker) }
            -- `None.add_note`
            | none => some { s with phase := .ended (.raised .attributeError) }
          else none
      | _ => none

/-- When the wrapper has ended and a worker has failed: it has raised the exception of a
failed worker, the status was set to `False`, and all workers have finished. -/
def ShutsDownCleanly (s : ShutdownState) : Prop :=
  ∀ result, s.phase = .ended result → s.Failed →
    (∃ worker exn, result = .reraised worker ∧ (worker, .failed exn) ∈ s.finished) ∧
      s.statusOk = false ∧ ∀ worker ∈ workers, s.Finished worker

/-- After a failure, the wrapper is resumed from its first wait while the failed worker is
the only one that has finished, and not the only worker. -/
def WakesForOne (s : ShutdownState) : ShutdownLabel → Prop
  | .firstWake => s.Failed → s.finished.length = 1 ∧ s.pending workers ≠ []
  | _ => True

/-- What holds in every run. -/
structure ShutdownInv (s : ShutdownState) : Prop where
  waiting : ∀ exception, s.phase = .secondWait exception → s.statusOk = false ∧
    ∃ worker exn, exception = some worker ∧ (worker, .failed exn) ∈ s.finished
  gathering : ∀ exception cancelled, s.phase = .gathering exception cancelled →
    s.statusOk = false ∧
    (∃ worker exn, exception = some worker ∧ (worker, .failed exn) ∈ s.finished) ∧
    (∀ worker ∈ workers, s.Finished worker ∨ worker ∈ cancelled) ∧
    ∀ worker ∈ cancelled, worker ∈ workers
  ended : ∀ result, s.phase = .ended result → s.Failed ∨ s.pending workers = []

end

section
variable {workers : List String} {s s' : ShutdownState}

theorem mem_pending_iff {worker : String} :
    worker ∈ s.pending workers ↔ worker ∈ workers ∧ ¬ s.Finished worker := by
  rw [ShutdownState.pending, List.mem_filter, decide_eq_true_eq]

theorem failed_of_mem {worker : String} {exn : Exn} (h : (worker, .failed exn) ∈ s.finished) :
    s.Failed :=
  ⟨_, h, rfl⟩

theorem failed_congr (h : s'.finished = s.finished) : s'.Failed ↔ s.Failed := by
  unfold ShutdownState.Failed
  rw [h]

theorem pending_congr (h : s'.finished = s.finished) :
    s'.pending workers = s.pending workers := by
  have hfinished : ∀ worker, s'.Finished worker ↔ s.Finished worker := by
    intro worker
    unfold ShutdownState.Finished
    rw [h]
  simp only [ShutdownState.pending, hfinished]

/-- A worker that can finish is pending. -/
theorem pending_ne_nil {worker : String} (h : worker ∈ workers ∧ ¬ s.Finished worker) :
    s.pending workers ≠ [] :=
  List.ne_nil_of_mem (mem_pending_iff.mpr h)

/-- What the wrapper does behind its first wait: it saves the exception of the only finished
worker and waits for the others, or it ends. -/
theorem afterFirstWait_cases (hready : s.Failed ∨ s.pending workers = []) :
    (s.pending workers ≠ [] ∧ ∃ worker exn, s.finished = [(worker, .failed exn)] ∧
      afterFirstWait workers s =
        { s with statusOk := false, phase := .secondWait (some worker) }) ∨
    ((s.finished.length ≠ 1 ∨ s.pending workers = []) ∧ ∃ result,
      (∀ worker, result ≠ .reraised worker) ∧
      (afterFirstWait workers s).phase = .ended result ∧
      (afterFirstWait workers s).finished = s.finished) := by
  unfold afterFirstWait
  split
  · rename_i worker outcome hone
    have hfailed : s.Failed ↔ outcome.isFailure = true := by
      simp [ShutdownState.Failed, hone]
    cases outcome with
    | cancelled =>
        have hall := hready.resolve_left (by simp [hfailed, TaskOutcome.isFailure])
        exact .inr ⟨.inr hall, .cancelledError, by simp, rfl, rfl⟩
    | returned =>
        have hall := hready.resolve_left (by simp [hfailed, TaskOutcome.isFailure])
        exact .inr ⟨.inr hall, .raised .valueError, by simp, by simp [hall], rfl⟩
    | failed exn =>
        by_cases hall : s.pending workers = []
        · exact .inr ⟨.inr hall, .raised .valueError, by simp, by simp [hall], rfl⟩
        · exact .inl ⟨hall, worker, exn, hone, by simp [hall]⟩
  · rename_i hmany
    refine .inr ⟨.inl fun hlength => ?_, .assertionError, by simp, rfl, rfl⟩
    obtain ⟨task, htask⟩ := List.length_eq_one_iff.mp hlength
    exact hmany task.1 task.2 htask

theorem shutdownStep_finish {worker : String} {outcome : TaskOutcome}
    (hstep : shutdownStep workers s (.finish worker outcome) = some s') :
    (worker ∈ workers ∧ ¬ s.Finished worker) ∧
      s' = { s with finished := s.finished ++ [(worker, outcome)] } := by
  simp only [shutdownStep] at hstep
  split at hstep
  · rename_i hworker
    cases hstep
    exact ⟨hworker, rfl⟩
  · cases hstep

theorem shutdownStep_firstWake (hstep : shutdownStep workers s .firstWake = some s') :
    (s.Failed ∨ s.pending workers = []) ∧ s' = afterFirstWait workers s := by
  simp only [shutdownStep] at hstep
  split at hstep
  · split at hstep
    · rename_i hready
      cases hstep
      exact ⟨hready, rfl⟩
    · cases hstep
  · cases hstep

theorem shutdownStep_secondWake (hstep : shutdownStep workers s .secondWake = some s') :
    ∃ exception, s.phase = .secondWait exception ∧
      s' = { s with phase := .gathering exception (s.pending workers) } := by
  simp only [shutdownStep] at hstep
  split at hstep
  · rename_i exception hphase
    cases hstep
    exact ⟨exception, hphase, rfl⟩
  · cases hstep

/-- In a run there is a saved exception behind `gather`. -/
theorem ShutdownInv.of_gathered (h : ShutdownInv workers s)
    (hstep : shutdownStep workers s .gathered = some s') :
    ∃ worker exn, (worker, .failed exn) ∈ s.finished ∧ s.statusOk = false ∧
      (∀ other ∈ workers, s.Finished other) ∧
      s' = { s with phase := .ended (.reraised worker) } := by
  simp only [shutdownStep] at hstep
  split at hstep
  · rename_i exception cancelled hphase
    obtain ⟨hstatus, ⟨worker, exn, rfl, hmem⟩, hall, _⟩ := h.gathering exception cancelled hphase
    split at hstep
    · rename_i hdone
      cases hstep
      refine ⟨worker, exn, hmem, hstatus, fun other hother => ?_, rfl⟩
      exact (hall other hother).elim id (hdone other)
    · cases hstep
  · cases hstep

/-- A worker finishes. -/
theorem ShutdownInv.finish (h : ShutdownInv workers s) {worker : String}
    {outcome : TaskOutcome} (hworker : worker ∈ workers ∧ ¬ s.Finished worker) :
    ShutdownInv workers { s with finished := s.finished ++ [(worker, outcome)] } := by
  refine ⟨fun exception hphase => ?_, fun exception cancelled hphase => ?_,
    fun result hphase => ?_⟩
  · obtain ⟨hstatus, failed, exn, hsaved, hmem⟩ := h.waiting exception hphase
    exact ⟨hstatus, failed, exn, hsaved, List.mem_append_left _ hmem⟩
  · obtain ⟨hstatus, ⟨failed, exn, hsaved, hmem⟩, hall, hcancelled⟩ :=
      h.gathering exception cancelled hphase
    refine ⟨hstatus, ⟨failed, exn, hsaved, List.mem_append_left _ hmem⟩, fun other hother => ?_,
      hcancelled⟩
    refine (hall other hother).imp_left fun hfinished => ?_
    show other ∈ (s.finished ++ [(worker, outcome)]).map Prod.fst
    rw [List.map_append]
    exact List.mem_append_left _ hfinished
  · rcases h.ended result hphase with ⟨task, htask, hfailure⟩ | hall
    · exact .inl ⟨task, List.mem_append_left _ htask, hfailure⟩
    · exact absurd hall (pending_ne_nil hworker)

/-- The wrapper is resumed from its first wait. -/
theorem ShutdownInv.firstWake (hready : s.Failed ∨ s.pending workers = []) :
    ShutdownInv workers (afterFirstWait workers s) := by
  rcases afterFirstWait_cases hready with
    ⟨_, worker, exn, hone, hafter⟩ | ⟨_, result, _, hphase, hfinished⟩
  · rw [hafter]
    refine ⟨fun exception hphase => ?_, fun _ _ hphase => (by cases hphase),
      fun _ hphase => (by cases hphase)⟩
    cases hphase
    refine ⟨rfl, worker, exn, rfl, ?_⟩
    rw [hone]
    exact List.mem_singleton_self _
  · refine ⟨fun _ hwaiting => ?_, fun _ _ hgathering => ?_, fun _ _ => ?_⟩
    · rw [hphase] at hwaiting
      cases hwaiting
    · rw [hphase] at hgathering
      cases hgathering
    · rw [failed_congr hfinished, pending_congr hfinished]
      exact hready

/-- The wrapper is resumed from its second wait. -/
theorem ShutdownInv.secondWake (h : ShutdownInv workers s) {exception : Option String}
    (hphase : s.phase = .secondWait exception) :
    ShutdownInv workers { s with phase := .gathering exception (s.pending workers) } := by
  obtain ⟨hstatus, hfailed⟩ := h.waiting exception hphase
  refine ⟨fun _ hwaiting => (by cases hwaiting), fun _ _ hgathering => ?_,
    fun _ hended => (by cases hended)⟩
  cases hgathering
  refine ⟨hstatus, hfailed, fun worker hworker => ?_,
    fun worker hworker => (mem_pending_iff.mp hworker).1⟩
  by_cases hfinished : s.Finished worker
  · exact .inl hfinished
  · exact .inr (mem_pending_iff.mpr ⟨hworker, hfinished⟩)

/-- Every step keeps the invariant. -/
theorem ShutdownInv.step {label : ShutdownLabel} (h : ShutdownInv workers s)
    (hstep : shutdownStep workers s label = some s') : ShutdownInv workers s' := by
  cases label with
  | finish worker outcome =>
      obtain ⟨hworker, rfl⟩ := shutdownStep_finish hstep
      exact h.finish hworker
  | firstWake =>
      obtain ⟨hready, rfl⟩ := shutdownStep_firstWake hstep
      exact .firstWake hready
  | secondWake =>
      obtain ⟨exception, hphase, rfl⟩ := shutdownStep_secondWake hstep
      exact h.secondWake hphase
  | gathered =>
      obtain ⟨worker, exn, hmem, _, _, rfl⟩ := h.of_gathered hstep
      exact ⟨fun _ hwaiting => (by cases hwaiting), fun _ _ hgathering => (by cases hgathering),
        fun _ _ => .inl (failed_of_mem hmem)⟩

theorem ShutdownInv.start (workers : List String) : ShutdownInv workers .start :=
  ⟨fun _ h => (by cases h), fun _ _ h => (by cases h), fun _ h => (by cases h)⟩

/-- A step that meets the condition keeps the purpose. -/
theorem shutsDownCleanly_step {label : ShutdownLabel} (h : ShutdownInv workers s)
    (hclean : ShutsDownCleanly workers s) (hstep : shutdownStep workers s label = some s')
    (halone : WakesForOne workers s label) : ShutsDownCleanly workers s' := by
  intro result hended hfailed
  cases label with
  | finish worker outcome =>
      obtain ⟨hworker, rfl⟩ := shutdownStep_finish hstep
      have hbefore := (h.ended result hended).resolve_right (pending_ne_nil hworker)
      -- at the end of the wrapper all workers have finished
      exact absurd ((hclean result hended hbefore).2.2 worker hworker.1) hworker.2
  | firstWake =>
      obtain ⟨hready, rfl⟩ := shutdownStep_firstWake hstep
      rcases afterFirstWait_cases hready with
        ⟨_, worker, exn, _, hafter⟩ | ⟨hbad, other, _, _, hfinished⟩
      · rw [hafter] at hended
        cases hended
      · rw [failed_congr hfinished] at hfailed
        obtain ⟨hlength, hpending⟩ := halone hfailed
        exact absurd hlength (hbad.resolve_right hpending)
  | secondWake =>
      obtain ⟨exception, _, rfl⟩ := shutdownStep_secondWake hstep
      cases hended
  | gathered =>
      obtain ⟨worker, exn, hmem, hstatus, hall, rfl⟩ := h.of_gathered hstep
      cases hended
      exact ⟨⟨worker, exn, rfl, hmem⟩, hstatus, hall⟩

/-- A step that does not meet the condition ends the wrapper with another exception. -/
theorem not_shutsDownCleanly_step {label : ShutdownLabel}
    (hstep : shutdownStep workers s label = some s')
    (hbad : ¬ WakesForOne workers s label) : ¬ ShutsDownCleanly workers s' := by
  cases label with
  | finish worker outcome => exact absurd trivial hbad
  | secondWake => exact absurd trivial hbad
  | gathered => exact absurd trivial hbad
  | firstWake =>
      intro hclean
      unfold WakesForOne at hbad
      push Not at hbad
      obtain ⟨hfailed, hbad⟩ := hbad
      obtain ⟨_, rfl⟩ := shutdownStep_firstWake hstep
      rcases afterFirstWait_cases (.inl hfailed) with
        ⟨hpending, worker, exn, hone, _⟩ | ⟨_, result, hother, hphase, hfinished⟩
      · exact hpending (hbad (by rw [hone]; rfl))
      · obtain ⟨⟨worker, exn, hreraised, _⟩, _⟩ :=
          hclean result hphase ((failed_congr hfinished).mpr hfailed)
        exact hother worker hreraised

/-- Behind `gather` the wrapper ends. -/
theorem exists_gathered {exception : Option String} {cancelled : List String}
    (hphase : s.phase = .gathering exception cancelled)
    (hdone : ∀ worker ∈ cancelled, s.Finished worker) :
    ∃ s' result, shutdownStep workers s .gathered = some s' ∧ s'.phase = .ended result := by
  simp only [shutdownStep, hphase, if_pos hdone]
  cases exception with
  | some worker => exact ⟨_, _, rfl, rfl⟩
  | none => exact ⟨_, _, rfl, rfl⟩

/-- Once all workers have finished, the wrapper comes to its end by itself. -/
theorem wrapper_progress (h : ShutdownInv workers s) (hall : s.pending workers = []) :
    ∃ labels s' result, runActions (shutdownStep workers) s labels = some s' ∧
      s'.phase = .ended result := by
  cases hphase : s.phase with
  | ended result => exact ⟨[], s, result, rfl, hphase⟩
  | gathering exception cancelled =>
      have hdone : ∀ worker ∈ cancelled, s.Finished worker := by
        intro worker hworker
        by_contra hnot
        have hmem := (h.gathering exception cancelled hphase).2.2.2 worker hworker
        exact pending_ne_nil ⟨hmem, hnot⟩ hall
      obtain ⟨s', result, hstep, hended⟩ := exists_gathered hphase hdone
      exact ⟨[.gathered], s', result, runActions_one hstep, hended⟩
  | secondWait exception =>
      have hwake : shutdownStep workers s .secondWake =
          some { s with phase := .gathering exception [] } := by
        simp only [shutdownStep, hphase, hall]
      obtain ⟨s', result, hstep, hended⟩ : ∃ s' result,
          shutdownStep workers { s with phase := .gathering exception [] } .gathered = some s' ∧
            s'.phase = .ended result :=
        exists_gathered rfl (fun _ hworker => (by cases hworker))
      exact ⟨[.secondWake] ++ [.gathered], s', result,
        runActions_append (runActions_one hwake) (runActions_one hstep), hended⟩
  | firstWait =>
      have hwake : shutdownStep workers s .firstWake = some (afterFirstWait workers s) := by
        simp only [shutdownStep, hphase]
        exact if_pos (.inr hall)
      rcases afterFirstWait_cases (.inr hall) with ⟨hpending, _⟩ | ⟨_, result, _, hended, _⟩
      · exact absurd hall hpending
      · exact ⟨[.firstWake], _, result, runActions_one hwake, hended⟩

end

/-- For every list of workers and every interleaving, with any outcomes and any number of
workers finishing at a time: in all states the wrapper has shut down cleanly, if it has ended
after a failure, exactly if it is resumed from its first wait with one finished worker and
another one that is not. -/
theorem shutsDownCleanly_iff (workers : List String) (labels : List ShutdownLabel) :
    Always (shutdownStep workers) (ShutsDownCleanly workers) .start labels ↔
      EachStep (shutdownStep workers) (WakesForOne workers) .start labels :=
  always_iff_eachStep (fun _ _ _ h _ hstep => h.step hstep)
    (fun _ _ _ h hclean hstep halone => shutsDownCleanly_step h hclean hstep halone)
    (fun _ _ _ _ _ hstep hbad => not_shutsDownCleanly_step hstep hbad)
    labels .start (.start workers) (fun _ h => (by cases h))

/-- One reader returns before the other one fails: the assertion fails, the status is not
set, and the third worker runs on. -/
theorem returnedReader_not_clean :
    ¬ Always (shutdownStep ["reader_1", "reader_2", "counter_1"])
      (ShutsDownCleanly ["reader_1", "reader_2", "counter_1"]) .start
      [.finish "reader_1" .returned, .finish "reader_2" (.failed .runtimeError), .firstWake] := by
  intro hall
  have hlast : ShutsDownCleanly ["reader_1", "reader_2", "counter_1"]
      ⟨[("reader_1", .returned), ("reader_2", .failed .runtimeError)], true,
        .ended .assertionError⟩ := hall.last rfl
  obtain ⟨⟨worker, exn, hreraised, _⟩, _⟩ :=
    hlast .assertionError rfl ⟨_, List.mem_cons_of_mem _ (List.mem_cons_self ..), rfl⟩
  cases hreraised

end DatabaseWorkers
end Tenjin
