import Tenjin.Python.Equality
import Tenjin.ResourceAuxillary.PostProcessing

/-!
# Trimming a batch

`trim_duplicate_events` of `pre_processing.py`: it goes over a copy of the batch and takes
events out of the batch itself.  `list.remove` looks for the first event that is equal to the
one at hand, which need not be that one when events are repeated.

* `trimLoop` is the loop, with the batch and the commands of the pipeline.
* `trimLoop_eq` — behind the part that it has passed, the loop sees the rest of the copy.
* `trimDuplicateEvents_filters` — the batch is filtered, and each event that is taken out is
  acknowledged.
-/

namespace Tenjin
namespace ResourceAuxillary

open Python Foundation

/-- `e == f`, as pydantic compares two events: field by field. -/
def StreamedEvent.pyEq (e f : StreamedEvent) : Bool :=
  e.name = f.name && (PyValue.dict e.payload).pyEq (.dict f.payload) &&
    e.sideEffects = f.sideEffects && e.eventId = f.eventId

section
variable (freshEventIds : List Int) (streamName : StreamName) (groupName : String)

/-- The loop over the copy; the batch and the commands of the pipeline change. -/
def trimLoop : (copy batch : List StreamedEvent) → (pipeline : CommandLog) →
    Except Exn (List StreamedEvent × CommandLog)
  | [], batch, pipeline => .ok (batch, pipeline)
  | event :: copy, batch, pipeline =>
      if event.eventId ∉ freshEventIds then do
        let batch ← pyRemove StreamedEvent.pyEq batch event
        trimLoop copy batch
          (pipeline ++ [(event.eventId, .xack streamName groupName event.eventId)])
      else trimLoop copy batch pipeline

/-- `trim_duplicate_events`: what the batch is afterwards, and the commands that have been
executed.  The execution of the pipeline may raise. -/
def trimDuplicateEvents (execute : CommandLog → Except Exn Unit)
    (batch : List StreamedEvent) : Except Exn (List StreamedEvent × CommandLog) := do
  let (batch, pipeline) ← trimLoop freshEventIds streamName groupName batch batch []
  execute pipeline
  return (batch, pipeline)

/-- The acknowledgement of an event. -/
def acknowledgement (event : StreamedEvent) : Int × Command :=
  (event.eventId, .xack streamName groupName event.eventId)

end

section
variable {freshEventIds : List Int} {streamName : StreamName} {groupName : String}

/-- Equal events have one id. -/
theorem StreamedEvent.eventId_eq_of_pyEq {e f : StreamedEvent} (h : e.pyEq f = true) :
    e.eventId = f.eventId := by
  simp only [StreamedEvent.pyEq, Bool.and_eq_true, decide_eq_true_eq] at h
  exact h.2

/-- No event with a fresh id is equal to one whose id is not fresh. -/
theorem not_pyEq_of_fresh {e f : StreamedEvent} (he : e.eventId ∈ freshEventIds)
    (hf : f.eventId ∉ freshEventIds) : e ≠ f ∧ e.pyEq f = false := by
  constructor
  · rintro rfl
    exact hf he
  · rw [Bool.eq_false_iff]
    intro heq
    rw [StreamedEvent.eventId_eq_of_pyEq heq] at he
    exact hf he

/-- The batch is what the loop has kept and what it has not come to.  So the first event that
is equal to the one at hand is the one at hand. -/
theorem trimLoop_eq (copy kept : List StreamedEvent) (pipeline : CommandLog)
    (hkept : ∀ e ∈ kept, e.eventId ∈ freshEventIds) :
    trimLoop freshEventIds streamName groupName copy (kept ++ copy) pipeline =
      .ok (kept ++ copy.filter (fun e => e.eventId ∈ freshEventIds),
        pipeline ++ (copy.filter fun e => e.eventId ∉ freshEventIds).map
          (acknowledgement streamName groupName)) := by
  induction copy generalizing kept pipeline with
  | nil => simp [trimLoop]
  | cons e copy ih =>
      rw [trimLoop]
      by_cases he : e.eventId ∈ freshEventIds
      · have hnext : ∀ x ∈ kept ++ [e], x.eventId ∈ freshEventIds := by
          intro x hx
          rcases List.mem_append.mp hx with hx | hx
          · exact hkept x hx
          · rw [List.mem_singleton.mp hx]
            exact he
        have hloop := ih (kept ++ [e]) pipeline hnext
        rw [List.append_assoc, List.singleton_append] at hloop
        rw [if_neg (not_not_intro he), hloop]
        simp [he]
      · have hremove : pyRemove StreamedEvent.pyEq (kept ++ e :: copy) e =
            .ok (kept ++ copy) :=
          pyRemove_append_cons fun x hx => not_pyEq_of_fresh (hkept x hx) he
        rw [if_pos he, hremove]
        show trimLoop freshEventIds streamName groupName copy (kept ++ copy) _ = _
        rw [ih kept _ hkept]
        simp [he, acknowledgement]

/-- Only the execution of the pipeline can raise. -/
theorem trimDuplicateEvents_eq (execute : CommandLog → Except Exn Unit)
    (batch : List StreamedEvent) :
    trimDuplicateEvents freshEventIds streamName groupName execute batch =
      (execute ((batch.filter fun e => e.eventId ∉ freshEventIds).map
        (acknowledgement streamName groupName))).map fun _ =>
          (batch.filter fun e => e.eventId ∈ freshEventIds,
            (batch.filter fun e => e.eventId ∉ freshEventIds).map
              (acknowledgement streamName groupName)) := by
  have hloop : trimLoop freshEventIds streamName groupName batch ([] ++ batch) [] = _ :=
    trimLoop_eq batch [] [] fun e he => by cases he
  rw [List.nil_append, List.nil_append, List.nil_append] at hloop
  rw [trimDuplicateEvents, hloop]
  simp only [bind, Except.bind, pure, Except.pure]
  cases execute _ <;> rfl

/-- An id is acknowledged as often as events with that id are taken out. -/
theorem count_acknowledgement (removed : List StreamedEvent) (id : Int) :
    (removed.map (acknowledgement streamName groupName)).count
        (id, .xack streamName groupName id) =
      removed.countP fun e => e.eventId = id := by
  rw [List.count, List.countP_map]
  apply List.countP_congr
  intro e _
  simp only [acknowledgement, Function.comp_apply, beq_iff_eq, Prod.mk.injEq,
    Command.xack.injEq, true_and, and_self, decide_eq_true_eq]

end

/-- For every batch and all fresh ids, whatever is repeated: the batch is filtered to the
events with a fresh id, the pipeline acknowledges the others, each for its own id, and each
occurrence of an id is either kept or acknowledged.  Nothing but the execution of the
pipeline raises. -/
theorem trimDuplicateEvents_filters (freshEventIds : List Int) (streamName : StreamName)
    (groupName : String) (execute : CommandLog → Except Exn Unit)
    (batch : List StreamedEvent) :
    ∃ kept acknowledged,
      trimDuplicateEvents freshEventIds streamName groupName execute batch =
        (execute acknowledged).map (fun _ => (kept, acknowledged)) ∧
      kept = batch.filter (fun e => e.eventId ∈ freshEventIds) ∧
      acknowledged = (batch.filter fun e => e.eventId ∉ freshEventIds).map
        (fun e => (e.eventId, .xack streamName groupName e.eventId)) ∧
      ∀ id, kept.countP (fun e => e.eventId = id) +
          acknowledged.count (id, .xack streamName groupName id) =
        batch.countP fun e => e.eventId = id := by
  refine ⟨_, _, trimDuplicateEvents_eq execute batch, rfl, rfl, fun id => ?_⟩
  -- an occurrence is fresh or not
  have hsplit := List.countP_eq_countP_filter_add batch (fun e => decide (e.eventId = id))
    fun e => decide (e.eventId ∈ freshEventIds)
  rw [count_acknowledgement, hsplit]
  simp only [decide_not]

end ResourceAuxillary
end Tenjin
