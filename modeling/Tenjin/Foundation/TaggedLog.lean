import Mathlib.Data.List.Nodup

/-!
# Logs of commands with their origin

A log lists the commands that were executed, each with the tag of the item that
it was executed for.  `commandsFrom i` reads off what was done for item `i`.

* `emitFrom` is a loop over a batch that emits some commands for each item.
* `commandsFrom_emitFrom` says that such a loop does for `i` what it does for the
  items tagged `i`, in their order and as often as they occur.
* `commandsFrom_emitFrom_of_mem` is the case of a batch with distinct tags.
-/

namespace Tenjin
namespace Foundation

variable {ι α β : Type*}

/-- The commands that the log holds for item `i`, in order. -/
def commandsFrom [DecidableEq ι] (i : ι) : List (ι × α) → List α
  | [] => []
  | (j, c) :: log => if j = i then c :: commandsFrom i log else commandsFrom i log

/-- Emit `f b` for every item `b` of a batch, tagged with the item's own tag. -/
def emitFrom (tag : β → ι) (f : β → List α) (batch : List β) : List (ι × α) :=
  batch.flatMap fun b => (f b).map fun c => (tag b, c)

section
variable [DecidableEq ι]

@[simp] theorem commandsFrom_nil (i : ι) :
    commandsFrom i ([] : List (ι × α)) = [] := rfl

@[simp] theorem commandsFrom_append (i : ι) (log log' : List (ι × α)) :
    commandsFrom i (log ++ log') = commandsFrom i log ++ commandsFrom i log' := by
  induction log with
  | nil => rfl
  | cons entry log ih =>
      obtain ⟨j, c⟩ := entry
      by_cases h : j = i <;> simp [commandsFrom, h, ih]

theorem commandsFrom_map_tag (i j : ι) (commands : List α) :
    commandsFrom i (commands.map fun c => (j, c)) = if j = i then commands else [] := by
  induction commands with
  | nil => simp
  | cons c commands ih =>
      by_cases h : j = i
      · simp [commandsFrom, h] at ih ⊢
        exact ih
      · simp [commandsFrom, h] at ih ⊢
        exact ih

/-- A loop does for item `i` what it does for the items that carry its tag. -/
theorem commandsFrom_emitFrom (tag : β → ι) (f : β → List α) (i : ι) (batch : List β) :
    commandsFrom i (emitFrom tag f batch) =
      (batch.filter fun b => tag b = i).flatMap f := by
  induction batch with
  | nil => rfl
  | cons b batch ih =>
      have hcons : emitFrom tag f (b :: batch) =
          (f b).map (fun c => (tag b, c)) ++ emitFrom tag f batch := rfl
      rw [hcons, commandsFrom_append, commandsFrom_map_tag, ih]
      by_cases h : tag b = i <;> simp [h]

/-- With distinct tags, the items that carry a tag of the batch are one item. -/
theorem filter_tag_eq_singleton (tag : β → ι) {batch : List β}
    (hnodup : (batch.map tag).Nodup) {b : β} (hb : b ∈ batch) :
    (batch.filter fun b' => tag b' = tag b) = [b] := by
  induction batch with
  | nil => cases hb
  | cons c batch ih =>
      simp only [List.map_cons, List.nodup_cons] at hnodup
      obtain ⟨hfresh, hrest⟩ := hnodup
      have hne : ∀ d ∈ batch, tag d ≠ tag c := by
        intro d hd heq
        exact hfresh (heq ▸ List.mem_map_of_mem hd)
      rcases List.mem_cons.mp hb with rfl | hb
      · have hnone : (batch.filter fun b' => tag b' = tag b) = [] := by
          simpa [List.filter_eq_nil_iff] using hne
        simp [hnone]
      · have hcb : tag c ≠ tag b := fun h => hne b hb h.symm
        simp [hcb, ih hrest hb]

/-- With distinct tags, a loop does for an item of the batch what it does for it. -/
theorem commandsFrom_emitFrom_of_mem (tag : β → ι) (f : β → List α) {batch : List β}
    (hnodup : (batch.map tag).Nodup) {b : β} (hb : b ∈ batch) :
    commandsFrom (tag b) (emitFrom tag f batch) = f b := by
  rw [commandsFrom_emitFrom, filter_tag_eq_singleton tag hnodup hb]
  simp

/-- A loop does nothing for an item that is not in the batch. -/
theorem commandsFrom_emitFrom_of_not_mem (tag : β → ι) (f : β → List α) {i : ι}
    {batch : List β} (h : ∀ b ∈ batch, tag b ≠ i) :
    commandsFrom i (emitFrom tag f batch) = [] := by
  have hnone : (batch.filter fun b => tag b = i) = [] := by
    simpa [List.filter_eq_nil_iff] using h
  rw [commandsFrom_emitFrom, hnone]
  rfl

end

end Foundation
end Tenjin
