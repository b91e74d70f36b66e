import Mathlib.Logic.Function.Basic
import Tenjin.Foundation.GuardedRun

/-!
# Runs seen through a projection

A system may hold many copies of a smaller one, such as one for each key of a store.
A projection takes a state to the state of one copy, and a label to what that copy does, if
it does anything.

* `Projects` says that every step is a step of the copy, or no step of it at all.
* `runActions_project` — a run is a run of the copy, with the labels that concern it.
* `runOps_eq` — commands that act on one key each, over a store.
-/

namespace Tenjin
namespace Foundation

section
variable {σ τ α β : Type*}

/-- `proj` takes each step to the step that `label` gives, or to no step. -/
def Projects (step : σ → α → Option σ) (small : τ → β → Option τ) (proj : σ → τ)
    (label : α → Option β) : Prop :=
  ∀ s a s', step s a = some s' →
    match label a with
    | some b => small (proj s) b = some (proj s')
    | none => proj s' = proj s

variable {step : σ → α → Option σ} {small : τ → β → Option τ} {proj : σ → τ}
  {label : α → Option β}

/-- A step that concerns the copy. -/
theorem Projects.moves (h : Projects step small proj label) {s s' : σ} {a : α} {b : β}
    (hs : step s a = some s') (hb : label a = some b) :
    small (proj s) b = some (proj s') := by
  have hstep := h s a s' hs
  rw [hb] at hstep
  exact hstep

/-- A step that does not concern it. -/
theorem Projects.stays (h : Projects step small proj label) {s s' : σ} {a : α}
    (hs : step s a = some s') (hb : label a = none) : proj s' = proj s := by
  have hstep := h s a s' hs
  rw [hb] at hstep
  exact hstep

/-- A run is a run of the copy. -/
theorem runActions_project (h : Projects step small proj label) (actions : List α) (s s' : σ)
    (hrun : runActions step s actions = some s') :
    runActions small (proj s) (actions.filterMap label) = some (proj s') := by
  induction actions generalizing s with
  | nil =>
      simp only [runActions, Option.some.injEq] at hrun
      rw [hrun]
      rfl
  | cons a actions ih =>
      cases hs : step s a with
      | none => simp [runActions, hs] at hrun
      | some t =>
          simp only [runActions, hs] at hrun
          have hrest := ih t hrun
          cases hb : label a with
          | none =>
              rw [List.filterMap_cons_none hb, ← h.stays hs hb]
              exact hrest
          | some b =>
              rw [List.filterMap_cons_some hb]
              simp only [runActions, h.moves hs hb]
              exact hrest

end

section
variable {κ V : Type*} [DecidableEq κ]

/-- A command on one key: what it makes of the value there. -/
structure KeyedOp (κ V : Type*) where
  key : κ
  run : V → V

/-- The store after some commands, the first one first. -/
def runOps (store : κ → V) (ops : List (KeyedOp κ V)) : κ → V :=
  ops.foldl (fun store op => Function.update store op.key (op.run (store op.key))) store

/-- The value at a key is what the commands on that key make of it, in their order. -/
theorem runOps_eq (ops : List (KeyedOp κ V)) (store : κ → V) (k : κ) :
    runOps store ops k =
      (ops.filter fun op => op.key = k).foldl (fun v op => op.run v) (store k) := by
  induction ops generalizing store with
  | nil => rfl
  | cons op ops ih =>
      have hrest := ih (Function.update store op.key (op.run (store op.key)))
      by_cases hk : op.key = k
      · subst hk
        rw [List.filter_cons_of_pos (by simp), List.foldl_cons]
        rw [Function.update_self] at hrest
        exact hrest
      · rw [List.filter_cons_of_neg (by simpa using hk)]
        rw [Function.update_of_ne (Ne.symm hk)] at hrest
        exact hrest

end

end Foundation
end Tenjin
