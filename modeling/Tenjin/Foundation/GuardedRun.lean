import Mathlib.Tactic.ByContra

/-!
# Runs of a labelled transition system and conditions on their steps

A transition system is a partial step function `step : σ → α → Option σ`: the
label `a : α` carries every choice the environment makes, and `none` means that
the label is not enabled in the state.

* `runActions` runs a list of labels.
* `Always step Q` says that `Q` holds in every state that the run visits.
* `EachStep step G` says that every step the run takes is made from a state and
  with a label that meet `G`.

The two rules at the end are the induction principles of the development: an
invariant of single steps is an invariant of runs, and when `G` is exactly the
condition under which one step keeps `Q`, it is exactly the condition under
which a whole run keeps `Q`.
-/

namespace Tenjin
namespace Foundation

variable {σ α : Type*}

/-- Run a list of labels, stopping at the first one that is not enabled. -/
def runActions (step : σ → α → Option σ) : σ → List α → Option σ
  | s, [] => some s
  | s, a :: actions =>
      match step s a with
      | none => none
      | some s' => runActions step s' actions

/-- `Q` holds in every state that the run visits, the first one included. -/
def Always (step : σ → α → Option σ) (Q : σ → Prop) : σ → List α → Prop
  | s, [] => Q s
  | s, a :: actions => Q s ∧ ∀ s', step s a = some s' → Always step Q s' actions

/-- Every step that the run takes meets `G`. -/
def EachStep (step : σ → α → Option σ) (G : σ → α → Prop) : σ → List α → Prop
  | _, [] => True
  | s, a :: actions =>
      ∀ s', step s a = some s' → G s a ∧ EachStep step G s' actions

/-- One step is a run. -/
theorem runActions_one {step : σ → α → Option σ} {s s' : σ} {a : α}
    (h : step s a = some s') : runActions step s [a] = some s' := by
  simp [runActions, h]

/-- A run followed by a run is a run. -/
theorem runActions_append {step : σ → α → Option σ} {s t u : σ} {actions later : List α}
    (h : runActions step s actions = some t) (hlater : runActions step t later = some u) :
    runActions step s (actions ++ later) = some u := by
  induction actions generalizing s with
  | nil =>
      simp only [runActions, Option.some.injEq] at h
      exact h ▸ hlater
  | cons a actions ih =>
      rw [List.cons_append]
      cases hs : step s a with
      | none => simp [runActions, hs] at h
      | some s' =>
          simp only [runActions, hs] at h ⊢
          exact ih h

/-- The first state of a run is one of the states it visits. -/
theorem Always.head {step : σ → α → Option σ} {Q : σ → Prop} {s : σ}
    {actions : List α} (h : Always step Q s actions) : Q s := by
  cases actions with
  | nil => exact h
  | cons a actions => exact h.1

/-- What always holds holds in the state that the run ends in. -/
theorem Always.last {step : σ → α → Option σ} {Q : σ → Prop} {s s' : σ}
    {actions : List α} (h : Always step Q s actions)
    (hrun : runActions step s actions = some s') : Q s' := by
  induction actions generalizing s with
  | nil =>
      simp only [runActions, Option.some.injEq] at hrun
      exact hrun ▸ h
  | cons a actions ih =>
      cases hs : step s a with
      | none => simp [runActions, hs] at hrun
      | some t =>
          simp only [runActions, hs] at hrun
          exact ih (h.2 t hs) hrun

/-- A consequence of what always holds always holds. -/
theorem Always.imp {step : σ → α → Option σ} {Q Q' : σ → Prop}
    (himp : ∀ s, Q s → Q' s) {s : σ} {actions : List α} (h : Always step Q s actions) :
    Always step Q' s actions := by
  induction actions generalizing s with
  | nil => exact himp s h
  | cons a actions ih => exact ⟨himp s h.1, fun s' hs => ih (h.2 s' hs)⟩

/-- A run whose first step is known. -/
theorem EachStep.cons {step : σ → α → Option σ} {G : σ → α → Prop} {s s' : σ} {a : α}
    {actions : List α} (hstep : step s a = some s') (hG : G s a)
    (hrest : EachStep step G s' actions) : EachStep step G s (a :: actions) := by
  intro t ht
  obtain rfl : s' = t := Option.some.inj (hstep.symm.trans ht)
  exact ⟨hG, hrest⟩

/-- Conditions that agree under an invariant agree on a run, where the invariant is kept by
the steps that meet one of them. -/
theorem eachStep_iff_of_kept {step : σ → α → Option σ} {I : σ → Prop} {G H : σ → α → Prop}
    (hiff : ∀ s a s', I s → step s a = some s' → (G s a ↔ H s a))
    (hkept : ∀ s a s', I s → step s a = some s' → G s a → I s')
    (actions : List α) (s : σ) (hI : I s) :
    EachStep step G s actions ↔ EachStep step H s actions := by
  induction actions generalizing s with
  | nil => exact Iff.rfl
  | cons a actions ih =>
      constructor
      · intro hG s' hs
        obtain ⟨hga, hrest⟩ := hG s' hs
        exact ⟨(hiff s a s' hI hs).mp hga, (ih s' (hkept s a s' hI hs hga)).mp hrest⟩
      · intro hH s' hs
        obtain ⟨hha, hrest⟩ := hH s' hs
        have hga := (hiff s a s' hI hs).mpr hha
        exact ⟨hga, (ih s' (hkept s a s' hI hs hga)).mpr hrest⟩

/-- Conditions that agree on every step that is taken agree on every run. -/
theorem eachStep_congr {step : σ → α → Option σ} {G H : σ → α → Prop}
    (h : ∀ s a s', step s a = some s' → (G s a ↔ H s a)) (actions : List α) (s : σ) :
    EachStep step G s actions ↔ EachStep step H s actions :=
  eachStep_iff_of_kept (I := fun _ => True) (fun s a s' _ hs => h s a s' hs)
    (fun _ _ _ _ _ _ => trivial) actions s trivial

/-- Each step meets two conditions when it meets both of them. -/
theorem eachStep_and {step : σ → α → Option σ} {G H : σ → α → Prop} (actions : List α)
    (s : σ) :
    EachStep step (fun s a => G s a ∧ H s a) s actions ↔
      EachStep step G s actions ∧ EachStep step H s actions := by
  induction actions generalizing s with
  | nil => exact ⟨fun _ => ⟨trivial, trivial⟩, fun _ => trivial⟩
  | cons a actions ih =>
      constructor
      · intro h
        refine ⟨fun s' hs => ?_, fun s' hs => ?_⟩
        · exact ⟨(h s' hs).1.1, ((ih s').mp (h s' hs).2).1⟩
        · exact ⟨(h s' hs).1.2, ((ih s').mp (h s' hs).2).2⟩
      · rintro ⟨hG, hH⟩ s' hs
        exact ⟨⟨(hG s' hs).1, (hH s' hs).1⟩, (ih s').mpr ⟨(hG s' hs).2, (hH s' hs).2⟩⟩

/-- Where each step meets `I`, conditions that agree under `I` agree on the run. -/
theorem eachStep_congr_of {step : σ → α → Option σ} {I G H : σ → α → Prop}
    (h : ∀ s a s', step s a = some s' → I s a → (G s a ↔ H s a)) {actions : List α} {s : σ}
    (hI : EachStep step I s actions) :
    EachStep step G s actions ↔ EachStep step H s actions := by
  have hboth : EachStep step (fun s a => I s a ∧ G s a) s actions ↔
      EachStep step (fun s a => I s a ∧ H s a) s actions :=
    eachStep_congr (fun s a s' hs => and_congr_right (h s a s' hs)) actions s
  rw [eachStep_and, eachStep_and] at hboth
  constructor
  · intro hG
    exact (hboth.mp ⟨hI, hG⟩).2
  · intro hH
    exact (hboth.mpr ⟨hI, hH⟩).2

/-- What every step preserves, every run preserves. -/
theorem runActions_preserves {step : σ → α → Option σ} {I : σ → Prop}
    (hstep : ∀ s a s', I s → step s a = some s' → I s') :
    ∀ (actions : List α) (s s' : σ), I s → runActions step s actions = some s' →
      I s' := by
  intro actions
  induction actions with
  | nil =>
      intro s s' hI hrun
      simp only [runActions, Option.some.injEq] at hrun
      exact hrun ▸ hI
  | cons a actions ih =>
      intro s s' hI hrun
      cases hs : step s a with
      | none => simp [runActions, hs] at hrun
      | some t =>
          simp only [runActions, hs] at hrun
          exact ih t s' (hstep s a t hI hs) hrun

/-- What every step preserves holds in every state of a run. -/
theorem always_of_preserved {step : σ → α → Option σ} {I : σ → Prop}
    (hstep : ∀ s a s', I s → step s a = some s' → I s') :
    ∀ (actions : List α) (s : σ), I s → Always step I s actions := by
  intro actions
  induction actions with
  | nil =>
      intro s hI
      exact hI
  | cons a actions ih =>
      intro s hI
      exact ⟨hI, fun s' hs => ih s' (hstep s a s' hI hs)⟩

/-- Properties that agree wherever an invariant holds always hold together. -/
theorem always_congr {step : σ → α → Option σ} {I Q Q' : σ → Prop}
    (hiff : ∀ s, I s → (Q s ↔ Q' s)) {actions : List α} {s : σ}
    (hI : Always step I s actions) : Always step Q s actions ↔ Always step Q' s actions := by
  induction actions generalizing s with
  | nil => exact hiff s hI
  | cons a actions ih =>
      constructor
      · rintro ⟨hQ, hrest⟩
        exact ⟨(hiff s hI.1).mp hQ, fun s' hs => (ih (hI.2 s' hs)).mp (hrest s' hs)⟩
      · rintro ⟨hQ, hrest⟩
        exact ⟨(hiff s hI.1).mpr hQ, fun s' hs => (ih (hI.2 s' hs)).mpr (hrest s' hs)⟩

/-- A condition that an invariant and another condition give is met by every step that
meets the other. -/
theorem EachStep.imp {step : σ → α → Option σ} {I : σ → Prop} {G H : σ → α → Prop}
    (himp : ∀ s a, I s → G s a → H s a) {actions : List α} {s : σ}
    (hI : Always step I s actions) (hG : EachStep step G s actions) :
    EachStep step H s actions := by
  induction actions generalizing s with
  | nil => trivial
  | cons a actions ih =>
      intro s' hs
      obtain ⟨hga, hrest⟩ := hG s' hs
      exact ⟨himp s a hI.1 hga, ih (hI.2 s' hs) hrest⟩

/-- A condition that another one gives. -/
theorem EachStep.mono {step : σ → α → Option σ} {G H : σ → α → Prop}
    (hGH : ∀ s a, G s a → H s a) {actions : List α} {s : σ} (hG : EachStep step G s actions) :
    EachStep step H s actions :=
  EachStep.imp (fun s a _ h => hGH s a h)
    (always_of_preserved (fun _ _ _ _ _ => trivial) actions s trivial) hG

/-- A condition that an invariant gives for every step is met by every step of a run. -/
theorem eachStep_of_always {step : σ → α → Option σ} {I : σ → Prop} {G : σ → α → Prop}
    (hG : ∀ s a, I s → G s a) {actions : List α} {s : σ} (hI : Always step I s actions) :
    EachStep step G s actions := by
  induction actions generalizing s with
  | nil => trivial
  | cons a actions ih =>
      intro s' hs
      exact ⟨hG s a hI.1, ih (hI.2 s' hs)⟩

/-- A step condition that keeps `Q` in one step keeps it in every run whose
steps all meet the condition.  `I` is what holds whether or not they do. -/
theorem always_of_eachStep {step : σ → α → Option σ} {I Q : σ → Prop}
    {G : σ → α → Prop}
    (hinv : ∀ s a s', I s → Q s → step s a = some s' → I s')
    (hgood : ∀ s a s', I s → Q s → step s a = some s' → G s a → Q s') :
    ∀ (actions : List α) (s : σ), I s → Q s → EachStep step G s actions →
      Always step Q s actions := by
  intro actions
  induction actions with
  | nil =>
      intro s _ hQ _
      exact hQ
  | cons a actions ih =>
      intro s hI hQ hG
      refine ⟨hQ, fun s' hs => ?_⟩
      obtain ⟨hga, hrest⟩ := hG s' hs
      exact ih s' (hinv s a s' hI hQ hs) (hgood s a s' hI hQ hs hga) hrest

/-- When `G` is exactly the condition under which one step keeps `Q`, a run keeps
`Q` in all of its states if and only if all of its steps meet `G`. -/
theorem always_iff_eachStep {step : σ → α → Option σ} {I Q : σ → Prop}
    {G : σ → α → Prop}
    (hinv : ∀ s a s', I s → Q s → step s a = some s' → I s')
    (hgood : ∀ s a s', I s → Q s → step s a = some s' → G s a → Q s')
    (hbad : ∀ s a s', I s → Q s → step s a = some s' → ¬ G s a → ¬ Q s')
    (actions : List α) (s : σ) (hI : I s) (hQ : Q s) :
    Always step Q s actions ↔ EachStep step G s actions := by
  refine ⟨fun hall => ?_, always_of_eachStep hinv hgood actions s hI hQ⟩
  induction actions generalizing s with
  | nil => trivial
  | cons a actions ih =>
      intro s' hs
      have htail : Always step Q s' actions := hall.2 s' hs
      have hQ' : Q s' := htail.head
      refine ⟨?_, ih s' (hinv s a s' hI hQ hs) hQ' htail⟩
      by_contra hG
      exact hbad s a s' hI hQ hs hG hQ'

end Foundation
end Tenjin
