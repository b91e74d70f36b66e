import Mathlib.Tactic.ByContra

/-!
# Computations that raise and keep their effects

`EStateM ε σ α` is a computation on a state `σ` that returns a value or raises, and
that keeps what it has done to the state when it raises: a sequence of file operations,
or a task that an exception cuts off.

* `stateAfter` is the state that it leaves behind, however it ends.
* `Keeps I x` says that `x` leaves `I` true however it ends.
* `KeepsOnError I x` says so of the ends in an exception only, for a computation whose
  last operation is meant to change what the others keep.
-/

namespace Tenjin
namespace Foundation

variable {ε σ α β : Type}

/-- The state that a computation leaves behind. -/
def stateAfter (x : EStateM ε σ α) (s : σ) : σ :=
  match x s with
  | .ok _ s' => s'
  | .error _ s' => s'

theorem stateAfter_of_ok {x : EStateM ε σ α} {s s' : σ} {a : α} (h : x s = .ok a s') :
    stateAfter x s = s' := by
  simp only [stateAfter, h]

theorem stateAfter_of_error {x : EStateM ε σ α} {s s' : σ} {e : ε} (h : x s = .error e s') :
    stateAfter x s = s' := by
  simp only [stateAfter, h]

/-- A composition returns what its second part returns after the first has returned. -/
theorem bind_eq_ok {x : EStateM ε σ α} {f : α → EStateM ε σ β} {s s' : σ} {b : β} :
    (x >>= f) s = .ok b s' ↔ ∃ a t, x s = .ok a t ∧ f a t = .ok b s' := by
  show EStateM.bind x f s = _ ↔ _
  unfold EStateM.bind
  cases hx : x s with
  | ok a t =>
      constructor
      · intro h
        exact ⟨a, t, rfl, h⟩
      · rintro ⟨a', t', heq, h⟩
        cases heq
        exact h
  | error e t =>
      constructor
      · intro h
        cases h
      · rintro ⟨a', t', heq, _⟩
        cases heq

/-- A composition raises in its first part, or in the second after the first has
returned. -/
theorem bind_eq_error {x : EStateM ε σ α} {f : α → EStateM ε σ β} {s s' : σ} {e : ε} :
    (x >>= f) s = .error e s' ↔
      x s = .error e s' ∨ ∃ a t, x s = .ok a t ∧ f a t = .error e s' := by
  show EStateM.bind x f s = _ ↔ _
  unfold EStateM.bind
  cases hx : x s with
  | ok a t =>
      constructor
      · intro h
        exact .inr ⟨a, t, rfl, h⟩
      · rintro (heq | ⟨a', t', heq, h⟩)
        · cases heq
        · cases heq
          exact h
  | error e' t =>
      constructor
      · intro h
        left
        cases h
        rfl
      · rintro (heq | ⟨a', t', heq, _⟩)
        · cases heq
          rfl
        · cases heq

theorem stateAfter_congr {x y : EStateM ε σ α} {s t : σ} (h : x s = y t) :
    stateAfter x s = stateAfter y t := by
  simp only [stateAfter, h]

/-- A composition whose first part has returned goes on with the second. -/
theorem bind_of_ok {x : EStateM ε σ α} {f : α → EStateM ε σ β} {s t : σ} {a : α}
    (h : x s = .ok a t) : (x >>= f) s = f a t := by
  show EStateM.bind x f s = _
  unfold EStateM.bind
  rw [h]

/-- A composition whose first part raises raises the same. -/
theorem bind_of_error {x : EStateM ε σ α} {f : α → EStateM ε σ β} {s t : σ} {e : ε}
    (h : x s = .error e t) : (x >>= f) s = .error e t :=
  bind_eq_error.mpr (.inl h)

theorem stateAfter_bind_of_ok {x : EStateM ε σ α} {f : α → EStateM ε σ β} {s t : σ} {a : α}
    (h : x s = .ok a t) : stateAfter (x >>= f) s = stateAfter (f a) t :=
  stateAfter_congr (bind_of_ok h)

/-- A computation that first reads the state goes on with it. -/
@[simp] theorem get_bind_run (f : σ → EStateM ε σ β) (s : σ) : (get >>= f) s = f s s := rfl

theorem stateAfter_get_bind (f : σ → EStateM ε σ β) (s : σ) :
    stateAfter (get >>= f) s = stateAfter (f s) s := rfl

/-- A second part that changes nothing leaves what the first part has left. -/
theorem stateAfter_bind_of_unchanged {x : EStateM ε σ α} {f : α → EStateM ε σ β}
    (h : ∀ a t, stateAfter (f a) t = t) (s : σ) : stateAfter (x >>= f) s = stateAfter x s := by
  cases hx : x s with
  | ok a t => rw [stateAfter_bind_of_ok hx, stateAfter_of_ok hx, h a t]
  | error e t => rw [stateAfter_of_error hx, stateAfter_of_error (bind_of_error hx)]

/-- However the computation ends, it leaves `I` true. -/
def Keeps (I : σ → Prop) (x : EStateM ε σ α) : Prop :=
  ∀ s, I s → I (stateAfter x s)

/-- If the computation raises, it leaves `I` true. -/
def KeepsOnError (I : σ → Prop) (x : EStateM ε σ α) : Prop :=
  ∀ s e s', I s → x s = .error e s' → I s'

theorem Keeps.ok {I : σ → Prop} {x : EStateM ε σ α} (h : Keeps I x) {s s' : σ} {a : α}
    (hI : I s) (hx : x s = .ok a s') : I s' :=
  stateAfter_of_ok hx ▸ h s hI

theorem Keeps.onError {I : σ → Prop} {x : EStateM ε σ α} (h : Keeps I x) :
    KeepsOnError I x := by
  intro s e s' hI hx
  exact stateAfter_of_error hx ▸ h s hI

theorem Keeps.pure {I : σ → Prop} (a : α) : Keeps I (pure a : EStateM ε σ α) :=
  fun _ hI => hI

theorem Keeps.modify {I : σ → Prop} {f : σ → σ} (h : ∀ s, I s → I (f s)) :
    Keeps I (modify f : EStateM ε σ PUnit) :=
  fun s hI => h s hI

theorem Keeps.throw {I : σ → Prop} (e : ε) : Keeps I (throw e : EStateM ε σ α) :=
  fun _ hI => hI

/-- A composition keeps what both of its parts keep. -/
theorem Keeps.bind {I : σ → Prop} {x : EStateM ε σ α} {f : α → EStateM ε σ β}
    (hx : Keeps I x) (hf : ∀ a, Keeps I (f a)) : Keeps I (x >>= f) := by
  intro s hI
  cases h : (x >>= f) s with
  | ok b s' =>
      obtain ⟨a, t, hxs, hft⟩ := bind_eq_ok.mp h
      rw [stateAfter_of_ok h]
      exact (hf a).ok (hx.ok hI hxs) hft
  | error e s' =>
      rw [stateAfter_of_error h]
      rcases bind_eq_error.mp h with hxs | ⟨a, t, hxs, hft⟩
      · exact hx.onError s e s' hI hxs
      · exact (hf a).onError t e s' (hx.ok hI hxs) hft

/-- A composition keeps `I` on an exception if its first part always keeps it. -/
theorem KeepsOnError.bind {I : σ → Prop} {x : EStateM ε σ α} {f : α → EStateM ε σ β}
    (hx : Keeps I x) (hf : ∀ a, KeepsOnError I (f a)) : KeepsOnError I (x >>= f) := by
  intro s e s' hI h
  rcases bind_eq_error.mp h with hxs | ⟨a, t, hxs, hft⟩
  · exact hx.onError s e s' hI hxs
  · exact hf a t e s' (hx.ok hI hxs) hft

/-- A loop keeps what its body keeps. -/
theorem Keeps.forM {I : σ → Prop} {body : α → EStateM ε σ Unit} {items : List α}
    (h : ∀ a ∈ items, Keeps I (body a)) : Keeps I (items.forM body) := by
  induction items with
  | nil => exact Keeps.pure ()
  | cons a items ih =>
      show Keeps I (body a >>= fun _ => items.forM body)
      apply Keeps.bind (h a (List.mem_cons_self ..))
      intro _
      exact ih fun b hb => h b (List.mem_cons_of_mem _ hb)

end Foundation
end Tenjin
