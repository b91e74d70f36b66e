import Mathlib.Data.List.Infix
import Mathlib.Logic.Function.Basic
import Tenjin.Foundation.GuardedRun
import Tenjin.Python.Runtime

/-!
# The metaclass of the singletons

`SingletonMetaclass` of `singleton.py`: a call of a class returns the instance that its
`_instance` attribute refers to weakly, or makes one.

* `getattr` looks the attribute up along the method resolution order, so a class without an
  attribute of its own finds the instance of a base class.  The callback of the reference
  leaves `None` in the attribute, which hides those of the base classes.
* A class whose instances have no slot for weak references (a dataclass with `slots=True`
  and without `weakref_slot=True`) has no singleton: the reference cannot be made.
* No class has two bases, as in the services: the order of a base is then the end of the
  order of the class, which a class with two bases would break.
* A caller may keep an instance for as long as it likes; when nobody keeps it, it is
  collected.
* `always_sameInstance` — a call returns what an earlier call has returned, whatever its
  arguments are, until that is collected.
-/

namespace Tenjin
namespace Auxillary

open Foundation
open Python

/-- The classes with the metaclass, none of which has two bases: their method resolution
orders, and whether their instances can be referred to weakly. -/
structure ClassHierarchy (Cls : Type) where
  mro : Cls → List Cls
  mro_head : ∀ cls, ∃ bases, mro cls = cls :: bases
  mro_nodup : ∀ cls, (mro cls).Nodup
  mro_suffix : ∀ cls, ∀ base ∈ mro cls, mro base <:+ mro cls
  weakrefSlot : Cls → Bool

/-- An instance with the arguments that it was made with. -/
structure Instance (Cls Args : Type) where
  id : ℕ
  cls : Cls
  args : Args

/-- The `_instance` attributes, `none` where a class has none of its own, and the instances
that somebody keeps. -/
structure SingletonState (Cls Args : Type) where
  instanceAttr : Cls → Option (Option ℕ)
  objects : List (Instance Cls Args)
  created : ℕ

/-- Before the first call. -/
def noSingletons (Cls Args : Type) : SingletonState Cls Args where
  instanceAttr _ := none
  objects := []
  created := 0

section Calls

variable {Cls Args : Type} [DecidableEq Cls]

/-- `getattr(cls, "_instance", None)`. -/
def getInstance (h : ClassHierarchy Cls) (s : SingletonState Cls Args) (cls : Cls) : Option ℕ :=
  ((h.mro cls).findSome? s.instanceAttr).join

/-- `__call__`.  The initialisation of the instance may raise. -/
def callClass (h : ClassHierarchy Cls) (s : SingletonState Cls Args) (cls : Cls) (args : Args)
    (initFails : Option Exn) : Except Exn ℕ × SingletonState Cls Args :=
  match getInstance h s cls with
  | some id => (.ok id, s)
  | none =>
      match initFails with
      | some exn => (.error exn, { s with created := s.created + 1 })
      | none =>
          if h.weakrefSlot cls then
            (.ok s.created,
              { instanceAttr := Function.update s.instanceAttr cls (some (some s.created))
                objects := ⟨s.created, cls, args⟩ :: s.objects
                created := s.created + 1 })
          else (.error .typeError, { s with created := s.created + 1 })

/-- A call of a class, or the end of an instance that nobody keeps. -/
inductive SingletonLabel (Cls Args : Type)
  | call (cls : Cls) (args : Args) (initFails : Option Exn)
  | collect (id : ℕ)

/-- One step. -/
def singletonStep (h : ClassHierarchy Cls) (s : SingletonState Cls Args) :
    SingletonLabel Cls Args → Option (SingletonState Cls Args)
  | .call cls args initFails => some (callClass h s cls args initFails).2
  | .collect id =>
      match s.objects.find? (·.id = id) with
      | none => none
      | some obj =>
          some { s with
            -- the callback of the weak reference
            instanceAttr := Function.update s.instanceAttr obj.cls (some none)
            objects := s.objects.filter (·.id ≠ id) }

/-- The references and the instances belong together, one for each class. -/
structure SingletonSound (h : ClassHierarchy Cls) (s : SingletonState Cls Args) : Prop where
  attr_live : ∀ cls id, s.instanceAttr cls = some (some id) →
    ∃ obj ∈ s.objects, obj.id = id ∧ obj.cls = cls
  live_attr : ∀ obj ∈ s.objects, s.instanceAttr obj.cls = some (some obj.id)
  id_lt : ∀ obj ∈ s.objects, obj.id < s.created
  ids_inj : ∀ obj ∈ s.objects, ∀ other ∈ s.objects, obj.id = other.id → obj = other
  slots : ∀ obj ∈ s.objects, h.weakrefSlot obj.cls = true

/-- No class has two instances, and no instance lacks the slot for weak references. -/
def OneEach (h : ClassHierarchy Cls) (s : SingletonState Cls Args) : Prop :=
  (∀ obj ∈ s.objects, ∀ other ∈ s.objects, obj.cls = other.cls → obj = other) ∧
    ∀ obj ∈ s.objects, h.weakrefSlot obj.cls = true

theorem findSome?_congr {α β : Type} {f g : α → Option β} {items : List α}
    (hsame : ∀ a ∈ items, g a = f a) : items.findSome? g = items.findSome? f := by
  induction items with
  | nil => rfl
  | cons a items ih =>
      rw [List.findSome?_cons, List.findSome?_cons, hsame a (List.mem_cons_self ..),
        ih fun c hc => hsame c (List.mem_cons_of_mem _ hc)]

/-- What is found first stays so, if what is found is kept and nothing is added before. -/
theorem findSome?_of_kept {α β : Type} {f g : α → Option β} {items : List α} {b : β}
    (hnone : ∀ a ∈ items, f a = none → g a = none)
    (hkept : ∀ a ∈ items, f a = some b → g a = some b)
    (h : items.findSome? f = some b) : items.findSome? g = some b := by
  induction items with
  | nil => cases h
  | cons a items ih =>
      have htail := ih (fun c hc => hnone c (List.mem_cons_of_mem _ hc))
        fun c hc => hkept c (List.mem_cons_of_mem _ hc)
      rw [List.findSome?_cons] at h ⊢
      cases hf : f a with
      | none =>
          rw [hf] at h
          rw [hnone a (List.mem_cons_self ..) hf]
          exact htail h
      | some c =>
          rw [hf] at h
          cases h
          rw [hkept a (List.mem_cons_self ..) hf]

omit [DecidableEq Cls] in
theorem getInstance_eq_some {h : ClassHierarchy Cls} {s : SingletonState Cls Args} {cls : Cls}
    {id : ℕ} : getInstance h s cls = some id ↔
      (h.mro cls).findSome? s.instanceAttr = some (some id) := by
  unfold getInstance
  rw [Option.join_eq_some_iff]

/-- A call finds an instance, or the attributes that are found first are not set or
`None`. -/
theorem callClass_cases (h : ClassHierarchy Cls) (s : SingletonState Cls Args) (cls : Cls)
    (args : Args) (initFails : Option Exn) :
    (∃ id, getInstance h s cls = some id ∧ callClass h s cls args initFails = (.ok id, s)) ∨
    (getInstance h s cls = none ∧ ∃ exn,
      callClass h s cls args initFails = (.error exn, { s with created := s.created + 1 })) ∨
    (getInstance h s cls = none ∧ h.weakrefSlot cls = true ∧
      callClass h s cls args initFails = (.ok s.created,
        { instanceAttr := Function.update s.instanceAttr cls (some (some s.created))
          objects := ⟨s.created, cls, args⟩ :: s.objects
          created := s.created + 1 })) := by
  unfold callClass
  cases getInstance h s cls with
  | some id => exact .inl ⟨id, rfl, rfl⟩
  | none =>
      right
      cases initFails with
      | some exn => exact .inl ⟨rfl, exn, rfl⟩
      | none =>
          cases hslot : h.weakrefSlot cls with
          | true => exact .inr ⟨rfl, rfl, rfl⟩
          | false => exact .inl ⟨rfl, .typeError, rfl⟩

omit [DecidableEq Cls] in
/-- The attribute of a class that finds no instance is not set, or `None`. -/
theorem attr_of_getInstance_none {h : ClassHierarchy Cls} {s : SingletonState Cls Args}
    {cls : Cls} (hnone : getInstance h s cls = none) (id : ℕ) :
    s.instanceAttr cls ≠ some (some id) := by
  intro hattr
  obtain ⟨bases, hmro⟩ := h.mro_head cls
  have hfound : getInstance h s cls = some id := by
    rw [getInstance_eq_some, hmro, List.findSome?_cons, hattr]
  rw [hnone] at hfound
  cases hfound

/-- Every step keeps the references and the instances together. -/
theorem singletonSound_step {h : ClassHierarchy Cls} {s s' : SingletonState Cls Args}
    {label : SingletonLabel Cls Args} (hsound : SingletonSound h s)
    (hstep : singletonStep h s label = some s') : SingletonSound h s' := by
  cases label with
  | call cls args initFails =>
      simp only [singletonStep, Option.some.injEq] at hstep
      subst hstep
      rcases callClass_cases h s cls args initFails with
        ⟨id, _, hcall⟩ | ⟨_, exn, hcall⟩ | ⟨hnone, hslot, hcall⟩
      · rwa [hcall]
      · rw [hcall]
        exact ⟨hsound.attr_live, hsound.live_attr,
          fun obj hobj => Nat.lt_succ_of_lt (hsound.id_lt obj hobj), hsound.ids_inj, hsound.slots⟩
      · rw [hcall]
        have hother : ∀ obj ∈ s.objects, obj.cls ≠ cls := by
          intro obj hobj hsame
          exact attr_of_getInstance_none hnone obj.id (hsame ▸ hsound.live_attr obj hobj)
        refine ⟨?_, ?_, ?_, ?_, ?_⟩
        · intro owner id hattr
          dsimp only at hattr
          by_cases hsame : owner = cls
          · rw [hsame, Function.update_self] at hattr
            cases hattr
            exact ⟨_, List.mem_cons_self .., rfl, hsame.symm⟩
          · rw [Function.update_of_ne hsame] at hattr
            obtain ⟨obj, hobj, hrest⟩ := hsound.attr_live owner id hattr
            exact ⟨obj, List.mem_cons_of_mem _ hobj, hrest⟩
        · intro obj hobj
          dsimp only
          rcases List.mem_cons.mp hobj with rfl | hobj
          · rw [Function.update_self]
          · rw [Function.update_of_ne (hother obj hobj)]
            exact hsound.live_attr obj hobj
        · intro obj hobj
          rcases List.mem_cons.mp hobj with rfl | hobj
          · exact Nat.lt_succ_self _
          · exact Nat.lt_succ_of_lt (hsound.id_lt obj hobj)
        · intro obj hobj other hotherMem hid
          rcases List.mem_cons.mp hobj with rfl | hobj <;>
            rcases List.mem_cons.mp hotherMem with rfl | hotherMem
          · rfl
          · exact absurd hid (Nat.ne_of_gt (hsound.id_lt other hotherMem))
          · exact absurd hid (Nat.ne_of_lt (hsound.id_lt obj hobj))
          · exact hsound.ids_inj obj hobj other hotherMem hid
        · intro obj hobj
          rcases List.mem_cons.mp hobj with rfl | hobj
          · exact hslot
          · exact hsound.slots obj hobj
  | collect id =>
      simp only [singletonStep] at hstep
      split at hstep
      · cases hstep
      · rename_i gone hfound
        cases hstep
        have hgone : gone ∈ s.objects := List.mem_of_find?_eq_some hfound
        have hid : gone.id = id := by simpa using List.find?_some hfound
        have hkept : ∀ obj ∈ s.objects.filter (·.id ≠ id), obj ∈ s.objects ∧ obj.id ≠ id := by
          intro obj hobj
          simpa using hobj
        refine ⟨?_, ?_, ?_, ?_, ?_⟩
        · intro owner other hattr
          dsimp only at hattr
          by_cases hsame : owner = gone.cls
          · rw [hsame, Function.update_self] at hattr
            cases hattr
          · rw [Function.update_of_ne hsame] at hattr
            obtain ⟨obj, hobj, hobjId, hcls⟩ := hsound.attr_live owner other hattr
            refine ⟨obj, ?_, hobjId, hcls⟩
            -- the collected instance belongs to another class
            have hne : obj.id ≠ id := by
              intro heq
              have hobjGone := hsound.ids_inj obj hobj gone hgone (heq.trans hid.symm)
              exact hsame (hcls.symm.trans (congrArg Instance.cls hobjGone))
            simp [hobj, hne]
        · intro obj hobj
          obtain ⟨hmem, hne⟩ := hkept obj hobj
          dsimp only
          have hcls : obj.cls ≠ gone.cls := by
            intro hsame
            have hattr := hsound.live_attr obj hmem
            rw [hsame, hsound.live_attr gone hgone] at hattr
            exact hne (by simpa [hid] using hattr.symm)
          rw [Function.update_of_ne hcls]
          exact hsound.live_attr obj hmem
        · exact fun obj hobj => hsound.id_lt obj (hkept obj hobj).1
        · exact fun obj hobj other hother => hsound.ids_inj obj (hkept obj hobj).1 other
            (hkept other hother).1
        · exact fun obj hobj => hsound.slots obj (hkept obj hobj).1

omit [DecidableEq Cls] in
theorem SingletonSound.oneEach {h : ClassHierarchy Cls} {s : SingletonState Cls Args}
    (hsound : SingletonSound h s) : OneEach h s := by
  refine ⟨fun obj hobj other hother hcls => ?_, hsound.slots⟩
  have hattr := hsound.live_attr obj hobj
  rw [hcls, hsound.live_attr other hother] at hattr
  exact hsound.ids_inj obj hobj other hother (by simpa using hattr.symm)

omit [DecidableEq Cls] in
theorem singletonSound_start (h : ClassHierarchy Cls) :
    SingletonSound h (noSingletons Cls Args) := by
  refine ⟨?_, ?_, ?_, ?_, ?_⟩
  · intro cls id hattr
    cases hattr
  · exact fun obj hobj => absurd hobj List.not_mem_nil
  · exact fun obj hobj => absurd hobj List.not_mem_nil
  · exact fun obj hobj => absurd hobj List.not_mem_nil
  · exact fun obj hobj => absurd hobj List.not_mem_nil

/-- Every state that a run reaches is sound. -/
theorem singletonSound_of_run {h : ClassHierarchy Cls} {actions : List (SingletonLabel Cls Args)}
    {s : SingletonState Cls Args}
    (hrun : runActions (singletonStep h) (noSingletons Cls Args) actions = some s) :
    SingletonSound h s :=
  runActions_preserves (fun _ _ _ hsound hstep => singletonSound_step hsound hstep) actions _ _
    (singletonSound_start h) hrun

/-- A new instance of a class hides no instance that another class finds: a class before
the one that is found finds it as well. -/
theorem getInstance_of_new {h : ClassHierarchy Cls} {s : SingletonState Cls Args}
    {cls other : Cls} {id : ℕ} (value : Option ℕ) (hfound : getInstance h s cls = some id)
    (hnone : getInstance h s other = none) :
    ((h.mro cls).findSome? (Function.update s.instanceAttr other (some value))) =
      some (some id) := by
  rw [getInstance_eq_some] at hfound
  set updated := Function.update s.instanceAttr other (some value)
  by_cases hbase : other ∈ h.mro cls
  · obtain ⟨before, hsplit⟩ := h.mro_suffix cls other hbase
    have hnot : other ∉ before := by
      intro hmem
      obtain ⟨bases, hmro⟩ := h.mro_head other
      have hnodup := h.mro_nodup cls
      rw [← hsplit, hmro] at hnodup
      exact (List.nodup_append.mp hnodup).2.2 other hmem other (List.mem_cons_self ..) rfl
    rw [← hsplit, List.findSome?_append] at hfound ⊢
    cases hbefore : before.findSome? s.instanceAttr with
    | none =>
        -- the instance would be found by the other class
        rw [hbefore, Option.none_or] at hfound
        rw [getInstance_eq_some.mpr hfound] at hnone
        cases hnone
    | some found =>
        rw [hbefore, Option.some_or] at hfound
        cases hfound
        have hsame : ∀ base ∈ before, updated base = s.instanceAttr base := fun base hmem =>
          Function.update_of_ne (ne_of_mem_of_not_mem hmem hnot) _ _
        rw [findSome?_congr hsame, hbefore, Option.some_or]
  · rw [findSome?_congr fun base hmem =>
      Function.update_of_ne (ne_of_mem_of_not_mem hmem hbase) _ _]
    exact hfound

/-- What a class finds it finds until it is collected. -/
theorem getInstance_step {h : ClassHierarchy Cls} {s s' : SingletonState Cls Args}
    {label : SingletonLabel Cls Args} (hsound : SingletonSound h s) {cls : Cls} {id : ℕ}
    (hfound : getInstance h s cls = some id) (hstep : singletonStep h s label = some s')
    (hkept : label ≠ .collect id) : getInstance h s' cls = some id := by
  cases label with
  | call other args initFails =>
      simp only [singletonStep, Option.some.injEq] at hstep
      subst hstep
      rcases callClass_cases h s other args initFails with
        ⟨_, _, hcall⟩ | ⟨_, exn, hcall⟩ | ⟨hnone, _, hcall⟩
      · rwa [hcall]
      · rwa [hcall]
      · rw [hcall, getInstance_eq_some]
        exact getInstance_of_new (some s.created) hfound hnone
  | collect gone =>
      simp only [singletonStep] at hstep
      split at hstep
      · cases hstep
      · rename_i obj hobj
        cases hstep
        have hmem : obj ∈ s.objects := List.mem_of_find?_eq_some hobj
        have hid : obj.id = gone := by simpa using List.find?_some hobj
        have hattr := hsound.live_attr obj hmem
        have hne : obj.id ≠ id := fun hsame => hkept (by rw [← hsame, hid])
        rw [getInstance_eq_some] at hfound ⊢
        refine findSome?_of_kept (f := s.instanceAttr) ?_ ?_ hfound
        · intro base _ hunset
          have hother : base ≠ obj.cls := by
            rintro rfl
            rw [hattr] at hunset
            cases hunset
          dsimp only
          rwa [Function.update_of_ne hother]
        · intro base _ hset
          have hother : base ≠ obj.cls := by
            rintro rfl
            rw [hattr] at hset
            cases hset
            exact hne rfl
          dsimp only
          rwa [Function.update_of_ne hother]

/-- What a call has returned is what the class finds after it. -/
theorem getInstance_of_returned {h : ClassHierarchy Cls} {s : SingletonState Cls Args}
    {cls : Cls} {args : Args} {initFails : Option Exn} {id : ℕ}
    (hreturned : (callClass h s cls args initFails).1 = .ok id) :
    getInstance h (callClass h s cls args initFails).2 cls = some id := by
  rcases callClass_cases h s cls args initFails with
    ⟨found, hfound, hcall⟩ | ⟨_, exn, hcall⟩ | ⟨_, _, hcall⟩
  · rw [hcall] at hreturned ⊢
    cases hreturned
    exact hfound
  · rw [hcall] at hreturned
    cases hreturned
  · rw [hcall] at hreturned ⊢
    cases hreturned
    obtain ⟨bases, hmro⟩ := h.mro_head cls
    rw [getInstance_eq_some, hmro, List.findSome?_cons]
    dsimp only
    rw [Function.update_self]

/-- In every run no class has two instances.  After a call that returns, every call of the
class returns the same instance, whatever its arguments are and whatever other classes are
called, until that instance is collected. -/
theorem always_sameInstance (h : ClassHierarchy Cls)
    {actions later : List (SingletonLabel Cls Args)} {s : SingletonState Cls Args} {cls : Cls}
    {args : Args} {initFails : Option Exn} {id : ℕ}
    (hrun : runActions (singletonStep h) (noSingletons Cls Args) actions = some s)
    (hreturned : (callClass h s cls args initFails).1 = .ok id)
    (hkept : .collect id ∉ later) :
    Always (singletonStep h) (fun t => OneEach h t ∧
        ∀ args' initFails', callClass h t cls args' initFails' = (.ok id, t))
      (callClass h s cls args initFails).2 later := by
  have hcall : singletonStep h s (.call cls args initFails) =
      some (callClass h s cls args initFails).2 := rfl
  have hsound : SingletonSound h (callClass h s cls args initFails).2 :=
    singletonSound_step (singletonSound_of_run hrun) hcall
  have hfound := getInstance_of_returned hreturned
  have hall : Always (singletonStep h)
      (fun t => SingletonSound h t ∧ getInstance h t cls = some id)
      (callClass h s cls args initFails).2 later := by
    generalize (callClass h s cls args initFails).2 = t at hsound hfound
    induction later generalizing t with
    | nil => exact ⟨hsound, hfound⟩
    | cons label later ih =>
        rw [List.mem_cons, not_or] at hkept
        refine ⟨⟨hsound, hfound⟩, fun t' hstep => ?_⟩
        exact ih hkept.2 t' (singletonSound_step hsound hstep)
          (getInstance_step hsound hfound hstep (Ne.symm hkept.1))
  refine hall.imp ?_
  rintro t ⟨ht, hinstance⟩
  refine ⟨ht.oneEach, fun args' initFails' => ?_⟩
  unfold callClass
  rw [hinstance]

end Calls

/-- The classes of the repository that have the metaclass.  None of them is a base class of
another one. -/
inductive SingletonClass
  | queueRegistry
  | emailQueueRegistry
  | keydataRepository
  | animeRepository
  | postRepository
  | forumRepository
  | commentRepository
  | userRepository
  | keyManager
  | eventStreamer
  | cacheManager
  deriving DecidableEq

/-- The two queue registries are dataclasses with `slots=True` only. -/
def tenjinClasses : ClassHierarchy SingletonClass where
  mro cls := [cls]
  mro_head cls := ⟨[], rfl⟩
  mro_nodup cls := by simp
  mro_suffix cls base hbase := by
    rw [List.mem_singleton.mp hbase]
  weakrefSlot
    | .queueRegistry => false
    | .emailQueueRegistry => false
    | _ => true

/-- The key manager is made once. -/
theorem sameInstance_keyManager :
    (callClass tenjinClasses
      (callClass tenjinClasses (noSingletons SingletonClass ℕ) .keyManager 1 none).2
      .keyManager 2 none).1 = .ok 0 := by
  have hall := @always_sameInstance SingletonClass ℕ _ tenjinClasses [] [] _ .keyManager 1 none 0
    rfl rfl List.not_mem_nil
  rw [hall.head.2 2 none]

/-- A call of a class without the slot raises. -/
theorem callClass_of_noSlot {Args : Type} {s : SingletonState SingletonClass Args}
    (hs : SingletonSound tenjinClasses s) {cls : SingletonClass}
    (hslot : tenjinClasses.weakrefSlot cls = false) (args : Args) (initFails : Option Exn) :
    (callClass tenjinClasses s cls args initFails).1 = .error (initFails.getD .typeError) := by
  have hnone : getInstance tenjinClasses s cls = none := by
    cases hfound : getInstance tenjinClasses s cls with
    | none => rfl
    | some id =>
        -- the instance would have the slot
        rw [getInstance_eq_some] at hfound
        have hattr : s.instanceAttr cls = some (some id) := by
          simpa [tenjinClasses] using hfound
        obtain ⟨obj, hobj, _, hcls⟩ := hs.attr_live cls id hattr
        have hhas := hs.slots obj hobj
        rw [hcls, hslot] at hhas
        cases hhas
  unfold callClass
  rw [hnone]
  cases initFails with
  | some exn => rfl
  | none =>
      dsimp only
      rw [if_neg (by rw [hslot]; decide)]
      rfl

/-- In every run a call of a class without the slot raises: neither the database workers nor
the email worker ever get a queue registry. -/
theorem always_noQueueRegistry {Args : Type}
    (actions : List (SingletonLabel SingletonClass Args)) :
    Always (singletonStep tenjinClasses)
      (fun s => ∀ cls, tenjinClasses.weakrefSlot cls = false → ∀ args initFails,
        (callClass tenjinClasses s cls args initFails).1 =
          .error (initFails.getD .typeError))
      (noSingletons SingletonClass Args) actions := by
  have hsound : Always (singletonStep tenjinClasses) (SingletonSound tenjinClasses)
      (noSingletons SingletonClass Args) actions :=
    always_of_preserved (fun _ _ _ hs hstep => singletonSound_step hs hstep) actions _
      (singletonSound_start tenjinClasses)
  exact hsound.imp fun s hs cls hslot args initFails => callClass_of_noSlot hs hslot args initFails

end Auxillary
end Tenjin
