import Tenjin.ResourceServer.IntentReads
import Tenjin.ResourceServer.RedisKeys

/-!
# The guard in the whole store

`guard_action` again, now with all its locks and intents in one store: requests of any
users for any actions on any resources, the intents that are written and removed in
between, everything else that the server keeps there, and locks whose time is over.

* `guardKeyspaceStep` works on the keys themselves.  `GuardKeyspace.seenBy` is what it looks
  like from one target: a run of `timedGuardStep`, which is `guardStep` with a lock that
  expires.
* `runActions_seenBy` — what a target sees depends on the requests for it and on its own
  lock and intent only.
* `always_exclusive_everywhere_iff` — the guard excludes for every target if and only if no
  lock is removed while a request is inside that holds it.
-/

namespace Tenjin
namespace ResourceServer

open Python Foundation ResourceAuxillary

/-- What happens on one lock key, where the lock may also expire. -/
inductive TimedGuardLabel
  | command (label : GuardLabel)
  | lockExpires

section
variable (decodeResponses : Bool) (options : ℕ → GuardOptions)

/-- The requests on one lock key, with a lock that may expire at any time. -/
def timedGuardStep (s : GuardState) : TimedGuardLabel → Option GuardState
  | .command label => guardStep decodeResponses options s label
  | .lockExpires => some { s with lock := false }

end

/-- The lock is deleted or expires only while no request is inside. -/
def RemovedAlone (s : GuardState) : TimedGuardLabel → Prop
  | .command label => DeletesAlone s label
  | .lockExpires => ∀ j, s.phases j ≠ .inside

/-- The store, and where each request is. -/
structure GuardKeyspace where
  store : String → Option String
  phases : ℕ → Phase

/-- What may happen to the store.  `other` is a write or a deletion, or the expiry, of
anything that the guard does not keep. -/
inductive KeyspaceLabel
  | enter (i : ℕ)
  | finish (i : ℕ)
  | cleanup (i : ℕ)
  | setIntent (target : GuardTarget) (flag : IntentFlag) (intentId : String)
  | removeIntent (target : GuardTarget)
  | lockExpires (target : GuardTarget)
  | other (key : RedisKey) (value : Option String)

/-- `SET` with `NX`. -/
def setNx (store : String → Option String) (key value : String) : String → Option String :=
  if (store key).isNone then Function.update store key (some value) else store

/-- The target whose lock or intent is kept under the key. -/
def RedisKey.guarded : RedisKey → Option GuardTarget
  | .value (.intent target) => some target
  | .lock (.action target) => some target
  | _ => none

section
variable (decodeResponses : Bool) (options : ℕ → GuardOptions) (targets : ℕ → GuardTarget)

/-- The requests of any number of clients on the keys of their targets. -/
def guardKeyspaceStep (s : GuardKeyspace) : KeyspaceLabel → Option GuardKeyspace
  | .enter i =>
      if s.phases i = .idle then
        let target := targets i
        let lockSet := (s.store target.lockName).isNone
        let store := setNx s.store target.lockName "1"
        match guardAction decodeResponses (options i) lockSet (store target.intent) with
        | .rejected _ => some ⟨store, Function.update s.phases i .leaving⟩
        | .entered _ => some ⟨store, Function.update s.phases i .inside⟩
      else none
  | .finish i =>
      if s.phases i = .inside then
        some ⟨s.store, Function.update s.phases i .leaving⟩
      else none
  | .cleanup i =>
      if s.phases i = .leaving then
        some ⟨Function.update s.store (targets i).lockName none,
          Function.update s.phases i .done⟩
      else none
  | .setIntent target flag intentId =>
      some { s with
        store := Function.update s.store target.intent (some (writtenIntent flag intentId)) }
  | .removeIntent target => some { s with store := Function.update s.store target.intent none }
  | .lockExpires target => some { s with store := Function.update s.store target.lockName none }
  | .other key value =>
      if key.guarded = none then some { s with store := Function.update s.store key.text value }
      else none

/-- The lock, the intent and the requests of one target. -/
def GuardKeyspace.seenBy (target : GuardTarget) (s : GuardKeyspace) : GuardState where
  lock := (s.store target.lockName).isSome
  intent := s.store target.intent
  phases := fun i => if targets i = target then s.phases i else .idle

/-- What a target sees of a label. -/
def KeyspaceLabel.seenBy (target : GuardTarget) : KeyspaceLabel → Option TimedGuardLabel
  | .enter i => if targets i = target then some (.command (.enter i)) else none
  | .finish i => if targets i = target then some (.command (.finish i)) else none
  | .cleanup i => if targets i = target then some (.command (.cleanup i)) else none
  | .setIntent t flag intentId =>
      if t = target then some (.command (.intentChange (some (writtenIntent flag intentId))))
      else none
  | .removeIntent t => if t = target then some (.command (.intentChange none)) else none
  | .lockExpires t => if t = target then some .lockExpires else none
  | .other _ _ => none

end

theorem lockName_inj {t t' : GuardTarget} : t.lockName = t'.lockName ↔ t = t' :=
  ((RedisKey.lock (.action t)).text_eq_iff (.lock (.action t'))).trans
    ⟨KeyName.intent.inj, congrArg _⟩

theorem intent_inj {t t' : GuardTarget} : t.intent = t'.intent ↔ t = t' :=
  ((RedisKey.value (.intent t)).text_eq_iff (.value (.intent t'))).trans
    ⟨KeyName.intent.inj, congrArg _⟩

theorem intent_ne_lockName (t t' : GuardTarget) : t.intent ≠ t'.lockName :=
  (KeyName.intent t).text_ne_lock (.action t')

/-- An intent shares its key with nothing else. -/
theorem eq_intent_of_shares {name : KeyName} {t : GuardTarget} (h : name.Shares (.intent t)) :
    name = .intent t := by
  cases name with
  | cached site => cases site <;> exact nomatch h
  | _ => exact h

/-- A key that the guard does not keep is none of its keys. -/
theorem text_ne_of_not_guarded {key : RedisKey} (h : key.guarded = none) (t : GuardTarget) :
    key.text ≠ t.intent ∧ key.text ≠ t.lockName := by
  constructor
  · intro heq
    have hshares := (key.text_eq_iff (.value (.intent t))).mp heq
    cases key with
    | lock lock => exact hshares
    | value name =>
        rw [eq_intent_of_shares hshares] at h
        cases h
  · intro heq
    have hshares := (key.text_eq_iff (.lock (.action t))).mp heq
    cases key with
    | value name => exact hshares
    | lock lock =>
        have hguarded : lock.guarded = .intent t := eq_intent_of_shares hshares
        cases lock with
        | action t' => cases h
        | fetch site | fetchPage p | account username => cases hguarded

section
variable {decodeResponses : Bool} {options : ℕ → GuardOptions} {targets : ℕ → GuardTarget}

/-- The phases that a target sees after one of its requests has moved. -/
theorem seenBy_phases_self {phases : ℕ → Phase} {i : ℕ} {target : GuardTarget}
    (hi : targets i = target) (phase : Phase) :
    (fun j => if targets j = target then Function.update phases i phase j else .idle) =
      fun j => if j = i then phase else if targets j = target then phases j else .idle := by
  funext j
  by_cases hj : j = i
  · subst hj
    simp [hi]
  · simp [hj]

/-- The requests for other targets are not seen. -/
theorem seenBy_phases_of_ne {phases : ℕ → Phase} {i : ℕ} {target : GuardTarget}
    (hi : targets i ≠ target) (phase : Phase) :
    (fun j => if targets j = target then Function.update phases i phase j else .idle) =
      fun j => if targets j = target then phases j else Phase.idle := by
  funext j
  by_cases hj : j = i
  · subst hj
    simp [hi]
  · simp [hj]

theorem setNx_of_ne {store : String → Option String} {key key' : String} (h : key' ≠ key)
    (value : String) : setNx store key value key' = store key' := by
  unfold setNx
  split
  · exact Function.update_of_ne h _ _
  · rfl

theorem setNx_self_isSome (store : String → Option String) (key value : String) :
    (setNx store key value key).isSome = true := by
  unfold setNx
  split
  · simp
  · rename_i hset
    exact Option.isSome_iff_ne_none.mpr (fun h => hset (by rw [h]; rfl))

/-- Writes to other keys than those of the target are not seen. -/
theorem seenBy_update_of_ne (s : GuardKeyspace) {target : GuardTarget} {key : String}
    (hintent : target.intent ≠ key) (hlock : target.lockName ≠ key) (value : Option String) :
    GuardKeyspace.seenBy targets target { s with store := Function.update s.store key value } =
      s.seenBy targets target := by
  simp [GuardKeyspace.seenBy, Function.update_of_ne hintent, Function.update_of_ne hlock]

/-- The transaction of a request for the target. -/
theorem seenBy_enter (s : GuardKeyspace) {i : ℕ} {target : GuardTarget}
    (hi : targets i = target) (phase : Phase) :
    GuardKeyspace.seenBy targets target
        ⟨setNx s.store target.lockName "1", Function.update s.phases i phase⟩ =
      GuardState.setPhase { s.seenBy targets target with lock := true } i phase := by
  simp only [GuardKeyspace.seenBy, setNx_self_isSome,
    setNx_of_ne (intent_ne_lockName target target), seenBy_phases_self hi, GuardState.setPhase]

/-- The transaction of a request for another target. -/
theorem seenBy_enter_of_ne (s : GuardKeyspace) {i : ℕ} {target : GuardTarget}
    (hi : targets i ≠ target) (phase : Phase) :
    GuardKeyspace.seenBy targets target
        ⟨setNx s.store (targets i).lockName "1", Function.update s.phases i phase⟩ =
      s.seenBy targets target := by
  have hlock : target.lockName ≠ (targets i).lockName := fun h => hi (lockName_inj.mp h).symm
  simp only [GuardKeyspace.seenBy, setNx_of_ne (intent_ne_lockName target (targets i)),
    setNx_of_ne hlock, seenBy_phases_of_ne hi]

/-- A write to the intent of the target, or its removal. -/
theorem seenBy_intent_self (s : GuardKeyspace) (target : GuardTarget) (intent : Option String) :
    GuardKeyspace.seenBy targets target
        { s with store := Function.update s.store target.intent intent } =
      { s.seenBy targets target with intent := intent } := by
  simp only [GuardKeyspace.seenBy, Function.update_self,
    Function.update_of_ne (intent_ne_lockName target target).symm]

/-- A write to the intent of another target. -/
theorem seenBy_intent_of_ne (s : GuardKeyspace) {t target : GuardTarget} (ht : t ≠ target)
    (intent : Option String) :
    GuardKeyspace.seenBy targets target
        { s with store := Function.update s.store t.intent intent } =
      s.seenBy targets target :=
  seenBy_update_of_ne s (fun h => ht (intent_inj.mp h).symm)
    (intent_ne_lockName t target).symm intent

/-- The transaction of a request for the target finds what the target sees. -/
theorem enter_seen {s s' : GuardKeyspace} {i : ℕ} {target : GuardTarget}
    (hi : targets i = target)
    (h : guardKeyspaceStep decodeResponses options targets s (.enter i) = some s') :
    timedGuardStep decodeResponses options (s.seenBy targets target) (.command (.enter i)) =
      some (s'.seenBy targets target) := by
  subst hi
  have hreply : setNx s.store (targets i).lockName "1" (targets i).intent =
      (s.seenBy targets (targets i)).intent :=
    setNx_of_ne (intent_ne_lockName _ _) _
  have hlock : (s.store (targets i).lockName).isNone =
      !(s.seenBy targets (targets i)).lock := by
    simp [GuardKeyspace.seenBy]
  simp only [guardKeyspaceStep] at h
  split at h
  · rename_i hidle
    have hseen : (s.seenBy targets (targets i)).phases i = .idle := by
      simp [GuardKeyspace.seenBy, hidle]
    rw [hreply, hlock] at h
    simp only [timedGuardStep, guardStep, hseen, if_true]
    generalize guardAction decodeResponses (options i) (!(s.seenBy targets (targets i)).lock)
      (s.seenBy targets (targets i)).intent = outcome at h ⊢
    cases outcome with
    | rejected e | entered latest =>
        simp only [Option.some.injEq] at h ⊢
        rw [← h, seenBy_enter s rfl]
  · cases h

/-- That of a request for another target is not seen. -/
theorem enter_unseen {s s' : GuardKeyspace} {i : ℕ} {target : GuardTarget}
    (hi : targets i ≠ target)
    (h : guardKeyspaceStep decodeResponses options targets s (.enter i) = some s') :
    s'.seenBy targets target = s.seenBy targets target := by
  simp only [guardKeyspaceStep] at h
  split at h
  · split at h
    · simp only [Option.some.injEq] at h
      rw [← h, seenBy_enter_of_ne s hi]
    · simp only [Option.some.injEq] at h
      rw [← h, seenBy_enter_of_ne s hi]
  · cases h

/-- Every step of the store is one step on the keys of a target, or none. -/
theorem projects_seenBy (target : GuardTarget) :
    Projects (guardKeyspaceStep decodeResponses options targets)
      (timedGuardStep decodeResponses options) (GuardKeyspace.seenBy targets target)
      (KeyspaceLabel.seenBy targets target) := by
  intro s label s' hs
  cases label with
  | enter i =>
      by_cases hi : targets i = target
      · simp only [KeyspaceLabel.seenBy, if_pos hi]
        exact enter_seen hi hs
      · simp only [KeyspaceLabel.seenBy, if_neg hi]
        exact enter_unseen hi hs
  | finish i =>
      simp only [guardKeyspaceStep] at hs
      split at hs
      · rename_i hinside
        simp only [Option.some.injEq] at hs
        by_cases hi : targets i = target
        · have hseen : (s.seenBy targets target).phases i = .inside := by
            simp [GuardKeyspace.seenBy, hinside, hi]
          simp only [KeyspaceLabel.seenBy, if_pos hi, timedGuardStep, guardStep, hseen, if_true]
          rw [← hs]
          simp only [GuardKeyspace.seenBy, seenBy_phases_self hi, GuardState.setPhase]
        · simp only [KeyspaceLabel.seenBy, if_neg hi]
          rw [← hs]
          simp only [GuardKeyspace.seenBy, seenBy_phases_of_ne hi]
      · cases hs
  | cleanup i =>
      simp only [guardKeyspaceStep] at hs
      split at hs
      · rename_i hleaving
        simp only [Option.some.injEq] at hs
        by_cases hi : targets i = target
        · have hseen : (s.seenBy targets target).phases i = .leaving := by
            simp [GuardKeyspace.seenBy, hleaving, hi]
          simp only [KeyspaceLabel.seenBy, if_pos hi, timedGuardStep, guardStep, hseen, if_true]
          rw [← hs]
          simp only [GuardKeyspace.seenBy, hi, seenBy_phases_self hi, GuardState.setPhase,
            Function.update_self, Option.isSome_none,
            Function.update_of_ne (intent_ne_lockName target target)]
        · have hlock : target.lockName ≠ (targets i).lockName :=
            fun h => hi (lockName_inj.mp h).symm
          simp only [KeyspaceLabel.seenBy, if_neg hi]
          rw [← hs]
          simp only [GuardKeyspace.seenBy, seenBy_phases_of_ne hi, Function.update_of_ne hlock,
            Function.update_of_ne (intent_ne_lockName target (targets i))]
      · cases hs
  | setIntent t flag intentId =>
      simp only [guardKeyspaceStep, Option.some.injEq] at hs
      rw [← hs]
      by_cases ht : t = target
      · subst ht
        simp only [KeyspaceLabel.seenBy, if_true, timedGuardStep, guardStep, seenBy_intent_self]
      · simp only [KeyspaceLabel.seenBy, if_neg ht, seenBy_intent_of_ne s ht]
  | removeIntent t =>
      simp only [guardKeyspaceStep, Option.some.injEq] at hs
      rw [← hs]
      by_cases ht : t = target
      · subst ht
        simp only [KeyspaceLabel.seenBy, if_true, timedGuardStep, guardStep, seenBy_intent_self]
      · simp only [KeyspaceLabel.seenBy, if_neg ht, seenBy_intent_of_ne s ht]
  | lockExpires t =>
      simp only [guardKeyspaceStep, Option.some.injEq] at hs
      by_cases ht : t = target
      · subst ht
        simp only [KeyspaceLabel.seenBy, if_true, timedGuardStep]
        rw [← hs]
        simp only [GuardKeyspace.seenBy, Function.update_self, Option.isSome_none,
          Function.update_of_ne (intent_ne_lockName t t)]
      · have hlock : target.lockName ≠ t.lockName := fun h => ht (lockName_inj.mp h).symm
        simp only [KeyspaceLabel.seenBy, if_neg ht]
        rw [← hs]
        exact seenBy_update_of_ne s (intent_ne_lockName target t) hlock none
  | other key value =>
      simp only [guardKeyspaceStep] at hs
      split at hs
      · rename_i hother
        obtain ⟨hintent, hlock⟩ := text_ne_of_not_guarded hother target
        simp only [Option.some.injEq] at hs
        rw [← hs]
        exact seenBy_update_of_ne s hintent.symm hlock.symm value
      · cases hs

/-- What a target has seen of a run is a run on its own keys: requests for other targets and
writes to other keys make no difference. -/
theorem runActions_seenBy (labels : List KeyspaceLabel) (s s' : GuardKeyspace)
    (h : runActions (guardKeyspaceStep decodeResponses options targets) s labels = some s')
    (target : GuardTarget) :
    runActions (timedGuardStep decodeResponses options) (s.seenBy targets target)
        (labels.filterMap (KeyspaceLabel.seenBy targets target)) =
      some (s'.seenBy targets target) :=
  runActions_project (projects_seenBy target) labels s s' h

/-- A step on one lock keeps the requests exclusive exactly when it removes no lock that is
held. -/
theorem timedGuardStep_exclusive_iff {s s' : GuardState} {label : TimedGuardLabel}
    (hexcl : Exclusive s) (h : timedGuardStep decodeResponses options s label = some s') :
    Exclusive s' ↔ RemovedAlone s label := by
  cases label with
  | command label =>
      constructor
      · intro hexcl'
        by_contra halone
        exact not_exclusive_step h halone hexcl'
      · exact exclusive_step hexcl h
  | lockExpires =>
      simp only [timedGuardStep, Option.some.injEq] at h
      subst h
      constructor
      · intro hexcl' j hj
        have hheld := hexcl'.lockHeld j hj
        cases hheld
      · intro halone
        exact ⟨hexcl.unique, fun j hj => absurd hj (halone j)⟩

end

/-- Two users save the same post. -/
def twoSavers (i : ℕ) : GuardTarget := ⟨.posts, .save, i + 1, "7"⟩

/-- The second user does not see the first one. -/
theorem runActions_seenBy_twoSavers : ∃ s',
    runActions (guardKeyspaceStep true (fun _ => {}) twoSavers) ⟨fun _ => none, fun _ => .idle⟩
        [.enter 0, .enter 1] = some s' ∧
      runActions (timedGuardStep true fun _ => {})
          (GuardKeyspace.seenBy twoSavers (twoSavers 1) ⟨fun _ => none, fun _ => .idle⟩)
          [.command (.enter 1)] = some (s'.seenBy twoSavers (twoSavers 1)) :=
  ⟨_, rfl, @runActions_seenBy true (fun _ => {}) twoSavers [.enter 0, .enter 1]
    ⟨fun _ => none, fun _ => .idle⟩ _ rfl (twoSavers 1)⟩

/-- No lock is removed while a request is inside that holds it. -/
def RemovesUnheld (targets : ℕ → GuardTarget) (s : GuardKeyspace) : KeyspaceLabel → Prop
  | .cleanup i => ∀ j, targets j = targets i → s.phases j ≠ .inside
  | .lockExpires target => ∀ j, targets j = target → s.phases j ≠ .inside
  | _ => True

/-- At most one request for each target is inside, and its lock is in place. -/
def ExclusiveEverywhere (targets : ℕ → GuardTarget) (s : GuardKeyspace) : Prop :=
  (∀ i j, targets i = targets j → s.phases i = .inside → s.phases j = .inside → i = j) ∧
    ∀ i, s.phases i = .inside → s.store (targets i).lockName ≠ none

/-- No request has arrived yet. -/
def GuardKeyspace.start (store : String → Option String) : GuardKeyspace :=
  ⟨store, fun _ => .idle⟩

section
variable {targets : ℕ → GuardTarget} {s : GuardKeyspace}

theorem seenBy_inside {target : GuardTarget} {i : ℕ} :
    (s.seenBy targets target).phases i = .inside ↔ targets i = target ∧ s.phases i = .inside := by
  by_cases hi : targets i = target <;> simp [GuardKeyspace.seenBy, hi]

/-- The guard excludes everywhere when it excludes for every target. -/
theorem exclusiveEverywhere_iff :
    ExclusiveEverywhere targets s ↔ ∀ target, Exclusive (s.seenBy targets target) := by
  constructor
  · rintro ⟨hunique, hheld⟩ target
    constructor
    · intro i j hi hj
      obtain ⟨hti, hi⟩ := seenBy_inside.mp hi
      obtain ⟨htj, hj⟩ := seenBy_inside.mp hj
      exact hunique i j (hti.trans htj.symm) hi hj
    · intro i hi
      obtain ⟨rfl, hinside⟩ := seenBy_inside.mp hi
      exact Option.isSome_iff_ne_none.mpr (hheld i hinside)
  · intro hall
    constructor
    · intro i j ht hi hj
      exact (hall (targets i)).unique i j (seenBy_inside.mpr ⟨rfl, hi⟩)
        (seenBy_inside.mpr ⟨ht.symm, hj⟩)
    · intro i hi
      exact Option.isSome_iff_ne_none.mp
        ((hall (targets i)).lockHeld i (seenBy_inside.mpr ⟨rfl, hi⟩))

/-- What a label removes, it removes from its own target. -/
theorem removesUnheld_iff (label : KeyspaceLabel) :
    RemovesUnheld targets s label ↔ ∀ target seen, label.seenBy targets target = some seen →
      RemovedAlone (s.seenBy targets target) seen := by
  cases label with
  | cleanup i =>
      constructor
      · intro hfree target seen hseen
        simp only [KeyspaceLabel.seenBy] at hseen
        split at hseen
        · rename_i hi
          simp only [Option.some.injEq] at hseen
          rw [← hseen]
          intro j hj
          obtain ⟨ht, hinside⟩ := seenBy_inside.mp hj
          exact hfree j (ht.trans hi.symm) hinside
        · cases hseen
      · intro hall j ht hj
        exact hall (targets i) _ (if_pos rfl) j (seenBy_inside.mpr ⟨ht, hj⟩)
  | lockExpires t =>
      constructor
      · intro hfree target seen hseen
        simp only [KeyspaceLabel.seenBy] at hseen
        split at hseen
        · rename_i ht
          simp only [Option.some.injEq] at hseen
          rw [← hseen]
          intro j hj
          obtain ⟨hj, hinside⟩ := seenBy_inside.mp hj
          exact hfree j (hj.trans ht.symm) hinside
        · cases hseen
      · intro hall j ht hj
        exact hall t _ (if_pos rfl) j (seenBy_inside.mpr ⟨ht, hj⟩)
  | enter i | finish i | setIntent t flag intentId | removeIntent t =>
      refine iff_of_true trivial fun target seen hseen => ?_
      simp only [KeyspaceLabel.seenBy] at hseen
      split at hseen
      · simp only [Option.some.injEq] at hseen
        rw [← hseen]
        trivial
      · cases hseen
  | other key value => exact iff_of_true trivial fun target seen hseen => nomatch hseen

/-- A step keeps the requests exclusive everywhere exactly when it removes no lock that is
held. -/
theorem guardKeyspaceStep_exclusive_iff {decodeResponses : Bool} {options : ℕ → GuardOptions}
    {s' : GuardKeyspace} {label : KeyspaceLabel} (hexcl : ExclusiveEverywhere targets s)
    (h : guardKeyspaceStep decodeResponses options targets s label = some s') :
    ExclusiveEverywhere targets s' ↔ RemovesUnheld targets s label := by
  rw [exclusiveEverywhere_iff] at hexcl
  rw [exclusiveEverywhere_iff, removesUnheld_iff]
  constructor
  · intro hexcl' target seen hseen
    exact (timedGuardStep_exclusive_iff (hexcl target)
      ((projects_seenBy target).moves h hseen)).mp (hexcl' target)
  · intro hall target
    cases hseen : label.seenBy targets target with
    | none =>
        rw [(projects_seenBy target).stays h hseen]
        exact hexcl target
    | some seen =>
        exact (timedGuardStep_exclusive_iff (hexcl target)
          ((projects_seenBy target).moves h hseen)).mpr (hall target seen hseen)

theorem exclusiveEverywhere_start (targets : ℕ → GuardTarget) (store : String → Option String) :
    ExclusiveEverywhere targets (GuardKeyspace.start store) :=
  ⟨fun _ _ _ h => (nomatch h), fun _ h => (nomatch h)⟩

end

/-- In any run of requests for any targets, from any store, at most one request for each
target is ever inside, with its lock in place, if and only if no lock is removed, by a
cleanup or by its expiry, while a request is inside that holds it. -/
theorem always_exclusive_everywhere_iff (decodeResponses : Bool) (options : ℕ → GuardOptions)
    (targets : ℕ → GuardTarget) (store : String → Option String) (labels : List KeyspaceLabel) :
    Always (guardKeyspaceStep decodeResponses options targets) (ExclusiveEverywhere targets)
        (GuardKeyspace.start store) labels ↔
      EachStep (guardKeyspaceStep decodeResponses options targets) (RemovesUnheld targets)
        (GuardKeyspace.start store) labels :=
  always_iff_eachStep (fun _ _ _ (_ : True) _ _ => trivial)
    (fun _ _ _ _ hexcl h hfree => (guardKeyspaceStep_exclusive_iff hexcl h).mpr hfree)
    (fun _ _ _ _ hexcl h hheld hexcl' =>
      hheld ((guardKeyspaceStep_exclusive_iff hexcl h).mp hexcl'))
    labels _ trivial (exclusiveEverywhere_start targets store)

end ResourceServer
end Tenjin
