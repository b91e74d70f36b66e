import Tenjin.Foundation.GuardedRun
import Tenjin.ResourceAuxillary.Strings

/-!
# The guard around user actions

`guard_action` of `cache_manager.py`: a lock in Redis around the body of a request,
and the check of the intent that an earlier request may have left.

* `guardAction` is the part before the body.  Its arguments are the replies to the
  transaction that sets the lock and reads the intent.
* `guardResume` is the part after a body that ended normally.
* `GuardState` and `guardStep` are any number of requests on one lock key, one Redis
  command or one passage of control at a time.  Every request that sent its
  transaction deletes the lock key in the end, also a request that was turned away.
* `always_exclusive_iff` says in which interleavings the guard excludes.
-/

namespace Tenjin
namespace ResourceServer

open Python Foundation ResourceAuxillary

/-- `CacheManager.derive_lock_key`. -/
def deriveLockKey (args : List String) : String :=
  pyJoin nameSeperator ("lock" :: args)

/-- How `guard_action` goes on after its transaction. -/
inductive GuardOutcome
  /-- It raises before the body. -/
  | rejected (e : Exn)
  /-- It yields to the body. -/
  | entered (latestIntent : Option String)
  deriving DecidableEq

/-- The texts and the intent that an endpoint gives to the guard. -/
structure GuardOptions where
  lockConflictMessage : Option String := none
  conflictingIntent : Option IntentFlag := none
  intentConflictMessage : Option String := none

/-- `guard_action` up to its first `yield`: `lockSet` and `intent` are the replies. -/
def guardAction (decodeResponses : Bool) (options : GuardOptions) (lockSet : Bool)
    (intent : Option String) : GuardOutcome :=
  if !lockSet then
    .rejected (.duplicateRequestException
      (options.lockConflictMessage.getD "Detected duplicate request"))
  else
    match intent with
    | none => .entered none
    | some stored =>
        if stored.isEmpty then .entered none
        else
          match clientReply decodeResponses stored with
          -- bytes are split at bytes only
          | .bytes _ => .rejected .typeError
          | .str s =>
              let intentValue := (pySplit ':' s).headD ""
              if options.conflictingIntent.map IntentFlag.value = some intentValue then
                .rejected (.conflictingIntentException
                  (options.intentConflictMessage.getD "Operation already performed"))
              else .entered (some intentValue)

/-- What `guard_action` raises after a body that ended normally: the reply that was
missing or empty is split now, and a second `yield` is an error. -/
def guardResume (decodeResponses : Bool) (intent : Option String) : Option Exn :=
  match intent with
  | none => some .attributeError
  | some stored =>
      if stored.isEmpty then
        some (if decodeResponses then .runtimeError else .typeError)
      else none

/-- A written intent starts with the prefix that all flags share. -/
theorem intentValue_prefix (flag : IntentFlag) (intentId : String) :
    ∃ back, pyJoin nameSeperator [flag.value, intentId] =
      String.ofList ("FLAG".toList ++ ':' :: back) := by
  cases flag with
  | resourceCreationPendingFlag =>
      refine ⟨"C:".toList ++ intentId.toList, ?_⟩
      rw [← String.toList_inj]
      simp [pyJoin, nameSeperator, IntentFlag.value]
  | resourceCreationPendingAltFlag =>
      refine ⟨"CA:".toList ++ intentId.toList, ?_⟩
      rw [← String.toList_inj]
      simp [pyJoin, nameSeperator, IntentFlag.value]
  | resourceDeletionPendingFlag =>
      refine ⟨"D:".toList ++ intentId.toList, ?_⟩
      rw [← String.toList_inj]
      simp [pyJoin, nameSeperator, IntentFlag.value]

/-- No flag is equal to that prefix. -/
theorem intentFlag_value_ne (flag : IntentFlag) : flag.value ≠ "FLAG" := by
  cases flag <;> decide

/-- A request that finds a written intent gets the shared prefix as the latest intent,
whatever it declares to be in conflict, when the replies are strings. -/
theorem guardAction_str (options : GuardOptions) (flag : IntentFlag) (intentId : String) :
    guardAction true options true (some (pyJoin nameSeperator [flag.value, intentId])) =
      .entered (some "FLAG") := by
  obtain ⟨back, hback⟩ := intentValue_prefix flag intentId
  have hempty : (String.ofList ("FLAG".toList ++ ':' :: back)).isEmpty = false := by simp
  have hsplit := pySplit_head_of_prefix ':' "FLAG".toList back (by decide)
  -- the guard compares a whole flag with the piece in front of the first colon
  have hconflict : options.conflictingIntent.map IntentFlag.value ≠ some "FLAG" := by
    cases options.conflictingIntent with
    | none => simp
    | some f => simpa using intentFlag_value_ne f
  rw [hback]
  simp only [guardAction, Bool.not_true, Bool.false_eq_true, if_false, hempty, clientReply,
    if_true, hsplit, List.headD_cons, String.ofList_toList, hconflict]

/-- When the replies are bytes, it fails with a `TypeError`. -/
theorem guardAction_bytes (options : GuardOptions) (flag : IntentFlag) (intentId : String) :
    guardAction false options true (some (pyJoin nameSeperator [flag.value, intentId])) =
      .rejected .typeError := by
  obtain ⟨back, hback⟩ := intentValue_prefix flag intentId
  rw [hback]
  simp [guardAction, clientReply]

/-- A request that did not get the lock is turned away. -/
theorem guardAction_locked (decodeResponses : Bool) (options : GuardOptions)
    (intent : Option String) (latest : Option String) :
    guardAction decodeResponses options false intent ≠ .entered latest := by
  simp [guardAction]

/-- Where a request is. -/
inductive Phase
  | idle
  | inside
  | leaving
  | done
  deriving DecidableEq

/-- The requests on one lock key, by number, with the lock and the intent they share. -/
structure GuardState where
  lock : Bool
  intent : Option String
  phases : ℕ → Phase

/-- One Redis command, or one passage of control. -/
inductive GuardLabel
  /-- The transaction that sets the lock and reads the intent. -/
  | enter (i : ℕ)
  /-- The body of the request ends, normally or with an exception. -/
  | finish (i : ℕ)
  /-- The `finally` clause deletes the lock key. -/
  | cleanup (i : ℕ)
  /-- The intent is written, deleted or expires. -/
  | intentChange (intent : Option String)

/-- No request has arrived yet. -/
def GuardState.start (intent : Option String) : GuardState :=
  ⟨false, intent, fun _ => .idle⟩

/-- The request goes to a phase. -/
def GuardState.setPhase (s : GuardState) (i : ℕ) (phase : Phase) : GuardState :=
  { s with phases := fun j => if j = i then phase else s.phases j }

@[simp] theorem GuardState.setPhase_phases (s : GuardState) (i j : ℕ) (phase : Phase) :
    (s.setPhase i phase).phases j = if j = i then phase else s.phases j := rfl

@[simp] theorem GuardState.setPhase_lock (s : GuardState) (i : ℕ) (phase : Phase) :
    (s.setPhase i phase).lock = s.lock := rfl

section
variable (decodeResponses : Bool) (options : ℕ → GuardOptions)

/-- The requests of any number of clients, in any order of their commands. -/
def guardStep (s : GuardState) : GuardLabel → Option GuardState
  | .enter i =>
      if s.phases i = .idle then
        -- `SET` with `NX` succeeds when the key is absent, and it is present afterwards
        let outcome := guardAction decodeResponses (options i) (!s.lock) s.intent
        let locked := { s with lock := true }
        match outcome with
        | .rejected _ => some (locked.setPhase i .leaving)
        | .entered _ => some (locked.setPhase i .inside)
      else none
  | .finish i =>
      if s.phases i = .inside then some (s.setPhase i .leaving) else none
  | .cleanup i =>
      if s.phases i = .leaving then
        let unlocked := { s with lock := false }
        some (unlocked.setPhase i .done)
      else none
  | .intentChange intent => some { s with intent := intent }

end

/-- At most one request is inside, and its lock is in place. -/
structure Exclusive (s : GuardState) : Prop where
  unique : ∀ i j, s.phases i = .inside → s.phases j = .inside → i = j
  lockHeld : ∀ i, s.phases i = .inside → s.lock = true

/-- A request deletes the lock key only while no request is inside. -/
def DeletesAlone (s : GuardState) (label : GuardLabel) : Prop :=
  match label with
  | .cleanup _ => ∀ j, s.phases j ≠ .inside
  | _ => True

section
variable {decodeResponses : Bool} {options : ℕ → GuardOptions} {s s' : GuardState}

/-- A request comes inside only when the lock was free. -/
theorem guardStep_enter {i : ℕ} (h : guardStep decodeResponses options s (.enter i) = some s') :
    s'.lock = true ∧ (∀ j, j ≠ i → s'.phases j = s.phases j) ∧
      (s'.phases i = .inside → s.lock = false) := by
  simp only [guardStep] at h
  split at h
  · split at h
    · simp only [Option.some.injEq] at h
      subst h
      exact ⟨rfl, fun j hj => by simp [hj], by simp⟩
    · rename_i latest hentered
      simp only [Option.some.injEq] at h
      subst h
      refine ⟨rfl, fun j hj => by simp [hj], fun _ => ?_⟩
      cases hlock : s.lock with
      | false => rfl
      | true =>
          rw [hlock] at hentered
          exact absurd hentered (guardAction_locked _ _ _ _)
  · cases h

/-- The cleanup of a request frees the lock, whoever holds it. -/
theorem guardStep_cleanup {i : ℕ}
    (h : guardStep decodeResponses options s (.cleanup i) = some s') :
    s'.lock = false ∧ s'.phases i = .done ∧ ∀ j, j ≠ i → s'.phases j = s.phases j := by
  simp only [guardStep] at h
  split at h
  · simp only [Option.some.injEq] at h
    subst h
    exact ⟨rfl, by simp, fun j hj => by simp [hj]⟩
  · cases h

theorem exclusive_start (intent : Option String) : Exclusive (GuardState.start intent) where
  unique _ _ h := nomatch h
  lockHeld _ h := nomatch h

/-- A step that meets the condition keeps the requests exclusive. -/
theorem exclusive_step {label : GuardLabel} (hexcl : Exclusive s)
    (h : guardStep decodeResponses options s label = some s')
    (hcond : DeletesAlone s label) : Exclusive s' := by
  obtain ⟨hunique, hheld⟩ := hexcl
  cases label with
  | enter i =>
      obtain ⟨hlock, hsame, hfree⟩ := guardStep_enter h
      refine ⟨fun j k hj hk => ?_, fun _ _ => hlock⟩
      -- a request that comes inside finds nobody there
      by_cases hji : j = i
      · by_cases hki : k = i
        · rw [hji, hki]
        · subst hji
          rw [hsame k hki] at hk
          have hfalse := hfree hj
          rw [hheld k hk] at hfalse
          cases hfalse
      · rw [hsame j hji] at hj
        by_cases hki : k = i
        · subst hki
          have hfalse := hfree hk
          rw [hheld j hj] at hfalse
          cases hfalse
        · rw [hsame k hki] at hk
          exact hunique j k hj hk
  | finish i =>
      simp only [guardStep] at h
      split at h
      · simp only [Option.some.injEq] at h
        subst h
        have hback : ∀ j, (s.setPhase i .leaving).phases j = .inside →
            s.phases j = .inside := by
          intro j hj
          by_cases hji : j = i
          · simp [hji] at hj
          · simpa [hji] using hj
        exact ⟨fun j k hj hk => hunique j k (hback j hj) (hback k hk),
          fun j hj => hheld j (hback j hj)⟩
      · cases h
  | cleanup i =>
      obtain ⟨_, hdone, hsame⟩ := guardStep_cleanup h
      -- the condition says that nobody was inside, and the cleanup lets nobody in
      have hnone : ∀ j, s'.phases j ≠ .inside := by
        intro j hj
        by_cases hji : j = i
        · subst hji
          rw [hdone] at hj
          cases hj
        · rw [hsame j hji] at hj
          exact hcond j hj
      exact ⟨fun j _ hj _ => absurd hj (hnone j), fun j hj => absurd hj (hnone j)⟩
  | intentChange intent =>
      simp only [guardStep, Option.some.injEq] at h
      subst h
      exact ⟨hunique, hheld⟩

/-- A step that does not meet it takes the lock away from a request that is inside. -/
theorem not_exclusive_step {label : GuardLabel}
    (h : guardStep decodeResponses options s label = some s')
    (hcond : ¬ DeletesAlone s label) : ¬ Exclusive s' := by
  intro hexcl
  cases label with
  | enter i => exact hcond trivial
  | finish i => exact hcond trivial
  | intentChange intent => exact hcond trivial
  | cleanup i =>
      -- somebody is inside, and afterwards the lock is free
      simp only [DeletesAlone, not_forall, not_not] at hcond
      obtain ⟨j, hj⟩ := hcond
      obtain ⟨hfree, hdone, hsame⟩ := guardStep_cleanup h
      by_cases hji : j = i
      · subst hji
        simp only [guardStep, hj, reduceCtorEq, if_false] at h
      · rw [← hsame j hji] at hj
        have hheld := hexcl.lockHeld j hj
        rw [hfree] at hheld
        cases hheld

end

/-- In an interleaving of any number of requests, the guard excludes in every state if
and only if every deletion of the lock key happens while no request is inside. -/
theorem always_exclusive_iff (decodeResponses : Bool) (options : ℕ → GuardOptions)
    (intent : Option String) (labels : List GuardLabel) :
    Always (guardStep decodeResponses options) Exclusive (GuardState.start intent) labels ↔
    EachStep (guardStep decodeResponses options) DeletesAlone (GuardState.start intent)
      labels :=
  always_iff_eachStep (fun _ _ _ (_ : True) _ _ => trivial)
    (fun _ _ _ _ hexcl h hcond => exclusive_step hexcl h hcond)
    (fun _ _ _ _ _ h hcond => not_exclusive_step h hcond) labels _ trivial
    (exclusive_start intent)

/-- Request 0 is inside, request 1 is turned away and deletes the lock of request 0,
and request 2 comes inside. -/
theorem guard_admits_two :
    ¬ Always (guardStep false fun _ => {}) Exclusive (GuardState.start none)
      [.enter 0, .enter 1, .cleanup 1, .enter 2] := by
  intro hall
  have hafter := ((((hall.2 _ rfl).2 _ rfl).2 _ rfl).2 _ rfl)
  exact absurd (hafter.unique 0 2 rfl rfl) (by decide)

end ResourceServer
end Tenjin
