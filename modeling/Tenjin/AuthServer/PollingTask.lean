import Tenjin.AuthServer.TokenManager
import Tenjin.Foundation.GuardedRun

/-!
# The polling task next to the key endpoints

The polling task of `token_manager.py` as one step for each thing it does between two
awaits, interleaved with the calls of `update_keydata` and `invalidate_key` by the
endpoints.

* `update_keydata` assigns `active_key` and then `key_mapping`.  The state between the two
  assignments is a state of its own, `updating`.  Neither assignment can raise.
* An iteration may be cut off in every state of the task, and a fetch may return anything.
* `pollStore_run` says that an iteration of `poll_store` is a run of these steps.
-/

namespace Tenjin
namespace AuthServer

open Foundation
open Python

/-- Where the polling task is: asleep, or with keys to add and keys to remove. -/
inductive PollPhase
  | asleep
  | polling (newKeys expiredKeys : List String)
  deriving DecidableEq

/-- The manager, the update that is between its assignments, and the task. -/
structure TaskState where
  manager : TokenManager
  updating : Option (String × KeyMetadata)
  phase : PollPhase

/-- The steps. -/
inductive TaskLabel
  /-- `update_keydata` assigns the active key. -/
  | updateKeydata (kid : String) (newKeyData : KeyMetadata) (active : Bool)
  /-- `update_keydata` assigns the mapping. -/
  | assignMapping
  | invalidateKey (kid : String)
  /-- The task has read the global keys. -/
  | readKeys (validKeys : List String)
  /-- The task has fetched the next new key. -/
  | fetched (result : Option KeyMetadata)
  | removeExpired
  /-- The iteration is over, or an exception has cut it off. -/
  | sleep

/-- `self.active_key = kid`, if the new key is active. -/
def assignActive (kid : String) (active : Bool) (manager : TokenManager) : TokenManager :=
  { manager with activeKey := if active then kid else manager.activeKey }

/-- `self.key_mapping[kid] = newKeyData`. -/
def assignKey (kid : String) (newKeyData : KeyMetadata) (manager : TokenManager) :
    TokenManager :=
  { manager with keyMapping := manager.keyMapping.insert kid newKeyData }

/-- One step.  Nothing runs while `update_keydata` is between its assignments. -/
def taskStep (order : IterationOrder) (s : TaskState) : TaskLabel → Option TaskState
  | .assignMapping =>
      match s.updating with
      | none => none
      | some (kid, newKeyData) =>
          some { s with manager := assignKey kid newKeyData s.manager, updating := none }
  | .updateKeydata kid newKeyData active =>
      if s.updating ≠ none then none
      else some { s with
        manager := assignActive kid active s.manager, updating := some (kid, newKeyData) }
  | .invalidateKey kid =>
      if s.updating ≠ none then none
      else some { s with manager := stateAfter (TokenManager.invalidateKey kid) s.manager }
  | .readKeys validKeys =>
      if s.updating ≠ none ∨ validKeys = [] then none
      else
        match s.phase with
        | .asleep => some { s with
            phase := .polling
              (order.enumerate (validKeys.toFinset \ s.manager.keyMapping.keys))
              (order.enumerate (s.manager.keyMapping.keys \ validKeys.toFinset)) }
        | .polling _ _ => none
  | .fetched result =>
      if s.updating ≠ none then none
      else
        match s.phase, result with
        | .polling (_ :: newKeys) expiredKeys, none =>
            some { s with phase := .polling newKeys expiredKeys }
        | .polling (newKey :: newKeys) expiredKeys, some result =>
            some ⟨assignActive newKey result.fetchedActive s.manager, some (newKey, result),
              .polling newKeys expiredKeys⟩
        | _, _ => none
  | .removeExpired =>
      if s.updating ≠ none then none
      else
        match s.phase with
        | .polling [] (expiredKey :: expiredKeys) =>
            match TokenManager.invalidateKey expiredKey s.manager with
            | .ok _ manager => some ⟨manager, none, .polling [] expiredKeys⟩
            | .error _ manager => some ⟨manager, none, .asleep⟩
        | _ => none
  | .sleep => if s.updating ≠ none then none else some { s with phase := .asleep }

/-- The state after `set_key_state`. -/
def taskStart (manager : TokenManager) : TaskState := ⟨manager, none, .asleep⟩

/-- The step calls `invalidate_key` on the kid while another kid is active. -/
def InvalidatesOther (kid : String) (s : TaskState) : TaskLabel → Prop
  | .invalidateKey other => other = kid ∧ s.manager.activeKey ≠ kid
  | .removeExpired =>
      (∃ expiredKeys, s.phase = .polling [] (kid :: expiredKeys)) ∧ s.manager.activeKey ≠ kid
  | _ => False

/-- The active key can sign, as soon as control is outside `update_keydata`. -/
def SigningKeyAvailable (s : TaskState) : Prop :=
  s.updating = none → s.manager.activeKey ∈ s.manager.keyMapping

/-- The kid is in the mapping, as soon as control is outside `update_keydata`. -/
def KidAvailable (kid : String) (s : TaskState) : Prop :=
  s.updating = none → kid ∈ s.manager.keyMapping

/-- The kid is in the mapping or is about to be assigned. -/
def KidHeld (kid : String) (s : TaskState) : Prop :=
  kid ∈ s.manager.keyMapping ∨ ∃ newKeyData, s.updating = some (kid, newKeyData)

theorem KidHeld.available {kid : String} {s : TaskState} (h : KidHeld kid s) :
    KidAvailable kid s := by
  intro hnone
  rcases h with hmem | ⟨newKeyData, hupdating⟩
  · exact hmem
  · rw [hnone] at hupdating
    cases hupdating

/-- What `invalidate_key` does to the mapping: another active key loses the entry, the
same one keeps it. -/
theorem mem_stateAfter_invalidateKey {kid other : String} {manager : TokenManager} :
    other ∈ (stateAfter (TokenManager.invalidateKey kid) manager).keyMapping ↔
      (other ≠ kid ∨ manager.activeKey = kid) ∧ other ∈ manager.keyMapping := by
  by_cases hactive : manager.activeKey = kid
  · rw [stateAfter_of_error (TokenManager.invalidateKey_of_active hactive)]
    simp [hactive]
  · rw [stateAfter_of_ok (TokenManager.invalidateKey_of_ne hactive), Finmap.mem_erase]
    simp [hactive]

/-- What a step can do: run an assignment of `update_keydata`, call `invalidate_key`, or
move the task. -/
theorem taskStep_cases {order : IterationOrder} {s s' : TaskState} {label : TaskLabel}
    (h : taskStep order s label = some s') :
    (∃ kid newKeyData, s.updating = some (kid, newKeyData) ∧ s'.updating = none ∧
      s'.manager = assignKey kid newKeyData s.manager) ∨
    (s.updating = none ∧ ∃ kid newKeyData active, s'.updating = some (kid, newKeyData) ∧
      s'.manager = assignActive kid active s.manager) ∨
    (s.updating = none ∧ s'.updating = none ∧
      ∃ kid, s'.manager = stateAfter (TokenManager.invalidateKey kid) s.manager ∧
        (s.manager.activeKey ≠ kid → InvalidatesOther kid s label)) ∨
    (s.updating = none ∧ s'.updating = none ∧ s'.manager = s.manager) := by
  cases label with
  | assignMapping =>
      simp only [taskStep] at h
      split at h
      · cases h
      · rename_i kid newKeyData hupdating
        cases h
        exact .inl ⟨kid, newKeyData, hupdating, rfl, rfl⟩
  | updateKeydata kid newKeyData active =>
      simp only [taskStep] at h
      split at h
      · cases h
      · rename_i hnone
        cases h
        exact .inr (.inl ⟨not_not.mp hnone, kid, newKeyData, active, rfl, rfl⟩)
  | invalidateKey kid =>
      simp only [taskStep] at h
      split at h
      · cases h
      · rename_i hnone
        cases h
        exact .inr (.inr (.inl ⟨not_not.mp hnone, not_not.mp hnone, kid, rfl,
          fun hne => ⟨rfl, hne⟩⟩))
  | readKeys validKeys =>
      simp only [taskStep] at h
      split at h
      · cases h
      · rename_i hguard
        have hnone : s.updating = none := not_not.mp (not_or.mp hguard).1
        split at h
        · cases h
          exact .inr (.inr (.inr ⟨hnone, hnone, rfl⟩))
        · cases h
  | fetched result =>
      simp only [taskStep] at h
      split at h
      · cases h
      · rename_i hguard
        have hnone : s.updating = none := not_not.mp hguard
        split at h
        · cases h
          exact .inr (.inr (.inr ⟨hnone, hnone, rfl⟩))
        · rename_i newKey newKeys expiredKeys result hphase
          cases h
          exact .inr (.inl ⟨hnone, newKey, result, result.fetchedActive, rfl, rfl⟩)
        · cases h
  | removeExpired =>
      simp only [taskStep] at h
      split at h
      · cases h
      · rename_i hguard
        have hnone : s.updating = none := not_not.mp hguard
        split at h
        · rename_i expiredKey expiredKeys hphase
          refine .inr (.inr (.inl ⟨hnone, ?_, expiredKey, ?_, fun hne =>
            ⟨⟨expiredKeys, hphase⟩, hne⟩⟩))
          · split at h <;> cases h <;> rfl
          · split at h
            · rename_i hrun
              cases h
              exact (stateAfter_of_ok hrun).symm
            · rename_i hrun
              cases h
              exact (stateAfter_of_error hrun).symm
        · cases h
  | sleep =>
      simp only [taskStep] at h
      split at h
      · cases h
      · rename_i hguard
        have hnone : s.updating = none := not_not.mp hguard
        cases h
        exact .inr (.inr (.inr ⟨hnone, hnone, rfl⟩))

/-- A held kid stays held, unless `invalidate_key` is called on it while another kid is
active. -/
theorem kidHeld_step {order : IterationOrder} {kid : String} {s s' : TaskState}
    {label : TaskLabel} (h : KidHeld kid s) (hstep : taskStep order s label = some s')
    (hkeep : ¬ InvalidatesOther kid s label) : KidHeld kid s' := by
  rcases taskStep_cases hstep with
    ⟨assigned, newKeyData, hupdating, _, hmanager⟩ |
    ⟨hnone, _, _, _, _, hmanager⟩ | ⟨hnone, _, called, hmanager, hcalled⟩ |
    ⟨hnone, _, hmanager⟩
  · left
    show kid ∈ s'.manager.keyMapping
    rw [hmanager]
    show kid ∈ s.manager.keyMapping.insert assigned newKeyData
    rw [Finmap.mem_insert]
    rcases h with hmem | ⟨other, hother⟩
    · exact .inr hmem
    · rw [hupdating] at hother
      cases hother
      exact .inl rfl
  · left
    rw [hmanager]
    exact h.available hnone
  · left
    rw [hmanager, mem_stateAfter_invalidateKey]
    refine ⟨?_, h.available hnone⟩
    by_contra hgone
    push Not at hgone
    obtain ⟨rfl, hactive⟩ := hgone
    exact hkeep (hcalled hactive)
  · left
    rw [hmanager]
    exact h.available hnone

/-- The active key is held after every step. -/
theorem activeHeld_step {order : IterationOrder} {s s' : TaskState} {label : TaskLabel}
    (h : KidHeld s.manager.activeKey s) (hstep : taskStep order s label = some s') :
    KidHeld s'.manager.activeKey s' := by
  have hkeep : ¬ InvalidatesOther s.manager.activeKey s label := by
    cases label <;> simp [InvalidatesOther]
  have hheld := kidHeld_step h hstep hkeep
  rcases taskStep_cases hstep with
    ⟨_, _, _, _, hmanager⟩ | ⟨_, kid, newKeyData, active, hupdating, hmanager⟩ |
    ⟨_, _, called, hmanager, _⟩ | ⟨_, _, hmanager⟩
  · have hsame : s'.manager.activeKey = s.manager.activeKey := by
      rw [hmanager]
      rfl
    rwa [hsame]
  · -- the new active key is the one that is about to be assigned
    have hactive : s'.manager.activeKey = if active then kid else s.manager.activeKey := by
      rw [hmanager]
      rfl
    cases active with
    | false =>
        rw [hactive]
        exact hheld
    | true =>
        rw [hactive]
        exact .inr ⟨newKeyData, hupdating⟩
  · have hsame : s'.manager.activeKey = s.manager.activeKey := by
      rw [hmanager]
      exact keeps_active_invalidateKey (· = s.manager.activeKey) called s.manager rfl
    rwa [hsame]
  · have hsame : s'.manager.activeKey = s.manager.activeKey := by rw [hmanager]
    rwa [hsame]

/-- Adding new keys is a run of the task; an exception sends it to sleep. -/
theorem addNewKeys_run (order : IterationOrder) (store : SyncedStore) (rows : List KeyRow)
    (expiredKeys newKeys : List String) (manager : TokenManager) :
    ∃ actions, runActions (taskStep order) ⟨manager, none, .polling newKeys expiredKeys⟩ actions =
      some ⟨stateAfter (newKeys.forM (addNewKey store rows)) manager, none,
        match newKeys.forM (addNewKey store rows) manager with
        | .ok _ _ => .polling [] expiredKeys
        | .error _ _ => .asleep⟩ := by
  induction newKeys generalizing manager with
  | nil => exact ⟨[], rfl⟩
  | cons newKey newKeys ih =>
      have hloop : (newKey :: newKeys).forM (addNewKey store rows) =
          addNewKey store rows newKey >>= fun _ => newKeys.forM (addNewKey store rows) := rfl
      rw [hloop]
      rcases addNewKey_cases store rows newKey manager with
        ⟨_, hrun⟩ | ⟨exn, _, hrun⟩ | ⟨result, _, hrun⟩
      · -- nothing was fetched
        obtain ⟨actions, hactions⟩ := ih manager
        refine ⟨.fetched none :: actions, ?_⟩
        rw [stateAfter_bind_of_ok hrun, bind_of_ok hrun]
        exact hactions
      · refine ⟨[.sleep], ?_⟩
        have hfails := bind_eq_error (f := fun _ => newKeys.forM (addNewKey store rows)).mpr
          (Or.inl hrun)
        rw [stateAfter_of_error hfails, hfails]
        rfl
      · obtain ⟨actions, hactions⟩ :=
          ih (updateKeydata newKey result result.fetchedActive manager)
        refine ⟨.fetched (some result) :: .assignMapping :: actions, ?_⟩
        rw [stateAfter_bind_of_ok hrun, bind_of_ok hrun]
        exact hactions

/-- Removing expired keys is a run of the task that ends asleep. -/
theorem invalidateKeys_run (order : IterationOrder) (expiredKeys : List String)
    (manager : TokenManager) :
    ∃ actions, runActions (taskStep order) ⟨manager, none, .polling [] expiredKeys⟩ actions =
      some ⟨stateAfter (expiredKeys.forM TokenManager.invalidateKey) manager, none, .asleep⟩ := by
  induction expiredKeys generalizing manager with
  | nil => exact ⟨[.sleep], rfl⟩
  | cons expiredKey expiredKeys ih =>
      have hloop : (expiredKey :: expiredKeys).forM TokenManager.invalidateKey =
          TokenManager.invalidateKey expiredKey >>= fun _ =>
            expiredKeys.forM TokenManager.invalidateKey := rfl
      rw [hloop]
      by_cases hactive : manager.activeKey = expiredKey
      · have hrun := TokenManager.invalidateKey_of_active hactive
        refine ⟨[.removeExpired], ?_⟩
        rw [stateAfter_of_error (bind_eq_error.mpr (.inl hrun))]
        simp [runActions, taskStep, hrun]
      · have hrun := TokenManager.invalidateKey_of_ne hactive
        obtain ⟨actions, hactions⟩ :=
          ih { manager with keyMapping := manager.keyMapping.erase expiredKey }
        refine ⟨.removeExpired :: actions, ?_⟩
        rw [stateAfter_bind_of_ok hrun]
        simp only [runActions, taskStep, hrun]
        exact hactions

/-- An iteration of `poll_store` is a run of the task. -/
theorem pollStore_run (order : IterationOrder) (store : SyncedStore) (rows : List KeyRow)
    (manager : TokenManager) :
    ∃ actions, runActions (taskStep order) (taskStart manager) actions =
      some (taskStart (pollStore order store rows manager)) := by
  by_cases hkeys : store.validKeys = []
  · refine ⟨[], ?_⟩
    have hrun : pollKeys order store rows manager = .error .runtimeError manager := by
      unfold pollKeys
      rw [if_pos hkeys]
      rfl
    rw [pollStore, stateAfter_of_error hrun]
    rfl
  · set new := order.enumerate (store.validKeys.toFinset \ manager.keyMapping.keys) with hnew
    set expired := order.enumerate (manager.keyMapping.keys \ store.validKeys.toFinset)
      with hexpired
    have hread : taskStep order (taskStart manager) (.readKeys store.validKeys) =
        some ⟨manager, none, .polling new expired⟩ := by
      simp [taskStep, taskStart, hkeys, hnew, hexpired]
    obtain ⟨adding, hadding⟩ := addNewKeys_run order store rows expired new manager
    rw [pollStore, stateAfter_congr (pollKeys_run order rows manager hkeys)]
    cases hrun : new.forM (addNewKey store rows) manager with
    | error exn middle =>
        refine ⟨.readKeys store.validKeys :: adding, ?_⟩
        rw [stateAfter_of_error (bind_eq_error.mpr (.inl hrun))]
        rw [stateAfter_of_error hrun, hrun] at hadding
        simp only [runActions, hread]
        exact hadding
    | ok _ middle =>
        rw [stateAfter_of_ok hrun, hrun] at hadding
        obtain ⟨removing, hremoving⟩ := invalidateKeys_run order expired middle
        refine ⟨.readKeys store.validKeys :: (adding ++ removing), ?_⟩
        rw [stateAfter_bind_of_ok hrun]
        simp only [runActions, hread]
        exact runActions_append hadding hremoving

/-- After `set_key_state` the active key is held. -/
theorem activeHeld_taskStart (activeKid : String) (activeKeyMetadata : KeyMetadata)
    (verificationKeysMapping : Option KeyMapping) :
    KidHeld activeKid
      (taskStart (setKeyState activeKid activeKeyMetadata verificationKeysMapping)) := by
  left
  exact mem_setKeyState.mpr (.inl rfl)

/-- In every run after `set_key_state` the active key is in the mapping, and a kid that
has been active stays in it until `invalidate_key` is called on it while another kid is
active. -/
theorem signingKey_available (order : IterationOrder) (activeKid : String)
    (activeKeyMetadata : KeyMetadata) (verificationKeysMapping : Option KeyMapping)
    (actions : List TaskLabel) :
    Always (taskStep order) SigningKeyAvailable
        (taskStart (setKeyState activeKid activeKeyMetadata verificationKeysMapping)) actions ∧
      ∀ s, runActions (taskStep order)
          (taskStart (setKeyState activeKid activeKeyMetadata verificationKeysMapping)) actions =
            some s →
        ∀ later, EachStep (taskStep order)
            (fun t label => ¬ InvalidatesOther s.manager.activeKey t label) s later →
          Always (taskStep order) (KidAvailable s.manager.activeKey) s later := by
  have hstart := activeHeld_taskStart activeKid activeKeyMetadata verificationKeysMapping
  have hall : Always (taskStep order) (fun s => KidHeld s.manager.activeKey s)
      (taskStart (setKeyState activeKid activeKeyMetadata verificationKeysMapping)) actions :=
    always_of_preserved (fun _ _ _ hheld hstep => activeHeld_step hheld hstep) actions _ hstart
  constructor
  · exact hall.imp fun s hheld => hheld.available
  · intro s hrun later hlater
    have hheld : KidHeld s.manager.activeKey s := hall.last hrun
    have hkept : Always (taskStep order) (KidHeld s.manager.activeKey) s later :=
      always_of_eachStep (I := fun _ => True) (fun _ _ _ _ _ _ => trivial)
        (fun _ _ _ _ hQ hstep hG => kidHeld_step hQ hstep hG) later s trivial hheld hlater
    exact hkept.imp fun t ht => ht.available

/-- The metadata of the key of a rotation. -/
def rotatedIn : KeyMetadata := ⟨"p2", "s2", "ES256", 20, none⟩

/-- A rotation leaves the key that was active before it in the mapping. -/
theorem signingKey_available_rotation :
    KidAvailable "1" ⟨assignKey "2" rotatedIn (assignActive "2" true beforeRotation), none,
      .asleep⟩ := by
  obtain ⟨_, hkept⟩ :=
    signingKey_available sortedOrder "1" ⟨"p1", "s1", "ES256", 10, none⟩ none []
  have hall := hkept (taskStart beforeRotation) rfl [.updateKeydata "2" rotatedIn true,
    .assignMapping] (fun _ _ => ⟨id, fun _ _ => ⟨id, trivial⟩⟩)
  exact hall.last rfl

end AuthServer
end Tenjin
