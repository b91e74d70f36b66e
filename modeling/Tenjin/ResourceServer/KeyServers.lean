import Tenjin.Foundation.GuardedRun
import Tenjin.ResourceServer.JwksUpdate

/-!
# The keys of a group of resource servers

Any number of workers of the resource server share the published mapping and the lock of
`update_jwks`.  A worker reads the published mapping when it starts (`lifespan` of
`bootup.py`), updates it if it is empty, and serves requests after that.

* A worker makes a step for each thing that it does between two awaits.  `updateJwks_run`
  says that an `update_jwks` without interruption is a run of these steps.
* `validate_access_token` reads the published mapping when it does not know the key of a
  token.  What it does with the token is left out.
* Reading a nonempty mapping raises, and an empty one replaces the keys of the worker.  So a
  worker never learns a key after its start, and loses all of them to a request with an
  unknown key while nothing is published (`always_keepsKeys_iff`).
* Once a mapping is published no worker starts any more (`always_frozen`).
-/

namespace Tenjin
namespace ResourceServer

open Foundation
open Python

/-- What a worker is doing: from `fetching` to `releasing` it has taken the lock, `waiting`
has so many polls left. -/
inductive ServerPhase
  | off
  | starting
  | fetching (current : KeyMapping)
  | publishing (current : KeyMapping)
  | releasing (current : KeyMapping)
  | waiting (polls : ℕ)
  | serving (current : KeyMapping)

/-- What the workers share, and their phases. -/
structure KeyServers (Worker : Type) where
  jwksMapping : KeyMapping
  pollLock : Bool
  pollCooldown : Bool
  phases : Worker → ServerPhase

/-- The steps. -/
inductive ServerLabel (Worker : Type)
  | start (worker : Worker)
  | lock (worker : Worker) (outcome : CallOutcome)
  | fetch (worker : Worker) (response : Except Exn JwksResponse)
  | publish (worker : Worker) (outcome : CallOutcome)
  | release (worker : Worker) (outcome : CallOutcome)
  | poll (worker : Worker)
  /-- A request with a token of this key. -/
  | authenticate (worker : Worker) (kid : String)
  /-- A message on the channel of the key announcements. -/
  | announce (worker : Worker) (message : PyValue)
  /-- The worker stops, or an exception ends its start. -/
  | stop (worker : Worker)
  | lockExpires

/-- What the key manager of a worker with these keys works on. -/
def KeyServers.stateOf {Worker : Type} (c : KeyServers Worker) (current : KeyMapping) :
    JwksState where
  currentMapping := current
  jwksMapping := c.jwksMapping
  pollLock := c.pollLock
  pollCooldown := c.pollCooldown

section Steps

variable {Worker : Type} [DecidableEq Worker]

/-- The shared state after the work of a worker, and its phase. -/
def KeyServers.enter (c : KeyServers Worker) (worker : Worker) (state : JwksState)
    (phase : ServerPhase) : KeyServers Worker where
  jwksMapping := state.jwksMapping
  pollLock := state.pollLock
  pollCooldown := state.pollCooldown
  phases := Function.update c.phases worker phase

/-- The phase of a worker changes, the shared state does not. -/
def KeyServers.move (c : KeyServers Worker) (worker : Worker) (phase : ServerPhase) :
    KeyServers Worker :=
  { c with phases := Function.update c.phases worker phase }

/-- One step. -/
def serverStep (publicPem : Int → Int → Except Exn String) (maxPolls : ℕ)
    (c : KeyServers Worker) : ServerLabel Worker → Option (KeyServers Worker)
  | .start worker =>
      match c.phases worker with
      | .off =>
          match getGlobalKeyMapping (c.stateOf ∅) with
          | .error _ => some c
          | .ok mapping =>
              some (c.move worker (if mapping = ∅ then .starting else .serving mapping))
      | _ => none
  | .lock worker outcome =>
      match c.phases worker with
      | .starting =>
          match acquirePollLock outcome (c.stateOf ∅) with
          | .error _ state => some (c.enter worker state .off)
          | .ok res state =>
              some (c.enter worker state (if res then .fetching ∅ else .waiting maxPolls))
      | _ => none
  | .fetch worker response =>
      match c.phases worker with
      | .fetching current =>
          match getJwks response with
          | .ok (some newMapping) =>
              if newMapping = [] then some (c.move worker (.releasing current))
              else
                match loadLocal publicPem newMapping current with
                | .ok _ loaded => some (c.move worker (.publishing loaded))
                -- the exception is printed
                | .error _ loaded => some (c.move worker (.releasing loaded))
          | _ => some (c.move worker (.releasing current))
      | _ => none
  | .publish worker outcome =>
      match c.phases worker with
      | .publishing current =>
          some (c.enter worker (stateAfter (publishMapping outcome) (c.stateOf current))
            (.releasing current))
      | _ => none
  | .release worker outcome =>
      match c.phases worker with
      | .releasing current =>
          match redisCall outcome (fun s => { s with pollLock := false, pollCooldown := true })
              (c.stateOf current) with
          | .ok _ state => some (c.enter worker state (.serving current))
          | .error _ state => some (c.enter worker state .off)
      | _ => none
  | .poll worker =>
      match c.phases worker with
      | .waiting 0 => some (c.move worker .off)
      | .waiting (polls + 1) =>
          match getGlobalKeyMapping (c.stateOf ∅) with
          | .error _ => some (c.move worker .off)
          | .ok mapping =>
              some (c.move worker (if mapping = ∅ then .waiting polls else .serving mapping))
      | _ => none
  | .authenticate worker kid =>
      match c.phases worker with
      | .serving current =>
          if kid ∈ current then some c
          else
            match getGlobalKeyMapping (c.stateOf current) with
            | .error _ => some c
            | .ok mapping => some (c.move worker (.serving mapping))
      | _ => none
  | .announce worker message =>
      match c.phases worker with
      | .serving current =>
          some (c.move worker (.serving (stateAfter (syncMessage message) current)))
      | _ => none
  | .stop worker => some (c.move worker .off)
  | .lockExpires => some { c with pollLock := false }

end Steps

/-- The start of the worker has begun and may go on to serve: it does not wait for another
worker. -/
def ServerPhase.inFlight : ServerPhase → Bool
  | .starting => true
  | .fetching _ => true
  | .publishing _ => true
  | .releasing _ => true
  | _ => false

/-- The worker serves requests. -/
def ServerPhase.serves : ServerPhase → Bool
  | .serving _ => true
  | _ => false

/-- The step is a request to the worker with a key that is not among these, while nothing is
published. -/
def WipesKeys {Worker : Type} (worker : Worker) (current : KeyMapping) (c : KeyServers Worker)
    (label : ServerLabel Worker) : Prop :=
  c.jwksMapping = ∅ ∧ ∃ kid, label = .authenticate worker kid ∧ kid ∉ current

/-- What a step can do to the phase of a worker. -/
inductive PhaseMove {Worker : Type} (c : KeyServers Worker) (label : ServerLabel Worker)
    (worker : Worker) : ServerPhase → ServerPhase → Prop
  | same (phase : ServerPhase) : PhaseMove c label worker phase phase
  | stopped (phase : ServerPhase) (h : label = .stop worker) :
      PhaseMove c label worker phase .off
  | begun (h : c.jwksMapping = ∅) : PhaseMove c label worker .off .starting
  | updated {before after : ServerPhase} (hbefore : before.inFlight = true)
      (hafter : after.serves = false) : PhaseMove c label worker before after
  | waited {polls : ℕ} {after : ServerPhase} (hflight : after.inFlight = false)
      (hserves : after.serves = false) : PhaseMove c label worker (.waiting polls) after
  | served (current : KeyMapping) :
      PhaseMove c label worker (.releasing current) (.serving current)
  | wiped {current : KeyMapping} (h : WipesKeys worker current c label) :
      PhaseMove c label worker (.serving current) (.serving ∅)

/-- Only an empty mapping can be read. -/
theorem getGlobalKeyMapping_eq_ok {state : JwksState} {mapping : KeyMapping} :
    getGlobalKeyMapping state = .ok mapping ↔ state.jwksMapping = ∅ ∧ mapping = ∅ := by
  unfold getGlobalKeyMapping
  split
  · rename_i hempty
    constructor
    · intro h
      cases h
      exact ⟨hempty, rfl⟩
    · rintro ⟨_, rfl⟩
      rfl
  · rename_i hne
    constructor
    · intro h
      cases h
    · rintro ⟨hempty, _⟩
      exact absurd hempty hne

/-- A publication leaves a nonempty mapping, or what was published before. -/
theorem jwksMapping_publishMapping (outcome : CallOutcome) (state : JwksState) :
    (stateAfter (publishMapping outcome) state).jwksMapping = state.jwksMapping ∨
      (stateAfter (publishMapping outcome) state).jwksMapping ≠ ∅ := by
  by_cases hempty : state.currentMapping = ∅
  · left
    unfold publishMapping
    rw [stateAfter_get_bind, if_pos hempty]
    rfl
  · rw [stateAfter_publishMapping hempty]
    cases outcome with
    | lost exn => exact .inl rfl
    | done => exact .inr hempty
    | late exn => exact .inr hempty

/-- A command that leaves the published mapping alone, however it ends. -/
theorem jwksMapping_redisCall {outcome : CallOutcome} {effect : JwksState → JwksState}
    (heffect : ∀ s, (effect s).jwksMapping = s.jwksMapping) (state : JwksState) :
    (stateAfter (redisCall outcome effect) state).jwksMapping = state.jwksMapping := by
  cases outcome with
  | done => exact heffect state
  | lost exn => rfl
  | late exn => exact heffect state

theorem jwksMapping_acquirePollLock (outcome : CallOutcome) (state : JwksState) :
    (stateAfter (acquirePollLock outcome) state).jwksMapping = state.jwksMapping :=
  congrArg Prod.snd (keeps_mappings_acquirePollLock outcome state.mappings state rfl)

section Runs

variable {Worker : Type} [DecidableEq Worker] {publicPem : Int → Int → Except Exn String}
  {maxPolls : ℕ}

/-- A step that moves one worker. -/
theorem phaseMove_of_update {c : KeyServers Worker} {label : ServerLabel Worker}
    {moved : Worker} {phases : Worker → ServerPhase} {phase : ServerPhase}
    (hphases : phases = Function.update c.phases moved phase)
    (hmove : PhaseMove c label moved (c.phases moved) phase) (worker : Worker) :
    PhaseMove c label worker (c.phases worker) (phases worker) := by
  subst hphases
  by_cases hsame : worker = moved
  · subst hsame
    rw [Function.update_self]
    exact hmove
  · rw [Function.update_of_ne hsame]
    exact .same _

/-- What a step does: a published mapping is never replaced by an empty one, and each worker
makes one of its moves. -/
theorem serverStep_spec {c c' : KeyServers Worker} {label : ServerLabel Worker}
    (h : serverStep publicPem maxPolls c label = some c') :
    (c'.jwksMapping = c.jwksMapping ∨ c'.jwksMapping ≠ ∅) ∧
      ∀ worker, PhaseMove c label worker (c.phases worker) (c'.phases worker) := by
  cases label with
  | start moved =>
      simp only [serverStep] at h
      split at h
      · rename_i hphase
        split at h
        · cases h
          exact ⟨.inl rfl, fun worker => .same _⟩
        · rename_i mapping hread
          obtain ⟨hempty, rfl⟩ := getGlobalKeyMapping_eq_ok.mp hread
          cases h
          refine ⟨.inl rfl, phaseMove_of_update rfl ?_⟩
          rw [hphase, if_pos rfl]
          exact .begun hempty
      · cases h
  | lock moved outcome =>
      simp only [serverStep] at h
      split at h
      · rename_i hphase
        have hmapping := jwksMapping_acquirePollLock outcome (c.stateOf ∅)
        split at h
        · rename_i hlock
          rw [stateAfter_of_error hlock] at hmapping
          cases h
          refine ⟨.inl hmapping, phaseMove_of_update rfl ?_⟩
          rw [hphase]
          exact .updated rfl rfl
        · rename_i res state hlock
          rw [stateAfter_of_ok hlock] at hmapping
          cases h
          refine ⟨.inl hmapping, phaseMove_of_update rfl ?_⟩
          rw [hphase]
          cases res with
          | true => exact .updated rfl rfl
          | false => exact .updated rfl rfl
      · cases h
  | fetch moved response =>
      simp only [serverStep] at h
      split at h
      · rename_i current hphase
        have hmoves : ∀ phase : ServerPhase, phase.serves = false →
            c' = c.move moved phase →
            (c'.jwksMapping = c.jwksMapping ∨ c'.jwksMapping ≠ ∅) ∧
              ∀ worker, PhaseMove c (.fetch moved response) worker (c.phases worker)
                (c'.phases worker) := by
          rintro phase hserves rfl
          refine ⟨.inl rfl, phaseMove_of_update rfl ?_⟩
          rw [hphase]
          exact .updated rfl hserves
        split at h
        · split at h
          · exact hmoves _ rfl (Option.some.inj h).symm
          · split at h
            · exact hmoves _ rfl (Option.some.inj h).symm
            · exact hmoves _ rfl (Option.some.inj h).symm
        · exact hmoves _ rfl (Option.some.inj h).symm
      · cases h
  | publish moved outcome =>
      simp only [serverStep] at h
      split at h
      · rename_i current hphase
        cases h
        refine ⟨jwksMapping_publishMapping outcome (c.stateOf current),
          phaseMove_of_update rfl ?_⟩
        rw [hphase]
        exact .updated rfl rfl
      · cases h
  | release moved outcome =>
      simp only [serverStep] at h
      split at h
      · rename_i current hphase
        have hmapping : (stateAfter (redisCall outcome fun s : JwksState =>
            { s with pollLock := false, pollCooldown := true }) (c.stateOf current)).jwksMapping =
            c.jwksMapping := by
          apply jwksMapping_redisCall
          intro s
          rfl
        split at h
        · rename_i hrelease
          rw [stateAfter_of_ok hrelease] at hmapping
          cases h
          refine ⟨.inl hmapping, phaseMove_of_update rfl ?_⟩
          rw [hphase]
          exact .served current
        · rename_i hrelease
          rw [stateAfter_of_error hrelease] at hmapping
          cases h
          refine ⟨.inl hmapping, phaseMove_of_update rfl ?_⟩
          rw [hphase]
          exact .updated rfl rfl
      · cases h
  | poll moved =>
      simp only [serverStep] at h
      split at h
      · rename_i hphase
        cases h
        refine ⟨.inl rfl, phaseMove_of_update rfl ?_⟩
        rw [hphase]
        exact .waited rfl rfl
      · rename_i polls hphase
        split at h
        · cases h
          refine ⟨.inl rfl, phaseMove_of_update rfl ?_⟩
          rw [hphase]
          exact .waited rfl rfl
        · rename_i mapping hread
          obtain ⟨_, rfl⟩ := getGlobalKeyMapping_eq_ok.mp hread
          cases h
          refine ⟨.inl rfl, phaseMove_of_update rfl ?_⟩
          rw [hphase, if_pos rfl]
          exact .waited rfl rfl
      · cases h
  | authenticate moved kid =>
      simp only [serverStep] at h
      split at h
      · rename_i current hphase
        split at h
        · cases h
          exact ⟨.inl rfl, fun worker => .same _⟩
        · rename_i hunknown
          split at h
          · cases h
            exact ⟨.inl rfl, fun worker => .same _⟩
          · rename_i mapping hread
            obtain ⟨hempty, rfl⟩ := getGlobalKeyMapping_eq_ok.mp hread
            cases h
            refine ⟨.inl rfl, phaseMove_of_update rfl ?_⟩
            rw [hphase]
            exact .wiped ⟨hempty, kid, rfl, hunknown⟩
      · cases h
  | announce moved message =>
      simp only [serverStep] at h
      split at h
      · rename_i current hphase
        rw [stateAfter_syncMessage] at h
        cases h
        refine ⟨.inl rfl, phaseMove_of_update rfl ?_⟩
        rw [hphase]
        exact .same _
      · cases h
  | stop moved =>
      cases h
      exact ⟨.inl rfl, phaseMove_of_update rfl (.stopped _ rfl)⟩
  | lockExpires =>
      cases h
      exact ⟨.inl rfl, fun worker => .same _⟩

/-- The phase after a start that was not interrupted. -/
def phaseAfter : EStateM.Result Exn JwksState Unit → ServerPhase
  | .ok _ state => .serving state.currentMapping
  | .error _ _ => .off

theorem enter_enter (c : KeyServers Worker) (worker : Worker) (state state' : JwksState)
    (phase phase' : ServerPhase) :
    (c.enter worker state phase).enter worker state' phase' = c.enter worker state' phase' := by
  simp only [KeyServers.enter, Function.update_idem]

theorem enter_move (c : KeyServers Worker) (worker : Worker) (state : JwksState)
    (phase phase' : ServerPhase) :
    (c.enter worker state phase).move worker phase' = c.enter worker state phase' := by
  simp only [KeyServers.enter, KeyServers.move, Function.update_idem]

theorem phases_enter (c : KeyServers Worker) (worker : Worker) (state : JwksState)
    (phase : ServerPhase) : (c.enter worker state phase).phases worker = phase :=
  Function.update_self ..

theorem stateOf_enter (c : KeyServers Worker) (worker : Worker) (state : JwksState)
    (phase : ServerPhase) {current : KeyMapping} (h : state.currentMapping = current) :
    (c.enter worker state phase).stateOf current = state := by
  subst h
  rfl

/-- Releasing the lock is the last step of a start. -/
theorem release_run (c : KeyServers Worker) (worker : Worker) (state : JwksState)
    (outcome : CallOutcome) :
    runActions (serverStep publicPem maxPolls)
        (c.enter worker state (.releasing state.currentMapping)) [.release worker outcome] =
      some (c.enter worker
        (stateAfter (redisCall outcome fun s : JwksState =>
          { s with pollLock := false, pollCooldown := true }) state)
        (phaseAfter (redisCall outcome (fun s : JwksState =>
          { s with pollLock := false, pollCooldown := true }) state))) := by
  apply runActions_one
  simp only [serverStep, phases_enter, stateOf_enter c worker state _ rfl]
  cases outcome with
  | done => exact congrArg some (enter_enter ..)
  | lost exn => exact congrArg some (enter_enter ..)
  | late exn => exact congrArg some (enter_enter ..)

/-- The body of the `try` of `update_jwks` is a run that ends before the lock is
released. -/
theorem refreshMappings_run (c : KeyServers Worker) (worker : Worker) (plan : UpdatePlan)
    (state : JwksState) :
    ∃ actions, runActions (serverStep publicPem maxPolls)
        (c.enter worker state (.fetching state.currentMapping)) actions =
      some (c.enter worker (stateAfter (refreshMappings publicPem plan) state)
        (.releasing (stateAfter (refreshMappings publicPem plan) state).currentMapping)) := by
  unfold refreshMappings
  cases hreply : getJwks plan.response with
  | error exn =>
      refine ⟨[.fetch worker plan.response], runActions_one ?_⟩
      simp only [serverStep, phases_enter, hreply]
      exact congrArg some (enter_move ..)
  | ok reply =>
      cases reply with
      | none =>
          refine ⟨[.fetch worker plan.response], runActions_one ?_⟩
          simp only [serverStep, phases_enter, hreply]
          exact congrArg some (enter_move ..)
      | some newMapping =>
          by_cases hnone : newMapping = []
          · refine ⟨[.fetch worker plan.response], runActions_one ?_⟩
            simp only [serverStep, phases_enter, hreply, hnone, if_true]
            exact congrArg some (enter_move ..)
          · simp only [hnone, if_false]
            cases hload : loadLocal publicPem newMapping state.currentMapping with
            | error exn loaded =>
                have hlift : onCurrent (loadLocal publicPem newMapping) state =
                    .error exn { state with currentMapping := loaded } := by
                  simp only [onCurrent, hload]
                rw [stateAfter_of_error (bind_of_error hlift)]
                refine ⟨[.fetch worker plan.response], runActions_one ?_⟩
                simp only [serverStep, phases_enter, hreply, hnone, if_false, hload]
                exact congrArg some (enter_move ..)
            | ok _ loaded =>
                have hlift : onCurrent (loadLocal publicPem newMapping) state =
                    .ok () { state with currentMapping := loaded } := by
                  simp only [onCurrent, hload]
                rw [stateAfter_bind_of_ok hlift]
                have hcurrent : (stateAfter (publishMapping plan.publish)
                    { state with currentMapping := loaded }).currentMapping = loaded := by
                  by_cases hempty : loaded = ∅
                  · unfold publishMapping
                    rw [stateAfter_get_bind, if_pos hempty]
                    rfl
                  · rw [stateAfter_publishMapping hempty]
                    cases plan.publish <;> rfl
                refine ⟨[.fetch worker plan.response, .publish worker plan.publish], ?_⟩
                simp only [runActions, serverStep, phases_enter, hreply, hnone, if_false, hload,
                  enter_move, enter_enter, hcurrent]
                rfl

/-- Polling without an exception is a run. -/
theorem pollGlobalMapping_run (c : KeyServers Worker) (worker : Worker) (polls : ℕ)
    (state : JwksState) :
    ∃ actions, runActions (serverStep publicPem maxPolls)
        (c.enter worker state (.waiting polls)) actions =
      some (c.enter worker (stateAfter (pollGlobalMapping (List.replicate polls none)) state)
        (phaseAfter (pollGlobalMapping (List.replicate polls none) state))) := by
  induction polls with
  | zero =>
      refine ⟨[.poll worker], runActions_one ?_⟩
      simp only [serverStep, phases_enter]
      exact congrArg some (enter_move ..)
  | succ polls ih =>
      obtain ⟨actions, hactions⟩ := ih
      rw [List.replicate_succ]
      by_cases hempty : state.jwksMapping = ∅
      · -- an empty mapping is no answer
        have hread : ∀ current, getGlobalKeyMapping
            ((c.enter worker state (.waiting (polls + 1))).stateOf current) = .ok ∅ :=
          fun current => getGlobalKeyMapping_eq_ok.mpr ⟨hempty, rfl⟩
        have hagain : pollGlobalMapping (none :: List.replicate polls none) state =
            pollGlobalMapping (List.replicate polls none) state := by
          show (match getGlobalKeyMapping state with
            | .error exn => throw exn
            | .ok globalMapping => _ : EStateM Exn JwksState Unit) state = _
          rw [getGlobalKeyMapping_eq_ok.mpr ⟨hempty, rfl⟩]
          rfl
        refine ⟨.poll worker :: actions, ?_⟩
        simp only [runActions, serverStep, phases_enter, hread, if_true, enter_move]
        rw [stateAfter_congr hagain, hagain]
        exact hactions
      · have hread : ∀ current, getGlobalKeyMapping
            ((c.enter worker state (.waiting (polls + 1))).stateOf current) =
            .error .attributeError := fun current => if_neg hempty
        have hraises : pollGlobalMapping (none :: List.replicate polls none) state =
            .error .attributeError state := by
          show (match getGlobalKeyMapping state with
            | .error exn => throw exn
            | .ok globalMapping => _ : EStateM Exn JwksState Unit) state = _
          rw [show getGlobalKeyMapping state = .error .attributeError from if_neg hempty]
          rfl
        refine ⟨[.poll worker], runActions_one ?_⟩
        simp only [serverStep, phases_enter, hread, enter_move]
        rw [stateAfter_of_error hraises, hraises]
        rfl

/-- An `update_jwks` without interruption is a run of its worker. -/
theorem updateJwks_run (c : KeyServers Worker) {worker : Worker} (plan : UpdatePlan)
    (hstarting : c.phases worker = .starting) (hlook : plan.lockPoll = none)
    (hpolls : plan.polls = List.replicate maxPolls none) :
    ∃ actions, runActions (serverStep publicPem maxPolls) c actions =
      some (c.enter worker (stateAfter (updateJwks publicPem plan) (c.stateOf ∅))
        (phaseAfter (updateJwks publicPem plan (c.stateOf ∅)))) := by
  have hmapping := keeps_mappings_acquirePollLock plan.lock (c.stateOf ∅).mappings
    (c.stateOf ∅) rfl
  unfold updateJwks
  cases hlock : acquirePollLock plan.lock (c.stateOf ∅) with
  | error exn state =>
      refine ⟨[.lock worker plan.lock], runActions_one ?_⟩
      rw [stateAfter_of_error (bind_of_error hlock), bind_of_error hlock]
      simp only [serverStep, hstarting, hlock]
      rfl
  | ok res state =>
      rw [stateAfter_of_ok hlock] at hmapping
      have hcurrent : state.currentMapping = ∅ := congrArg Prod.fst hmapping
      rw [stateAfter_bind_of_ok hlock, bind_of_ok hlock]
      cases res with
      | true =>
          obtain ⟨actions, hactions⟩ :=
            @refreshMappings_run Worker _ publicPem maxPolls c worker plan state
          have hprint : printException (refreshMappings publicPem plan) state =
              .ok () (stateAfter (refreshMappings publicPem plan) state) := rfl
          refine ⟨.lock worker plan.lock :: (actions ++ [.release worker plan.cleanup]), ?_⟩
          rw [hcurrent] at hactions
          simp only [runActions, serverStep, hstarting, hlock, if_true]
          rw [stateAfter_bind_of_ok hprint, bind_of_ok hprint]
          exact runActions_append hactions (release_run ..)
      | false =>
          obtain ⟨actions, hactions⟩ :=
            @pollGlobalMapping_run Worker _ publicPem maxPolls c worker maxPolls state
          have hwait : awaitWorker plan state = .ok () state := by
            unfold awaitWorker
            rw [hlook]
            cases plan.polls with
            | nil => rfl
            | cons poll polls => rfl
          refine ⟨.lock worker plan.lock :: actions, ?_⟩
          simp only [runActions, serverStep, hstarting, hlock, Bool.false_eq_true, if_false]
          rw [stateAfter_bind_of_ok hwait, bind_of_ok hwait, hpolls]
          exact hactions

/-- What a step does to the keys of a worker that is serving. -/
theorem serving_step {c c' : KeyServers Worker} {label : ServerLabel Worker} {worker : Worker}
    {current : KeyMapping} (hserving : c.phases worker = .serving current)
    (h : serverStep publicPem maxPolls c label = some c') (hstays : label ≠ .stop worker) :
    c'.phases worker = .serving current ∨
      (c'.phases worker = .serving ∅ ∧ WipesKeys worker current c label) := by
  have hmove := (serverStep_spec h).2 worker
  rw [hserving] at hmove
  generalize c'.phases worker = after at hmove
  cases hmove with
  | same => exact .inl rfl
  | stopped _ hstop => exact absurd hstop hstays
  | updated hbefore _ => cases hbefore
  | wiped hwipes => exact .inr ⟨rfl, hwipes⟩

/-- A request that wipes the keys leaves none. -/
theorem serving_of_wipes {c c' : KeyServers Worker} {label : ServerLabel Worker}
    {worker : Worker} {current : KeyMapping} (hserving : c.phases worker = .serving current)
    (h : serverStep publicPem maxPolls c label = some c')
    (hwipes : WipesKeys worker current c label) : c'.phases worker = .serving ∅ := by
  obtain ⟨hempty, kid, rfl, hunknown⟩ := hwipes
  have hread : getGlobalKeyMapping (c.stateOf current) = .ok ∅ :=
    getGlobalKeyMapping_eq_ok.mpr ⟨hempty, rfl⟩
  simp only [serverStep, hserving, hunknown, if_false, hread, Option.some.injEq] at h
  rw [← h]
  exact Function.update_self ..

/-- As long as it runs, a worker that serves with some keys has these or none.  It keeps
them in a run exactly if no step is a request with another key while nothing is
published. -/
theorem always_keepsKeys_iff (publicPem : Int → Int → Except Exn String) (maxPolls : ℕ)
    {c : KeyServers Worker} {worker : Worker} {current : KeyMapping}
    (hserving : c.phases worker = .serving current) (hkeys : current ≠ ∅)
    {actions : List (ServerLabel Worker)} (hstays : .stop worker ∉ actions) :
    Always (serverStep publicPem maxPolls)
        (fun d => d.phases worker = .serving current ∨ d.phases worker = .serving ∅) c actions ∧
      (Always (serverStep publicPem maxPolls) (fun d => d.phases worker = .serving current) c
          actions ↔
        EachStep (serverStep publicPem maxPolls)
          (fun d label => ¬ WipesKeys worker current d label) c actions) := by
  constructor
  · have hstart : c.phases worker = .serving current ∨ c.phases worker = .serving ∅ :=
      .inl hserving
    clear hserving
    induction actions generalizing c with
    | nil => exact hstart
    | cons label actions ih =>
        rw [List.mem_cons, not_or] at hstays
        refine ⟨hstart, fun c' hstep => ih hstays.2 ?_⟩
        have hstay : label ≠ .stop worker := Ne.symm hstays.1
        rcases hstart with hserving | hempty
        · rcases serving_step hserving hstep hstay with hsame | ⟨hwiped, _⟩
          · exact .inl hsame
          · exact .inr hwiped
        · rcases serving_step hempty hstep hstay with hsame | ⟨hwiped, _⟩
          · exact .inr hsame
          · exact .inr hwiped
  · induction actions generalizing c with
    | nil => exact ⟨fun _ => trivial, fun _ => hserving⟩
    | cons label actions ih =>
        rw [List.mem_cons, not_or] at hstays
        have hstay : label ≠ .stop worker := Ne.symm hstays.1
        constructor
        · rintro ⟨_, hrest⟩ c' hstep
          have htail := hrest c' hstep
          have hnot : ¬ WipesKeys worker current c label := by
            intro hwipes
            have hwiped := serving_of_wipes hserving hstep hwipes
            rw [htail.head] at hwiped
            cases hwiped
            exact hkeys rfl
          exact ⟨hnot, (ih htail.head hstays.2).mp htail⟩
        · intro heach
          refine ⟨hserving, fun c' hstep => ?_⟩
          obtain ⟨hnot, hrest⟩ := heach c' hstep
          rcases serving_step hserving hstep hstay with hsame | ⟨_, hwipes⟩
          · exact (ih hsame hstays.2).mpr hrest
          · exact absurd hwipes hnot

/-- Once a mapping is published, something stays published, and every worker that serves
later was serving with the same keys, or its start was under way. -/
theorem always_frozen (publicPem : Int → Int → Except Exn String) (maxPolls : ℕ)
    {c : KeyServers Worker} (hpublished : c.jwksMapping ≠ ∅)
    (actions : List (ServerLabel Worker)) :
    Always (serverStep publicPem maxPolls) (fun d => d.jwksMapping ≠ ∅ ∧
        ∀ worker current, d.phases worker = .serving current →
          c.phases worker = .serving current ∨ (c.phases worker).inFlight = true) c actions := by
  have hkept : Always (serverStep publicPem maxPolls) (fun d => d.jwksMapping ≠ ∅ ∧
      ∀ worker, ((d.phases worker).inFlight = true → (c.phases worker).inFlight = true) ∧
        ∀ current, d.phases worker = .serving current →
          c.phases worker = .serving current ∨ (c.phases worker).inFlight = true) c actions := by
    refine always_of_preserved ?_ actions c
      ⟨hpublished, fun worker => ⟨id, fun current => .inl⟩⟩
    rintro d label d' ⟨hd, hworkers⟩ hstep
    obtain ⟨hmapping, hmoves⟩ := serverStep_spec hstep
    refine ⟨?_, fun worker => ?_⟩
    · rcases hmapping with hsame | hne
      · rwa [hsame]
      · exact hne
    · obtain ⟨hflight, hserves⟩ := hworkers worker
      have hmove := hmoves worker
      generalize d.phases worker = before at hmove hflight hserves
      generalize d'.phases worker = after at hmove
      cases hmove with
      | same => exact ⟨hflight, hserves⟩
      | stopped => exact ⟨fun h => (by cases h), fun current h => (by cases h)⟩
      | begun hempty => exact absurd hempty hd
      | updated hbefore hafter =>
          refine ⟨fun _ => hflight hbefore, fun current h => ?_⟩
          rw [h] at hafter
          cases hafter
      | waited hno hafter =>
          refine ⟨fun h => ?_, fun current h => ?_⟩
          · rw [hno] at h
            cases h
          · rw [h] at hafter
            cases hafter
      | served current =>
          refine ⟨fun h => (by cases h), fun keys _ => .inr (hflight rfl)⟩
      | wiped hwipes => exact absurd hwipes.1 hd
  exact hkept.imp fun d hd => ⟨hd.1, fun worker => (hd.2 worker).2⟩

end Runs

/-- The keys of a worker. -/
def oneServedKey : KeyMapping := Finmap.singleton "1" "p1"

theorem oneServedKey_ne : oneServedKey ≠ ∅ := by
  intro hempty
  have hmem : "1" ∈ oneServedKey := by decide
  rw [hempty] at hmem
  exact Finmap.notMem_empty hmem

/-- Two workers, of which the first serves; nothing is published. -/
def unpublished : KeyServers Bool where
  jwksMapping := ∅
  pollLock := false
  pollCooldown := true
  phases worker := if worker then .serving oneServedKey else .off

/-- A token with an unknown key takes the keys away, one with a known key does not. -/
theorem keepsKeys_unknownKid :
    ¬ Always (serverStep (fun _ _ => .ok "p") 3)
        (fun d => d.phases true = .serving oneServedKey) unpublished [.authenticate true "2"] := by
  have hboth := @always_keepsKeys_iff Bool _ (fun _ _ => .ok "p") 3 unpublished true oneServedKey
    rfl oneServedKey_ne [.authenticate true "2"] (by simp)
  rw [hboth.2]
  intro heach
  exact (heach _ rfl).1 ⟨rfl, "2", rfl, by decide⟩

/-- With the keys published, the second worker does not start. -/
theorem frozen_secondWorker :
    Always (serverStep (fun _ _ => .ok "p") 3)
      (fun d => d.jwksMapping ≠ ∅ ∧ ∀ worker current, d.phases worker = .serving current →
        unpublished.phases worker = .serving current ∨
          (unpublished.phases worker).inFlight = true)
      { unpublished with jwksMapping := oneServedKey } [.start false, .lock false .done] := by
  exact @always_frozen Bool _ (fun _ _ => .ok "p") 3
    { unpublished with jwksMapping := oneServedKey } oneServedKey_ne
    [.start false, .lock false .done]

end ResourceServer
end Tenjin
