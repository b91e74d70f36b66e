import Tenjin.AuthServer.KeyCluster

/-!
# A rotation does not reach the workers of a cluster

Runs of the cluster of `KeyCluster` from a state in which no worker is running.

* A worker goes on signing with the key of its bootup, and it can always sign with it
  (`always_signingKey_kept`).
* After a rotation the workers go on signing with keys that are rotated out, and none of
  them knows the new one, until one boots (`always_newKey_unknown`).
* A cleanup of the keystore then expires the keys that the workers sign with
  (`always_signs_expired`).
-/

namespace Tenjin
namespace AuthServer

open Foundation
open Python

theorem clusterSound_idle (Worker : Type) (table : KeyRows) (files : KeyFiles)
    (validKeys : List String) : ClusterSound (idleCluster Worker table files validKeys) := by
  refine ⟨table.kids_nodup, fun worker task htask => ?_⟩
  cases htask

/-- Where no worker knows the key that is not rotated out, they sign with other keys. -/
theorem NewKeyUnknown.signs_rotatedOut {Worker : Type} {c : KeyCluster Worker}
    (hsound : ClusterSound c) (hunknown : NewKeyUnknown c) {worker : Worker} {task : TaskState}
    (htask : c.tasks worker = some task) : RotatedOut c.rows task.manager.activeKey := by
  have htaskSound := hsound.sound worker task htask
  rcases rotatedOut_or_active (htaskSound.known _ htaskSound.held) with
    hout | ⟨row, hrow, hkid, hnone⟩
  · exact hout
  · exact absurd htaskSound.held (hkid ▸ hunknown worker task htask row hrow hnone)

section Runs

variable {Worker : Type} [DecidableEq Worker]

/-- The task of a worker after one of the workers has got a new one. -/
theorem task_of_update {tasks : Worker → Option TaskState} {updated worker : Worker}
    {task? : Option TaskState} {task : TaskState}
    (h : Function.update tasks updated task? worker = some task) :
    (worker = updated ∧ task? = some task) ∨ (worker ≠ updated ∧ tasks worker = some task) := by
  by_cases hsame : worker = updated
  · subst hsame
    rw [Function.update_self] at h
    exact .inl ⟨rfl, h⟩
  · rw [Function.update_of_ne hsame] at h
    exact .inr ⟨hsame, h⟩

/-- What a step does to the table, and to each worker that is running after it: its task
follows the one before, or the worker has booted. -/
theorem clusterStep_spec {server : KeyServer} {order : IterationOrder}
    {c c' : KeyCluster Worker} {label : ClusterLabel Worker}
    (hnodup : (kids (keyData c.rows)).Nodup) (h : clusterStep server order c label = some c') :
    TableMoves c.rows c'.rows ∧
      ∀ worker task', c'.tasks worker = some task' →
        (∃ task, c.tasks worker = some task ∧ TaskFollows c.rows task task') ∨
        (label.Restarts worker ∧ label.Boots ∧ TaskSound c'.rows task') := by
  cases label with
  | request updated request =>
      simp only [clusterStep] at h
      cases htask : c.tasks updated with
      | none =>
          rw [htask] at h
          cases h
      | some task =>
          simp only [htask] at h
          split at h
          · cases h
          rename_i hguard
          have hnone : task.updating = none := not_not.mp hguard
          cases h
          obtain ⟨hmoves, hmanager⟩ :=
            handleKeyRequest_spec (w := c.worldOf task) server request hnodup
          refine ⟨hmoves, fun worker task' htask' => .inl ?_⟩
          rcases task_of_update htask' with ⟨rfl, hsome⟩ | ⟨_, hold⟩
          · cases hsome
            refine ⟨task, htask, ?_⟩
            rcases hmanager with hsame | ⟨kid, hdropped⟩
            · exact .of_unchanged hsame rfl
            · exact .of_invalidateKey hnone hdropped hnone
          · exact ⟨task', hold, .refl c.rows task'⟩
  | poll updated step =>
      simp only [clusterStep] at h
      cases htask : c.tasks updated with
      | none =>
          rw [htask] at h
          cases h
      | some task =>
          simp only [htask] at h
          cases hlabel : pollLabel c.validKeys c.rows task step with
          | none =>
              rw [hlabel] at h
              cases h
          | some taskLabel =>
              simp only [hlabel] at h
              cases hpolled : taskStep order task taskLabel with
              | none =>
                  rw [hpolled] at h
                  cases h
              | some polled =>
                  simp only [hpolled, Option.some.injEq] at h
                  subst h
                  refine ⟨.refl hnodup, fun worker task' htask' => .inl ?_⟩
                  rcases task_of_update htask' with ⟨rfl, hsome⟩ | ⟨_, hold⟩
                  · cases hsome
                    exact ⟨task, htask, pollTask_follows hlabel hpolled⟩
                  · exact ⟨task', hold, .refl c.rows task'⟩
  | bootMaster updated drawn files =>
      simp only [clusterStep] at h
      cases hboot : masterBootupServer server.limit drawn.row c.rows with
      | error exn =>
          rw [hboot] at h
          cases h
      | ok booted =>
          simp only [hboot] at h
          split at h
          · cases h
            obtain ⟨hmoves, hsound⟩ := masterBootup_sound hnodup hboot
            refine ⟨hmoves, fun worker task' htask' => ?_⟩
            rcases task_of_update htask' with ⟨rfl, hsome⟩ | ⟨_, hold⟩
            · cases hsome
              exact .inr ⟨rfl, trivial, hsound⟩
            · exact .inl ⟨task', hold, .refl c.rows task'⟩
          · cases h
  | masterAborts updated drawn files published =>
      simp only [clusterStep] at h
      cases hboot : masterBootupServer server.limit drawn.row c.rows with
      | error exn =>
          rw [hboot] at h
          cases h
      | ok booted =>
          simp only [hboot, Option.some.injEq] at h
          subst h
          refine ⟨(masterBootup_sound hnodup hboot).1, fun worker task' htask' => .inl ?_⟩
          rcases task_of_update htask' with ⟨_, hnone⟩ | ⟨_, hold⟩
          · cases hnone
          · exact ⟨task', hold, .refl c.rows task'⟩
  | bootSlave updated =>
      simp only [clusterStep] at h
      cases hboot : slaveBootup server.limit c.rows with
      | error exn =>
          rw [hboot] at h
          cases h
      | ok manager =>
          simp only [hboot, Option.some.injEq] at h
          subst h
          refine ⟨.refl hnodup, fun worker task' htask' => ?_⟩
          rcases task_of_update htask' with ⟨rfl, hsome⟩ | ⟨_, hold⟩
          · cases hsome
            exact .inr ⟨rfl, trivial, slaveBootup_sound hboot⟩
          · exact .inl ⟨task', hold, .refl c.rows task'⟩
  | stop updated =>
      cases h
      refine ⟨.refl hnodup, fun worker task' htask' => .inl ?_⟩
      rcases task_of_update htask' with ⟨_, hnone⟩ | ⟨_, hold⟩
      · cases hnone
      · exact ⟨task', hold, .refl c.rows task'⟩

/-- A worker that a step neither boots nor stops goes on running. -/
theorem running_of_stays {server : KeyServer} {order : IterationOrder}
    {c c' : KeyCluster Worker} {label : ClusterLabel Worker} {worker : Worker}
    (h : clusterStep server order c label = some c') (hstays : ¬ label.Restarts worker)
    (hrunning : (c.tasks worker).isSome) : (c'.tasks worker).isSome := by
  have hupdate : ∀ (updated : Worker) (task : TaskState),
      (Function.update c.tasks updated (some task) worker).isSome := by
    intro updated task
    by_cases hsame : worker = updated
    · rw [hsame, Function.update_self]
      rfl
    · rwa [Function.update_of_ne hsame]
  cases label with
  | request updated request =>
      simp only [clusterStep] at h
      split at h
      · cases h
      · split at h
        · cases h
        · cases h
          exact hupdate updated _
  | poll updated step =>
      simp only [clusterStep] at h
      split at h
      · cases h
      · split at h
        · cases h
        · split at h
          · cases h
          · cases h
            exact hupdate updated _
  | bootMaster updated drawn files =>
      simp only [clusterStep] at h
      split at h
      · cases h
      · split at h
        · cases h
          exact hupdate updated _
        · cases h
  | masterAborts updated drawn files published =>
      have hne : worker ≠ updated := fun hsame => hstays hsame.symm
      simp only [clusterStep] at h
      split at h
      · cases h
      · cases h
        show (Function.update c.tasks updated none worker).isSome
        rwa [Function.update_of_ne hne]
  | bootSlave updated =>
      simp only [clusterStep] at h
      split at h
      · cases h
      · cases h
        exact hupdate updated _
  | stop updated =>
      have hne : worker ≠ updated := fun hsame => hstays hsame.symm
      cases h
      show (Function.update c.tasks updated none worker).isSome
      rwa [Function.update_of_ne hne]

/-- Every step keeps the cluster sound. -/
theorem clusterSound_step {server : KeyServer} {order : IterationOrder}
    {c c' : KeyCluster Worker} {label : ClusterLabel Worker} (hsound : ClusterSound c)
    (h : clusterStep server order c label = some c') : ClusterSound c' := by
  obtain ⟨hmoves, htasks⟩ := clusterStep_spec hsound.kids_nodup h
  refine ⟨hmoves.kids_nodup, fun worker task' htask' => ?_⟩
  rcases htasks worker task' htask' with ⟨task, htask, hfollows⟩ | ⟨_, _, hbooted⟩
  · exact hfollows.sound (hsound.sound worker task htask) hmoves
  · exact hbooted

/-- Every state that a run reaches is sound. -/
theorem clusterSound_of_run {server : KeyServer} {order : IterationOrder} {table : KeyRows}
    {files : KeyFiles} {validKeys : List String} {actions : List (ClusterLabel Worker)}
    {c : KeyCluster Worker}
    (hrun : runActions (clusterStep server order) (idleCluster Worker table files validKeys)
      actions = some c) : ClusterSound c :=
  runActions_preserves (fun _ _ _ hsound hstep => clusterSound_step hsound hstep) actions _ _
    (clusterSound_idle Worker table files validKeys) hrun

/-- While a worker neither boots nor stops, whatever the cluster does, it can sign.  It
signs with the same key, unless some key was rotated out at the timestamp zero, and every
key that it learns is rotated out. -/
theorem always_signingKey_kept (server : KeyServer) (order : IterationOrder) (table : KeyRows)
    (files : KeyFiles) (validKeys : List String) {actions later : List (ClusterLabel Worker)}
    {c : KeyCluster Worker} {worker : Worker} {task : TaskState}
    (hrun : runActions (clusterStep server order) (idleCluster Worker table files validKeys)
      actions = some c)
    (htask : c.tasks worker = some task)
    (hstays : EachStep (clusterStep server order) (fun _ label => ¬ label.Restarts worker) c
      later) :
    Always (clusterStep server order) (fun d => ∃ task', d.tasks worker = some task' ∧
        SigningKeyAvailable task' ∧
        (task'.manager.activeKey = task.manager.activeKey ∨ ∃ kid, RotatedAt d.rows kid 0) ∧
        ∀ kid, KidHeld kid task' → KidHeld kid task ∨ RotatedOut d.rows kid) c later := by
  have hkept : Always (clusterStep server order) (fun d => ClusterSound d ∧
      ∃ task', d.tasks worker = some task' ∧ TaskFollows d.rows task task') c later := by
    refine always_of_eachStep (I := fun _ => True) (fun _ _ _ _ _ _ => trivial) ?_ later c trivial
      ⟨clusterSound_of_run hrun, task, htask, .refl c.rows task⟩ hstays
    rintro d label d' _ ⟨hsound, before, hbefore, hfollows⟩ hstep hstay
    refine ⟨clusterSound_step hsound hstep, ?_⟩
    obtain ⟨hmoves, htasks⟩ := clusterStep_spec hsound.kids_nodup hstep
    obtain ⟨after, hafter⟩ := Option.isSome_iff_exists.mp
      (running_of_stays hstep hstay (Option.isSome_iff_exists.mpr ⟨before, hbefore⟩))
    refine ⟨after, hafter, ?_⟩
    rcases htasks worker after hafter with ⟨previous, hprevious, hstepped⟩ | ⟨hrestarts, _⟩
    · cases hbefore.symm.trans hprevious
      exact (hfollows.trans (.refl hsound.kids_nodup) hstepped).moves hmoves
    · exact absurd hrestarts hstay
  refine hkept.imp ?_
  rintro d ⟨hsound, task', htask', hfollows⟩
  exact ⟨task', htask', (hsound.sound worker task' htask').held.available, hfollows.signs,
    hfollows.gained⟩

/-- A step without a bootup keeps the new key unknown. -/
theorem newKeyUnknown_step {server : KeyServer} {order : IterationOrder}
    {c c' : KeyCluster Worker} {label : ClusterLabel Worker} (hsound : ClusterSound c)
    (hunknown : NewKeyUnknown c) (h : clusterStep server order c label = some c')
    (hboots : ¬ label.Boots) : NewKeyUnknown c' := by
  obtain ⟨hmoves, htasks⟩ := clusterStep_spec hsound.kids_nodup h
  intro worker task' htask' row hrow hactive hheld
  rcases htasks worker task' htask' with ⟨task, htask, hfollows⟩ | ⟨_, hbooted, _⟩
  · have hstill : ¬ RotatedOut c.rows row.kid := by
      intro hout
      exact (hmoves.rotatedOut hout).not_active hmoves.kids_nodup hrow hactive
    rcases hfollows.gained row.kid hheld with hold | hout
    · -- a held key has a row, and it was not rotated out before
      rcases rotatedOut_or_active ((hsound.sound worker task htask).known row.kid hold) with
        hout | ⟨before, hbefore, hkid, hnone⟩
      · exact hstill hout
      · exact hunknown worker task htask before hbefore hnone (hkid ▸ hold)
    · exact hstill hout
  · exact hboots hbooted

/-- A rotation that commits makes a key that no worker knows. -/
theorem newKeyUnknown_of_rotation {server : KeyServer} {order : IterationOrder}
    {c c' : KeyCluster Worker} (hsound : ClusterSound c) {worker : Worker}
    {request : RotateRequest} {faults : Faults RotatePoint}
    (h : clusterStep server order c (.request worker (.rotate request faults)) = some c')
    (hcommits : c'.rows ≠ c.rows) : NewKeyUnknown c' := by
  obtain ⟨_, htasks⟩ := clusterStep_spec hsound.kids_nodup h
  -- the rotation has committed
  obtain ⟨task, rotation, hrotation, hrows⟩ : ∃ (task : TaskState) (rotation : Rotation),
      rotateTransaction server.limit faults.raises request c.rows = .ok rotation ∧
        c'.rows = rotation.rows := by
    simp only [clusterStep] at h
    split at h
    · cases h
    · rename_i task htask
      split at h
      · cases h
      · cases h
        rcases rotateKeysEndpoint_cases server.limit faults request (c.worldOf task) with
          hsame | ⟨rotation, files, hrotation, hafter⟩
        · exact absurd (congrArg KeyWorld.rows hsame) hcommits
        · exact ⟨task, rotation, hrotation, congrArg KeyWorld.rows hafter⟩
  intro other task' htask' row hrow hactive hheld
  rw [hrows] at hrow
  have hkid : row.kid = request.pair.kid := active_of_rotation hrotation hrow hactive
  have hfresh := kid_fresh_of_rotateTransaction hrotation
  rcases htasks other task' htask' with ⟨before, hbefore, hfollows⟩ | ⟨_, hbooted, _⟩
  · apply hfresh
    rw [← hkid]
    rcases hfollows.gained row.kid hheld with hold | hout
    · exact (hsound.sound other before hbefore).known row.kid hold
    · exact hout.mem_kids
  · exact hbooted

/-- From a rotation that commits, until a worker boots, no worker knows the new key. -/
theorem always_sound_newKeyUnknown {server : KeyServer} {order : IterationOrder}
    {c c' : KeyCluster Worker} (hsound : ClusterSound c) {worker : Worker}
    {request : RotateRequest} {faults : Faults RotatePoint}
    (hrotates : clusterStep server order c (.request worker (.rotate request faults)) = some c')
    (hcommits : c'.rows ≠ c.rows) {later : List (ClusterLabel Worker)}
    (hboots : EachStep (clusterStep server order) (fun _ label => ¬ label.Boots) c' later) :
    Always (clusterStep server order) (fun d => ClusterSound d ∧ NewKeyUnknown d) c' later := by
  refine always_of_eachStep (I := fun _ => True) (fun _ _ _ _ _ _ => trivial) ?_ later c' trivial
    ⟨clusterSound_step hsound hrotates, newKeyUnknown_of_rotation hsound hrotates hcommits⟩
    hboots
  rintro d label d' _ ⟨hd, hunknown⟩ hstep hno
  exact ⟨clusterSound_step hd hstep, newKeyUnknown_step hd hunknown hstep hno⟩

/-- From a rotation that commits, until a worker boots, every worker signs with a key that
is rotated out, and no worker knows a key that is not. -/
theorem always_newKey_unknown (server : KeyServer) (order : IterationOrder) (table : KeyRows)
    (files : KeyFiles) (validKeys : List String) {actions later : List (ClusterLabel Worker)}
    {c c' : KeyCluster Worker} {worker : Worker} {request : RotateRequest}
    {faults : Faults RotatePoint}
    (hrun : runActions (clusterStep server order) (idleCluster Worker table files validKeys)
      actions = some c)
    (hrotates : clusterStep server order c (.request worker (.rotate request faults)) = some c')
    (hcommits : c'.rows ≠ c.rows)
    (hboots : EachStep (clusterStep server order) (fun _ label => ¬ label.Boots) c' later) :
    Always (clusterStep server order) (fun d => ∀ worker task, d.tasks worker = some task →
        RotatedOut d.rows task.manager.activeKey ∧
        ∀ row ∈ d.rows, row.rotatedOutAt = none → ¬ KidHeld row.kid task) c' later := by
  refine (always_sound_newKeyUnknown (clusterSound_of_run hrun) hrotates hcommits hboots).imp ?_
  rintro d ⟨hd, hunknown⟩ other task htask
  exact ⟨hunknown.signs_rotatedOut hd htask, hunknown other task htask⟩

/-- Every worker signs with a key that has expired, unless some key was rotated out at the
timestamp zero. -/
def ExpiredSigners (c : KeyCluster Worker) : Prop :=
  ∀ worker task, c.tasks worker = some task →
    ExpiredKid c.rows task.manager.activeKey ∨ ∃ kid, RotatedAt c.rows kid 0

/-- A step without a bootup keeps the signing keys expired. -/
theorem expiredSigners_step {server : KeyServer} {order : IterationOrder}
    {c c' : KeyCluster Worker} {label : ClusterLabel Worker} (hsound : ClusterSound c)
    (hexpired : ExpiredSigners c) (h : clusterStep server order c label = some c')
    (hboots : ¬ label.Boots) : ExpiredSigners c' := by
  obtain ⟨hmoves, htasks⟩ := clusterStep_spec hsound.kids_nodup h
  intro worker task' htask'
  rcases htasks worker task' htask' with ⟨task, htask, hfollows⟩ | ⟨_, hbooted, _⟩
  · rcases hfollows.signs with hsame | ⟨kid, hzero⟩
    · rcases hexpired worker task htask with hold | ⟨kid, hzero⟩
      · left
        rw [hsame]
        exact hmoves.expired_kept _ hold
      · exact .inr ⟨kid, hmoves.rotated_kept kid 0 hzero⟩
    · exact .inr ⟨kid, hmoves.rotated_kept kid 0 hzero⟩
  · exact absurd hbooted hboots

/-- A cleanup that commits expires every key that is rotated out. -/
theorem expiredSigners_of_cleanup {server : KeyServer} {order : IterationOrder}
    {c c' : KeyCluster Worker} (hsound : ClusterSound c) (hunknown : NewKeyUnknown c)
    {worker : Worker} {now : Int} {faults : Faults CleanPoint} {pipelineFails : Bool}
    (h : clusterStep server order c (.request worker (.clean now faults pipelineFails)) = some c')
    (hcommits : c'.rows ≠ c.rows) : ExpiredSigners c' := by
  obtain ⟨hmoves, htasks⟩ := clusterStep_spec hsound.kids_nodup h
  have hrows : c'.rows = setExpired (kids (keyData (selectRotated c.rows))) now c.rows := by
    simp only [clusterStep] at h
    split at h
    · cases h
    · rename_i task htask
      split at h
      · cases h
      · cases h
        rcases cleanKeystoreEndpoint_spec server.ecdsa faults now pipelineFails
          (c.worldOf task) with hsame | ⟨_, _, _, _, _, hrows, _⟩
        · exact absurd hsame hcommits
        · exact hrows
  intro other task' htask'
  rcases htasks other task' htask' with ⟨task, htask, hfollows⟩ | ⟨_, hbooted, _⟩
  · rcases hfollows.signs with hsame | ⟨kid, hzero⟩
    · left
      rw [hsame]
      obtain ⟨time, row, hrow, hkid, hout⟩ := hunknown.signs_rotatedOut hsound htask
      by_cases hexpired : row.expiredAt = none
      · -- the row is among those that the cleanup expires
        have hselected : row.kid ∈ kids (keyData (selectRotated c.rows)) :=
          mem_kids_iff.mpr ⟨row, List.mem_filter.mpr ⟨hrow, by simp [hout, hexpired]⟩, rfl⟩
        rw [hrows]
        refine ⟨_, List.mem_map.mpr ⟨row, hrow, rfl⟩, ?_, ?_⟩
        · rw [if_pos hselected]
          exact hkid
        · rw [if_pos hselected]
          exact Option.some_ne_none now
      · exact hmoves.expired_kept _ ⟨row, hrow, hkid, hexpired⟩
    · exact .inr ⟨kid, hmoves.rotated_kept kid 0 hzero⟩
  · exact absurd hbooted id

/-- After a rotation and a cleanup that both commit, until a worker boots, every worker
signs with a key that has expired, unless some key was rotated out at the timestamp zero. -/
theorem always_signs_expired (server : KeyServer) (order : IterationOrder) (table : KeyRows)
    (files : KeyFiles) (validKeys : List String)
    {actions between later : List (ClusterLabel Worker)} {c c' d d' : KeyCluster Worker}
    {rotating cleaning : Worker} {request : RotateRequest} {faults : Faults RotatePoint}
    {now : Int} {cleanFaults : Faults CleanPoint} {pipelineFails : Bool}
    (hrun : runActions (clusterStep server order) (idleCluster Worker table files validKeys)
      actions = some c)
    (hrotates : clusterStep server order c (.request rotating (.rotate request faults)) = some c')
    (hrotated : c'.rows ≠ c.rows)
    (hbetween : runActions (clusterStep server order) c' between = some d)
    (hboots : EachStep (clusterStep server order) (fun _ label => ¬ label.Boots) c' between)
    (hcleans : clusterStep server order d
      (.request cleaning (.clean now cleanFaults pipelineFails)) = some d')
    (hcleaned : d'.rows ≠ d.rows)
    (hlater : EachStep (clusterStep server order) (fun _ label => ¬ label.Boots) d' later) :
    Always (clusterStep server order) (fun e => ∀ worker task, e.tasks worker = some task →
        ExpiredKid e.rows task.manager.activeKey ∨ ∃ kid, RotatedAt e.rows kid 0) d' later := by
  obtain ⟨hsound, hunknown⟩ :=
    (always_sound_newKeyUnknown (clusterSound_of_run hrun) hrotates hrotated hboots).last hbetween
  have hkept : Always (clusterStep server order) (fun e => ClusterSound e ∧ ExpiredSigners e)
      d' later := by
    refine always_of_eachStep (I := fun _ => True) (fun _ _ _ _ _ _ => trivial) ?_ later d' trivial
      ⟨clusterSound_step hsound hcleans, expiredSigners_of_cleanup hsound hunknown hcleans
        hcleaned⟩ hlater
    rintro e label e' _ ⟨he, hexpired⟩ hstep hno
    exact ⟨clusterSound_step he hstep, expiredSigners_step he hexpired hstep hno⟩
  exact hkept.imp fun e he => he.2

end Runs

/-- The table of two keys. -/
def twoKeyTable : KeyRows := ⟨twoKeyRows, by decide⟩

/-- The server of a cluster of two workers on this table. -/
def twoWorkerServer : KeyServer := ⟨deployedLimit, expiringSession, ⟨fun pem => some (pem, pem)⟩⟩

/-- A rotation that the first worker handles. -/
def firstRotates : ClusterLabel Bool := .request true (.rotate thirdKey noFaults)

/-- A cleanup that the second worker handles. -/
def secondCleans : ClusterLabel Bool :=
  .request false (.clean 60 ⟨fun _ => false, none, none⟩ false)

/-- The worker that handles a rotation goes on signing with the old key. -/
theorem signingKey_kept_rotation :
    ∃ c, runActions (clusterStep twoWorkerServer sortedOrder)
        (idleCluster Bool twoKeyTable twoKeyFiles ["2", "1"])
        [.bootSlave true, firstRotates] = some c ∧
      ∃ task, c.tasks true = some task ∧
        (task.manager.activeKey = "2" ∨ ∃ kid, RotatedAt c.rows kid 0) := by
  refine ⟨_, rfl, ?_⟩
  have hall := @always_signingKey_kept Bool _ twoWorkerServer sortedOrder twoKeyTable
    twoKeyFiles ["2", "1"] [.bootSlave true] [firstRotates] _ true _ rfl rfl
    (fun _ _ => ⟨id, trivial⟩)
  obtain ⟨task, htask, _, hsigns, _⟩ := hall.last rfl
  exact ⟨task, htask, hsigns⟩

/-- After the rotation the workers that had booted sign with a key that is rotated out. -/
theorem newKey_unknown_twoWorkers :
    ∃ c, runActions (clusterStep twoWorkerServer sortedOrder)
        (idleCluster Bool twoKeyTable twoKeyFiles ["2", "1"])
        [.bootSlave true, .bootSlave false, firstRotates] = some c ∧
      ∀ worker task, c.tasks worker = some task →
        RotatedOut c.rows task.manager.activeKey := by
  refine ⟨_, rfl, fun worker task htask => ?_⟩
  have hall := @always_newKey_unknown Bool _ twoWorkerServer sortedOrder twoKeyTable
    twoKeyFiles ["2", "1"] [.bootSlave true, .bootSlave false] [] _ _ true thirdKey noFaults
    rfl rfl (by decide) trivial
  exact (hall.head worker task htask).1

/-- After the cleanup they sign with a key that has expired. -/
theorem signs_expired_twoWorkers :
    ∃ c, runActions (clusterStep twoWorkerServer sortedOrder)
        (idleCluster Bool twoKeyTable twoKeyFiles ["2", "1"])
        [.bootSlave true, .bootSlave false, firstRotates, secondCleans] = some c ∧
      ∀ worker task, c.tasks worker = some task →
        ExpiredKid c.rows task.manager.activeKey ∨ ∃ kid, RotatedAt c.rows kid 0 := by
  refine ⟨_, rfl, fun worker task htask => ?_⟩
  have hall := @always_signs_expired Bool _ twoWorkerServer sortedOrder twoKeyTable
    twoKeyFiles ["2", "1"] [.bootSlave true, .bootSlave false] [] [] _ _ _ _ true false thirdKey
    noFaults 60 ⟨fun _ => false, none, none⟩ false rfl rfl (by decide) rfl trivial rfl
    (by decide) trivial
  exact hall.head worker task htask

end AuthServer
end Tenjin
