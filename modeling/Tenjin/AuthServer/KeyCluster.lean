import Tenjin.AuthServer.Bootup
import Tenjin.AuthServer.KeyRotation
import Tenjin.AuthServer.PollingTask

/-!
# The signing keys of a cluster of workers

Any number of workers of the authentication server share the key table, the files and the
`VALID_KEYS` list.  Each has a token manager of its own, with a polling task.

* A worker boots as the master or as a slave, handles requests of the key endpoints, polls,
  and may stop, at any time.  A request and a bootup are one step each; the polling task
  makes a step for each thing that it does between two awaits (`taskStep`).
* `TableMoves` is what every step does to the table: no id is lost, and a key that has been
  rotated out or expired stays so.
* `TaskFollows` is what a request or the polling task does to the token manager of a worker:
  `fetch_unexpired_key` raises on a key that is not rotated out, so a worker learns such a
  key from its bootup only.
-/

namespace Tenjin
namespace AuthServer

open Foundation
open Python

/-- The key of the id has been rotated out at the time. -/
def RotatedAt (rows : List KeyRow) (kid : String) (time : Int) : Prop :=
  ∃ row ∈ rows, row.kid = kid ∧ row.rotatedOutAt = some time

/-- The key of the id has been rotated out. -/
def RotatedOut (rows : List KeyRow) (kid : String) : Prop := ∃ time, RotatedAt rows kid time

/-- The key of the id has expired. -/
def ExpiredKid (rows : List KeyRow) (kid : String) : Prop :=
  ∃ row ∈ rows, row.kid = kid ∧ row.expiredAt ≠ none

/-- What a step does to the table. -/
structure TableMoves (rows rows' : List KeyRow) : Prop where
  kids_nodup : (kids (keyData rows')).Nodup
  kids_kept : ∀ kid ∈ kids (keyData rows), kid ∈ kids (keyData rows')
  rotated_kept : ∀ kid time, RotatedAt rows kid time → RotatedAt rows' kid time
  expired_kept : ∀ kid, ExpiredKid rows kid → ExpiredKid rows' kid

/-- The pair and the epoch of `initialize_active_key`. -/
structure NewKey where
  pair : EcdsaPair
  epoch : Int

/-- The row of `initialize_active_key`. -/
def NewKey.row (drawn : NewKey) : KeyRow where
  kid := drawn.pair.kid
  epoch := drawn.epoch
  rotatedOutAt := none
  expiredAt := none
  alg := "ES256"
  curve := "SECP256k1"
  privatePem := drawn.pair.privatePem
  publicPem := drawn.pair.publicPem

/-- What the workers share, and the polling task of each worker that is running. -/
structure KeyCluster (Worker : Type) where
  rows : List KeyRow
  files : KeyFiles
  validKeys : List String
  rotationLock : Bool
  rotationCooldown : Bool
  tasks : Worker → Option TaskState

/-- What the polling task of a worker does next. -/
inductive PollStep
  | readKeys
  /-- It fetches the next new key, with these announcements in the synced store. -/
  | fetch (announced : List String)
  | assignMapping
  | removeExpired
  | sleep

/-- The step of the task.  A fetch that raises cuts the iteration off. -/
def pollLabel (validKeys : List String) (rows : List KeyRow) (task : TaskState) :
    PollStep → Option TaskLabel
  | .readKeys => some (.readKeys validKeys)
  | .fetch announced =>
      match task.phase with
      | .polling (newKey :: _) _ =>
          match fetchUnexpiredKey ⟨validKeys, announced⟩ rows newKey with
          | .ok result => some (.fetched result)
          | .error _ => some .sleep
      | _ => none
  | .assignMapping => some .assignMapping
  | .removeExpired => some .removeExpired
  | .sleep => some .sleep

/-- The steps of the cluster. -/
inductive ClusterLabel (Worker : Type)
  | request (worker : Worker) (request : KeyRequest)
  | poll (worker : Worker) (step : PollStep)
  | bootMaster (worker : Worker) (drawn : NewKey) (files : KeyFiles)
  /-- A bootup of the master that fails after its work on the table. -/
  | masterAborts (worker : Worker) (drawn : NewKey) (files : KeyFiles) (published : Bool)
  | bootSlave (worker : Worker)
  | stop (worker : Worker)

/-- What the endpoints of a worker see. -/
def KeyCluster.worldOf {Worker : Type} (c : KeyCluster Worker) (task : TaskState) :
    KeyWorld where
  rows := c.rows
  files := c.files
  manager := task.manager
  validKeys := c.validKeys
  rotationLock := c.rotationLock
  rotationCooldown := c.rotationCooldown

section Steps

variable {Worker : Type} [DecidableEq Worker]

/-- The cluster after a request that a worker has handled. -/
def KeyCluster.afterRequest (c : KeyCluster Worker) (worker : Worker) (task : TaskState)
    (w : KeyWorld) : KeyCluster Worker where
  rows := w.rows
  files := w.files
  validKeys := w.validKeys
  rotationLock := w.rotationLock
  rotationCooldown := w.rotationCooldown
  tasks := Function.update c.tasks worker (some { task with manager := w.manager })

/-- One step of the cluster.  A worker between the assignments of `update_keydata` handles
nothing else. -/
def clusterStep (server : KeyServer) (order : IterationOrder) (c : KeyCluster Worker) :
    ClusterLabel Worker → Option (KeyCluster Worker)
  | .request worker request =>
      match c.tasks worker with
      | none => none
      | some task =>
          if task.updating ≠ none then none
          else some (c.afterRequest worker task
            (stateAfter (handleKeyRequest server request) (c.worldOf task)))
  | .poll worker step =>
      match c.tasks worker with
      | none => none
      | some task =>
          match pollLabel c.validKeys c.rows task step with
          | none => none
          | some label =>
              match taskStep order task label with
              | none => none
              | some task' =>
                  some { c with tasks := Function.update c.tasks worker (some task') }
  | .bootMaster worker drawn files =>
      match masterBootupServer server.limit drawn.row c.rows with
      | .error _ => none
      | .ok booted =>
          if files.jwks.map (·.map Jwk.kid) = some booted.jwks then
            some { c with
              rows := booted.rows, files := files, validKeys := booted.validKeys
              tasks := Function.update c.tasks worker (some (taskStart booted.manager)) }
          else none
  | .masterAborts worker drawn files published =>
      match masterBootupServer server.limit drawn.row c.rows with
      | .error _ => none
      | .ok booted =>
          some { c with
            rows := booted.rows, files := files
            validKeys := if published then booted.validKeys else c.validKeys
            tasks := Function.update c.tasks worker none }
  | .bootSlave worker =>
      match slaveBootup server.limit c.rows with
      | .error _ => none
      | .ok manager =>
          some { c with tasks := Function.update c.tasks worker (some (taskStart manager)) }
  | .stop worker => some { c with tasks := Function.update c.tasks worker none }

end Steps

/-- The label boots a worker. -/
def ClusterLabel.Boots {Worker : Type} : ClusterLabel Worker → Prop
  | .bootMaster .. => True
  | .bootSlave .. => True
  | _ => False

/-- The label boots the worker, or stops it. -/
def ClusterLabel.Restarts {Worker : Type} (worker : Worker) : ClusterLabel Worker → Prop
  | .bootMaster other _ _ => other = worker
  | .masterAborts other _ _ _ => other = worker
  | .bootSlave other => other = worker
  | .stop other => other = worker
  | _ => False

/-- A key table of any age: the ids are a primary key. -/
structure KeyRows where
  rows : List KeyRow
  kids_nodup : (kids (keyData rows)).Nodup

/-- No worker is running. -/
def idleCluster (Worker : Type) (table : KeyRows) (files : KeyFiles)
    (validKeys : List String) : KeyCluster Worker where
  rows := table.rows
  files := files
  validKeys := validKeys
  rotationLock := false
  rotationCooldown := false
  tasks _ := none

/-- A task signs with a key that it holds, and every key that it holds has a row. -/
structure TaskSound (rows : List KeyRow) (task : TaskState) : Prop where
  held : KidHeld task.manager.activeKey task
  known : ∀ kid, KidHeld kid task → kid ∈ kids (keyData rows)

/-- The ids are a primary key, and every running worker has a sound task. -/
structure ClusterSound {Worker : Type} (c : KeyCluster Worker) : Prop where
  kids_nodup : (kids (keyData c.rows)).Nodup
  sound : ∀ worker task, c.tasks worker = some task → TaskSound c.rows task

/-- What a task has gained since an earlier moment are keys that are rotated out, and it
signs with the same key, or some key was rotated out at the timestamp zero. -/
structure TaskFollows (rows : List KeyRow) (task task' : TaskState) : Prop where
  held : KidHeld task.manager.activeKey task → KidHeld task'.manager.activeKey task'
  gained : ∀ kid, KidHeld kid task' → KidHeld kid task ∨ RotatedOut rows kid
  signs : task'.manager.activeKey = task.manager.activeKey ∨ ∃ kid, RotatedAt rows kid 0

/-- No running worker knows a key that is not rotated out. -/
def NewKeyUnknown {Worker : Type} (c : KeyCluster Worker) : Prop :=
  ∀ worker task, c.tasks worker = some task →
    ∀ row ∈ c.rows, row.rotatedOutAt = none → ¬ KidHeld row.kid task

theorem mem_kids_iff {rows : List KeyRow} {kid : String} :
    kid ∈ kids (keyData rows) ↔ ∃ row ∈ rows, row.kid = kid := by
  simp [kids, keyData]

theorem RotatedOut.mem_kids {rows : List KeyRow} {kid : String} (h : RotatedOut rows kid) :
    kid ∈ kids (keyData rows) := by
  obtain ⟨_, row, hrow, hkid, _⟩ := h
  exact mem_kids_iff.mpr ⟨row, hrow, hkid⟩

/-- A known id is rotated out, or its row is not. -/
theorem rotatedOut_or_active {rows : List KeyRow} {kid : String}
    (h : kid ∈ kids (keyData rows)) :
    RotatedOut rows kid ∨ ∃ row ∈ rows, row.kid = kid ∧ row.rotatedOutAt = none := by
  obtain ⟨row, hrow, hkid⟩ := mem_kids_iff.mp h
  cases hout : row.rotatedOutAt with
  | none => exact .inr ⟨row, hrow, hkid, hout⟩
  | some time => exact .inl ⟨time, row, hrow, hkid, hout⟩

theorem RotatedOut.not_active {rows : List KeyRow} (hnodup : (kids (keyData rows)).Nodup)
    {row : KeyRow} (hrow : row ∈ rows) (h : RotatedOut rows row.kid) :
    row.rotatedOutAt ≠ none := by
  obtain ⟨time, other, hother, hkid, hout⟩ := h
  rw [← keyRow_eq_of_kid_eq hnodup hother hrow hkid, hout]
  exact Option.some_ne_none time

theorem TableMoves.refl {rows : List KeyRow} (hnodup : (kids (keyData rows)).Nodup) :
    TableMoves rows rows :=
  ⟨hnodup, fun _ h => h, fun _ _ h => h, fun _ h => h⟩

theorem TableMoves.trans {first second third : List KeyRow} (h : TableMoves first second)
    (h' : TableMoves second third) : TableMoves first third where
  kids_nodup := h'.kids_nodup
  kids_kept kid hkid := h'.kids_kept kid (h.kids_kept kid hkid)
  rotated_kept kid time hkid := h'.rotated_kept kid time (h.rotated_kept kid time hkid)
  expired_kept kid hkid := h'.expired_kept kid (h.expired_kept kid hkid)

/-- A key that is rotated out after a step is rotated out at the same time as before, if it
was rotated out before. -/
theorem TableMoves.rotatedOut {rows rows' : List KeyRow} (h : TableMoves rows rows')
    {kid : String} (hkid : RotatedOut rows kid) : RotatedOut rows' kid := by
  obtain ⟨time, hrotated⟩ := hkid
  exact ⟨time, h.rotated_kept kid time hrotated⟩

theorem tableMoves_setExpired {rows : List KeyRow} (hnodup : (kids (keyData rows)).Nodup)
    (expired : List String) (now : Int) : TableMoves rows (setExpired expired now rows) where
  kids_nodup := by
    rw [keyData_setExpired, kids_expireKids]
    exact hnodup
  kids_kept kid hkid := by
    rw [keyData_setExpired, kids_expireKids]
    exact hkid
  rotated_kept := by
    rintro kid time ⟨row, hrow, hkid, hout⟩
    refine ⟨_, List.mem_map.mpr ⟨row, hrow, rfl⟩, ?_, ?_⟩
    · split
      · exact hkid
      · exact hkid
    · split
      · exact hout
      · exact hout
  expired_kept := by
    rintro kid ⟨row, hrow, hkid, hexpired⟩
    refine ⟨_, List.mem_map.mpr ⟨row, hrow, rfl⟩, ?_, ?_⟩
    · split
      · exact hkid
      · exact hkid
    · split
      · exact Option.some_ne_none now
      · exact hexpired

/-- The only key that is not rotated out is rotated out. -/
theorem tableMoves_setRotated {rows : List KeyRow} (hnodup : (kids (keyData rows)).Nodup)
    {previous : KeyRow} (hprevious : selectActive rows = [previous]) (now : Int) :
    TableMoves rows (setRotated previous.kid now rows) := by
  obtain ⟨hmem, hactive⟩ : previous ∈ rows ∧ previous.rotatedOutAt = none := by
    have hselected : previous ∈ selectActive rows := hprevious ▸ List.mem_singleton_self previous
    simpa [selectActive] using hselected
  have hkids : kids (keyData (setRotated previous.kid now rows)) = kids (keyData rows) := by
    unfold kids keyData setRotated
    rw [List.map_map, List.map_map, List.map_map]
    apply List.map_congr_left
    intro row _
    simp only [Function.comp]
    split <;> rfl
  refine ⟨hkids.symm ▸ hnodup, fun kid hkid => hkids.symm ▸ hkid, ?_, ?_⟩
  · rintro kid time ⟨row, hrow, hkid, hout⟩
    have hother : row.kid ≠ previous.kid := by
      intro hsame
      rw [keyRow_eq_of_kid_eq hnodup hrow hmem hsame, hactive] at hout
      cases hout
    refine ⟨row, List.mem_map.mpr ⟨row, hrow, ?_⟩, hkid, hout⟩
    rw [if_neg hother]
  · rintro kid ⟨row, hrow, hkid, hexpired⟩
    refine ⟨_, List.mem_map.mpr ⟨row, hrow, rfl⟩, ?_, ?_⟩
    · split
      · exact hkid
      · exact hkid
    · split
      · exact hexpired
      · exact hexpired

/-- A new row is inserted. -/
theorem tableMoves_insertKey {rows inserted : List KeyRow}
    (hnodup : (kids (keyData rows)).Nodup) {row : KeyRow}
    (h : insertKey row rows = .ok inserted) : TableMoves rows inserted := by
  obtain ⟨rfl, hfresh⟩ := insertKey_eq_ok h
  have hkids : kids (keyData (rows ++ [row])) = kids (keyData rows) ++ [row.kid] := by
    simp [kids, keyData]
  have hkid : row.kid ∉ kids (keyData rows) := by
    intro hmem
    obtain ⟨other, hother, hsame⟩ := mem_kids_iff.mp hmem
    exact hfresh ⟨other, hother, .inl hsame⟩
  refine ⟨?_, fun kid hold => ?_, ?_, ?_⟩
  · rw [hkids]
    exact nodup_append_singleton hnodup hkid
  · rw [hkids]
    exact List.mem_append_left _ hold
  · rintro kid time ⟨other, hother, hrest⟩
    exact ⟨other, List.mem_append_left _ hother, hrest⟩
  · rintro kid ⟨other, hother, hrest⟩
    exact ⟨other, List.mem_append_left _ hother, hrest⟩

/-- A committed rotation. -/
theorem tableMoves_rotation {limit : KeyLimit} {raises : RotatePoint → Bool}
    {request : RotateRequest} {rows : List KeyRow} (hnodup : (kids (keyData rows)).Nodup)
    {rotation : Rotation} (h : rotateTransaction limit raises request rows = .ok rotation) :
    TableMoves rows rotation.rows := by
  obtain ⟨_, _, _, _, _, previous, inserted, hprevious, hinserted, hend⟩ :=
    rotateTransaction_eq_ok h
  have hrotated := tableMoves_setRotated hnodup hprevious request.rotatedAt
  have hboth := hrotated.trans (tableMoves_insertKey hrotated.kids_nodup hinserted)
  rcases hend with ⟨_, rfl⟩ | ⟨_, _, _, oldest, _, rfl⟩
  · exact hboth
  · exact hboth.trans (tableMoves_setExpired hboth.kids_nodup [oldest.kid] request.expiredAt)

/-- After a committed rotation the only key that is not rotated out is the new one. -/
theorem active_of_rotation {limit : KeyLimit} {raises : RotatePoint → Bool}
    {request : RotateRequest} {rows : List KeyRow} {rotation : Rotation}
    (h : rotateTransaction limit raises request rows = .ok rotation) {row : KeyRow}
    (hrow : row ∈ rotation.rows) (hactive : row.rotatedOutAt = none) :
    row.kid = request.pair.kid := by
  obtain ⟨_, _, _, _, _, previous, inserted, hprevious, hinserted, hend⟩ :=
    rotateTransaction_eq_ok h
  have hgone := selectActive_setRotated request.rotatedAt hprevious
  obtain ⟨hrows, _⟩ := insertKey_eq_ok hinserted
  -- the row, before the oldest key expires
  have hinsertedRow : ∀ other ∈ inserted, other.rotatedOutAt = none →
      other.kid = request.pair.kid := by
    intro other hother hnone
    rw [hrows] at hother
    rcases List.mem_append.mp hother with hold | hnew
    · have hselected : other ∈ selectActive (setRotated previous.kid request.rotatedAt rows) :=
        List.mem_filter.mpr ⟨hold, by simp [hnone]⟩
      rw [hgone] at hselected
      cases hselected
    · rw [List.mem_singleton.mp hnew]
      rfl
  rcases hend with ⟨_, rfl⟩ | ⟨_, _, _, oldest, _, rfl⟩
  · exact hinsertedRow row hrow hactive
  · obtain ⟨other, hother, rfl⟩ := List.mem_map.mp hrow
    split at hactive
    · split
      · exact hinsertedRow other hother hactive
      · exact hinsertedRow other hother hactive
    · split
      · exact hinsertedRow other hother hactive
      · exact hinsertedRow other hother hactive

/-- A bootup whose keys are rows of the table starts a sound task. -/
theorem bootWith_sound {rows : List KeyRow} {active : KeyRow} {rotated : List KeyRow}
    (hactive : active ∈ rows) (hrotated : ∀ row ∈ rotated, row ∈ rows) :
    TaskSound rows (taskStart (bootWith rows active rotated).manager) := by
  have hkids := bootWith_kids rows active rotated
  constructor
  · exact .inl (mem_setKeyState.mpr (.inl rfl))
  · rintro kid (hmem | ⟨_, hupdating⟩)
    · have hjwks : kid ∈ kids (keyData (active :: rotated)) := (hkids kid).1.mp hmem
      obtain ⟨row, hrow, hkid⟩ := mem_kids_iff.mp hjwks
      refine mem_kids_iff.mpr ⟨row, ?_, hkid⟩
      rcases List.mem_cons.mp hrow with rfl | hrow
      · exact hactive
      · exact hrotated row hrow
    · cases hupdating

/-- A bootup of the master inserts a row at most, and starts a sound task. -/
theorem masterBootup_sound {limit : KeyLimit} {drawn : KeyRow} {rows : List KeyRow}
    (hnodup : (kids (keyData rows)).Nodup) {booted : BootedServer}
    (h : masterBootupServer limit drawn rows = .ok booted) :
    TableMoves rows booted.rows ∧ TaskSound booted.rows (taskStart booted.manager) := by
  have hrelevant : ∀ row ∈ relevantRows rows, row ∈ rows := fun row hrow =>
    (mem_relevantRows.mp hrow).1
  unfold masterBootupServer at h
  cases hkeys : relevantRows rows with
  | nil =>
      rw [hkeys] at h
      obtain ⟨inserted, hinserted, hbooted⟩ := except_bind_eq_ok h
      cases hbooted
      obtain ⟨hrows, _⟩ := insertKey_eq_ok hinserted
      refine ⟨tableMoves_insertKey hnodup hinserted, bootWith_sound ?_ (by simp)⟩
      rw [hrows]
      exact List.mem_append_right _ (List.mem_singleton_self drawn)
  | cons first rest =>
      rw [hkeys] at h hrelevant
      dsimp only at h
      set kept := if limit.capacity < (first :: rest).length
        then (first :: rest).take limit.capacity else first :: rest
      have hkept : ∀ row ∈ kept, row ∈ rows := by
        intro row hrow
        apply hrelevant row
        by_cases hover : limit.capacity < (first :: rest).length
        · simp only [kept, if_pos hover] at hrow
          exact List.mem_of_mem_take hrow
        · simpa only [kept, if_neg hover] using hrow
      split at h
      · obtain ⟨inserted, hinserted, hbooted⟩ := except_bind_eq_ok h
        cases hbooted
        obtain ⟨hrows, _⟩ := insertKey_eq_ok hinserted
        refine ⟨tableMoves_insertKey hnodup hinserted, bootWith_sound ?_ ?_⟩
        · rw [hrows]
          exact List.mem_append_right _ (List.mem_singleton_self drawn)
        · intro row hrow
          rw [hrows]
          exact List.mem_append_left _ (hkept row hrow)
      · cases h
        refine ⟨.refl hnodup, bootWith_sound (hrelevant first (List.mem_cons_self ..)) ?_⟩
        exact fun row hrow => hkept row (List.mem_of_mem_tail hrow)

/-- The active key that a slave finds is one of the keys. -/
theorem mem_of_slaveKeys {keys : List KeyRow} {state : Option KeyRow × KeyMapping}
    {active : KeyRow} (h : (keys.foldl slaveKey state).1 = some active) :
    active ∈ keys ∨ state.1 = some active := by
  induction keys generalizing state with
  | nil => exact .inr h
  | cons key keys ih =>
      rw [List.foldl_cons] at h
      rcases ih h with hmem | hstate
      · exact .inl (List.mem_cons_of_mem key hmem)
      · by_cases hrotated : key.rotatedOutAt = none
        · left
          simp only [slaveKey, hrotated, ne_eq, not_true_eq_false, if_false,
            Option.some.injEq] at hstate
          exact hstate ▸ List.mem_cons_self ..
        · right
          simpa only [slaveKey, ne_eq, hrotated, not_false_eq_true, if_true] using hstate

/-- A bootup of a slave starts a sound task. -/
theorem slaveBootup_sound {limit : KeyLimit} {rows : List KeyRow} {manager : TokenManager}
    (h : slaveBootup limit rows = .ok manager) : TaskSound rows (taskStart manager) := by
  unfold slaveBootup at h
  dsimp only at h
  set keys := (relevantRows rows).take limit.capacity
  have hkeys : ∀ key ∈ keys, key ∈ rows := fun key hkey =>
    (mem_relevantRows.mp (List.mem_of_mem_take hkey)).1
  split at h
  · cases h
  · split at h
    · cases h
    · rename_i active mapping hloop
      cases h
      have hactive : active ∈ keys := by
        rcases mem_of_slaveKeys (congrArg Prod.fst hloop) with hmem | hnone
        · exact hmem
        · cases hnone
      constructor
      · exact .inl (mem_setKeyState.mpr (.inl rfl))
      · rintro kid (hmem | ⟨_, hupdating⟩)
        · rcases mem_setKeyState.mp hmem with rfl | hrotated
          · exact mem_kids_iff.mpr ⟨active, hkeys active hactive, rfl⟩
          · have hfold : kid ∈ (keys.foldl slaveKey (none, ∅)).2 := by
              rw [hloop]
              exact hrotated
            rcases mem_slaveKeys.mp hfold with hempty | ⟨key, hkey, _, hkid⟩
            · exact absurd hempty Finmap.notMem_empty
            · exact mem_kids_iff.mpr ⟨key, hkeys key hkey, hkid⟩
        · cases hupdating

/-- A rotation changes nothing, or it commits and does not reach the token manager. -/
theorem rotateKeysEndpoint_cases (limit : KeyLimit) (faults : Faults RotatePoint)
    (request : RotateRequest) (w : KeyWorld) :
    stateAfter (rotateKeysEndpoint limit faults request) w = w ∨
      ∃ rotation files, rotateTransaction limit faults.raises request w.rows = .ok rotation ∧
        stateAfter (rotateKeysEndpoint limit faults request) w =
          { w with rows := rotation.rows, files := files } := by
  by_cases hrefused : RotationRefused limit faults.raises request w.rows
  · exact .inl (stateAfter_rotate_of_refused hrefused)
  · obtain ⟨rotation, hrotation⟩ := rotateTransaction_isOk hrefused
    have hstaff : request.staff = false :=
      Bool.eq_false_iff.mpr fun hstaff => hrefused (.inl hstaff)
    obtain ⟨files, hafter⟩ := stateAfter_rotate_of_isOk hstaff hrotation
    exact .inr ⟨rotation, files, hrotation, hafter⟩

/-- An invalidation leaves the token manager alone or drops the key from it. -/
theorem invalidateKeyEndpoint_manager (session : SessionBehaviour)
    (faults : Faults InvalidatePoint) (kid : String) (now : Int) (w : KeyWorld) :
    (stateAfter (invalidateKeyEndpoint session faults kid now) w).manager = w.manager ∨
      (stateAfter (invalidateKeyEndpoint session faults kid now) w).manager =
        stateAfter (TokenManager.invalidateKey kid) w.manager := by
  unfold stateAfter invalidateKeyEndpoint
  cases w.files.jwks with
  | none => exact .inl rfl
  | some originalJwks =>
      dsimp only
      cases invalidateTry faults kid now originalJwks w.rows ⟨w.files, none⟩ with
      | ok rows s =>
          dsimp only
          rw [afterInvalidate_eq]
          dsimp only
          cases TokenManager.invalidateKey kid w.manager with
          | error exn manager => exact .inl rfl
          | ok _ manager => exact .inr rfl
      | error exn s =>
          left
          dsimp only
          cases exn.isOperationError with
          | true =>
              simp only [if_true]
              cases invalidateHandler session kid originalJwks s with
              | mk result files =>
                  cases result with
                  | ok _ => rfl
                  | error exn => rfl
          | false => rfl

/-- A cleanup leaves the token manager alone. -/
theorem cleanKeystoreEndpoint_manager (ecdsa : Ecdsa) (faults : Faults CleanPoint) (now : Int)
    (pipelineFails : Bool) (w : KeyWorld) :
    (stateAfter (cleanKeystoreEndpoint ecdsa faults now pipelineFails) w).manager =
      w.manager := by
  unfold stateAfter cleanKeystoreEndpoint
  cases w.files.jwks with
  | none => rfl
  | some oldJwks =>
      dsimp only
      by_cases hsingle : oldJwks.length = 1
      · simp only [hsingle, if_true]
      simp only [hsingle, if_false]
      cases readPems w.files oldJwks with
      | none => rfl
      | some pemMappings =>
          dsimp only
          cases cleanTry ecdsa faults now w.rows w.files with
          | error exn files => rfl
          | ok result files =>
              obtain ⟨rows, active⟩ := result
              cases pipelineFails with
              | true => rfl
              | false => rfl

/-- What a request does to the table and to the token manager of its worker. -/
theorem handleKeyRequest_spec (server : KeyServer) (request : KeyRequest) {w : KeyWorld}
    (hnodup : (kids (keyData w.rows)).Nodup) :
    TableMoves w.rows (stateAfter (handleKeyRequest server request) w).rows ∧
      ((stateAfter (handleKeyRequest server request) w).manager = w.manager ∨
        ∃ kid, (stateAfter (handleKeyRequest server request) w).manager =
          stateAfter (TokenManager.invalidateKey kid) w.manager) := by
  cases request with
  | rotate request faults =>
      show TableMoves w.rows (stateAfter (rotateKeysEndpoint server.limit faults request) w).rows ∧
        ((stateAfter (rotateKeysEndpoint server.limit faults request) w).manager = _ ∨ _)
      rcases rotateKeysEndpoint_cases server.limit faults request w with
        hsame | ⟨rotation, files, hrotation, hafter⟩
      · rw [hsame]
        exact ⟨.refl hnodup, .inl rfl⟩
      · rw [hafter]
        exact ⟨tableMoves_rotation hnodup hrotation, .inl rfl⟩
  | invalidate kid now faults =>
      refine ⟨?_, ?_⟩
      · rcases invalidateKeyEndpoint_spec server.session faults kid now w with
          hsame | ⟨_, _, _, _, _, _, hrows, _⟩
        · exact hsame.symm ▸ .refl hnodup
        · exact hrows.symm ▸ tableMoves_setExpired hnodup [kid] now
      · rcases invalidateKeyEndpoint_manager server.session faults kid now w with
          hsame | hdropped
        · exact .inl hsame
        · exact .inr ⟨kid, hdropped⟩
  | clean now faults pipelineFails =>
      refine ⟨?_, .inl (cleanKeystoreEndpoint_manager server.ecdsa faults now pipelineFails w)⟩
      rcases cleanKeystoreEndpoint_spec server.ecdsa faults now pipelineFails w with
        hsame | ⟨_, _, _, _, _, hrows, _⟩
      · exact hsame.symm ▸ .refl hnodup
      · exact hrows.symm ▸ tableMoves_setExpired hnodup _ now

theorem TaskFollows.of_unchanged {rows : List KeyRow} {task task' : TaskState}
    (hmanager : task'.manager = task.manager) (hupdating : task'.updating = task.updating) :
    TaskFollows rows task task' := by
  have hsame : ∀ kid, KidHeld kid task' ↔ KidHeld kid task := by
    intro kid
    unfold KidHeld
    rw [hmanager, hupdating]
  refine ⟨fun hheld => ?_, fun kid hheld => .inl ((hsame kid).mp hheld), .inl ?_⟩
  · rw [hmanager, hsame]
    exact hheld
  · rw [hmanager]

/-- Dropping a key from the token manager. -/
theorem TaskFollows.of_invalidateKey {rows : List KeyRow} {task task' : TaskState}
    (hnone : task.updating = none) {kid : String}
    (hmanager : task'.manager = stateAfter (TokenManager.invalidateKey kid) task.manager)
    (hupdating : task'.updating = none) : TaskFollows rows task task' := by
  have hactive : task'.manager.activeKey = task.manager.activeKey := by
    rw [hmanager]
    exact keeps_active_invalidateKey (· = task.manager.activeKey) kid task.manager rfl
  refine ⟨fun hheld => .inl ?_, fun other hheld => .inl (.inl ?_), .inl hactive⟩
  · rw [hactive, hmanager, mem_stateAfter_invalidateKey]
    refine ⟨?_, hheld.available hnone⟩
    by_cases hsame : task.manager.activeKey = kid
    · exact .inr hsame
    · exact .inl hsame
  · have hmem := hheld.available hupdating
    rw [hmanager, mem_stateAfter_invalidateKey] at hmem
    exact hmem.2

theorem TaskFollows.refl (rows : List KeyRow) (task : TaskState) :
    TaskFollows rows task task :=
  .of_unchanged rfl rfl

/-- A later step of the same task, after the table has moved. -/
theorem TaskFollows.trans {rows rows' : List KeyRow} {first second third : TaskState}
    (h : TaskFollows rows first second) (hmoves : TableMoves rows rows')
    (h' : TaskFollows rows' second third) : TaskFollows rows' first third where
  held hheld := h'.held (h.held hheld)
  gained kid hheld := by
    rcases h'.gained kid hheld with hsecond | hout
    · rcases h.gained kid hsecond with hfirst | hout
      · exact .inl hfirst
      · exact .inr (hmoves.rotatedOut hout)
    · exact .inr hout
  signs := by
    rcases h'.signs with hsame | hzero
    · rcases h.signs with hfirst | ⟨kid, hzero⟩
      · exact .inl (hsame.trans hfirst)
      · exact .inr ⟨kid, hmoves.rotated_kept kid 0 hzero⟩
    · exact .inr hzero

theorem TaskFollows.moves {rows rows' : List KeyRow} {task task' : TaskState}
    (h : TaskFollows rows task task') (hmoves : TableMoves rows rows') :
    TaskFollows rows' task task' :=
  h.trans hmoves (.refl rows' task')

/-- A task that follows a sound one is sound. -/
theorem TaskFollows.sound {rows rows' : List KeyRow} {task task' : TaskState}
    (h : TaskFollows rows task task') (hsound : TaskSound rows task)
    (hmoves : TableMoves rows rows') : TaskSound rows' task' where
  held := h.held hsound.held
  known kid hheld := by
    apply hmoves.kids_kept
    rcases h.gained kid hheld with hold | hout
    · exact hsound.known kid hold
    · exact hout.mem_kids

/-- A key that can be fetched is rotated out. -/
theorem rotatedAt_of_fetch {store : SyncedStore} {rows : List KeyRow} {kid : String}
    {result : KeyMetadata} (h : fetchUnexpiredKey store rows kid = .ok (some result)) :
    ∃ time, RotatedAt rows kid time ∧ result.rotatedAt = some time := by
  unfold fetchUnexpiredKey at h
  split at h
  · cases h
  · cases hfound : selectKid kid rows with
    | none =>
        rw [hfound] at h
        cases h
    | some key =>
        rw [hfound] at h
        dsimp only at h
        cases hout : key.rotatedOutAt with
        | none =>
            rw [hout] at h
            cases h
        | some time =>
            rw [hout] at h
            cases h
            have hkid : key.kid = kid := by simpa using List.find?_some hfound
            exact ⟨time, ⟨key, List.mem_of_find?_eq_some hfound, hkid, hout⟩, rfl⟩

/-- A step of the polling task. -/
theorem pollTask_follows {order : IterationOrder} {validKeys : List String}
    {rows : List KeyRow} {task task' : TaskState} {step : PollStep} {label : TaskLabel}
    (hlabel : pollLabel validKeys rows task step = some label)
    (hstep : taskStep order task label = some task') : TaskFollows rows task task' := by
  have hheld : KidHeld task.manager.activeKey task → KidHeld task'.manager.activeKey task' :=
    fun h => activeHeld_step h hstep
  cases step with
  | readKeys =>
      cases hlabel
      simp only [taskStep] at hstep
      split at hstep
      · cases hstep
      · split at hstep
        · cases hstep
          exact .of_unchanged rfl rfl
        · cases hstep
  | fetch announced =>
      simp only [pollLabel] at hlabel
      split at hlabel
      · rename_i newKey newKeys expiredKeys hphase
        split at hlabel
        · rename_i result hfetch
          cases hlabel
          simp only [taskStep, hphase] at hstep
          split at hstep
          · cases hstep
          · cases result with
            | none =>
                cases hstep
                exact .of_unchanged rfl rfl
            | some result =>
                cases hstep
                -- the new key is rotated out, and active only if that was at the time zero
                obtain ⟨time, hrotated, hresult⟩ := rotatedAt_of_fetch hfetch
                refine ⟨hheld, ?_, ?_⟩
                · rintro kid (hmem | ⟨newKeyData, hupdating⟩)
                  · exact .inl (.inl hmem)
                  · cases hupdating
                    exact .inr ⟨time, hrotated⟩
                · by_cases hzero : time = 0
                  · exact .inr ⟨newKey, hzero ▸ hrotated⟩
                  · left
                    show (if result.fetchedActive then newKey else task.manager.activeKey) = _
                    rw [if_neg]
                    simp [KeyMetadata.fetchedActive, hresult, hzero]
        · cases hlabel
          simp only [taskStep] at hstep
          split at hstep
          · cases hstep
          · cases hstep
            exact .of_unchanged rfl rfl
      · cases hlabel
  | assignMapping =>
      cases hlabel
      simp only [taskStep] at hstep
      split at hstep
      · cases hstep
      · rename_i assigned newKeyData hupdating
        cases hstep
        refine ⟨hheld, ?_, .inl rfl⟩
        rintro kid (hmem | ⟨_, hnone⟩)
        · left
          have hinsert : kid ∈ task.manager.keyMapping.insert assigned newKeyData := hmem
          rcases (Finmap.mem_insert).mp hinsert with rfl | hold
          · exact .inr ⟨newKeyData, hupdating⟩
          · exact .inl hold
        · cases hnone
  | removeExpired =>
      cases hlabel
      rcases taskStep_cases hstep with
        ⟨_, _, hupdating, hnone, _⟩ | ⟨hnone, _, _, _, hupdating, _⟩ |
        ⟨hnone, hnone', kid, hmanager, _⟩ | ⟨hnone, hnone', hmanager⟩
      · simp [taskStep, hupdating] at hstep
      · simp only [taskStep, hnone, ne_eq, not_true_eq_false, if_false] at hstep
        split at hstep
        · split at hstep
          · cases hstep
            cases hupdating
          · cases hstep
            cases hupdating
        · cases hstep
      · exact .of_invalidateKey hnone hmanager hnone'
      · exact .of_unchanged hmanager (hnone'.trans hnone.symm)
  | sleep =>
      cases hlabel
      simp only [taskStep] at hstep
      split at hstep
      · cases hstep
      · cases hstep
        exact .of_unchanged rfl rfl

end AuthServer
end Tenjin
