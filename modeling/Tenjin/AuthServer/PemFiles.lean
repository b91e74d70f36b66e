import Tenjin.AuthServer.KeyCluster

/-!
# The private PEM files on disk

The file operations of `master_bootup`, with `initialize_active_key`,
`_sync_file_system_key_state` and `_purge_expired_keys`, between any requests to the key
endpoints by any workers.

* A bootup writes the pair of the key that it takes as the active one, and removes the
  private PEM files of all other keys in the table.  It may be cut off after any of its
  file operations.
* A request never removes or overwrites the private PEM file of a key in the table.  So
  the private key of every key that has been active since the last bootup stays on disk, also
  when the key is rotated out, invalidated or expired.
* `always_privatePem` says both of all runs from an empty table, with a ghost list of the
  keys that have been active since the last bootup.
-/

namespace Tenjin
namespace AuthServer

open Foundation
open Python

/-- A file operation of a bootup.  A missing file may be unlinked. -/
inductive PemWrite
  | writePrivate (kid pem : String)
  | writePublic (kid pem : String)
  | unlinkPrivate (kid : String)
  | unlinkPublic (kid : String)
  deriving DecidableEq

/-- The files after an operation. -/
def PemWrite.run (files : KeyFiles) : PemWrite → KeyFiles
  | .writePrivate kid pem =>
      { files with privatePem := Function.update files.privatePem kid (some pem) }
  | .writePublic kid pem =>
      { files with publicPem := Function.update files.publicPem kid (some pem) }
  | .unlinkPrivate kid => { files with privatePem := Function.update files.privatePem kid none }
  | .unlinkPublic kid => { files with publicPem := Function.update files.publicPem kid none }

/-- The files after some operations. -/
def runWrites (files : KeyFiles) (writes : List PemWrite) : KeyFiles :=
  writes.foldl PemWrite.run files

/-- `write_ecdsa_pair`. -/
def pairWrites (key : KeyRow) : List PemWrite :=
  [.writePrivate key.kid key.privatePem, .writePublic key.kid key.publicPem]

/-- `_sync_file_system_key_state`. -/
def syncFileSystemKeyState (activeKey : KeyRow) (rotatedKeys : List KeyRow) : List PemWrite :=
  pairWrites activeKey ++ rotatedKeys.flatMap fun keyData =>
    [.writePublic keyData.kid keyData.publicPem, .unlinkPrivate keyData.kid]

/-- `get_expired_keys`. -/
def getExpiredKeys (rows : List KeyRow) : List KeyRow :=
  (rows.filter fun row => row.expiredAt ≠ none).insertionSort fun a b =>
    a.expiredAt.getD 0 ≤ b.expiredAt.getD 0

/-- `_purge_expired_keys`. -/
def purgeExpiredKeys (rows : List KeyRow) : List PemWrite :=
  (getExpiredKeys rows).flatMap fun expiredKey =>
    [.unlinkPublic expiredKey.kid, .unlinkPrivate expiredKey.kid]

/-- The keys that a bootup works with: the active one, the others that it keeps, and whether
the active one is new. -/
structure BootKeys where
  active : KeyRow
  rotated : List KeyRow
  missingActive : Bool

/-- The choice of the keys in `master_bootup`. -/
def bootKeys (limit : KeyLimit) (drawn : KeyRow) (rows : List KeyRow) : BootKeys :=
  match relevantRows rows with
  | [] => ⟨drawn, [], true⟩
  | first :: rest =>
      let keydata := first :: rest
      let verificationOnlyKeys := keydata.filter fun row => row.rotatedOutAt ≠ none
      let kept := if limit.capacity < keydata.length then keydata.take limit.capacity
        else keydata
      if keydata.length = verificationOnlyKeys.length then ⟨drawn, kept, true⟩
      else ⟨first, kept.tail, false⟩

/-- The rows of the bootup: a new key is inserted after its pair has been written. -/
def bootRows (keys : BootKeys) (rows : List KeyRow) : Except ServerExn (List KeyRow) :=
  if keys.missingActive then insertKey keys.active rows else .ok rows

/-- The pair that `initialize_active_key` writes before the insertion. -/
def initialWrites (keys : BootKeys) : List PemWrite :=
  if keys.missingActive then pairWrites keys.active else []

/-- The operations after the insertion. -/
def bootWrites (keys : BootKeys) (rows : List KeyRow) : List PemWrite :=
  syncFileSystemKeyState keys.active keys.rotated ++ purgeExpiredKeys rows

/-- The table, the files, and the keys that have been active since the last bootup that was
completed. -/
structure PemState where
  rows : List KeyRow
  files : KeyFiles
  activeSince : List String

/-- The ids of the rows that a step has inserted. -/
def insertedKids (rows rows' : List KeyRow) : List String :=
  (kids (keyData rows')).filter (· ∉ kids (keyData rows))

/-- What a worker has beside the table and the files when it handles a request. -/
structure WorkerView where
  manager : TokenManager
  validKeys : List String
  rotationLock : Bool
  rotationCooldown : Bool

/-- What the endpoints see. -/
def WorkerView.world (view : WorkerView) (s : PemState) : KeyWorld where
  rows := s.rows
  files := s.files
  manager := view.manager
  validKeys := view.validKeys
  rotationLock := view.rotationLock
  rotationCooldown := view.rotationCooldown

/-- The steps: a request to a worker, a bootup of a master with the JWKS file that it
writes, and a bootup that is cut off before or after its insertion. -/
inductive PemLabel
  | request (view : WorkerView) (request : KeyRequest)
  | boot (drawn : NewKey) (jwks : List Jwk)
  | cutBeforeInsert (drawn : NewKey) (done : ℕ)
  | cutAfterInsert (drawn : NewKey) (done : ℕ)

/-- One step. -/
def pemStep (server : KeyServer) (s : PemState) : PemLabel → Option PemState
  | .request view request =>
      let w := stateAfter (handleKeyRequest server request) (view.world s)
      some ⟨w.rows, w.files, s.activeSince ++ insertedKids s.rows w.rows⟩
  | .boot drawn jwks =>
      let keys := bootKeys server.limit drawn.row s.rows
      match bootRows keys s.rows with
      | .error _ => none
      | .ok rows =>
          if jwks.map Jwk.kid = initializeJwks (keyData (keys.active :: keys.rotated)) then
            some ⟨rows, { runWrites s.files (initialWrites keys ++ bootWrites keys rows) with
              jwks := some jwks }, [keys.active.kid]⟩
          else none
  | .cutBeforeInsert drawn done =>
      let keys := bootKeys server.limit drawn.row s.rows
      some ⟨s.rows, runWrites s.files ((initialWrites keys).take done), s.activeSince⟩
  | .cutAfterInsert drawn done =>
      let keys := bootKeys server.limit drawn.row s.rows
      match bootRows keys s.rows with
      | .error _ => none
      | .ok rows =>
          some ⟨rows, runWrites s.files (initialWrites keys ++ (bootWrites keys rows).take done),
            keys.active.kid :: s.activeSince⟩

/-- The table is empty, or it keeps the lifecycle of its keys. -/
def DeployedTable (limit : KeyLimit) (rows : List KeyRow) : Prop :=
  rows = [] ∨ KeyLifecycle limit rows

/-- The private PEM files of the table are those of keys that have been active since the last
bootup. -/
def PrivateSince (s : PemState) : Prop :=
  ∀ kid ∈ kids (keyData s.rows), s.files.privatePem kid ≠ none → kid ∈ s.activeSince

/-- A request leaves the private PEM files of the table alone, and a bootup has written the
one of its active key. -/
def PrivateKept (server : KeyServer) (s : PemState) (label : PemLabel) : Prop :=
  ∀ s', pemStep server s label = some s' →
    match label with
    | .request .. => ∀ kid ∈ kids (keyData s.rows), s'.files.privatePem kid =
        s.files.privatePem kid
    | .boot drawn _ =>
        let active := (bootKeys server.limit drawn.row s.rows).active
        s'.files.privatePem active.kid = some active.privatePem
    | _ => True

/-- The keys that a bootup keeps within the limit. -/
def keptRows (limit : KeyLimit) (rows : List KeyRow) : List KeyRow :=
  if limit.capacity < (relevantRows rows).length then (relevantRows rows).take limit.capacity
  else relevantRows rows

/-- The unexpired keys are all rotated out, or there are none. -/
def MissesActive (rows : List KeyRow) : Prop :=
  ∀ row ∈ relevantRows rows, row.rotatedOutAt ≠ none

/-- The choice of the keys, by whether there is an active one. -/
theorem bootKeys_cases (limit : KeyLimit) (drawn : KeyRow) (rows : List KeyRow) :
    (MissesActive rows ∧ bootKeys limit drawn rows = ⟨drawn, keptRows limit rows, true⟩) ∨
      (¬ MissesActive rows ∧ ∃ first rest, relevantRows rows = first :: rest ∧
        bootKeys limit drawn rows = ⟨first, (keptRows limit rows).tail, false⟩) := by
  unfold bootKeys keptRows MissesActive
  cases hkeys : relevantRows rows with
  | nil => exact .inl ⟨by simp, by simp⟩
  | cons first rest =>
      have hfilter : (first :: rest).length =
          ((first :: rest).filter fun row => row.rotatedOutAt ≠ none).length ↔
          ∀ row ∈ first :: rest, row.rotatedOutAt ≠ none := by
        rw [eq_comm, List.length_filter_eq_length_iff]
        simp
      dsimp only
      by_cases hmissing : ∀ row ∈ first :: rest, row.rotatedOutAt ≠ none
      · rw [if_pos (hfilter.mpr hmissing)]
        exact .inl ⟨hmissing, rfl⟩
      · rw [if_neg (mt hfilter.mp hmissing)]
        exact .inr ⟨hmissing, first, rest, rfl, rfl⟩

/-- The bootup of the master is made of these parts. -/
theorem masterBootupServer_eq_bootRows (limit : KeyLimit) (drawn : KeyRow) (rows : List KeyRow) :
    masterBootupServer limit drawn rows =
      (bootRows (bootKeys limit drawn rows) rows).map fun rows' =>
        bootWith rows' (bootKeys limit drawn rows).active (bootKeys limit drawn rows).rotated := by
  unfold masterBootupServer bootKeys
  cases relevantRows rows with
  | nil =>
      simp only [bootRows, if_true]
      cases insertKey drawn rows <;> rfl
  | cons first rest =>
      by_cases hmissing : (first :: rest).length =
          ((first :: rest).filter fun row => row.rotatedOutAt ≠ none).length
      · simp only [if_pos hmissing, bootRows, if_true]
        cases insertKey drawn rows <;> rfl
      · simp only [if_neg hmissing, bootRows, Bool.false_eq_true, if_false]
        rfl

theorem keeps_privatePem_writeJwks (kid : String) (pem : Option String) (fails : Bool)
    (torn : Option (List Jwk)) (entries : List Jwk) :
    Keeps (fun files => files.privatePem kid = pem) (writeJwks fails torn entries) := by
  intro files hkept
  unfold stateAfter writeJwks
  cases fails with
  | true => exact hkept
  | false => exact hkept

theorem keeps_privatePem_unlinkPublic (kid : String) (pem : Option String) (fails : Bool)
    (unlinked : String) :
    Keeps (fun files => files.privatePem kid = pem) (unlinkPublic fails unlinked) :=
  keeps_unlinkPublic fails fun _ hkept => hkept

theorem keeps_onFiles {α : Type} {I : KeyFiles → Prop} {x : EStateM ServerExn KeyFiles α}
    (hx : Keeps I x) : Keeps (fun s : TryState => I s.files) (onFiles x) := by
  intro s hI
  have hfiles := hx s.files hI
  unfold stateAfter at hfiles ⊢
  unfold onFiles
  cases hrun : x s.files with
  | ok a files =>
      rw [hrun] at hfiles
      exact hfiles
  | error exn files =>
      rw [hrun] at hfiles
      exact hfiles

/-- The `try` of an invalidation leaves the private PEM files alone. -/
theorem keeps_privatePem_invalidateTry (kid : String) (pem : Option String)
    (faults : Faults InvalidatePoint) (target : String) (now : Int) (originalJwks : List Jwk)
    (rows : List KeyRow) :
    Keeps (fun s : TryState => s.files.privatePem kid = pem)
      (invalidateTry faults target now originalJwks rows) := by
  unfold invalidateTry
  refine Keeps.bind (keeps_liftExcept _) fun found => ?_
  refine Keeps.bind (Keeps.modify fun s hkept => hkept) fun _ => ?_
  cases found with
  | none => exact Keeps.throw _
  | some row =>
      dsimp only
      split_ifs
      · exact Keeps.bind (keeps_liftExcept _) fun _ => Keeps.throw _
      · exact Keeps.throw _
      · refine Keeps.bind (keeps_liftExcept _) fun expired => ?_
        unfold invalidateFiles
        refine Keeps.bind (keeps_onFiles (keeps_privatePem_writeJwks kid pem _ _ _)) fun _ => ?_
        refine Keeps.bind (keeps_onFiles (keeps_privatePem_unlinkPublic kid pem _ _)) fun _ => ?_
        exact keeps_liftExcept _

/-- So does the `try` of a cleanup. -/
theorem keeps_privatePem_cleanTry (kid : String) (pem : Option String) (ecdsa : Ecdsa)
    (faults : Faults CleanPoint) (now : Int) (rows : List KeyRow) :
    Keeps (fun files => files.privatePem kid = pem) (cleanTry ecdsa faults now rows) := by
  unfold cleanTry
  refine Keeps.bind (keeps_liftExcept _) fun rotated => ?_
  refine Keeps.bind (keeps_liftExcept _) fun expired => ?_
  refine Keeps.bind (keeps_liftExcept _) fun activeKey => ?_
  cases ecdsa.coordinates activeKey.publicPem with
  | none => exact Keeps.throw _
  | some point =>
      dsimp only
      refine Keeps.bind ?_ fun _ => Keeps.pure _
      unfold cleanFiles
      refine Keeps.bind (keeps_privatePem_writeJwks kid pem _ _ _) fun _ => ?_
      refine Keeps.bind (Keeps.forM fun keyID _ =>
        keeps_privatePem_unlinkPublic kid pem _ keyID) fun _ => ?_
      exact keeps_liftExcept _

theorem restorePems_privatePem (files : KeyFiles) (pemMappings : List (String × String)) :
    (restorePems files pemMappings).privatePem = files.privatePem := by
  induction pemMappings generalizing files with
  | nil => rfl
  | cons entry rest ih =>
      unfold restorePems
      split
      · exact ih files
      · exact ih _

/-- The file operations of a rotation touch the private PEM file of the new key only. -/
theorem keeps_privatePem_rotateFiles {kid : String} (pem : Option String) (limit : KeyLimit)
    (faults : Faults RotatePoint) {pair : EcdsaPair} (rotation : Rotation)
    (hkid : kid ≠ pair.kid) :
    Keeps (fun files => files.privatePem kid = pem) (rotateFiles limit faults pair rotation) := by
  have hbelow : ∀ (missingOk : Bool) (name : String),
      Keeps (fun files => files.privatePem kid = pem) (unlink missingOk (.belowJwks name)) :=
    fun _ _ _ hkept => hkept
  have hpair : Keeps (fun files => files.privatePem kid = pem) (writeEcdsaPair faults pair) := by
    intro files hkept
    have hother : ∀ content : Option String,
        Function.update files.privatePem pair.kid content kid = pem :=
      fun content => (Function.update_of_ne hkid ..).trans hkept
    unfold stateAfter writeEcdsaPair
    cases faults.raises .writePrivate with
    | true => exact hother faults.tornPem
    | false =>
        cases faults.raises .writePublic with
        | true => exact hother (some pair.privatePem)
        | false => exact hother (some pair.privatePem)
  unfold rotateFiles
  refine Keeps.bind (fun files hkept => ?_) fun _ => Keeps.bind hpair fun _ =>
    Keeps.bind (hbelow _ _) fun _ => ?_
  · unfold stateAfter updateJwksFile
    cases files.jwks with
    | none => exact hkept
    | some entries => exact keeps_privatePem_writeJwks kid pem _ _ _ files hkept
  · cases rotation.expiredId with
    | none => exact Keeps.pure ()
    | some id => exact Keeps.bind (hbelow _ _) fun _ => hbelow _ _

/-- What a request of a rotation leaves on disk. -/
theorem rotateKeysEndpoint_privatePem (limit : KeyLimit) (faults : Faults RotatePoint)
    (request : RotateRequest) (w : KeyWorld) {kid : String} (hkid : kid ∈ kids (keyData w.rows)) :
    (stateAfter (rotateKeysEndpoint limit faults request) w).files.privatePem kid =
      w.files.privatePem kid := by
  by_cases hrefused : RotationRefused limit faults.raises request w.rows
  · rw [stateAfter_rotate_of_refused hrefused]
  · obtain ⟨rotation, hrotation⟩ := rotateTransaction_isOk hrefused
    have hfresh := kid_fresh_of_rotateTransaction hrotation
    have hother : kid ≠ request.pair.kid := fun hsame => hfresh (hsame ▸ hkid)
    rcases rotateKeysEndpoint_spec limit faults request w with hsame | ⟨other, _, _, hfiles⟩
    · -- the new row has been committed
      have hstaff : request.staff = false :=
        Bool.eq_false_iff.mpr fun hstaff => hrefused (.inl hstaff)
      obtain ⟨files, hafter⟩ := stateAfter_rotate_of_isOk hstaff hrotation
      rw [hafter] at hsame
      have hkids := kids_of_rotateTransaction hrotation
      rw [show rotation.rows = w.rows from hsame] at hkids
      simp at hkids
    · rw [hfiles]
      exact keeps_privatePem_rotateFiles (w.files.privatePem kid) limit faults other hother _ rfl

/-- What the handler of an invalidation leaves on disk. -/
theorem invalidateHandler_privatePem (session : SessionBehaviour) (kid : String)
    (originalJwks : List Jwk) (s : TryState) :
    (invalidateHandler session kid originalJwks s).2.privatePem = s.files.privatePem := by
  unfold invalidateHandler
  cases s.targetKey with
  | none => rfl
  | some targetKey =>
      dsimp only
      split
      · rfl
      · cases publicPemAfterRollback session targetKey <;> rfl

/-- What a request of an invalidation leaves on disk. -/
theorem invalidateKeyEndpoint_privatePem (session : SessionBehaviour)
    (faults : Faults InvalidatePoint) (target : String) (now : Int) (w : KeyWorld) :
    (stateAfter (invalidateKeyEndpoint session faults target now) w).files.privatePem =
      w.files.privatePem := by
  funext kid
  have htry := keeps_privatePem_invalidateTry kid (w.files.privatePem kid) faults target now
  unfold stateAfter invalidateKeyEndpoint
  cases w.files.jwks with
  | none => rfl
  | some originalJwks =>
      dsimp only
      have hafter := htry originalJwks w.rows ⟨w.files, none⟩ rfl
      unfold stateAfter at hafter
      cases hrun : invalidateTry faults target now originalJwks w.rows ⟨w.files, none⟩ with
      | ok rows s =>
          rw [hrun] at hafter
          dsimp only
          rw [afterInvalidate_eq]
          dsimp only
          cases TokenManager.invalidateKey target w.manager with
          | error exn manager => exact hafter
          | ok _ manager => exact hafter
      | error exn s =>
          rw [hrun] at hafter
          have hhandler := congrFun (invalidateHandler_privatePem session target originalJwks s) kid
          dsimp only
          cases exn.isOperationError with
          | false => exact hafter
          | true =>
              simp only [if_true]
              cases hresult : invalidateHandler session target originalJwks s with
              | mk result files =>
                  rw [hresult] at hhandler
                  cases result with
                  | ok _ => exact hhandler.trans hafter
                  | error exn => exact hhandler.trans hafter

/-- What a request of a cleanup leaves on disk. -/
theorem cleanKeystoreEndpoint_privatePem (ecdsa : Ecdsa) (faults : Faults CleanPoint) (now : Int)
    (pipelineFails : Bool) (w : KeyWorld) :
    (stateAfter (cleanKeystoreEndpoint ecdsa faults now pipelineFails) w).files.privatePem =
      w.files.privatePem := by
  funext kid
  have hafter := keeps_privatePem_cleanTry kid (w.files.privatePem kid) ecdsa faults now w.rows
    w.files rfl
  unfold stateAfter cleanKeystoreEndpoint
  unfold stateAfter at hafter
  cases w.files.jwks with
  | none => rfl
  | some oldJwks =>
      dsimp only
      by_cases hsingle : oldJwks.length = 1
      · simp only [hsingle, if_true]
      simp only [hsingle, if_false]
      cases readPems w.files oldJwks with
      | none => rfl
      | some pemMappings =>
          dsimp only
          cases htry : cleanTry ecdsa faults now w.rows w.files with
          | error exn files =>
              rw [htry] at hafter
              exact (congrFun (restorePems_privatePem _ pemMappings) kid).trans hafter
          | ok result files =>
              rw [htry] at hafter
              obtain ⟨rows, active⟩ := result
              cases pipelineFails with
              | true => exact hafter
              | false => exact hafter

/-- A request leaves the private PEM files of the table alone. -/
theorem handleKeyRequest_privatePem (server : KeyServer) (request : KeyRequest) (w : KeyWorld)
    {kid : String} (hkid : kid ∈ kids (keyData w.rows)) :
    (stateAfter (handleKeyRequest server request) w).files.privatePem kid =
      w.files.privatePem kid := by
  cases request with
  | rotate request faults => exact rotateKeysEndpoint_privatePem server.limit faults request w hkid
  | invalidate target now faults =>
      exact congrFun (invalidateKeyEndpoint_privatePem server.session faults target now w) kid
  | clean now faults pipelineFails =>
      exact congrFun (cleanKeystoreEndpoint_privatePem server.ecdsa faults now pipelineFails w) kid

/-- A private PEM file that is not written is as it was, unless it is unlinked. -/
theorem privatePem_runWrites {writes : List PemWrite} {kid : String}
    (hwritten : ∀ pem, PemWrite.writePrivate kid pem ∉ writes) (files : KeyFiles) :
    (runWrites files writes).privatePem kid =
      if .unlinkPrivate kid ∈ writes then none else files.privatePem kid := by
  induction writes generalizing files with
  | nil => rfl
  | cons write writes ih =>
      have hrest := ih (fun pem hmem => hwritten pem (List.mem_cons_of_mem _ hmem))
        (write.run files)
      show (runWrites (write.run files) writes).privatePem kid = _
      rw [hrest]
      cases write with
      | writePrivate other pem =>
          have hother : kid ≠ other := fun hsame =>
            hwritten pem (hsame ▸ List.mem_cons_self ..)
          simp [PemWrite.run, hother]
      | writePublic other pem => simp [PemWrite.run]
      | unlinkPrivate other =>
          by_cases hother : kid = other
          · simp [PemWrite.run, hother]
          · simp [PemWrite.run, hother]
      | unlinkPublic other => simp [PemWrite.run]

/-- The operations of a bootup write one private PEM file, the one of the active key. -/
theorem writePrivate_mem_boot {keys : BootKeys} {rows : List KeyRow} {kid pem : String}
    (h : PemWrite.writePrivate kid pem ∈ initialWrites keys ++ bootWrites keys rows) :
    kid = keys.active.kid := by
  simp only [initialWrites, bootWrites, syncFileSystemKeyState, purgeExpiredKeys, pairWrites,
    List.mem_append, List.mem_flatMap] at h
  rcases h with hinitial | (hpair | ⟨_, _, hrotated⟩) | ⟨_, _, hexpired⟩
  · split at hinitial
    · simp at hinitial
      exact hinitial.1
    · cases hinitial
  · simp at hpair
    exact hpair.1
  · simp at hrotated
  · simp at hexpired

/-- The private PEM files that a bootup unlinks. -/
theorem unlinkPrivate_mem_boot {keys : BootKeys} {rows : List KeyRow} {kid : String} :
    PemWrite.unlinkPrivate kid ∈ bootWrites keys rows ↔
      (∃ row ∈ keys.rotated, row.kid = kid) ∨
        ∃ row ∈ rows, row.expiredAt ≠ none ∧ row.kid = kid := by
  have hexpired : ∀ row, row ∈ getExpiredKeys rows ↔ row ∈ rows ∧ row.expiredAt ≠ none := by
    intro row
    rw [getExpiredKeys, List.mem_insertionSort, List.mem_filter, decide_eq_true_eq]
  simp [bootWrites, syncFileSystemKeyState, purgeExpiredKeys, pairWrites, hexpired, and_assoc,
    eq_comm]

/-- What a bootup makes of a deployed table. -/
structure BootSpec (limit : KeyLimit) (keys : BootKeys) (rows rows' : List KeyRow) : Prop where
  life : KeyLifecycle limit rows'
  active_mem : keys.active ∈ rows'
  active_unexpired : keys.active.expiredAt = none
  rotated_mem : ∀ row ∈ keys.rotated, row ∈ rows' ∧ row.kid ≠ keys.active.kid
  covers : ∀ row ∈ rows', row.kid ≠ keys.active.kid → row ∈ keys.rotated ∨ row.expiredAt ≠ none
  before : ∀ row ∈ rows', row.kid ≠ keys.active.kid → row ∈ rows

theorem bootSpec_of_empty {limit : KeyLimit} {drawn : NewKey} {rows' : List KeyRow}
    (hboot : bootRows (bootKeys limit drawn.row []) [] = .ok rows') :
    BootSpec limit (bootKeys limit drawn.row []) [] rows' := by
  have hkeys : bootKeys limit drawn.row [] = ⟨drawn.row, [], true⟩ := rfl
  rw [hkeys] at hboot ⊢
  have hinsert : insertKey drawn.row [] = .ok rows' := hboot
  obtain ⟨rfl, _⟩ := insertKey_eq_ok hinsert
  have honly : ∀ row ∈ [] ++ [drawn.row], row = drawn.row := fun row hrow => by simpa using hrow
  refine ⟨⟨by simp [kids, keyData], ⟨drawn.row, rfl, rfl⟩, ?_, limit.capacity_pos⟩, by simp, rfl,
    by simp, ?_, ?_⟩
  · intro row hrow hexpired
    rw [honly row hrow] at hexpired
    exact absurd rfl hexpired
  · intro row hrow hother
    exact absurd (congrArg (·.kid) (honly row hrow)) hother
  · intro row hrow hother
    exact absurd (congrArg (·.kid) (honly row hrow)) hother

/-- A live table has an unexpired key that is not rotated out. -/
theorem KeyLifecycle.not_missesActive {limit : KeyLimit} {rows : List KeyRow}
    (hlife : KeyLifecycle limit rows) : ¬ MissesActive rows := by
  obtain ⟨active, hactive, hunexpired⟩ := hlife.one_active
  intro hmissing
  have hmem : active ∈ selectActive rows := hactive ▸ List.mem_singleton_self active
  obtain ⟨hrow, hnone⟩ := List.mem_filter.mp hmem
  exact hmissing active (mem_relevantRows.mpr ⟨hrow, hunexpired⟩) (by simpa using hnone)

theorem bootSpec_of_lifecycle {limit : KeyLimit} {drawn : KeyRow} {rows rows' : List KeyRow}
    (hlife : KeyLifecycle limit rows)
    (hboot : bootRows (bootKeys limit drawn rows) rows = .ok rows') :
    BootSpec limit (bootKeys limit drawn rows) rows rows' := by
  rcases bootKeys_cases limit drawn rows with ⟨hmissing, _⟩ | ⟨_, first, rest, hrest, hkeys⟩
  · exact absurd hmissing hlife.not_missesActive
  have hkept : keptRows limit rows = first :: rest := by
    unfold keptRows
    rw [if_neg, hrest]
    rw [length_relevantRows]
    exact not_lt.mpr hlife.within_limit
  rw [hkeys, hkept] at hboot ⊢
  cases hboot
  have hnodup : (kids (keyData (first :: rest))).Nodup := by
    rw [← hrest]
    exact (kids_relevantRows_perm rows).nodup_iff.mpr (kids_unexpired_nodup hlife.kids_nodup)
  have hmem : ∀ row, row ∈ first :: rest ↔ row ∈ rows ∧ row.expiredAt = none := by
    intro row
    rw [← hrest]
    exact mem_relevantRows
  obtain ⟨hfirst, hunexpired⟩ := (hmem first).mp (List.mem_cons_self ..)
  refine ⟨hlife, hfirst, hunexpired, ?_, ?_, fun row hrow _ => hrow⟩
  · intro row hrow
    refine ⟨((hmem row).mp (List.mem_cons_of_mem _ hrow)).1, fun hsame => ?_⟩
    have hnotMem := (List.nodup_cons.mp hnodup).1
    exact hnotMem (hsame ▸ mem_kids_iff.mpr ⟨row, hrow, rfl⟩)
  · intro row hrow hother
    by_cases hexpired : row.expiredAt = none
    · left
      rcases List.mem_cons.mp ((hmem row).mpr ⟨hrow, hexpired⟩) with rfl | hrotated
      · exact absurd rfl hother
      · exact hrotated
    · exact .inr hexpired

/-- What a bootup makes of a deployed table. -/
theorem bootSpec_of_deployed {limit : KeyLimit} {drawn : NewKey} {rows rows' : List KeyRow}
    (hdeployed : DeployedTable limit rows)
    (hboot : bootRows (bootKeys limit drawn.row rows) rows = .ok rows') :
    BootSpec limit (bootKeys limit drawn.row rows) rows rows' := by
  rcases hdeployed with rfl | hlife
  · exact bootSpec_of_empty hboot
  · exact bootSpec_of_lifecycle hlife hboot

/-- A request keeps the table deployed. -/
theorem deployedTable_request {server : KeyServer} {w : KeyWorld} (request : KeyRequest)
    (hdeployed : DeployedTable server.limit w.rows) :
    DeployedTable server.limit (stateAfter (handleKeyRequest server request) w).rows := by
  rcases hdeployed with hempty | hlife
  · left
    cases request with
    | rotate request faults =>
        rcases rotateKeysEndpoint_spec server.limit faults request w with
          hsame | ⟨rotation, hrotation, _⟩
        · exact hsame.trans hempty
        · obtain ⟨_, _, _, _, _, previous, _, hprevious, _⟩ := rotateTransaction_eq_ok hrotation
          rw [hempty] at hprevious
          cases hprevious
    | invalidate kid now faults =>
        rcases invalidateKeyEndpoint_spec server.session faults kid now w with
          hsame | ⟨_, target, _, htarget, _⟩
        · exact hsame.trans hempty
        · rw [hempty] at htarget
          cases htarget
    | clean now faults pipelineFails =>
        rcases cleanKeystoreEndpoint_spec server.ecdsa faults now pipelineFails w with
          hsame | ⟨_, active, _, _, _, _, hactive, _⟩
        · exact hsame.trans hempty
        · rw [hempty] at hactive
          cases hactive
  · exact .inr (keyLifecycle_step hlife rfl)

/-- After the operations of a bootup, however many of those after the insertion are done, a key
in the table that is not the active one has at most the private PEM file that it had. -/
theorem privatePem_of_boot {keys : BootKeys} {rows : List KeyRow} {kid : String}
    (hkid : kid ≠ keys.active.kid) (done : List PemWrite) (hdone : done ⊆ bootWrites keys rows)
    (files : KeyFiles) :
    (runWrites files (initialWrites keys ++ done)).privatePem kid =
      if .unlinkPrivate kid ∈ initialWrites keys ++ done then none
      else files.privatePem kid := by
  apply privatePem_runWrites
  intro pem hmem
  have hboot : .writePrivate kid pem ∉ initialWrites keys ++ bootWrites keys rows :=
    fun h => hkid (writePrivate_mem_boot h)
  apply hboot
  rcases List.mem_append.mp hmem with hinitial | hmore
  · exact List.mem_append_left _ hinitial
  · exact List.mem_append_right _ (hdone hmore)

/-- The private PEM file of the active key is written first, and only once more than that. -/
theorem bootWrites_eq (keys : BootKeys) (rows : List KeyRow) :
    ∃ rest, bootWrites keys rows =
        .writePrivate keys.active.kid keys.active.privatePem :: rest ∧
      ∀ kid pem, PemWrite.writePrivate kid pem ∉ rest := by
  refine ⟨_, rfl, fun kid pem hmem => ?_⟩
  simp [purgeExpiredKeys] at hmem

/-- A completed bootup leaves the private PEM file of the active key, and of no other key in
the table. -/
theorem privatePem_of_completed {limit : KeyLimit} {keys : BootKeys} {rows rows' : List KeyRow}
    (hspec : BootSpec limit keys rows rows') (files : KeyFiles) :
    (runWrites files (initialWrites keys ++ bootWrites keys rows')).privatePem keys.active.kid =
        some keys.active.privatePem ∧
      ∀ kid ∈ kids (keyData rows'), kid ≠ keys.active.kid →
        (runWrites files (initialWrites keys ++ bootWrites keys rows')).privatePem kid = none := by
  constructor
  · have hkept : PemWrite.unlinkPrivate keys.active.kid ∉ bootWrites keys rows' := by
      rw [unlinkPrivate_mem_boot]
      rintro (⟨row, hrow, hsame⟩ | ⟨row, hrow, hexpired, hsame⟩)
      · exact (hspec.rotated_mem row hrow).2 hsame
      · rw [keyRow_eq_of_kid_eq hspec.life.kids_nodup hrow hspec.active_mem hsame] at hexpired
        exact hexpired hspec.active_unexpired
    obtain ⟨rest, hwrites, hwritten⟩ := bootWrites_eq keys rows'
    rw [hwrites] at hkept ⊢
    have hrest := privatePem_runWrites (hwritten keys.active.kid)
      ((PemWrite.writePrivate keys.active.kid keys.active.privatePem).run
        (runWrites files (initialWrites keys)))
    rw [if_neg fun hmem => hkept (List.mem_cons_of_mem _ hmem)] at hrest
    unfold runWrites at hrest ⊢
    rw [List.foldl_append, List.foldl_cons, hrest]
    exact Function.update_self ..
  · intro kid hkid hother
    rw [privatePem_of_boot hother _ (List.Subset.refl _), if_pos]
    apply List.mem_append_right
    rw [unlinkPrivate_mem_boot]
    obtain ⟨row, hrow, rfl⟩ := mem_kids_iff.mp hkid
    rcases hspec.covers row hrow hother with hrotated | hexpired
    · exact .inl ⟨row, hrotated, rfl⟩
    · exact .inr ⟨row, hrow, hexpired, rfl⟩

/-- Before its insertion a bootup writes only if the table is empty. -/
theorem initialWrites_of_lifecycle {limit : KeyLimit} {drawn : KeyRow} {rows : List KeyRow}
    (hlife : KeyLifecycle limit rows) : initialWrites (bootKeys limit drawn rows) = [] := by
  rcases bootKeys_cases limit drawn rows with ⟨hmissing, _⟩ | ⟨_, first, rest, _, hkeys⟩
  · exact absurd hmissing hlife.not_missesActive
  · rw [hkeys]
    rfl

/-- Every step keeps the table deployed, and the private PEM files those of keys that have
been active. -/
theorem pemStep_invariant {server : KeyServer} {s s' : PemState} {label : PemLabel}
    (hinv : DeployedTable server.limit s.rows ∧ PrivateSince s)
    (hs : pemStep server s label = some s') :
    DeployedTable server.limit s'.rows ∧ PrivateSince s' := by
  obtain ⟨hdeployed, hsince⟩ := hinv
  cases label with
  | request view request =>
      cases hs
      refine ⟨deployedTable_request request hdeployed, fun kid hkid hfile => ?_⟩
      by_cases hold : kid ∈ kids (keyData s.rows)
      · apply List.mem_append_left
        have hsame := handleKeyRequest_privatePem server request (view.world s) hold
        exact hsince kid hold fun hnone => hfile (hsame.trans hnone)
      · exact List.mem_append_right _ (List.mem_filter.mpr ⟨hkid, by simpa using hold⟩)
  | boot drawn jwks =>
      simp only [pemStep] at hs
      split at hs
      · cases hs
      · rename_i rows hboot
        split at hs
        · cases hs
          have hspec := bootSpec_of_deployed hdeployed hboot
          refine ⟨.inr hspec.life, fun kid hkid hfile => ?_⟩
          by_cases hactive : kid = (bootKeys server.limit drawn.row s.rows).active.kid
          · exact hactive ▸ List.mem_singleton_self _
          · exact absurd ((privatePem_of_completed hspec s.files).2 kid hkid hactive) hfile
        · cases hs
  | cutBeforeInsert drawn done =>
      cases hs
      refine ⟨hdeployed, fun kid hkid hfile => ?_⟩
      rcases hdeployed with hempty | hlife
      · rw [hempty] at hkid
        cases hkid
      · rw [initialWrites_of_lifecycle hlife, List.take_nil] at hfile
        exact hsince kid hkid hfile
  | cutAfterInsert drawn done =>
      simp only [pemStep] at hs
      split at hs
      · cases hs
      · rename_i rows hboot
        cases hs
        have hspec := bootSpec_of_deployed hdeployed hboot
        refine ⟨.inr hspec.life, fun kid hkid hfile => ?_⟩
        by_cases hactive : kid = (bootKeys server.limit drawn.row s.rows).active.kid
        · exact hactive ▸ List.mem_cons_self ..
        · obtain ⟨row, hrow, rfl⟩ := mem_kids_iff.mp hkid
          have hold := mem_kids_iff.mpr ⟨row, hspec.before row hrow hactive, rfl⟩
          rw [privatePem_of_boot hactive _ (List.take_subset ..)] at hfile
          split at hfile
          · exact absurd rfl hfile
          · exact List.mem_cons_of_mem _ (hsince row.kid hold hfile)

/-- What a step does to the private PEM files. -/
theorem pemStep_kept {server : KeyServer} {s : PemState}
    (hdeployed : DeployedTable server.limit s.rows) (label : PemLabel) :
    PrivateKept server s label := by
  intro s' hs
  cases label with
  | request view request =>
      cases hs
      exact fun kid hkid => handleKeyRequest_privatePem server request (view.world s) hkid
  | boot drawn jwks =>
      simp only [pemStep] at hs
      split at hs
      · cases hs
      · rename_i rows hboot
        split at hs
        · cases hs
          exact (privatePem_of_completed (bootSpec_of_deployed hdeployed hboot) s.files).1
        · cases hs
  | cutBeforeInsert drawn done => trivial
  | cutAfterInsert drawn done => trivial

/-- In every run from an empty table, with any files on disk, the private PEM files of the
keys in the table are those of keys that have been active since the last completed bootup.  A
bootup writes the one of its active key, and no request ever removes or overwrites one. -/
theorem always_privatePem (server : KeyServer) (files : KeyFiles) (labels : List PemLabel) :
    Always (pemStep server) PrivateSince ⟨[], files, []⟩ labels ∧
      EachStep (pemStep server) (PrivateKept server) ⟨[], files, []⟩ labels := by
  have hinvariant : Always (pemStep server)
      (fun s => DeployedTable server.limit s.rows ∧ PrivateSince s) ⟨[], files, []⟩ labels :=
    always_of_preserved (fun s label s' hinv (hs : pemStep server s label = some s') =>
      pemStep_invariant hinv hs) labels _ ⟨.inl rfl, fun kid hkid => by cases hkid⟩
  exact ⟨hinvariant.imp fun s hinv => hinv.2,
    eachStep_of_always (fun s label hinv => pemStep_kept hinv.1 label) hinvariant⟩

end AuthServer
end Tenjin
