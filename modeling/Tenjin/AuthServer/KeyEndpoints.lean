import Tenjin.AuthServer.TokenManager
import Tenjin.Foundation.GuardedRun

/-!
# The endpoints that change the signing keys

`invalidate_key`, `clean_keystore` and `rotate_keys` of `keys.py` with `update_jwks` and
`write_ecdsa_pair` of `keygen.py`, over the committed key table, the files, the token
manager and the synced store.

* Every operation that can fail has a point, and a plan of faults says which points raise
  and what an interrupted write leaves in the file.
* The synced store is an asynchronous client.  The calls that the code awaits are the
  pipelines; every other call is a coroutine that does nothing.
* A session keeps its changes to itself until the commit.  After a rollback it reads its
  instances again: whether it does is a parameter, and reading without an `await` is a
  `MissingGreenlet`.
* In every run of requests the table keeps its lifecycle (`always_keyLifecycle`).
-/

namespace Tenjin
namespace AuthServer

open Foundation
open Python

/-- An entry of the JWKS file. -/
structure Jwk where
  kty : String
  alg : String
  crv : String
  usage : String
  kid : String
  x : String
  y : String
  deriving DecidableEq

/-- The JWKS file, as far as its content parses, and the two directories of PEM files. -/
structure KeyFiles where
  jwks : Option (List Jwk)
  publicPem : String → Option String
  privatePem : String → Option String

/-- What the endpoints read and change. -/
structure KeyWorld where
  rows : List KeyRow
  files : KeyFiles
  manager : TokenManager
  validKeys : List String
  rotationLock : Bool
  rotationCooldown : Bool

/-- The points that raise, and what an interrupted write leaves behind. -/
structure Faults (Point : Type) where
  raises : Point → Bool
  tornJwks : Option (List Jwk)
  tornPem : Option String

/-- The files and the local variable that the handler of `invalidate_key` reads. -/
structure TryState where
  files : KeyFiles
  targetKey : Option KeyRow

/-- A statement of a session, or any computation without effects on the files. -/
def liftExcept {σ α : Type} (result : Except ServerExn α) : EStateM ServerExn σ α :=
  match result with
  | .ok a => pure a
  | .error exn => throw exn

/-- `raise HTTPException(...)`. -/
def httpError {σ α : Type} (status : ℕ) (detail : String) : EStateM ServerExn σ α :=
  throw (.raised (.httpException status detail))

/-- The JWKS file is opened for writing and the entries are written. -/
def writeJwks (fails : Bool) (torn : Option (List Jwk)) (entries : List Jwk) :
    EStateM ServerExn KeyFiles Unit := fun files =>
  if fails then .error .osError { files with jwks := torn }
  else .ok () { files with jwks := some entries }

/-- The paths that the endpoints delete: PEM files in their directories, and names joined
to the path of the JWKS file. -/
inductive KeyPath
  | publicPem (kid : String)
  | privatePem (kid : String)
  | belowJwks (name : String)

/-- `unlink`.  The JWKS file is no directory, so a path below it is a
`NotADirectoryError`, which `missing_ok` does not cover. -/
def unlink (missingOk : Bool) (path : KeyPath) : EStateM ServerExn KeyFiles Unit := fun files =>
  match path with
  | .publicPem kid =>
      if missingOk || (files.publicPem kid).isSome then
        .ok () { files with publicPem := Function.update files.publicPem kid none }
      else .error .osError files
  | .privatePem kid =>
      if missingOk || (files.privatePem kid).isSome then
        .ok () { files with privatePem := Function.update files.privatePem kid none }
      else .error .osError files
  | .belowJwks _ => .error .osError files

/-- `unlink(missing_ok=True)` of a public PEM file. -/
def unlinkPublic (fails : Bool) (kid : String) : EStateM ServerExn KeyFiles Unit :=
  if fails then throw .osError else unlink true (.publicPem kid)

/-- A file operation inside a `try`. -/
def onFiles {α : Type} (x : EStateM ServerExn KeyFiles α) : EStateM ServerExn TryState α := fun s =>
  match x s.files with
  | .ok a files => .ok a { s with files := files }
  | .error exn files => .error exn { s with files := files }

/-- The operations in the `try` of `invalidate_key`. -/
inductive InvalidatePoint
  | selectTarget
  | report
  | updateExpired
  | writeJwks
  | unlinkPublic
  | commit
  deriving DecidableEq

/-- The end of the `try` of `invalidate_key`: the file operations and the commit. -/
def invalidateFiles (faults : Faults InvalidatePoint) (kid : String) (originalJwks : List Jwk)
    (expired : List KeyRow) : EStateM ServerExn TryState (List KeyRow) := do
  onFiles (writeJwks (faults.raises .writeJwks) faults.tornJwks
    (originalJwks.filter (·.kid ≠ kid)))
  onFiles (unlinkPublic (faults.raises .unlinkPublic) kid)
  liftExcept (execute (faults.raises .commit) (.ok expired))

/-- The `try` of `invalidate_key`; it returns the rows that it has committed. -/
def invalidateTry (faults : Faults InvalidatePoint) (kid : String) (now : Int)
    (originalJwks : List Jwk) (rows : List KeyRow) :
    EStateM ServerExn TryState (List KeyRow) := do
  let found ← liftExcept (execute (faults.raises .selectTarget) (.ok (selectKid kid rows)))
  modify fun s => { s with targetKey := found }
  match found with
  | none => httpError 404 s!"No key with ID {kid} found"
  | some targetKey =>
      if targetKey.rotatedOutAt = none then
        liftExcept (execute (faults.raises .report) (.ok ()))
        httpError 409 s!"Active key {kid} must be rotated out before being invalidated"
      else if targetKey.expiredAt ≠ none then
        httpError 409 s!"Key {kid} has already been expired"
      else
        let expired ← liftExcept
          (execute (faults.raises .updateExpired) (.ok (setExpired [kid] now rows)))
        invalidateFiles faults kid originalJwks expired

/-- How a session treats its instances at a rollback. -/
structure SessionBehaviour where
  expiresOnRollback : Bool

/-- `target_key.public_pem` after the rollback. -/
def publicPemAfterRollback (session : SessionBehaviour) (targetKey : KeyRow) :
    Except ServerExn String :=
  if session.expiresOnRollback then .error .missingGreenlet else .ok targetKey.publicPem

/-- The handler of `invalidate_key`: the JWKS file is written back, and the PEM file as
well if it is gone.  The compensating writes succeed. -/
def invalidateHandler (session : SessionBehaviour) (kid : String) (originalJwks : List Jwk)
    (s : TryState) : Except ServerExn Unit × KeyFiles :=
  let files := { s.files with jwks := some originalJwks }
  let crash : Except ServerExn Unit :=
    .error (.raised (.httpException 500 s!"Failed to invalidate key {kid}"))
  match s.targetKey with
  | none => (crash, files)
  | some targetKey =>
      if (files.publicPem kid).isSome then (crash, files)
      else
        match publicPemAfterRollback session targetKey with
        | .error exn => (.error exn, files)
        | .ok pem =>
            (crash, { files with publicPem := Function.update files.publicPem kid (some pem) })

/-- The exceptions that the handler of `invalidate_key` catches. -/
def ServerExn.isOperationError : ServerExn → Bool
  | .sqlAlchemyError => true
  | .osError => true
  | _ => false

/-- `VALID_KEYS` after a change: the list of the store without the kid, or the ids of the
table where it does not have the kid.  The list of the store is a coroutine. -/
def validKeysAfter (rawValidKeys : Called (List String)) (kid : String)
    (update : List String → List String) (rows : List KeyRow) : Except Exn (List String) :=
  if rawValidKeys.truthy (· ≠ []) then do
    let listed ← rawValidKeys.container
    if kid ∈ listed then .ok (update listed)
    else .ok (kids (getRelevantKeydata (keyData rows)))
  else .ok (kids (getRelevantKeydata (keyData rows)))

/-- A pipeline that replaces `VALID_KEYS`: `LPUSH` turns the arguments around. -/
def publishValidKeys (validKeys : List String) : EStateM ServerExn KeyWorld Unit :=
  modify fun w => { w with validKeys := validKeys.reverse }

/-- What follows the commit in `invalidate_key`. -/
def afterInvalidate (kid : String) : EStateM ServerExn KeyWorld Unit := do
  let w ← get
  match TokenManager.invalidateKey kid w.manager with
  | .error exn _ => throw (.raised exn)
  | .ok _ manager =>
      set { w with manager := manager }
      match validKeysAfter .coroutine kid (·.erase kid) w.rows with
      | .error exn => throw (.raised exn)
      | .ok validKeys => publishValidKeys validKeys

/-- `invalidate_key`.  Its lock is a coroutine. -/
def invalidateKeyEndpoint (session : SessionBehaviour) (faults : Faults InvalidatePoint)
    (kid : String) (now : Int) : EStateM ServerExn KeyWorld Unit := fun w =>
  match w.files.jwks with
  | none => .error .jsonDecodeError w
  | some originalJwks =>
      match invalidateTry faults kid now originalJwks w.rows ⟨w.files, none⟩ with
      | .ok rows s => afterInvalidate kid { w with rows := rows, files := s.files }
      | .error exn s =>
          if exn.isOperationError then
            match invalidateHandler session kid originalJwks s with
            | (.ok _, files) => .ok () { w with files := files }
            | (.error exn, files) => .error exn { w with files := files }
          else .error exn { w with files := s.files }

/-- The third-party key library, as far as it reads a public PEM: the encoded coordinates
of its point. -/
structure Ecdsa where
  coordinates : String → Option (String × String)

/-- The operations in the `try` of `clean_keystore`. -/
inductive CleanPoint
  | selectRotated
  | updateExpired
  | selectActive
  | writeJwks
  | unlinkPublic (kid : String)
  | commit
  deriving DecidableEq

/-- The entry of a public key. -/
def jwkOf (kid : String) (point : String × String) : Jwk where
  kty := "EC"
  alg := "ECDSA"
  crv := "SECP256k1"
  usage := "sig"
  kid := kid
  x := point.1
  y := point.2

/-- The end of the `try` of `clean_keystore`: the file operations and the commit. -/
def cleanFiles (faults : Faults CleanPoint) (validInactiveKeys : List String)
    (activeKeyMapping : Jwk) (expired : List KeyRow) :
    EStateM ServerExn KeyFiles (List KeyRow) := do
  writeJwks (faults.raises .writeJwks) faults.tornJwks [activeKeyMapping]
  validInactiveKeys.forM fun keyID => unlinkPublic (faults.raises (.unlinkPublic keyID)) keyID
  liftExcept (execute (faults.raises .commit) (.ok expired))

/-- The `try` of `clean_keystore`; it returns the rows that it has committed and the
active key. -/
def cleanTry (ecdsa : Ecdsa) (faults : Faults CleanPoint) (now : Int) (rows : List KeyRow) :
    EStateM ServerExn KeyFiles (List KeyRow × KeyRow) := do
  let rotated ← liftExcept (execute (faults.raises .selectRotated) (.ok (selectRotated rows)))
  let validInactiveKeys := kids (keyData rotated)
  let expired ← liftExcept
    (execute (faults.raises .updateExpired) (.ok (setExpired validInactiveKeys now rows)))
  let activeKey ← liftExcept
    (execute (faults.raises .selectActive) (scalarOne (selectActive expired)))
  match ecdsa.coordinates activeKey.publicPem with
  | none => throw (.raised .valueError)
  | some point =>
      let committed ← cleanFiles faults validInactiveKeys (jwkOf activeKey.kid point) expired
      pure (committed, activeKey)

/-- `read_bytes` of the PEM file of each entry. -/
def readPems (files : KeyFiles) : List Jwk → Option (List (String × String))
  | [] => some []
  | entry :: entries =>
      match files.publicPem entry.kid, readPems files entries with
      | some pem, some rest => some ((entry.kid, pem) :: rest)
      | _, _ => none

/-- The PEM files that are gone are written again. -/
def restorePems (files : KeyFiles) : List (String × String) → KeyFiles
  | [] => files
  | (kid, pem) :: rest =>
      if (files.publicPem kid).isSome then restorePems files rest
      else restorePems
        { files with publicPem := Function.update files.publicPem kid (some pem) } rest

/-- `clean_keystore`; `pipelineFails` says that its pipeline raises.  Its handler catches
every exception, and its compensating writes succeed. -/
def cleanKeystoreEndpoint (ecdsa : Ecdsa) (faults : Faults CleanPoint) (now : Int)
    (pipelineFails : Bool) : EStateM ServerExn KeyWorld Unit := fun w =>
  match w.files.jwks with
  | none => .error .jsonDecodeError w
  | some oldJwks =>
      if oldJwks.length = 1 then
        .error (.raised (.httpException 409 "No inactive keys present to invalidate")) w
      else
        match readPems w.files oldJwks with
        | none => .error .osError w
        | some pemMappings =>
            match cleanTry ecdsa faults now w.rows w.files with
            | .ok (rows, activeKey) files =>
                let w := { w with rows := rows, files := files }
                if pipelineFails then .error (.raised (.redisError true)) w
                else publishValidKeys [activeKey.kid] w
            | .error _ files =>
                .error (.raised (.httpException 500 "Failed to perform clean operation"))
                  { w with
                    files := restorePems { files with jwks := some oldJwks } pemMappings }

/-- The key pair of `generate_ecdsa_pair`, with its id and the encoded point. -/
structure EcdsaPair where
  kid : String
  privatePem : String
  publicPem : String
  point : String × String

/-- The operations of `rotate_keys`. -/
inductive RotatePoint
  | report
  | selectActive
  | updateActive
  | insertKey
  | countKeys
  | selectOldest
  | updateOldest
  | commit
  | updateJwks
  | writePrivate
  | writePublic
  | pipeline
  deriving DecidableEq

/-- A rotation request: whether a staff admin makes it, the pair that is drawn, the
clocks, and what the database chooses among equally old keys. -/
structure RotateRequest where
  staff : Bool
  pair : EcdsaPair
  epoch : Int
  rotatedAt : Int
  expiredAt : Int
  metadataEpoch : Int
  choice : ℕ

/-- The row that a rotation inserts. -/
def RotateRequest.newRow (request : RotateRequest) : KeyRow where
  kid := request.pair.kid
  epoch := request.epoch
  rotatedOutAt := none
  expiredAt := none
  alg := "ES256"
  curve := "SECP256k1"
  privatePem := request.pair.privatePem
  publicPem := request.pair.publicPem

/-- The metadata of the new key for the token manager. -/
def RotateRequest.newKeyData (request : RotateRequest) : KeyMetadata where
  publicPem := request.pair.publicPem
  privatePem := request.pair.privatePem
  algorithm := "ES256"
  epoch := request.metadataEpoch
  rotatedAt := none

/-- What the transaction of a rotation has committed, with `previous_key_id` and `id_`. -/
structure Rotation where
  rows : List KeyRow
  previousKeyId : String
  expiredId : Option String

/-- The transaction of `rotate_keys`. -/
def rotateTransaction (limit : KeyLimit) (raises : RotatePoint → Bool)
    (request : RotateRequest) (rows : List KeyRow) : Except ServerExn Rotation := do
  let previous ← execute (raises .selectActive) (scalarOne (selectActive rows))
  let rotated ← execute (raises .updateActive)
    (.ok (setRotated previous.kid request.rotatedAt rows))
  let inserted ← execute (raises .insertKey) (insertKey request.newRow rotated)
  let validKeyCount ← execute (raises .countKeys) (.ok (countUnexpired inserted))
  if limit.capacity < validKeyCount then
    let oldest ← execute (raises .selectOldest) (selectOldest request.choice inserted)
    let expired ← execute (raises .updateOldest)
      (.ok (setExpired [oldest.kid] request.expiredAt inserted))
    execute (raises .commit) (.ok ⟨expired, previous.kid, some oldest.kid⟩)
  else execute (raises .commit) (.ok ⟨inserted, previous.kid, none⟩)

/-- `update_jwks`. -/
def updateJwksFile (fails : Bool) (torn : Option (List Jwk)) (entry : Jwk) (capacity : ℕ) :
    EStateM ServerExn KeyFiles Unit := fun files =>
  match files.jwks with
  | none => .error .jsonDecodeError files
  | some entries => writeJwks fails torn (push capacity entries entry) files

/-- `write_ecdsa_pair`. -/
def writeEcdsaPair (faults : Faults RotatePoint) (pair : EcdsaPair) :
    EStateM ServerExn KeyFiles Unit := do
  if faults.raises .writePrivate then
    modify fun files =>
      { files with privatePem := Function.update files.privatePem pair.kid faults.tornPem }
    throw .osError
  modify fun files =>
    { files with privatePem := Function.update files.privatePem pair.kid (some pair.privatePem) }
  if faults.raises .writePublic then
    modify fun files =>
      { files with publicPem := Function.update files.publicPem pair.kid faults.tornPem }
    throw .osError
  modify fun files =>
    { files with publicPem := Function.update files.publicPem pair.kid (some pair.publicPem) }

/-- The files after the commit: the JWKS file, the new pair, and the old PEM files, which
the code looks for below the JWKS file. -/
def rotateFiles (limit : KeyLimit) (faults : Faults RotatePoint) (pair : EcdsaPair)
    (rotation : Rotation) : EStateM ServerExn KeyFiles Unit := do
  updateJwksFile (faults.raises .updateJwks) faults.tornJwks (jwkOf pair.kid pair.point)
    limit.capacity
  writeEcdsaPair faults pair
  unlink false (.belowJwks s!"private_{rotation.previousKeyId}_key.pem")
  match rotation.expiredId with
  | none => pure ()
  | some id => do
      unlink false (.belowJwks s!"public_{id}_key.pem")
      unlink true (.belowJwks s!"private_{id}_key.pem")

/-- What follows the files in `rotate_keys`. -/
def afterRotate (faults : Faults RotatePoint) (request : RotateRequest) (rotation : Rotation) :
    EStateM ServerExn KeyWorld Unit := do
  modify fun w =>
    { w with manager := updateKeydata request.pair.kid request.newKeyData true w.manager }
  let w ← get
  match validKeysAfter .coroutine request.pair.kid id w.rows with
  | .error exn => throw (.raised exn)
  | .ok listed =>
      let validKeys := match rotation.expiredId with
        | none => listed
        | some id => listed.erase id
      if faults.raises .pipeline then throw (.raised (.redisError true))
      else
        modify fun w => { w with rotationCooldown := true, rotationLock := false }
        publishValidKeys validKeys

/-- The text of the refusal during a cooldown. -/
def rotationCooldownMessage : String :=
  pyJoin " " ["The server is currently undergoing a key rotation cooldown,",
    "and will not accept rotation requests.", "Repeated attempt will lead to account lock"]

/-- `rotate_keys`.  The lock and the cooldown flag are coroutines. -/
def rotateKeysEndpoint (limit : KeyLimit) (faults : Faults RotatePoint)
    (request : RotateRequest) : EStateM ServerExn KeyWorld Unit := fun w =>
  let lock : Called Bool := .coroutine
  let cooldownFlag : Called Bool := .coroutine
  if ¬ lock.truthy id then .error (.raised .attributeError) w
  else if cooldownFlag.truthy id && request.staff then
    if faults.raises .report then .error .sqlAlchemyError w
    else .error (.raised (.httpException 409 rotationCooldownMessage)) w
  else
    match rotateTransaction limit faults.raises request w.rows with
    | .error _ =>
        .error (.raised (.httpException 500
          "An error occured in performing key rotation (Database level)")) w
    | .ok rotation =>
        match rotateFiles limit faults request.pair rotation w.files with
        | .error exn files => .error exn { w with rows := rotation.rows, files := files }
        | .ok _ files =>
            afterRotate faults request rotation { w with rows := rotation.rows, files := files }

/-- The requests. -/
inductive KeyRequest
  | rotate (request : RotateRequest) (faults : Faults RotatePoint)
  | invalidate (kid : String) (now : Int) (faults : Faults InvalidatePoint)
  | clean (now : Int) (faults : Faults CleanPoint) (pipelineFails : Bool)

/-- What is fixed for a server: the limit, the database session and the key library. -/
structure KeyServer where
  limit : KeyLimit
  session : SessionBehaviour
  ecdsa : Ecdsa

/-- The endpoint of a request. -/
def handleKeyRequest (server : KeyServer) : KeyRequest → EStateM ServerExn KeyWorld Unit
  | .rotate request faults => rotateKeysEndpoint server.limit faults request
  | .invalidate kid now faults => invalidateKeyEndpoint server.session faults kid now
  | .clean now faults pipelineFails =>
      cleanKeystoreEndpoint server.ecdsa faults now pipelineFails

/-- One request, however it ends. -/
def keyRequestStep (server : KeyServer) (w : KeyWorld) (request : KeyRequest) :
    Option KeyWorld :=
  some (stateAfter (handleKeyRequest server request) w)

theorem liftExcept_eq_ok {σ α : Type} {result : Except ServerExn α} {s s' : σ} {a : α} :
    liftExcept result s = .ok a s' ↔ result = .ok a ∧ s = s' := by
  cases result with
  | error exn =>
      constructor
      · intro h
        cases h
      · rintro ⟨h, _⟩
        cases h
  | ok b =>
      constructor
      · intro h
        cases h
        exact ⟨rfl, rfl⟩
      · rintro ⟨h, rfl⟩
        cases h
        rfl

/-- A statement that returns has not been refused, and has no effect on the files. -/
theorem liftExecute_eq_ok {σ α : Type} {fails : Bool} {result : Except ServerExn α} {s s' : σ}
    {a : α} :
    liftExcept (execute fails result) s = .ok a s' ↔
      fails = false ∧ result = .ok a ∧ s = s' := by
  rw [liftExcept_eq_ok, execute_eq_ok, and_assoc]

/-- An unlinked PEM file is gone, the others are untouched. -/
theorem keeps_unlinkPublic {I : KeyFiles → Prop} {kid : String} (fails : Bool)
    (h : ∀ files, I files →
      I { files with publicPem := Function.update files.publicPem kid none }) :
    Keeps I (unlinkPublic fails kid) := by
  intro files hI
  cases fails with
  | true => exact hI
  | false => exact h files hI

theorem keeps_liftExcept {σ α : Type} {I : σ → Prop} (result : Except ServerExn α) :
    Keeps I (liftExcept result) := by
  cases result with
  | ok a => exact Keeps.pure a
  | error exn => exact Keeps.throw exn

/-- The JWKS file stays as it is when a public PEM file is unlinked. -/
theorem keeps_jwks_unlinkPublic (jwks : Option (List Jwk)) (fails : Bool) (kid : String) :
    Keeps (fun files => files.jwks = jwks) (unlinkPublic fails kid) :=
  keeps_unlinkPublic fails fun _ hkept => hkept

theorem onFiles_eq_ok {α : Type} {x : EStateM ServerExn KeyFiles α} {s s' : TryState} {a : α} :
    onFiles x s = .ok a s' ↔ ∃ files, x s.files = .ok a files ∧ s' = { s with files := files } := by
  unfold onFiles
  cases hx : x s.files with
  | ok b files =>
      constructor
      · intro h
        cases h
        exact ⟨files, rfl, rfl⟩
      · rintro ⟨files', h, rfl⟩
        cases h
        rfl
  | error exn files =>
      constructor
      · intro h
        cases h
      · rintro ⟨files', h, _⟩
        cases h

/-- The file that has been written. -/
theorem jwks_of_writeJwks {fails : Bool} {torn : Option (List Jwk)} {entries : List Jwk}
    {files files' : KeyFiles} (h : writeJwks fails torn entries files = .ok () files') :
    files'.jwks = some entries := by
  unfold writeJwks at h
  split at h
  · cases h
  · cases h
    rfl

theorem insertKey_eq_ok {row : KeyRow} {rows inserted : List KeyRow}
    (h : insertKey row rows = .ok inserted) :
    inserted = rows ++ [row] ∧ ¬ Collides row rows := by
  unfold insertKey at h
  split at h
  · cases h
  · rename_i hfresh
    cases h
    exact ⟨rfl, hfresh⟩

/-- What the transaction of a rotation commits, and that none of its statements raised. -/
theorem rotateTransaction_eq_ok {limit : KeyLimit} {raises : RotatePoint → Bool}
    {request : RotateRequest} {rows : List KeyRow} {rotation : Rotation}
    (h : rotateTransaction limit raises request rows = .ok rotation) :
    raises .selectActive = false ∧ raises .updateActive = false ∧ raises .insertKey = false ∧
      raises .countKeys = false ∧ raises .commit = false ∧
      ∃ previous inserted, selectActive rows = [previous] ∧
        insertKey request.newRow (setRotated previous.kid request.rotatedAt rows) =
          .ok inserted ∧
        ((countUnexpired inserted ≤ limit.capacity ∧
            rotation = ⟨inserted, previous.kid, none⟩) ∨
          (limit.capacity < countUnexpired inserted ∧ raises .selectOldest = false ∧
            raises .updateOldest = false ∧
            ∃ oldest, selectOldest request.choice inserted = .ok oldest ∧
              rotation = ⟨setExpired [oldest.kid] request.expiredAt inserted, previous.kid,
                some oldest.kid⟩)) := by
  unfold rotateTransaction at h
  obtain ⟨previous, hselect, h⟩ := except_bind_eq_ok h
  obtain ⟨rotated, hupdate, h⟩ := except_bind_eq_ok h
  obtain ⟨inserted, hinsert, h⟩ := except_bind_eq_ok h
  obtain ⟨count, hcount, h⟩ := except_bind_eq_ok h
  obtain ⟨hselectActive, hprevious⟩ := execute_eq_ok.mp hselect
  obtain ⟨hupdateActive, hrotated⟩ := execute_eq_ok.mp hupdate
  obtain ⟨hinsertKey, hinserted⟩ := execute_eq_ok.mp hinsert
  obtain ⟨hcountKeys, hnumber⟩ := execute_eq_ok.mp hcount
  cases hrotated
  cases hnumber
  split at h
  · rename_i hover
    obtain ⟨oldest, hfetch, h⟩ := except_bind_eq_ok h
    obtain ⟨expired, hexpire, h⟩ := except_bind_eq_ok h
    obtain ⟨hselectOldest, holdest⟩ := execute_eq_ok.mp hfetch
    obtain ⟨hupdateOldest, hexpired⟩ := execute_eq_ok.mp hexpire
    obtain ⟨hcommit, h⟩ := execute_eq_ok.mp h
    cases hexpired
    cases h
    exact ⟨hselectActive, hupdateActive, hinsertKey, hcountKeys, hcommit, previous, inserted,
      scalarOne_eq_ok.mp hprevious, hinserted,
      .inr ⟨hover, hselectOldest, hupdateOldest, oldest, holdest, rfl⟩⟩
  · rename_i hroom
    obtain ⟨hcommit, h⟩ := execute_eq_ok.mp h
    cases h
    exact ⟨hselectActive, hupdateActive, hinsertKey, hcountKeys, hcommit, previous, inserted,
      scalarOne_eq_ok.mp hprevious, hinserted, .inl ⟨by omega, rfl⟩⟩

/-- What the `try` of an invalidation commits, and the JWKS file that it has written. -/
theorem invalidateTry_eq_ok {faults : Faults InvalidatePoint} {kid : String} {now : Int}
    {originalJwks : List Jwk} {rows rows' : List KeyRow} {s s' : TryState}
    (h : invalidateTry faults kid now originalJwks rows s = .ok rows' s') :
    ∃ target, selectKid kid rows = some target ∧ target.rotatedOutAt ≠ none ∧
      target.expiredAt = none ∧ rows' = setExpired [kid] now rows ∧
      s'.files.jwks = some (originalJwks.filter (·.kid ≠ kid)) := by
  obtain ⟨found, _, hstatement, h⟩ := bind_eq_ok.mp h
  obtain ⟨_, hfound, rfl⟩ := liftExecute_eq_ok.mp hstatement
  obtain ⟨_, t, _, h⟩ := bind_eq_ok.mp h
  cases hfound
  cases htarget : selectKid kid rows with
  | none =>
      rw [htarget] at h
      cases h
  | some target =>
      rw [htarget] at h
      dsimp only at h
      split at h
      · obtain ⟨_, _, _, h⟩ := bind_eq_ok.mp h
        cases h
      rename_i hrotated
      split at h
      · cases h
      rename_i hunexpired
      obtain ⟨expired, _, hstatement, h⟩ := bind_eq_ok.mp h
      obtain ⟨_, hexpired, rfl⟩ := liftExecute_eq_ok.mp hstatement
      cases hexpired
      obtain ⟨_, written, hwrite, h⟩ := bind_eq_ok.mp h
      obtain ⟨_, unlinked, hunlink, h⟩ := bind_eq_ok.mp h
      obtain ⟨_, hcommit, rfl⟩ := liftExecute_eq_ok.mp h
      cases hcommit
      have hjwks : written.files.jwks = some (originalJwks.filter (·.kid ≠ kid)) := by
        obtain ⟨files, hfiles, rfl⟩ := onFiles_eq_ok.mp hwrite
        exact jwks_of_writeJwks hfiles
      refine ⟨target, rfl, hrotated, not_not.mp hunexpired, rfl, ?_⟩
      obtain ⟨files, hfiles, rfl⟩ := onFiles_eq_ok.mp hunlink
      exact (keeps_jwks_unlinkPublic _ _ kid).ok hjwks hfiles

/-- What the `try` of a cleanup commits, and the JWKS file that it has written. -/
theorem cleanTry_eq_ok {ecdsa : Ecdsa} {faults : Faults CleanPoint} {now : Int}
    {rows : List KeyRow} {files files' : KeyFiles} {result : List KeyRow × KeyRow}
    (h : cleanTry ecdsa faults now rows files = .ok result files') :
    result.1 = setExpired (kids (keyData (selectRotated rows))) now rows ∧
      selectActive result.1 = [result.2] ∧
      ∃ point, files'.jwks = some [jwkOf result.2.kid point] := by
  obtain ⟨rotated, _, hstatement, h⟩ := bind_eq_ok.mp h
  obtain ⟨_, hrotated, rfl⟩ := liftExecute_eq_ok.mp hstatement
  cases hrotated
  obtain ⟨expired, _, hupdate, h⟩ := bind_eq_ok.mp h
  obtain ⟨_, hexpired, rfl⟩ := liftExecute_eq_ok.mp hupdate
  cases hexpired
  obtain ⟨activeKey, _, hselect, h⟩ := bind_eq_ok.mp h
  obtain ⟨_, hactive, rfl⟩ := liftExecute_eq_ok.mp hselect
  cases hpoint : ecdsa.coordinates activeKey.publicPem with
  | none =>
      simp only [hpoint] at h
      cases h
  | some point =>
      simp only [hpoint] at h
      obtain ⟨committed, _, hfiles, h⟩ := bind_eq_ok.mp h
      obtain ⟨_, written, hwrite, hfiles⟩ := bind_eq_ok.mp hfiles
      obtain ⟨_, unlinked, hunlink, hfiles⟩ := bind_eq_ok.mp hfiles
      obtain ⟨_, hcommit, rfl⟩ := liftExecute_eq_ok.mp hfiles
      cases hcommit
      cases h
      refine ⟨rfl, scalarOne_eq_ok.mp hactive, point, ?_⟩
      have hkeeps : Keeps (fun files => files.jwks = some [jwkOf activeKey.kid point])
          ((kids (keyData (selectRotated rows))).forM fun kid =>
            unlinkPublic (faults.raises (.unlinkPublic kid)) kid) :=
        Keeps.forM fun kid _ => keeps_jwks_unlinkPublic _ _ kid
      exact hkeeps.ok (jwks_of_writeJwks hwrite) hunlink

/-- The id of a row that can be inserted after a rotation was not in the table before. -/
theorem kid_notMem_of_not_collides {row : KeyRow} {previous : String} {now : Int}
    {rows : List KeyRow} (hfresh : ¬ Collides row (setRotated previous now rows)) :
    row.kid ∉ kids (keyData rows) := by
  intro hmem
  obtain ⟨data, hdata, hsame⟩ := List.mem_map.mp hmem
  obtain ⟨other, hother, rfl⟩ := List.mem_map.mp hdata
  refine hfresh ⟨_, List.mem_map.mpr ⟨other, hother, rfl⟩, .inl ?_⟩
  split
  · exact hsame
  · exact hsame

/-- The rows after the insertion of a rotation, before anything expires: all of the
lifecycle but the limit. -/
theorem rotateInserted_spec {limit : KeyLimit} {rows : List KeyRow}
    (hlife : KeyLifecycle limit rows) {previous row : KeyRow} {now : Int}
    {inserted : List KeyRow} (hprevious : selectActive rows = [previous])
    (hrow : row.rotatedOutAt = none ∧ row.expiredAt = none)
    (hinserted : insertKey row (setRotated previous.kid now rows) = .ok inserted) :
    (kids (keyData inserted)).Nodup ∧ selectActive inserted = [row] ∧
      (∀ other ∈ inserted, other.expiredAt ≠ none → other.rotatedOutAt ≠ none) ∧
      countUnexpired inserted = countUnexpired rows + 1 := by
  obtain ⟨rfl, hfresh⟩ := insertKey_eq_ok hinserted
  have hdata : keyData (setRotated previous.kid now rows ++ [row]) =
      rotateActive previous.kid row.kid row.epoch now (keyData rows) :=
    keyData_setRotated_append previous.kid now rows row hrow.1 hrow.2
  have hkid : row.kid ∉ kids (keyData rows) := kid_notMem_of_not_collides hfresh
  refine ⟨?_, ?_, ?_, ?_⟩
  · rw [hdata, kids_rotateActive]
    exact nodup_append_singleton hlife.kids_nodup hkid
  · have hnone := selectActive_setRotated now hprevious
    unfold selectActive at hnone ⊢
    rw [List.filter_append, hnone]
    simp [hrow.1]
  · intro other hother hexpired
    rcases List.mem_append.mp hother with hold | hnew
    · obtain ⟨before, hbefore, rfl⟩ := List.mem_map.mp hold
      by_cases hsame : before.kid = previous.kid
      · simp [hsame]
      · simp only [hsame, if_false] at hexpired ⊢
        exact hlife.expired_rotated before hbefore hexpired
    · rw [List.mem_singleton.mp hnew] at hexpired
      exact absurd hrow.2 hexpired
  · exact countUnexpired_setRotated_append previous.kid now rows row hrow.1 hrow.2

/-- Removing one of the ids leaves one less. -/
theorem length_filter_notMem_singleton {ids : List String} (hnodup : ids.Nodup) {kid : String}
    (hmem : kid ∈ ids) : (ids.filter (· ∉ [kid])).length = ids.length - 1 := by
  have herase : ids.filter (· ∉ [kid]) = ids.erase kid := by
    rw [hnodup.erase_eq_filter]
    apply List.filter_congr
    intro other _
    by_cases h : other = kid <;> simp [h]
  rw [herase, List.length_erase_of_mem hmem]

/-- A committed rotation keeps the lifecycle. -/
theorem KeyLifecycle.rotate {limit : KeyLimit} {raises : RotatePoint → Bool}
    {request : RotateRequest} {rows : List KeyRow} {rotation : Rotation}
    (hlife : KeyLifecycle limit rows)
    (h : rotateTransaction limit raises request rows = .ok rotation) :
    KeyLifecycle limit rotation.rows := by
  obtain ⟨_, _, _, _, _, previous, inserted, hprevious, hinserted, hend⟩ :=
    rotateTransaction_eq_ok h
  obtain ⟨hnodup, hactive, hexpired, hcount⟩ :=
    rotateInserted_spec hlife hprevious ⟨rfl, rfl⟩ hinserted
  rcases hend with ⟨hroom, rfl⟩ | ⟨hover, _, _, oldest, holdest, rfl⟩
  · exact ⟨hnodup, ⟨request.newRow, hactive, rfl⟩, hexpired, hroom⟩
  · obtain ⟨hmem, hrotated, hunexpired⟩ := mem_of_selectOldest holdest
    apply KeyLifecycle.setExpired request.expiredAt hnodup ⟨request.newRow, hactive, rfl⟩
      hexpired
    · intro row hrow hkid
      rw [keyRow_eq_of_kid_eq hnodup hrow hmem (List.mem_singleton.mp hkid)]
      exact hrotated
    · have hkid : oldest.kid ∈ kids (unexpired (keyData inserted)) := by
        apply List.mem_map.mpr
        refine ⟨oldest.toKeyData, List.mem_filter.mpr
          ⟨List.mem_map.mpr ⟨oldest, hmem, rfl⟩, ?_⟩, rfl⟩
        simp [hunexpired]
      rw [length_filter_notMem_singleton (kids_unexpired_nodup hnodup) hkid]
      have hlimit := hlife.within_limit
      have hlength := countUnexpired_eq inserted
      omega

/-- Expiring any rotated keys keeps the lifecycle. -/
theorem KeyLifecycle.expire {limit : KeyLimit} {rows : List KeyRow} {expired : List String}
    (hlife : KeyLifecycle limit rows) (now : Int)
    (hrotated : ∀ row ∈ rows, row.kid ∈ expired → row.rotatedOutAt ≠ none) :
    KeyLifecycle limit (AuthServer.setExpired expired now rows) := by
  apply KeyLifecycle.setExpired now hlife.kids_nodup hlife.one_active hlife.expired_rotated
    hrotated
  have hle : ((kids (unexpired (keyData rows))).filter (· ∉ expired)).length ≤
      (kids (unexpired (keyData rows))).length := List.length_filter_le ..
  have hlength := countUnexpired_eq rows
  have hlimit := hlife.within_limit
  omega

/-- The row of an id that is selected by it. -/
theorem rotated_of_selectKid {rows : List KeyRow} (hnodup : (kids (keyData rows)).Nodup)
    {kid : String} {target : KeyRow} (htarget : selectKid kid rows = some target)
    (hrotated : target.rotatedOutAt ≠ none) :
    ∀ row ∈ rows, row.kid ∈ [kid] → row.rotatedOutAt ≠ none := by
  intro row hrow hkid
  have hmem : target ∈ rows := List.mem_of_find?_eq_some htarget
  have htargetKid : target.kid = kid := by simpa using List.find?_some htarget
  rw [keyRow_eq_of_kid_eq hnodup hrow hmem ((List.mem_singleton.mp hkid).trans htargetKid.symm)]
  exact hrotated

/-- The ids that a cleanup expires are ids of rotated keys. -/
theorem rotated_of_selectRotated {rows : List KeyRow} (hnodup : (kids (keyData rows)).Nodup) :
    ∀ row ∈ rows, row.kid ∈ kids (keyData (selectRotated rows)) → row.rotatedOutAt ≠ none := by
  intro row hrow hkid
  obtain ⟨data, hdata, hsame⟩ := List.mem_map.mp hkid
  obtain ⟨other, hother, rfl⟩ := List.mem_map.mp hdata
  obtain ⟨hmem, hcondition⟩ := List.mem_filter.mp hother
  rw [← keyRow_eq_of_kid_eq hnodup hmem hrow hsame]
  simp only [ne_eq, decide_eq_true_eq] at hcondition
  exact hcondition.1

/-- After an invalidation the token manager drops the key, if it can, and then the code
fails on the list of valid keys. -/
theorem afterInvalidate_eq (kid : String) (w : KeyWorld) :
    afterInvalidate kid w =
      match TokenManager.invalidateKey kid w.manager with
      | .error exn _ => .error (.raised exn) w
      | .ok _ manager => .error (.raised .typeError) { w with manager := manager } := by
  show (match TokenManager.invalidateKey kid w.manager with
    | .error exn _ => throw (.raised exn)
    | .ok _ manager => _ : EStateM ServerExn KeyWorld Unit) w = _
  cases TokenManager.invalidateKey kid w.manager with
  | error exn manager => rfl
  | ok _ manager => rfl

/-- After the files of a rotation the code fails on the list of valid keys. -/
theorem afterRotate_eq (faults : Faults RotatePoint) (request : RotateRequest)
    (rotation : Rotation) (w : KeyWorld) :
    afterRotate faults request rotation w = .error (.raised .typeError)
      { w with manager := updateKeydata request.pair.kid request.newKeyData true w.manager } :=
  rfl

/-- Only writing the JWKS file changes it. -/
theorem keeps_jwks_writeEcdsaPair (jwks : Option (List Jwk)) (faults : Faults RotatePoint)
    (pair : EcdsaPair) : Keeps (fun files => files.jwks = jwks) (writeEcdsaPair faults pair) := by
  intro files hkept
  unfold stateAfter writeEcdsaPair
  cases faults.raises .writePrivate with
  | true => exact hkept
  | false =>
      cases faults.raises .writePublic with
      | true => exact hkept
      | false => exact hkept

theorem keeps_jwks_unlink (jwks : Option (List Jwk)) (missingOk : Bool) (path : KeyPath) :
    Keeps (fun files => files.jwks = jwks) (unlink missingOk path) := by
  intro files hkept
  unfold stateAfter unlink
  cases path with
  | publicPem kid | privatePem kid =>
      dsimp only
      split_ifs
      · exact hkept
      · exact hkept
  | belowJwks name => exact hkept

/-- The file operations of a rotation leave the new key in the JWKS file, if writing it does
not fail. -/
theorem stateAfter_rotateFiles_jwks (limit : KeyLimit) {faults : Faults RotatePoint}
    (pair : EcdsaPair) (rotation : Rotation) {files : KeyFiles} {entries : List Jwk}
    (hjwks : files.jwks = some entries) (hwrite : faults.raises .updateJwks = false) :
    (stateAfter (rotateFiles limit faults pair rotation) files).jwks =
      some (push limit.capacity entries (jwkOf pair.kid pair.point)) := by
  have hupdate : updateJwksFile (faults.raises .updateJwks) faults.tornJwks
      (jwkOf pair.kid pair.point) limit.capacity files = .ok ()
        { files with jwks := some (push limit.capacity entries (jwkOf pair.kid pair.point)) } := by
    simp [updateJwksFile, hjwks, hwrite, writeJwks]
  rw [rotateFiles, stateAfter_bind_of_ok hupdate]
  refine Keeps.bind (keeps_jwks_writeEcdsaPair _ faults pair) (fun _ => ?_) _ rfl
  refine Keeps.bind (keeps_jwks_unlink _ _ _) fun _ => ?_
  cases rotation.expiredId with
  | none => exact Keeps.pure ()
  | some id => exact Keeps.bind (keeps_jwks_unlink _ _ _) fun _ => keeps_jwks_unlink _ _ _

/-- What a rotation leaves committed, and in the JWKS file. -/
theorem rotateKeysEndpoint_spec (limit : KeyLimit) (faults : Faults RotatePoint)
    (request : RotateRequest) (w : KeyWorld) :
    (stateAfter (rotateKeysEndpoint limit faults request) w).rows = w.rows ∨
      ∃ rotation, rotateTransaction limit faults.raises request w.rows = .ok rotation ∧
        (stateAfter (rotateKeysEndpoint limit faults request) w).rows = rotation.rows ∧
        (stateAfter (rotateKeysEndpoint limit faults request) w).files =
          stateAfter (rotateFiles limit faults request.pair rotation) w.files := by
  unfold stateAfter rotateKeysEndpoint
  simp only [Called.truthy, not_true_eq_false, if_false, Bool.true_and]
  cases request.staff with
  | true =>
      left
      cases faults.raises .report with
      | true => rfl
      | false => rfl
  | false =>
      simp only [Bool.false_eq_true, if_false]
      cases hrotation : rotateTransaction limit faults.raises request w.rows with
      | error exn => exact .inl rfl
      | ok rotation =>
          right
          refine ⟨rotation, rfl, ?_⟩
          dsimp only
          cases rotateFiles limit faults request.pair rotation w.files with
          | error exn files => exact ⟨rfl, rfl⟩
          | ok _ files =>
              dsimp only
              rw [afterRotate_eq]
              exact ⟨rfl, rfl⟩

/-- What an invalidation leaves committed, and in the JWKS file. -/
theorem invalidateKeyEndpoint_spec (session : SessionBehaviour)
    (faults : Faults InvalidatePoint) (kid : String) (now : Int) (w : KeyWorld) :
    (stateAfter (invalidateKeyEndpoint session faults kid now) w).rows = w.rows ∨
      ∃ originalJwks target, w.files.jwks = some originalJwks ∧
        selectKid kid w.rows = some target ∧ target.rotatedOutAt ≠ none ∧
        target.expiredAt = none ∧
        (stateAfter (invalidateKeyEndpoint session faults kid now) w).rows =
          setExpired [kid] now w.rows ∧
        (stateAfter (invalidateKeyEndpoint session faults kid now) w).files.jwks =
          some (originalJwks.filter (·.kid ≠ kid)) := by
  unfold stateAfter invalidateKeyEndpoint
  cases w.files.jwks with
  | none => exact .inl rfl
  | some originalJwks =>
      dsimp only
      cases htry : invalidateTry faults kid now originalJwks w.rows ⟨w.files, none⟩ with
      | ok rows s =>
          right
          obtain ⟨target, htarget, hrotated, hunexpired, rfl, hjwks⟩ := invalidateTry_eq_ok htry
          refine ⟨originalJwks, target, rfl, htarget, hrotated, hunexpired, ?_⟩
          dsimp only
          rw [afterInvalidate_eq]
          dsimp only
          cases TokenManager.invalidateKey kid w.manager with
          | error exn manager => exact ⟨rfl, hjwks⟩
          | ok _ manager => exact ⟨rfl, hjwks⟩
      | error exn s =>
          left
          dsimp only
          cases exn.isOperationError with
          | true =>
              simp only [if_true]
              cases invalidateHandler session kid originalJwks s with
              | mk result files =>
                  cases result with
                  | ok _ => rfl
                  | error exn => rfl
          | false => rfl

/-- What a cleanup leaves committed, and in the JWKS file. -/
theorem cleanKeystoreEndpoint_spec (ecdsa : Ecdsa) (faults : Faults CleanPoint) (now : Int)
    (pipelineFails : Bool) (w : KeyWorld) :
    (stateAfter (cleanKeystoreEndpoint ecdsa faults now pipelineFails) w).rows = w.rows ∨
      ∃ oldJwks active point, w.files.jwks = some oldJwks ∧ oldJwks.length ≠ 1 ∧
        (stateAfter (cleanKeystoreEndpoint ecdsa faults now pipelineFails) w).rows =
          setExpired (kids (keyData (selectRotated w.rows))) now w.rows ∧
        selectActive (setExpired (kids (keyData (selectRotated w.rows))) now w.rows) =
          [active] ∧
        (stateAfter (cleanKeystoreEndpoint ecdsa faults now pipelineFails) w).files.jwks =
          some [jwkOf active.kid point] := by
  unfold stateAfter cleanKeystoreEndpoint
  cases w.files.jwks with
  | none => exact .inl rfl
  | some oldJwks =>
      dsimp only
      by_cases hsingle : oldJwks.length = 1
      · left
        simp only [hsingle, if_true]
      simp only [hsingle, if_false]
      cases readPems w.files oldJwks with
      | none => exact .inl rfl
      | some pemMappings =>
          dsimp only
          cases htry : cleanTry ecdsa faults now w.rows w.files with
          | error exn files => exact .inl rfl
          | ok result files =>
              right
              obtain ⟨rows, active⟩ := result
              obtain ⟨rfl, hactive, point, hjwks⟩ := cleanTry_eq_ok htry
              refine ⟨oldJwks, active, point, rfl, hsingle, ?_⟩
              cases pipelineFails with
              | true => exact ⟨rfl, hactive, hjwks⟩
              | false => exact ⟨rfl, hactive, hjwks⟩

/-- Every request keeps the lifecycle. -/
theorem keyLifecycle_step {server : KeyServer} {w w' : KeyWorld} {request : KeyRequest}
    (hlife : KeyLifecycle server.limit w.rows)
    (hstep : keyRequestStep server w request = some w') :
    KeyLifecycle server.limit w'.rows := by
  simp only [keyRequestStep, Option.some.injEq] at hstep
  subst hstep
  cases request with
  | rotate request faults =>
      rcases rotateKeysEndpoint_spec server.limit faults request w with
        hsame | ⟨rotation, hrotation, hrows, _⟩
      · exact hsame.symm ▸ hlife
      · exact hrows.symm ▸ hlife.rotate hrotation
  | invalidate kid now faults =>
      rcases invalidateKeyEndpoint_spec server.session faults kid now w with
        hsame | ⟨_, target, _, htarget, hrotated, _, hrows, _⟩
      · exact hsame.symm ▸ hlife
      · exact hrows.symm ▸
          hlife.expire now (rotated_of_selectKid hlife.kids_nodup htarget hrotated)
  | clean now faults pipelineFails =>
      rcases cleanKeystoreEndpoint_spec server.ecdsa faults now pipelineFails w with
        hsame | ⟨_, _, _, _, _, hrows, _⟩
      · exact hsame.symm ▸ hlife
      · exact hrows.symm ▸ hlife.expire now (rotated_of_selectRotated hlife.kids_nodup)

/-- A key table to start from: one key is not rotated out, it is unexpired, and no more
keys are unexpired than the limit. -/
structure LiveTable (limit : KeyLimit) where
  rows : List KeyRow
  kids_nodup : (kids (keyData rows)).Nodup
  active : KeyRow
  only_active : selectActive rows = [active]
  active_unexpired : active.expiredAt = none
  within_limit : countUnexpired rows ≤ limit.capacity

/-- In such a table the lifecycle holds. -/
theorem LiveTable.keyLifecycle {limit : KeyLimit} (table : LiveTable limit) :
    KeyLifecycle limit table.rows where
  kids_nodup := table.kids_nodup
  one_active := ⟨table.active, table.only_active, table.active_unexpired⟩
  expired_rotated := by
    intro row hrow hexpired hactive
    have hmem : row ∈ selectActive table.rows := List.mem_filter.mpr ⟨hrow, by simp [hactive]⟩
    rw [table.only_active, List.mem_singleton] at hmem
    rw [hmem] at hexpired
    exact hexpired table.active_unexpired
  within_limit := table.within_limit

/-- From any live table, in every run of requests the table keeps its lifecycle: one key is
not rotated out and it is unexpired, every expired key has been rotated out, and no more
keys are unexpired than the limit. -/
theorem always_keyLifecycle (server : KeyServer) (table : LiveTable server.limit)
    (w : KeyWorld) (requests : List KeyRequest) :
    Always (keyRequestStep server) (fun w => KeyLifecycle server.limit w.rows)
      { w with rows := table.rows } requests :=
  always_of_preserved (fun _ _ _ hlife hstep => keyLifecycle_step hlife hstep) requests _
    table.keyLifecycle

/-- A server with the limit of the application. -/
def liveServer : KeyServer := ⟨deployedLimit, ⟨true⟩, ⟨fun pem => some (pem, pem)⟩⟩

/-- The active key of the table. -/
def liveKey : KeyRow where
  kid := "3"
  epoch := 20
  rotatedOutAt := none
  expiredAt := none
  alg := "ES256"
  curve := "SECP256k1"
  privatePem := "s3"
  publicPem := "p3"

/-- A key that has expired, one that is rotated out, and the active one. -/
def liveKeys : LiveTable liveServer.limit where
  rows :=
    [{ liveKey with kid := "1", epoch := 0, rotatedOutAt := some 10, expiredAt := some 15 },
      { liveKey with kid := "2", epoch := 10, rotatedOutAt := some 20 }, liveKey]
  kids_nodup := by decide
  active := liveKey
  only_active := by decide
  active_unexpired := rfl
  within_limit := by decide

/-- The files, the manager and the store with these keys. -/
def liveWorld : KeyWorld where
  rows := liveKeys.rows
  files := ⟨some [jwkOf "2" ("x2", "y2"), jwkOf "3" ("x3", "y3")], fun _ => some "p",
    fun _ => some "s"⟩
  manager := setKeyState "3" ⟨"p3", "s3", "ES256", 20, none⟩
    (some (Finmap.singleton "2" ⟨"p3", "s3", "ES256", 10, some 20⟩))
  validKeys := ["3", "2"]
  rotationLock := false
  rotationCooldown := false

/-- The key that is rotated out is invalidated, and then the table is cleaned. -/
theorem keyLifecycle_liveKeys :
    Always (keyRequestStep liveServer) (fun w => KeyLifecycle liveServer.limit w.rows) liveWorld
      [.invalidate "2" 30 ⟨fun _ => false, none, none⟩,
        .clean 40 ⟨fun _ => false, none, none⟩ false] :=
  always_keyLifecycle liveServer liveKeys liveWorld _

end AuthServer
end Tenjin
