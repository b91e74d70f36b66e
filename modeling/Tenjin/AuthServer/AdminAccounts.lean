import Tenjin.AuthServer.KeyTable
import Tenjin.Auxillary.Base64Url
import Tenjin.Foundation.Effects
import Tenjin.Foundation.GuardedRun

/-!
# Admin accounts, their sessions and their suspicious activities

`report_suspicious_activity` and `create_admin_session` of `auth_auxillary.py`,
`admin_login`, `admin_logout` and `admin_refresh` of `admin.py`, and `get_admin_session` and
`validate_admin_session` of `dependencies.py`.

* A session commits what it has done, or the request ends and everything is rolled back.
* The synced store is an asynchronous client.  `admin.py` awaits none of its calls, so
  they are coroutines; `dependencies.py` and the report await theirs.
* The key library, the serialiser and the password check are third-party packages and
  parameters.
-/

namespace Tenjin
namespace AuthServer

open Foundation
open Python
open Auxillary

/-- The values of a session dictionary.  Times are counted in microseconds. -/
inductive SessionValue
  | int (i : Int)
  | float (time : Int)
  | str (s : String)
  deriving DecidableEq

/-- A session dictionary, or a hash of the store. -/
abbrev SessionItems := List (String × SessionValue)

/-- A row of `admins`. -/
structure Admin where
  id_ : Int
  username : String
  role : String
  passwordHash : String
  timeDeleted : Option Int
  lastLogin : Int
  locked : Bool
  signingKey : String
  verificationKey : String
  deriving DecidableEq

/-- A row of `suspicious_activities`. -/
structure SuspiciousActivity where
  suspect : Int
  timeLogged : Int
  description : String
  deriving DecidableEq

/-- The committed tables, and the hashes of the store under `admin:` and an id. -/
structure AdminState where
  admins : List Admin
  ids_nodup : (admins.map Admin.id_).Nodup
  activities : List SuspiciousActivity
  sessions : Int → Option SessionItems

/-- The settings of `AdminConfigModel`. -/
structure AdminConfig where
  suspiciousLookbackTime : ℕ
  maxActivityLimit : ℕ
  maxSessionIterations : Int
  adminSessionDuration : Int
  lookback_pos : 1 ≤ suspiciousLookbackTime
  iterations_pos : 1 ≤ maxSessionIterations
  duration_nonneg : 0 ≤ adminSessionDuration

/-- `timedelta(seconds=...)`. -/
def microseconds (seconds : ℕ) : Int := 1000000 * (seconds : Int)

/-- The activities of an admin in the lookback window. -/
def activityCount (config : AdminConfig) (activities : List SuspiciousActivity)
    (adminID now : Int) : ℕ :=
  (activities.filter fun activity => activity.suspect = adminID ∧
    now - microseconds config.suspiciousLookbackTime ≤ activity.timeLogged ∧
    activity.timeLogged ≤ now).length

/-- `update(Admin).values(locked=True)`, which has no condition. -/
def lockAdmins (admins : List Admin) : List Admin :=
  admins.map fun admin => { admin with locked := true }

theorem lockAdmins_ids (admins : List Admin) :
    (lockAdmins admins).map Admin.id_ = admins.map Admin.id_ := by
  unfold lockAdmins
  rw [List.map_map]
  rfl

theorem AdminState.locked_ids_nodup (s : AdminState) :
    ((lockAdmins s.admins).map Admin.id_).Nodup := by
  rw [lockAdmins_ids]
  exact s.ids_nodup

/-- The operations of a report. -/
inductive ReportPoint
  | insert
  | count
  | update
  | delete
  | commit
  deriving DecidableEq

/-- A report: the clocks of the database and of the server, and the points that raise. -/
structure ReportRun where
  timeLogged : Int
  now : Int
  raises : ReportPoint → Bool

/-- `report_suspicious_activity`.  The suspect is a foreign key, and a description has at
most 64 characters. -/
def reportSuspiciousActivity (config : AdminConfig) (run : ReportRun) (adminID : Int)
    (desc : String) (forceLogout : Bool) : EStateM ServerExn AdminState Unit := fun s =>
  if run.raises .insert || adminID ∉ s.admins.map Admin.id_ || 64 < desc.length then
    .error .sqlAlchemyError s
  else
    let activities := s.activities ++ [⟨adminID, run.timeLogged, desc⟩]
    if forceLogout && run.raises .count then .error .sqlAlchemyError s
    else if forceLogout && config.maxActivityLimit ≤ activityCount config activities adminID run.now
    then
      if run.raises .update then .error .sqlAlchemyError s
      else if run.raises .delete then .error (.raised (.redisError true)) s
      else
        let loggedOut := { s with sessions := Function.update s.sessions adminID none }
        if run.raises .commit then .error .sqlAlchemyError loggedOut
        else .ok () { loggedOut with
          admins := lockAdmins s.admins
          ids_nodup := s.locked_ids_nodup
          activities := activities }
    else if run.raises .commit then .error .sqlAlchemyError s
    else .ok () { s with activities := activities }

/-- The number of a random UUID: its version digit is four. -/
structure Uuid4 where
  value : ℕ
  version : value / 2 ^ 76 % 16 = 4

/-- `create_admin_session`. -/
def createAdminSession (adminId sessionLength : Int) (role : String) (sessionIteration : Int)
    (epochTimestamp : Int) (sessionId : Uuid4) (revivalDigest : String) : SessionItems :=
  [("admin_id", .int adminId), ("session_id", .int sessionId.value),
    ("revival_digest", .str revivalDigest), ("epoch_timestamp", .float epochTimestamp),
    ("expiry_timestamp", .float (epochTimestamp + sessionLength)),
    ("session_iteration", .int sessionIteration), ("role", .str role)]

/-- The third-party packages: the password check, `orjson`, the conversions of pydantic, and
the signatures.  `verify` is called with the key in place of the signature and the signature
text in place of the data. -/
structure AdminLibraries where
  checkPassword : String → String → Bool
  dumps : SessionItems → Except Exn (List ℕ)
  loads : List ℕ → Except ServerExn SessionItems
  sign : String → String → Except Exn String
  toInt : SessionValue → Option Int
  toFloat : SessionValue → Option Int
  verify : String → String → Except Exn Bool
  /-- `orjson` serialises integers of 64 bits. -/
  dumps_rejects : ∀ (items : SessionItems) (key : String) (i : Int),
    (key, SessionValue.int i) ∈ items → 2 ^ 64 ≤ i → dumps items = .error .typeError

/-- The items hold an integer that has no 64 bits. -/
def tooLarge (items : SessionItems) : Bool :=
  items.any fun item => match item.2 with
    | .int i => 2 ^ 64 ≤ i
    | _ => false

/-- Libraries for runs on fixed inputs: they serialise and read empty sessions only. -/
def sampleLibraries : AdminLibraries where
  checkPassword password passwordHash := passwordHash = "$2b$" ++ password
  dumps items := if tooLarge items then .error .typeError else .ok [123, 125]
  loads data := if data = [123, 125] then .ok [] else .error .jsonDecodeError
  sign key data := .ok (key ++ data)
  toInt
    | .int i => some i
    | _ => none
  toFloat
    | .float time => some time
    | _ => none
  verify _ _ := .error .typeError
  dumps_rejects items key i hmem hlarge := by
    have hany : tooLarge items = true :=
      List.any_eq_true.mpr ⟨(key, .int i), hmem, decide_eq_true hlarge⟩
    rw [if_pos hany]

/-- Sessions of an hour. -/
def hourConfig : AdminConfig where
  suspiciousLookbackTime := 3600
  maxActivityLimit := 5
  maxSessionIterations := 3
  adminSessionDuration := 3600000000
  lookback_pos := by decide
  iterations_pos := by decide
  duration_nonneg := by decide

/-- The UUID with all other digits zero. -/
def sampleUuid : Uuid4 := ⟨2 ^ 78, by decide⟩

/-- `session_mapping.pop("revival_digest")`. -/
def withoutDigest (session : SessionItems) : SessionItems :=
  session.filter fun item => item.1 ≠ "revival_digest"

/-- The session token of a new session: encoded, signed and joined with its signature. -/
def signedToken (lib : AdminLibraries) (session : SessionItems) (signingKey : String) :
    Except Exn String := do
  let dumped ← lib.dumps (withoutDigest session)
  let encoded := String.ofList (b64Encode ['='] dumped)
  let signature ← lib.sign signingKey encoded
  .ok (pyJoin "." [encoded, signature])

/-- What is drawn for a login. -/
structure LoginDraw where
  now : Int
  sessionId : Uuid4
  revivalDigest : String

/-- The content of a `JSONResponse`: a bytes object is not serialisable. -/
def jsonResponse (content : List (String × PyValue)) : Except Exn (List (String × PyValue)) :=
  if content.any fun item => match item.2 with
    | .bytes _ => true
    | _ => false
  then .error .typeError else .ok content

/-- The end of `admin_login`: the new session, and the response with its token. -/
def loginSession (lib : AdminLibraries) (config : AdminConfig) (admin : Admin)
    (draw : LoginDraw) : Except Exn (List (String × PyValue)) := do
  let session := createAdminSession admin.id_ config.adminSessionDuration admin.role 1 draw.now
    draw.sessionId draw.revivalDigest
  let token ← signedToken lib session admin.signingKey
  jsonResponse [("session_token", .bytes token), ("revival_digest", .str draw.revivalDigest)]

/-- `raise HTTPException(...)`. -/
def refuse {α : Type} (status : ℕ) (detail : String) : EStateM ServerExn AdminState α :=
  throw (.raised (.httpException status detail))

/-- The admin of a user name, if the account has not been deleted. -/
def selectAdmin (admins : List Admin) (identity : String) : Option Admin :=
  admins.find? fun admin => admin.username = identity ∧ admin.timeDeleted = none

/-- `admin_login`.  The update of the last login has no condition and is never
committed. -/
def adminLogin (lib : AdminLibraries) (config : AdminConfig) (run : ReportRun)
    (draw : LoginDraw) (identity password : String) :
    EStateM ServerExn AdminState (List (String × PyValue)) := do
  let s ← get
  match selectAdmin s.admins identity with
  | none => refuse 404 "No admin with these credentials found"
  | some admin =>
      if admin.locked then
        reportSuspiciousActivity config run admin.id_ "Attempt to log into a locked account"
          false
        refuse 403 "This account is currently locked on grounds of suspicious activities"
      else if ¬ lib.checkPassword password admin.passwordHash then
        reportSuspiciousActivity config run admin.id_ "Incorrect password" false
        refuse 401 "Incorrect passwword"
      else
        let adminSession : Called SessionItems := .coroutine
        if adminSession.truthy (· ≠ []) then
          reportSuspiciousActivity config run admin.id_ "Session already active" false
          refuse 409 "An admin session with these credentials is already active"
        else
          match loginSession lib config admin draw with
          | .error exn => throw (.raised exn)
          | .ok response => pure response

/-- `admin_logout`: the deletion is a coroutine. -/
def adminLogout (_id : Int) : EStateM ServerExn AdminState Unit := pure ()

/-- The instances of `AdminSession`. -/
structure AdminSession where
  id_ : Int
  adminId : Int
  expiryAt : Int
  epoch : Int
  role : String
  iteration : Int
  deriving DecidableEq

/-- A required or optional field: its value, or the name of the field that fails. -/
def validateField {α : Type} (items : SessionItems) (name : String) (fallback : Option α)
    (convert : SessionValue → Option α) : Except String α :=
  match items.lookup name with
  | some value =>
      match convert value with
      | some a => .ok a
      | none => .error name
  | none =>
      match fallback with
      | some a => .ok a
      | none => .error name

/-- A conversion with a lower bound. -/
def atLeastOne (convert : SessionValue → Option Int) (one : Int) (value : SessionValue) :
    Option Int :=
  (convert value).filter fun i => one ≤ i

/-- `AdminRole`. -/
def adminRole (value : SessionValue) : Option String :=
  match value with
  | .str role => if role = "super" ∨ role = "staff" then some role else none
  | _ => none

/-- The field of a check that has failed. -/
def failedField {α : Type} : Except String α → List String
  | .error name => [name]
  | .ok _ => []

/-- `AdminSession.model_validate`: the session, or the locations of the errors, of which
the one of the model itself is empty.  A lower bound of one second is a million
microseconds. -/
def adminSessionValidate (lib : AdminLibraries) (freshId : Uuid4) (items : SessionItems) :
    Except (List (List String)) AdminSession :=
  let id_ := validateField items "id_" (some (freshId.value : Int)) (atLeastOne lib.toInt 1)
  let adminId := validateField items "admin_id" none (atLeastOne lib.toInt 1)
  let expiryAt := validateField items "expiry_at" none (atLeastOne lib.toFloat 1000000)
  let epoch := validateField items "epoch" none (atLeastOne lib.toFloat 1000000)
  let role := validateField items "role" (some "staff") adminRole
  let iteration := validateField items "iteration" (some 1) lib.toInt
  match id_, adminId, expiryAt, epoch, role, iteration with
  | .ok id_, .ok adminId, .ok expiryAt, .ok epoch, .ok role, .ok iteration =>
      if expiryAt ≤ epoch then .error [[]]
      else .ok ⟨id_, adminId, expiryAt, epoch, role, iteration⟩
  | _, _, _, _, _, _ =>
      .error ((failedField id_ ++ failedField adminId ++ failedField expiryAt ++
        failedField epoch ++ failedField role ++ failedField iteration).map fun name => [name])

/-- The text of a list of field names. -/
def fieldNames (names : List String) : String :=
  "[" ++ pyJoin ", " (names.map fun name => "'" ++ name ++ "'") ++ "]"

/-- `get_admin_session`.  An error of the model has no location to take the first of. -/
def getAdminSession (lib : AdminLibraries) (freshId : Uuid4) (header : Option String) :
    Except ServerExn (String × AdminSession) :=
  match header with
  | none => .error (.raised (.httpException 401 "Missing session token: X-SESSION-TOKEN"))
  | some sessionToken =>
      if sessionToken = "" then
        .error (.raised (.httpException 401 "Missing session token: X-SESSION-TOKEN"))
      else
        match urlsafeB64Decode sessionToken.toList with
        | .error exn => .error (.raised exn)
        | .ok data =>
            match lib.loads data with
            | .error .jsonDecodeError =>
                .error (.raised (.httpException 401 "Malformed session token, not valid JSON"))
            | .error exn => .error exn
            | .ok items =>
                match adminSessionValidate lib freshId items with
                | .ok session => .ok (sessionToken, session)
                | .error locations =>
                    if locations.any List.isEmpty then .error (.raised .indexError)
                    else .error (.raised (.httpException 401
                      ("Invalid session fields: " ++ fieldNames locations.flatten)))

/-- `get_verification_key`: the key that the store answers with, or else the column. -/
def getVerificationKey (cachedKey : Option String) (adminId : Int) :
    EStateM ServerExn AdminState String := do
  match cachedKey.filter (· ≠ "") with
  | some key => pure key
  | none =>
      let s ← get
      match s.admins.find? fun admin => admin.id_ = adminId with
      | some admin => pure admin.verificationKey
      | none => refuse 500 "Internal Server Error"

/-- `validate_admin_session` for a decoded token, at a time of the server. -/
def validateAdminSession (lib : AdminLibraries) (config : AdminConfig) (run : ReportRun)
    (now : Int) (verificationKey sessionToken : String) (session : AdminSession) :
    EStateM ServerExn AdminState AdminSession :=
  match (pySplit '.' sessionToken)[1]? with
  | none => throw (.raised .indexError)
  | some signature =>
      match lib.verify verificationKey signature with
      | .error exn => throw (.raised exn)
      | .ok false => do
          reportSuspiciousActivity config run session.adminId "Tampered/invalid session" true
          refuse 401 "Tampered/invalid session"
      | .ok true => do
          if session.expiryAt ≤ now then
            modify fun s => { s with sessions := Function.update s.sessions session.adminId none }
            refuse 401 "Session expired"
          else
            let s ← get
            match s.sessions session.adminId with
            | none =>
                reportSuspiciousActivity config run session.adminId
                  "Missing server-side session" false
                refuse 401 "Missing server-side session"
            | some serverSession =>
                match serverSession.lookup "role" with
                | none => throw (.raised (.keyError "role"))
                | some role =>
                    match adminRole role with
                    | none => throw (.raised .valueError)
                    | some _ => pure session

/-- `admin_refresh` after the validation: the digest of the store is a coroutine, and what
would follow names a variable that the function does not have. -/
def adminRefresh (config : AdminConfig) (run : ReportRun) (refreshId : Int)
    (refreshDigest : String) (session : AdminSession) : EStateM ServerExn AdminState Unit :=
  if config.maxSessionIterations ≤ session.iteration then
    refuse 409 (pyJoin " " ["Maximum session reiterations reached,", "please reauthenticate to be",
      "assigned a fresh session"])
  else
    let actualDigest : Called String := .coroutine
    if ¬ actualDigest.truthy (· ≠ "") then
      refuse 500 "An error occured in verifying revival digests. Please reuthenticate"
    else if actualDigest = .reply "__NONE__" then
      refuse 409 "Maximum session reiterations reached"
    else
      match actualDigest.attribute with
      | .error exn => throw (.raised exn)
      | .ok digest => do
          if digest ≠ refreshDigest then
            reportSuspiciousActivity config run refreshId "Invalid session revival digest" true
            refuse 403 "Invalid revival digest provided"
          else throw (.raised .nameError)

end AuthServer
end Tenjin
