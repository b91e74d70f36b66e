import Tenjin.AuthServer.AdminActions
import Tenjin.AuthServer.AdminSessions

/-!
# The admin endpoints over whole runs

`admin_lock`, `admin_unlock`, `admin_delete` and `create_admin` of `admin.py` and
`require_permissions` of `dependencies.py`, beside the requests of `AdminActions`.

* Locking and unlocking ask for no session.  Locking also calls for the deletion of the
  session of the admin, a coroutine that nobody awaits.
* No login comes to a session, so in a run from an empty store no request that needs one
  is ever answered: no admin is created or deleted, and no endpoint of the keys is reached.
* What is left are the flags of the accounts.  `lockCommand` is what a request does to them;
  after a run each flag is what the last command on its account has set (`adminApi_of_run`).
-/

namespace Tenjin
namespace AuthServer

open Foundation
open Python

/-- `Permission`. -/
inductive Permission
  | readKey
  | rotateKey
  | invalidateKey
  | cleanKeystore
  | deleteAdmin
  | lockAdmin
  | unlockAdmin
  | createAdmin
  deriving DecidableEq

/-- The values of `Permission`. -/
def Permission.value : Permission → String
  | .readKey => "read_key"
  | .rotateKey => "rotate_key"
  | .invalidateKey => "invalidate_key"
  | .cleanKeystore => "clean_keystore"
  | .deleteAdmin => "delete_admin"
  | .lockAdmin => "lock_admin"
  | .unlockAdmin => "unlock_admin"
  | .createAdmin => "create_admin"

/-- `ROLE_PERMISSIONS`: a super admin has all of them. -/
def HasPermission (role : String) (permission : Permission) : Prop :=
  role = "super" ∨ (role = "staff" ∧ (permission = .readKey ∨ permission = .rotateKey))

instance (role : String) (permission : Permission) : Decidable (HasPermission role permission) :=
  inferInstanceAs (Decidable (_ ∨ _))

/-- The exceptions of the endpoints; `plain` is an `Exception` without a class of its own. -/
inductive EndpointExn
  | plain
  | server (exn : ServerExn)
  deriving DecidableEq

/-- `raise HTTPException(...)` of an endpoint. -/
def EndpointExn.http (status : ℕ) (detail : String) : EndpointExn :=
  .server (.raised (.httpException status detail))

/-- A dependency of an endpoint. -/
def dependency {α : Type} (x : EStateM ServerExn AdminState α) :
    EStateM EndpointExn AdminState α := fun s =>
  match x s with
  | .ok a t => .ok a t
  | .error exn t => .error (.server exn) t

/-- `require_permissions` with one permission, as every endpoint calls it. -/
def requirePermissions (lib : AdminLibraries) (config : AdminConfig) (met : Circumstances)
    (required : Permission) (header : Option String) :
    EStateM ServerExn AdminState AdminSession := do
  let session ← authenticate lib config met header
  if HasPermission session.role required then pure session
  else refuse 403 ("Missing permissions for: " ++ required.value)

/-- The points of an endpoint that may raise: its query, its statement and its commit. -/
inductive AdminPoint
  | select
  | statement
  | commit
  deriving DecidableEq

/-- `UPDATE admins SET locked = ... WHERE id_ = ...`. -/
def setLocked (id_ : Int) (locked : Bool) (admins : List Admin) : List Admin :=
  admins.map fun admin => if admin.id_ = id_ then { admin with locked := locked } else admin

/-- `UPDATE admins SET time_deleted = ... WHERE id_ = ...`. -/
def setDeleted (id_ now : Int) (admins : List Admin) : List Admin :=
  admins.map fun admin => if admin.id_ = id_ then { admin with timeDeleted := some now } else admin

/-- An update that does not write the ids keeps them. -/
theorem ids_nodup_map (s : AdminState) {update : Admin → Admin}
    (hids : ∀ admin, (update admin).id_ = admin.id_) :
    ((s.admins.map update).map Admin.id_).Nodup := by
  have hsame : (s.admins.map update).map Admin.id_ = s.admins.map Admin.id_ := by
    rw [List.map_map]
    exact List.map_congr_left fun admin _ => hids admin
  rw [hsame]
  exact s.ids_nodup

theorem ids_nodup_setLocked (s : AdminState) (id_ : Int) (locked : Bool) :
    ((setLocked id_ locked s.admins).map Admin.id_).Nodup := by
  refine ids_nodup_map s fun admin => ?_
  split <;> rfl

theorem ids_nodup_setDeleted (s : AdminState) (id_ now : Int) :
    ((setDeleted id_ now s.admins).map Admin.id_).Nodup := by
  refine ids_nodup_map s fun admin => ?_
  split <;> rfl

theorem ids_nodup_append (s : AdminState) {drawn : Admin}
    (hfresh : drawn.id_ ∉ s.admins.map Admin.id_) :
    ((s.admins ++ [drawn]).map Admin.id_).Nodup := by
  rw [List.map_append, List.map_singleton]
  refine List.nodup_append.mpr ⟨s.ids_nodup, List.nodup_singleton _, ?_⟩
  intro id_ hid other hother hsame
  rw [List.mem_singleton] at hother
  rw [hsame, hother] at hid
  exact hfresh hid

/-- The body that `admin_lock` and `admin_unlock` share: the account must have the other
flag. -/
def changeLock (locked : Bool) (conflict : String) (raises : AdminPoint → Bool) (id_ : Int) :
    EStateM EndpointExn AdminState Unit := fun s =>
  if raises .select then .error .plain s
  else
    match s.admins.find? fun admin => admin.id_ = id_ with
    | none => .error (.http 404 s!"No admin with id {id_} could be found") s
    | some admin =>
        if admin.locked = locked then .error (.http 409 conflict) s
        else if raises .statement || raises .commit then .error .plain s
        else .ok () { s with
          admins := setLocked id_ locked s.admins
          ids_nodup := ids_nodup_setLocked s id_ locked }

/-- `admin_lock`.  The deletion of the session is a coroutine. -/
def adminLock (raises : AdminPoint → Bool) (id_ : Int) : EStateM EndpointExn AdminState Unit :=
  changeLock true "Admin account is already locked" raises id_

/-- `admin_unlock`. -/
def adminUnlock (raises : AdminPoint → Bool) (id_ : Int) : EStateM EndpointExn AdminState Unit :=
  changeLock false "Admin account is already unlocked" raises id_

/-- The body of `admin_delete`. -/
def deleteRow (raises : AdminPoint → Bool) (now id_ : Int) :
    EStateM EndpointExn AdminState Unit := fun s =>
  if raises .select then .error .plain s
  else
    match s.admins.find? fun admin => admin.id_ = id_ ∧ admin.timeDeleted = none with
    | none => .error (.http 404 s!"No admin with ID {id_} found") s
    | some _ =>
        if raises .statement || raises .commit then
          .error (.http 500 "Failed to delete admin account") s
        else .ok () { s with
          admins := setDeleted id_ now s.admins
          ids_nodup := ids_nodup_setDeleted s id_ now }

/-- `admin_delete`. -/
def adminDelete (lib : AdminLibraries) (config : AdminConfig) (met : Circumstances)
    (header : Option String) (raises : AdminPoint → Bool) (id_ : Int) :
    EStateM EndpointExn AdminState Unit := do
  let _ ← dependency (requirePermissions lib config met .deleteAdmin header)
  deleteRow raises met.now id_

/-- The account of a `create_admin`: its id, its hashed password and its keys are drawn. -/
structure NewAdmin where
  id_ : Int
  identity : String
  passwordHash : String
  signingKey : String
  verificationKey : String

/-- The body of `create_admin`. -/
def insertRow (raises : AdminPoint → Bool) (now : Int) (drawn : NewAdmin) :
    EStateM EndpointExn AdminState Unit := fun s =>
  if raises .select then .error .plain s
  else
    match s.admins.find? fun admin => admin.username = drawn.identity with
    | some _ => .error (.http 409 "An admin with this suername already exists") s
    | none =>
        if hfresh : drawn.id_ ∉ s.admins.map Admin.id_ ∧
            raises .statement = false ∧ raises .commit = false then
          let inserted : Admin :=
            ⟨drawn.id_, drawn.identity, "staff", drawn.passwordHash, none, now, false,
              drawn.signingKey, drawn.verificationKey⟩
          .ok () { s with
            admins := s.admins ++ [inserted]
            ids_nodup := ids_nodup_append s hfresh.1 }
        else .error (.http 500
          "Failed to create a new admin, this is not from an erroneous input") s

/-- `create_admin`. -/
def createAdmin (lib : AdminLibraries) (config : AdminConfig) (met : Circumstances)
    (header : Option String) (raises : AdminPoint → Bool) (drawn : NewAdmin) :
    EStateM EndpointExn AdminState Unit := do
  let _ ← dependency (requirePermissions lib config met .createAdmin header)
  insertRow raises met.now drawn

/-- The requests. -/
inductive ApiRequest
  | login (draw : LoginDraw) (identity password : String)
  | logout (id_ : Int)
  | refresh (header : Option String) (refreshId : Int) (refreshDigest : String)
  | lock (raises : AdminPoint → Bool) (id_ : Int)
  | unlock (raises : AdminPoint → Bool) (id_ : Int)
  | delete (header : Option String) (raises : AdminPoint → Bool) (id_ : Int)
  | create (header : Option String) (raises : AdminPoint → Bool) (drawn : NewAdmin)
  /-- An endpoint of the keys, up to its body. -/
  | keys (header : Option String) (required : Permission)

/-- A request and what it meets. -/
abbrev ApiLabel := Circumstances × ApiRequest

/-- One request, up to its response. -/
def handleApiRequest (lib : AdminLibraries) (config : AdminConfig) (met : Circumstances) :
    ApiRequest → EStateM EndpointExn AdminState Unit
  | .login draw identity password =>
      dependency (handleAdminRequest lib config met (.login draw identity password))
  | .logout id_ => dependency (handleAdminRequest lib config met (.logout id_))
  | .refresh header refreshId refreshDigest =>
      dependency (handleAdminRequest lib config met (.refresh header refreshId refreshDigest))
  | .lock raises id_ => adminLock raises id_
  | .unlock raises id_ => adminUnlock raises id_
  | .delete header raises id_ => adminDelete lib config met header raises id_
  | .create header raises drawn => createAdmin lib config met header raises drawn
  | .keys header required => do
      let _ ← dependency (requirePermissions lib config met required header)
      pure ()

/-- A request is answered, or it raises and is answered with an error. -/
def apiStep (lib : AdminLibraries) (config : AdminConfig) (s : AdminState) (label : ApiLabel) :
    Option AdminState :=
  some (stateAfter (handleApiRequest lib config label.1 label.2) s)

/-- The request is answered with what it asks for. -/
def Responds (lib : AdminLibraries) (config : AdminConfig) (s : AdminState) (label : ApiLabel) :
    Prop :=
  ∃ s', handleApiRequest lib config label.1 label.2 s = .ok () s'

/-- The requests that ask for no session and no password. -/
def ApiRequest.Unguarded : ApiRequest → Prop
  | .lock .. | .unlock .. | .logout _ => True
  | _ => False

/-- What is done to the flags of the accounts: all of them, or one. -/
inductive LockCommand
  | all
  | one (id_ : Int) (locked : Bool)

/-- The flag that a command sets for an account. -/
def LockCommand.flagFor (id_ : Int) : LockCommand → Option Bool
  | .all => some true
  | .one other locked => if other = id_ then some locked else none

/-- A request to lock or unlock goes through: the account exists and has the other flag. -/
def ChangesLock (raises : AdminPoint → Bool) (s : AdminState) (id_ : Int) (locked : Bool) :
    Prop :=
  (raises .select = false ∧ raises .statement = false ∧ raises .commit = false) ∧
    ∃ admin ∈ s.admins.find? fun admin => admin.id_ = id_, admin.locked ≠ locked

instance (raises : AdminPoint → Bool) (s : AdminState) (id_ : Int) (locked : Bool) :
    Decidable (ChangesLock raises s id_ locked) :=
  inferInstanceAs (Decidable (_ ∧ _))

instance (config : AdminConfig) (run : ReportRun) (s : AdminState) (adminID : Int)
    (desc : String) : Decidable (LocksAccounts config run s adminID desc) :=
  decidable_of_iff (adminID ∈ s.admins.map Admin.id_ ∧ desc.length ≤ 64 ∧
    (run.raises .insert = false ∧ run.raises .count = false ∧ run.raises .update = false ∧
      run.raises .delete = false ∧ run.raises .commit = false) ∧
    config.maxActivityLimit ≤
      activityCount config (s.activities ++ [⟨adminID, run.timeLogged, desc⟩]) adminID
        run.now) <| by
    unfold LocksAccounts
    refine and_congr_right fun _ => and_congr_right fun _ => and_congr_left fun _ => ?_
    constructor
    · rintro ⟨hinsert, hcount, hupdate, hdelete, hcommit⟩ point
      cases point <;> assumption
    · intro h
      exact ⟨h _, h _, h _, h _, h _⟩

/-- What a token does to the flags: one whose signature does not verify is reported, and the
report may reach the limit. -/
def tokenCommand (lib : AdminLibraries) (config : AdminConfig) (met : Circumstances)
    (s : AdminState) (header : Option String) : Option LockCommand :=
  match tamperedReport lib met s header with
  | none => none
  | some (adminID, desc) =>
      if LocksAccounts config met.run s adminID desc then some .all else none

/-- What a request does to the flags. -/
def lockCommand (lib : AdminLibraries) (config : AdminConfig) (s : AdminState)
    (label : ApiLabel) : Option LockCommand :=
  match label.2 with
  | .login .. | .logout _ => none
  | .lock raises id_ => if ChangesLock raises s id_ true then some (.one id_ true) else none
  | .unlock raises id_ => if ChangesLock raises s id_ false then some (.one id_ false) else none
  | .refresh header _ _ | .delete header _ _ | .create header _ _ | .keys header _ =>
      tokenCommand lib config label.1 s header

/-- The commands of a run. -/
def lockCommands (lib : AdminLibraries) (config : AdminConfig) (s : AdminState) :
    List ApiLabel → List LockCommand
  | [] => []
  | label :: labels =>
      (lockCommand lib config s label).toList ++
        lockCommands lib config (stateAfter (handleApiRequest lib config label.1 label.2) s) labels

/-- The account after some commands: the last one that is about it counts. -/
def afterCommands (commands : List LockCommand) (admin : Admin) : Admin :=
  { admin with
    locked := (commands.filterMap (LockCommand.flagFor admin.id_)).getLastD admin.locked }

/-- No session is held, and the activities go on from a log. -/
def SessionFree (log : List SuspiciousActivity) (s : AdminState) : Prop :=
  (∀ id_, s.sessions id_ = none) ∧ log <+: s.activities

theorem sessionFree_update {log : List SuspiciousActivity} {s : AdminState}
    (h : SessionFree log s) (id_ : Int) :
    SessionFree log { s with sessions := Function.update s.sessions id_ none } := by
  refine ⟨fun other => ?_, h.2⟩
  by_cases hother : other = id_
  · rw [hother]
    exact Function.update_self ..
  · exact (Function.update_of_ne hother ..).trans (h.1 other)

/-- A report holds no session and appends to the log. -/
theorem keeps_report (log : List SuspiciousActivity) (config : AdminConfig) (run : ReportRun)
    (adminID : Int) (desc : String) (forceLogout : Bool) :
    Keeps (SessionFree log) (reportSuspiciousActivity config run adminID desc forceLogout) := by
  intro s h
  have hlogged : log <+: s.activities ++ [⟨adminID, run.timeLogged, desc⟩] :=
    h.2.trans (List.prefix_append ..)
  have hout := sessionFree_update h adminID
  unfold stateAfter reportSuspiciousActivity
  by_cases hinsert : (run.raises .insert || adminID ∉ s.admins.map Admin.id_ ||
      64 < desc.length : Bool) = true
  · rw [if_pos hinsert]
    exact h
  rw [if_neg hinsert]
  dsimp only
  split_ifs
  · exact h
  · exact h
  · exact h
  · exact hout
  · exact ⟨hout.1, hlogged⟩
  · exact h
  · exact ⟨h.1, hlogged⟩

theorem keeps_refuse {α : Type} (log : List SuspiciousActivity) (status : ℕ) (detail : String) :
    Keeps (SessionFree log) (refuse status detail : EStateM ServerExn AdminState α) :=
  Keeps.throw _

theorem keeps_report_refuse {α : Type} (log : List SuspiciousActivity) (config : AdminConfig)
    (run : ReportRun) (adminID : Int) (desc : String) (forceLogout : Bool) (status : ℕ)
    (detail : String) :
    Keeps (SessionFree log) (do
      reportSuspiciousActivity config run adminID desc forceLogout
      (refuse status detail : EStateM ServerExn AdminState α)) :=
  (keeps_report log config run adminID desc forceLogout).bind fun _ =>
    keeps_refuse log status detail

theorem keeps_adminLogin (log : List SuspiciousActivity) (lib : AdminLibraries)
    (config : AdminConfig) (run : ReportRun) (draw : LoginDraw) (identity password : String) :
    Keeps (SessionFree log) (adminLogin lib config run draw identity password) := by
  intro s h
  unfold adminLogin
  rw [stateAfter_get_bind]
  cases selectAdmin s.admins identity with
  | none => exact h
  | some admin =>
      dsimp only
      split_ifs
      · exact keeps_report_refuse _ _ _ _ _ _ _ _ s h
      · exact keeps_report_refuse _ _ _ _ _ _ _ _ s h
      · cases loginSession lib config admin draw with
        | error exn => exact h
        | ok response => exact h
      · exact keeps_report_refuse _ _ _ _ _ _ _ _ s h

theorem keeps_validateAdminSession (log : List SuspiciousActivity) (lib : AdminLibraries)
    (config : AdminConfig) (run : ReportRun) (now : Int) (key sessionToken : String)
    (session : AdminSession) :
    Keeps (SessionFree log)
      (validateAdminSession lib config run now key sessionToken session) := by
  unfold validateAdminSession
  cases (pySplit '.' sessionToken)[1]? with
  | none => exact Keeps.throw _
  | some signature =>
      dsimp only
      cases lib.verify key signature with
      | error exn => exact Keeps.throw _
      | ok verified =>
          cases verified with
          | false => exact keeps_report_refuse _ _ _ _ _ _ _ _
          | true =>
              dsimp only
              split_ifs
              · exact (Keeps.modify fun s h => sessionFree_update h session.adminId).bind
                  fun _ => keeps_refuse log _ _
              · intro s h
                rw [stateAfter_get_bind, h.1 session.adminId]
                exact keeps_report_refuse _ _ _ _ _ _ _ _ s h

theorem keeps_authenticate (log : List SuspiciousActivity) (lib : AdminLibraries)
    (config : AdminConfig) (met : Circumstances) (header : Option String) :
    Keeps (SessionFree log) (authenticate lib config met header) := by
  unfold authenticate
  cases getAdminSession lib met.freshId header with
  | error exn => exact Keeps.throw _
  | ok decoded =>
      refine Keeps.bind (fun s h => ?_) fun key =>
        keeps_validateAdminSession log lib config met.run met.now key decoded.1 decoded.2
      rcases getVerificationKey_unchanged met.cachedKey decoded.2.adminId s with
        ⟨key, hkey⟩ | ⟨exn, hkey⟩
      · rw [stateAfter_of_ok hkey]
        exact h
      · rw [stateAfter_of_error hkey]
        exact h

/-- Without a session no token is accepted. -/
theorem authenticate_ne_ok {lib : AdminLibraries} {config : AdminConfig} {met : Circumstances}
    {header : Option String} {s : AdminState} (hfree : ∀ id_, s.sessions id_ = none)
    (session : AdminSession) (s' : AdminState) :
    authenticate lib config met header s ≠ .ok session s' := by
  intro hok
  unfold authenticate at hok
  cases hdecoded : getAdminSession lib met.freshId header with
  | error exn =>
      rw [hdecoded] at hok
      cases hok
  | ok decoded =>
      rw [hdecoded] at hok
      obtain ⟨key, t, hkey, hvalid⟩ := bind_eq_ok.mp hok
      have hsame : t = s := by
        rcases getVerificationKey_unchanged met.cachedKey decoded.2.adminId s with
          ⟨_, hread⟩ | ⟨_, hread⟩
        · rw [hread] at hkey
          cases hkey
          rfl
        · rw [hread] at hkey
          cases hkey
      rw [hsame] at hvalid
      unfold validateAdminSession at hvalid
      cases hsignature : (pySplit '.' decoded.1)[1]? with
      | none =>
          rw [hsignature] at hvalid
          cases hvalid
      | some signature =>
          rw [hsignature] at hvalid
          cases hverify : lib.verify key signature with
          | error exn =>
              simp only [hverify] at hvalid
              cases hvalid
          | ok verified =>
              cases verified with
              | false =>
                  simp only [hverify] at hvalid
                  exact report_refuse_ne_ok _ _ _ _ _ _ _ _ _ _ hvalid
              | true =>
                  simp only [hverify] at hvalid
                  split_ifs at hvalid
                  · cases hvalid
                  · rw [get_bind_run, hfree decoded.2.adminId] at hvalid
                    exact report_refuse_ne_ok _ _ _ _ _ _ _ _ _ _ hvalid

theorem stateAfter_dependency {α : Type} (x : EStateM ServerExn AdminState α) (s : AdminState) :
    stateAfter (dependency x) s = stateAfter x s := by
  unfold stateAfter dependency
  cases x s <;> rfl

theorem dependency_eq_ok {α : Type} {x : EStateM ServerExn AdminState α} {s t : AdminState}
    {a : α} (h : dependency x s = .ok a t) : x s = .ok a t := by
  unfold dependency at h
  cases hx : x s with
  | ok b u =>
      rw [hx] at h
      cases h
      rfl
  | error exn u =>
      rw [hx] at h
      cases h

/-- Without a session a request that starts with the dependency on one ends there. -/
theorem authenticate_refused {α : Type} {lib : AdminLibraries} {config : AdminConfig}
    {met : Circumstances} {header : Option String} {s : AdminState}
    (hfree : ∀ id_, s.sessions id_ = none)
    (rest : AdminSession → EStateM ServerExn AdminState α) :
    ∃ exn, dependency (authenticate lib config met header >>= rest) s =
      .error exn (stateAfter (authenticate lib config met header) s) := by
  cases hrun : authenticate lib config met header s with
  | ok session t => exact absurd hrun (authenticate_ne_ok hfree session t)
  | error exn t =>
      refine ⟨.server exn, ?_⟩
      unfold dependency
      rw [bind_of_error hrun, stateAfter_of_error hrun]

/-- So does every endpoint with a permission. -/
theorem requirePermissions_refused {lib : AdminLibraries} {config : AdminConfig}
    {met : Circumstances} {header : Option String} {s : AdminState}
    (hfree : ∀ id_, s.sessions id_ = none) (required : Permission)
    (body : AdminSession → EStateM EndpointExn AdminState Unit) :
    ∃ exn, (dependency (requirePermissions lib config met required header) >>= body) s =
      .error exn (stateAfter (authenticate lib config met header) s) := by
  obtain ⟨exn, hrun⟩ :=
    @authenticate_refused _ lib config met header s hfree fun session : AdminSession =>
      if HasPermission session.role required then pure session
      else refuse 403 ("Missing permissions for: " ++ required.value)
  exact ⟨exn, bind_of_error hrun⟩

theorem afterCommands_nil (admin : Admin) : afterCommands [] admin = admin := rfl

theorem map_afterCommands_nil (admins : List Admin) :
    admins.map (afterCommands []) = admins := by
  have hid : afterCommands [] = id := funext afterCommands_nil
  rw [hid, List.map_id]

/-- Commands that come after others. -/
theorem afterCommands_append (first second : List LockCommand) (admin : Admin) :
    afterCommands (first ++ second) admin = afterCommands second (afterCommands first admin) := by
  simp only [afterCommands, List.filterMap_append, List.getLastD_eq_getLast?, List.getLast?_append]
  cases (second.filterMap (LockCommand.flagFor admin.id_)).getLast? <;> rfl

/-- The accounts after a token has been looked at. -/
theorem authenticate_admins (lib : AdminLibraries) (config : AdminConfig) (met : Circumstances)
    (header : Option String) (s : AdminState) :
    (stateAfter (authenticate lib config met header) s).admins =
      s.admins.map (afterCommands (tokenCommand lib config met s header).toList) := by
  have houtcome := authenticate_outcome lib config met header s
  unfold tokenCommand
  cases htampered : tamperedReport lib met s header with
  | none =>
      rw [htampered] at houtcome
      exact houtcome.1.trans (map_afterCommands_nil s.admins).symm
  | some report =>
      obtain ⟨adminID, desc⟩ := report
      rw [htampered] at houtcome
      rw [houtcome.2]
      dsimp only
      by_cases hlocks : LocksAccounts config met.run s adminID desc
      · rw [if_pos hlocks, report_locks hlocks]
        rfl
      · rw [if_neg hlocks]
        exact (report_changesSessionOf fun _ => hlocks).1.trans
          (map_afterCommands_nil s.admins).symm

/-- What locking or unlocking comes to. -/
theorem changeLock_spec (locked : Bool) (conflict : String) (raises : AdminPoint → Bool)
    (id_ : Int) (s : AdminState) :
    stateAfter (changeLock locked conflict raises id_) s =
      if ChangesLock raises s id_ locked then { s with
        admins := setLocked id_ locked s.admins
        ids_nodup := ids_nodup_setLocked s id_ locked }
      else s := by
  by_cases hchanges : ChangesLock raises s id_ locked
  · rw [if_pos hchanges]
    obtain ⟨⟨hselect, hstatement, hcommit⟩, admin, hadmin, hlocked⟩ := hchanges
    rw [Option.mem_def] at hadmin
    simp [stateAfter, changeLock, hselect, hstatement, hcommit, hadmin, hlocked]
  · rw [if_neg hchanges]
    unfold stateAfter changeLock
    cases hselect : raises .select with
    | true => rfl
    | false =>
        cases hadmin : s.admins.find? fun admin => admin.id_ = id_ with
        | none => rfl
        | some admin =>
            by_cases hlocked : admin.locked = locked
            · simp [hlocked]
            · have hraises : (raises .statement || raises .commit) = true := by
                by_contra hquiet
                rw [Bool.not_eq_true, Bool.or_eq_false_iff] at hquiet
                exact hchanges ⟨⟨hselect, hquiet⟩, admin, hadmin, hlocked⟩
              simp [hlocked, hraises]

theorem setLocked_eq (id_ : Int) (locked : Bool) (admins : List Admin) :
    setLocked id_ locked admins = admins.map (afterCommands [.one id_ locked]) := by
  refine List.map_congr_left fun admin _ => ?_
  by_cases hid : id_ = admin.id_
  · simp [afterCommands, LockCommand.flagFor, hid]
  · simp [afterCommands, LockCommand.flagFor, hid, Ne.symm hid]

/-- The accounts and the sessions after a request to lock or unlock. -/
theorem changeLock_kept {log : List SuspiciousActivity} {s : AdminState}
    (h : SessionFree log s) (locked : Bool) (conflict : String) (raises : AdminPoint → Bool)
    (id_ : Int) :
    SessionFree log (stateAfter (changeLock locked conflict raises id_) s) ∧
      (stateAfter (changeLock locked conflict raises id_) s).admins =
        s.admins.map (afterCommands
          (if ChangesLock raises s id_ locked then some (.one id_ locked) else none).toList) := by
  rw [changeLock_spec]
  split_ifs
  · exact ⟨h, setLocked_eq id_ locked s.admins⟩
  · exact ⟨h, (map_afterCommands_nil s.admins).symm⟩

/-- A request that ends in the dependency on a session. -/
theorem refused_kept {lib : AdminLibraries} {config : AdminConfig} {met : Circumstances}
    {header : Option String} {log : List SuspiciousActivity} {s : AdminState}
    (h : SessionFree log s) {x : EStateM EndpointExn AdminState Unit}
    (hx : ∃ exn, x s = .error exn (stateAfter (authenticate lib config met header) s)) :
    (SessionFree log (stateAfter x s) ∧ (stateAfter x s).admins =
        s.admins.map (afterCommands (tokenCommand lib config met s header).toList)) ∧
      ∀ s', x s ≠ .ok () s' := by
  obtain ⟨exn, hrun⟩ := hx
  rw [stateAfter_of_error hrun]
  refine ⟨⟨keeps_authenticate log lib config met header s h,
    authenticate_admins lib config met header s⟩, fun s' hok => ?_⟩
  rw [hrun] at hok
  cases hok

/-- One request without a session: none is created, the log goes on, the flags follow the
command, and only a request that asks for nothing is answered. -/
theorem handleApiRequest_spec (lib : AdminLibraries) (config : AdminConfig) (label : ApiLabel)
    {log : List SuspiciousActivity} {s : AdminState} (h : SessionFree log s) :
    (SessionFree log (stateAfter (handleApiRequest lib config label.1 label.2) s) ∧
      (stateAfter (handleApiRequest lib config label.1 label.2) s).admins =
        s.admins.map (afterCommands (lockCommand lib config s label).toList)) ∧
      (Responds lib config s label → label.2.Unguarded) := by
  obtain ⟨met, request⟩ := label
  cases request with
  | login draw identity password =>
      have hstate : stateAfter (handleApiRequest lib config met (.login draw identity password)) s =
          stateAfter (adminLogin lib config met.run draw identity password) s :=
        (stateAfter_dependency ..).trans (stateAfter_discard ..)
      have hadmins := (adminLogin_changesSessionOf lib config met.run draw identity password s).1
      refine ⟨⟨?_, ?_⟩, fun ⟨s', hok⟩ => ?_⟩
      · rw [hstate]
        exact keeps_adminLogin log lib config met.run draw identity password s h
      · rw [hstate]
        exact hadmins.trans (map_afterCommands_nil s.admins).symm
      · obtain ⟨response, _, hlogin, _⟩ := bind_eq_ok.mp (dependency_eq_ok hok)
        exact absurd hlogin (adminLogin_never_responds lib config met.run draw identity password
          _ _ _)
  | logout id_ =>
      exact ⟨⟨h, (map_afterCommands_nil s.admins).symm⟩, fun _ => trivial⟩
  | refresh header refreshId refreshDigest =>
      obtain ⟨hkept, hrefused⟩ := refused_kept h (authenticate_refused h.1
        fun session => adminRefresh config met.run refreshId refreshDigest session)
      exact ⟨hkept, fun ⟨s', hok⟩ => absurd hok (hrefused s')⟩
  | lock raises id_ => exact ⟨changeLock_kept h true _ raises id_, fun _ => trivial⟩
  | unlock raises id_ => exact ⟨changeLock_kept h false _ raises id_, fun _ => trivial⟩
  | delete header raises id_ =>
      obtain ⟨hkept, hrefused⟩ := refused_kept h (requirePermissions_refused h.1 .deleteAdmin
        (fun _ => deleteRow raises met.now id_))
      exact ⟨hkept, fun ⟨s', hok⟩ => absurd hok (hrefused s')⟩
  | create header raises drawn =>
      obtain ⟨hkept, hrefused⟩ := refused_kept h (requirePermissions_refused h.1 .createAdmin
        (fun _ => insertRow raises met.now drawn))
      exact ⟨hkept, fun ⟨s', hok⟩ => absurd hok (hrefused s')⟩
  | keys header required =>
      obtain ⟨hkept, hrefused⟩ := refused_kept h (requirePermissions_refused h.1 required
        (fun _ => pure ()))
      exact ⟨hkept, fun ⟨s', hok⟩ => absurd hok (hrefused s')⟩

/-- In a run from an empty store no session is ever created and the log of the activities
only grows.  The accounts stay but for their flags, each of which is what the last command on
it has set, and only requests that ask for nothing are answered. -/
theorem adminApi_of_run (lib : AdminLibraries) (config : AdminConfig) (labels : List ApiLabel)
    (s s' : AdminState) (hfree : ∀ id_, s.sessions id_ = none)
    (hrun : runActions (apiStep lib config) s labels = some s') :
    (∀ id_, s'.sessions id_ = none) ∧ s.activities <+: s'.activities ∧
      s'.admins = s.admins.map (afterCommands (lockCommands lib config s labels)) ∧
      EachStep (apiStep lib config)
        (fun s label => Responds lib config s label → label.2.Unguarded) s labels := by
  induction labels generalizing s with
  | nil =>
      cases hrun
      exact ⟨hfree, List.prefix_refl _, (map_afterCommands_nil _).symm, trivial⟩
  | cons label labels ih =>
      have hstart : SessionFree s.activities s := ⟨hfree, List.prefix_refl _⟩
      obtain ⟨⟨hkept, hadmins⟩, hresponds⟩ := handleApiRequest_spec lib config label hstart
      obtain ⟨hfree', hlog, haccounts, hrest⟩ := ih _ hkept.1 hrun
      refine ⟨hfree', hkept.2.trans hlog, ?_, EachStep.cons rfl hresponds hrest⟩
      rw [haccounts, hadmins, List.map_map]
      exact List.map_congr_left fun admin _ => (afterCommands_append _ _ admin).symm

/-- What the requests of a fixed run meet. -/
def quietCircumstances : Circumstances := ⟨⟨5, 5, fun _ => false⟩, 5, sampleUuid, none⟩

/-- Somebody locks both admins and unlocks the first one, who asks for the keys. -/
def lockRequests : List ApiLabel :=
  [(quietCircumstances, .lock (fun _ => false) 1), (quietCircumstances, .lock (fun _ => false) 2),
    (quietCircumstances, .unlock (fun _ => false) 1), (quietCircumstances, .keys none .readKey)]

/-- Only the second admin is locked in the end. -/
theorem adminApi_of_run_locks :
    ∃ s', runActions (apiStep sampleLibraries hourConfig) twoAdmins lockRequests = some s' ∧
      (∀ id_, s'.sessions id_ = none) ∧ s'.admins.map Admin.locked = [false, true] := by
  obtain ⟨s', hrun⟩ : ∃ s', runActions (apiStep sampleLibraries hourConfig) twoAdmins
      lockRequests = some s' := ⟨_, rfl⟩
  obtain ⟨hfree, _, hadmins, _⟩ := adminApi_of_run sampleLibraries hourConfig lockRequests
    twoAdmins s' (fun _ => rfl) hrun
  refine ⟨s', hrun, hfree, ?_⟩
  rw [hadmins]
  decide

end AuthServer
end Tenjin
