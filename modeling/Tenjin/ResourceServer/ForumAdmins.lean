import Tenjin.Foundation.Effects
import Tenjin.Foundation.GuardedRun
import Tenjin.Python.Runtime

/-!
# Forum admins and their roles

`add_admin`, `remove_admin` and `edit_admin_permissions` of `forums.py` over the table
`forum_admins`, with the permissions of `admin_permissions.py`.

* The endpoints are written over a `RoleAccess`: how a role is looked up, and where the
  table is.  `currentRoles` is the access whose lookups return the current rows.
* `adminStep_cases` says all that a request can do to the table.
* `forum_role_law` — the owner stays, and no request touches the row of an admin of the
  requester's rank or above.
* `eachStep_noNewSuper_iff` — without the owner, a new super admin comes from a promotion
  by another super admin and from nothing else.
-/

namespace Tenjin
namespace ResourceServer

open Python Foundation

/-- `AdminRoles`. -/
inductive AdminRoles
  | admin
  | super
  | owner
  deriving DecidableEq

/-- The text of the role. -/
def AdminRoles.value : AdminRoles → String
  | .admin => "ADMIN"
  | .super => "SUPER"
  | .owner => "OWNER"

/-- The height of a role. -/
def AdminRoles.rank : AdminRoles → ℕ
  | .admin => 0
  | .super => 1
  | .owner => 2

/-- `AdminPermissions`. -/
inductive AdminPermissions
  | addRule
  | addAdmin
  | addSuper
  | editForum
  | demoteToAdmin
  | promoteToSuper
  | removeAdmin
  | removeSuper
  | deleteComment
  | deletePost
  | deleteRule
  | deleteForum
  deriving DecidableEq

/-- The members of the enumeration. -/
def AdminPermissions.all : List AdminPermissions :=
  [.addRule, .addAdmin, .addSuper, .editForum, .demoteToAdmin, .promoteToSuper, .removeAdmin,
    .removeSuper, .deleteComment, .deletePost, .deleteRule, .deleteForum]

/-- `_OWNER_EXCLUSIVE_PERMISSIONS`. -/
def ownerExclusivePermissions : List AdminPermissions :=
  [.addSuper, .removeSuper, .deleteForum]

/-- `ADMIN_PERMISSIONS_MAPPING`. -/
def adminPermissionsMapping : AdminRoles → List AdminPermissions
  | .owner => AdminPermissions.all
  | .super => AdminPermissions.all.filter (· ∉ ownerExclusivePermissions)
  | .admin => [.deletePost, .deleteComment]

/-- `check_permission`. -/
def checkPermission (role : AdminRoles) (permission : AdminPermissions) : Bool :=
  permission ∈ adminPermissionsMapping role

/-- The rows of `forum_admins` by their primary key: forum and user. -/
abbrev ForumAdmins := Int → Int → Option AdminRoles

/-- The table with another value under one key. -/
def ForumAdmins.set (t : ForumAdmins) (forumId userId : Int) (row : Option AdminRoles) :
    ForumAdmins :=
  fun f u => if f = forumId ∧ u = userId then row else t f u

/-- The `role` of an `AdminAddModel`: one of two literals. -/
inductive AssignableRole
  | super
  | admin
  deriving DecidableEq

/-- The role that the literal names. -/
def AssignableRole.role : AssignableRole → AdminRoles
  | .super => .super
  | .admin => .admin

/-- Why an endpoint raises an `HTTPException`: for lack of a permission, or else. -/
inductive RefusalCause
  | permission
  | other
  deriving DecidableEq

/-- How an endpoint ends without its effect: it refuses, or something that it calls
raises. -/
inductive RequestError
  | refused (cause : RefusalCause) (status : ℕ) (detail : String)
  | failed (e : Exn)
  deriving DecidableEq

/-- How an endpoint gets at the roles: the lookup that it makes, and the table. -/
structure RoleAccess (ω : Type) where
  lookup : (forumId userId : Int) → EStateM Exn ω (Option AdminRoles)
  admins : ω → ForumAdmins
  setAdmins : ForumAdmins → ω → ω

/-- The access whose lookups return the current rows. -/
def currentRoles : RoleAccess ForumAdmins where
  lookup f u := fun t => .ok (t f u) t
  admins t := t
  setAdmins t _ := t

/-- What a request meets besides the roles. -/
structure AdminReads where
  /-- The lookup of the forum, with what reading its `name_` gives. -/
  forum : Except Exn (Option (Except Exn String))
  /-- The lookup of the user that is to become an admin. -/
  user : Except Exn Bool
  /-- What the database answers to the write and its commit. -/
  execute : Except Exn Unit

section
variable {ω α : Type}

/-- A call of something else, whose exceptions the endpoint does not catch. -/
def calling (x : EStateM Exn ω α) : EStateM RequestError ω α := fun w =>
  match x w with
  | .ok a w' => .ok a w'
  | .error e w' => .error (.failed e) w'

/-- A call without effects on the roles. -/
def raiseOrReturn (result : Except Exn α) : EStateM RequestError ω α := fun w =>
  match result with
  | .ok a => .ok a w
  | .error e => .error (.failed e) w

/-- `if not x: raise e`, and `x` afterwards. -/
def presentOr (e : RequestError) (x : Option α) : EStateM RequestError ω α :=
  match x with
  | some a => pure a
  | none => throw e

/-- `if not p: raise e`. -/
def unlessRaise (p : Prop) [Decidable p] (e : RequestError) : EStateM RequestError ω Unit :=
  if p then pure () else throw e

/-- The lookup of the forum with which the endpoints begin. -/
def existingForum (forumId : Int) (forum : Except Exn (Option α)) :
    EStateM RequestError ω α := do
  let found ← raiseOrReturn forum
  presentOr (.refused .other 404 s!"No forum with id {forumId} found") found

/-- The refusal of a requester without a row, for which the forum's name is read. -/
def notAnAdmin (name : Except Exn String) : RequestError :=
  match name with
  | .ok n => .refused .permission 403 s!"You are not an admin for forum: {n}"
  | .error e => .failed e

variable (access : RoleAccess ω)

/-- `ForumRepository.add_forum_admin`.  A row under the primary key is an
`IntegrityError`. -/
def addForumAdmin (execute : Except Exn Unit) (forumId userId : Int) (role : AssignableRole) :
    EStateM RequestError ω Unit := fun w =>
  match execute with
  | .error e => .error (.failed e) w
  | .ok _ =>
      match access.admins w forumId userId with
      | some _ => .error (.failed .integrityError) w
      | none =>
          .ok () (access.setAdmins ((access.admins w).set forumId userId (some role.role)) w)

/-- `ForumRepository.remove_forum_admin`. -/
def removeForumAdmin (execute : Except Exn Unit) (forumId adminId : Int) :
    EStateM RequestError ω Unit := fun w =>
  match execute with
  | .error e => .error (.failed e) w
  | .ok _ => .ok () (access.setAdmins ((access.admins w).set forumId adminId none) w)

/-- `ForumRepository.update_admin_role`, which changes a row that is there. -/
def updateAdminRole (execute : Except Exn Unit) (forumId adminId : Int)
    (role : AssignableRole) : EStateM RequestError ω Unit := fun w =>
  match execute with
  | .error e => .error (.failed e) w
  | .ok _ =>
      let row := (access.admins w forumId adminId).map fun _ => role.role
      .ok () (access.setAdmins ((access.admins w).set forumId adminId row) w)

/-- The permission to add an admin. -/
def addPermission : AssignableRole → AdminPermissions
  | .admin => .addAdmin
  | .super => .addSuper

/-- The permission to remove an admin of the role. -/
def removePermission (role : AdminRoles) : AdminPermissions :=
  if role = .admin then .removeAdmin else .removeSuper

/-- The permission to give an admin another role. -/
def editPermission : AssignableRole → AdminPermissions
  | .admin => .demoteToAdmin
  | .super => .promoteToSuper

/-- `add_admin`. -/
def addAdmin (forumId sid userId : Int) (role : AssignableRole) (reads : AdminReads) :
    EStateM RequestError ω Unit := do
  let name ← existingForum forumId reads.forum
  let forumAdmin ← calling (access.lookup forumId sid)
  let adminRole ← presentOr (notAnAdmin name) forumAdmin
  unlessRaise (checkPermission adminRole (addPermission role))
    (.refused .permission 403
      s!"Insufficient permissions to add an admin of role {role.role.value}")
  -- the permission has been decided without the row of the new admin
  let existingAdmin ← calling (access.lookup forumId userId)
  let existingRole := (existingAdmin.map AdminRoles.value).getD ""
  unlessRaise (existingAdmin = none)
    (.refused .other 409 s!"User is already an admin (role: {existingRole})")
  let user ← raiseOrReturn reads.user
  unlessRaise user (.refused .other 404 s!"No user with id {userId} found")
  addForumAdmin access reads.execute forumId userId role

/-- `remove_admin`. -/
def removeAdmin (forumId sid userId : Int) (reads : AdminReads) :
    EStateM RequestError ω Unit := do
  let name ← existingForum forumId reads.forum
  let forumAdmin ← calling (access.lookup forumId sid)
  let adminRole ← presentOr (notAnAdmin name) forumAdmin
  let existingAdmin ← calling (access.lookup forumId userId)
  let existingRole ← presentOr (.refused .other 404 "Admin does not exist") existingAdmin
  -- the owner is refused before any permission is asked for
  unlessRaise (existingRole ≠ .owner) (.refused .other 403 "Cannot change forum ownership")
  unlessRaise (checkPermission adminRole (removePermission existingRole))
    (.refused .permission 403
      s!"Insufficient permissions to remove an admin with role {existingRole.value}")
  removeForumAdmin access reads.execute forumId userId

/-- `edit_admin_permissions`. -/
def editAdminPermissions (forumId sid userId : Int) (role : AssignableRole)
    (reads : AdminReads) : EStateM RequestError ω Unit := do
  let name ← existingForum forumId reads.forum
  let forumAdmin ← calling (access.lookup forumId sid)
  let adminRole ← presentOr (notAnAdmin name) forumAdmin
  let existingAdmin ← calling (access.lookup forumId userId)
  let existingRole ← presentOr (.refused .other 404 "Admin does not exist") existingAdmin
  unlessRaise (existingRole ≠ .owner)
    (.refused .other 403 "Owner permissions cannot be changed")
  unlessRaise (role.role ≠ existingRole)
    (.refused .other 409 "Previous and new roles identical")
  -- only equal roles are peers here: whether a role is higher is left to the permission
  unlessRaise (existingRole ≠ adminRole)
    (.refused .other 403 "Cannot change roles of peer admins")
  unlessRaise (checkPermission adminRole (editPermission role))
    (.refused .permission 403 "Insufficient permissions to change role in this manner")
  updateAdminRole access reads.execute forumId userId role

end

/-- A request to one of the three endpoints. -/
inductive AdminAction
  | addAdmin (role : AssignableRole)
  | removeAdmin
  | editAdminPermissions (role : AssignableRole)
  deriving DecidableEq

/-- A request: who asks for what, about whom and in which forum. -/
structure AdminCall where
  action : AdminAction
  forumId : Int
  /-- `access_token["sid"]`. -/
  sid : Int
  /-- `admin_model.user_id`. -/
  userId : Int
  reads : AdminReads

/-- The endpoint of the request. -/
def AdminCall.run {ω : Type} (access : RoleAccess ω) (c : AdminCall) :
    EStateM RequestError ω Unit :=
  match c.action with
  | .addAdmin role => addAdmin access c.forumId c.sid c.userId role c.reads
  | .removeAdmin => removeAdmin access c.forumId c.sid c.userId c.reads
  | .editAdminPermissions role =>
      editAdminPermissions access c.forumId c.sid c.userId role c.reads

/-- The write that the endpoint ends with. -/
def AdminCall.write {ω : Type} (access : RoleAccess ω) (c : AdminCall) :
    EStateM RequestError ω Unit :=
  match c.action with
  | .addAdmin role => addForumAdmin access c.reads.execute c.forumId c.userId role
  | .removeAdmin => removeForumAdmin access c.reads.execute c.forumId c.userId
  | .editAdminPermissions role =>
      updateAdminRole access c.reads.execute c.forumId c.userId role

/-- What the checks of the endpoint let through: the requester's role and the row of the
user in question, as the lookups gave them. -/
def AdminAction.Allows (action : AdminAction) (requester : AdminRoles)
    (existing : Option AdminRoles) : Prop :=
  match action with
  | .addAdmin role => checkPermission requester (addPermission role) ∧ existing = none
  | .removeAdmin => ∃ role, existing = some role ∧ role ≠ .owner ∧
      checkPermission requester (removePermission role)
  | .editAdminPermissions new => ∃ role, existing = some role ∧ role ≠ .owner ∧
      new.role ≠ role ∧ role ≠ requester ∧ checkPermission requester (editPermission new)

/-- The row that the write leaves behind. -/
def AdminAction.row : AdminAction → Option AdminRoles
  | .addAdmin role => some role.role
  | .removeAdmin => none
  | .editAdminPermissions role => some role.role

/-- The permission that the action needs, given the row of the user in question. -/
def AdminAction.needs (action : AdminAction) (existing : Option AdminRoles) :
    Option AdminPermissions :=
  match action with
  | .addAdmin role => some (addPermission role)
  | .removeAdmin => existing.map removePermission
  | .editAdminPermissions role => some (editPermission role)

/-- If the computation refuses for lack of a permission, then `P`. -/
def RefusesOnly {ω α : Type} (x : EStateM RequestError ω α) (w : ω) (P : Prop) : Prop :=
  ∀ status detail w', x w = .error (.refused .permission status detail) w' → P

section
variable {ω α β : Type} {w w' : ω}

theorem calling_eq_ok {x : EStateM Exn ω α} {a : α} :
    calling x w = .ok a w' ↔ x w = .ok a w' := by
  unfold calling
  cases x w with
  | ok b v => simp
  | error e v => simp

theorem raiseOrReturn_eq_ok {result : Except Exn α} {a : α} :
    raiseOrReturn result w = .ok a w' ↔ result = .ok a ∧ w' = w := by
  unfold raiseOrReturn
  cases result with
  | ok b => simp [eq_comm]
  | error e => simp

theorem presentOr_eq_ok {e : RequestError} {x : Option α} {a : α} :
    presentOr e x w = .ok a w' ↔ x = some a ∧ w' = w := by
  cases x with
  | some b =>
      show EStateM.Result.ok b w = _ ↔ _
      simp [eq_comm]
  | none =>
      show EStateM.Result.error e w = _ ↔ _
      simp

theorem unlessRaise_eq_ok {p : Prop} [Decidable p] {e : RequestError} {u : Unit} :
    unlessRaise p e w = .ok u w' ↔ p ∧ w' = w := by
  by_cases hp : p
  · rw [unlessRaise, if_pos hp]
    show EStateM.Result.ok () w = _ ↔ _
    simp [hp, eq_comm]
  · rw [unlessRaise, if_neg hp]
    show EStateM.Result.error e w = _ ↔ _
    simp [hp]

theorem existingForum_eq_ok {forumId : Int} {forum : Except Exn (Option α)} {a : α} :
    existingForum forumId forum w = .ok a w' ↔ forum = .ok (some a) ∧ w' = w := by
  unfold existingForum
  simp only [bind_eq_ok, raiseOrReturn_eq_ok, presentOr_eq_ok]
  constructor
  · rintro ⟨found, v, ⟨hforum, rfl⟩, rfl, rfl⟩
    exact ⟨hforum, rfl⟩
  · rintro ⟨hforum, rfl⟩
    exact ⟨some a, _, ⟨hforum, rfl⟩, rfl, rfl⟩

section
variable {P : Prop}

theorem RefusesOnly.bind {x : EStateM RequestError ω α} {f : α → EStateM RequestError ω β}
    (hx : RefusesOnly x w P) (hf : ∀ a w', x w = .ok a w' → RefusesOnly (f a) w' P) :
    RefusesOnly (x >>= f) w P := by
  intro status detail w' h
  rcases bind_eq_error.mp h with herror | ⟨a, v, hok, herror⟩
  · exact hx status detail w' herror
  · exact hf a v hok status detail w' herror

theorem RefusesOnly.calling (x : EStateM Exn ω α) : RefusesOnly (calling x) w P := by
  intro status detail w' h
  unfold ResourceServer.calling at h
  split at h <;> cases h

theorem RefusesOnly.raiseOrReturn (result : Except Exn α) :
    RefusesOnly (raiseOrReturn result) w P := by
  intro status detail w' h
  unfold ResourceServer.raiseOrReturn at h
  split at h <;> cases h

theorem RefusesOnly.presentOr {e : RequestError} {x : Option α} (hnone : x = none → P) :
    RefusesOnly (presentOr e x) w P := by
  intro status detail w' h
  cases x with
  | none => exact hnone rfl
  | some a => cases h

theorem RefusesOnly.presentOr_other {status : ℕ} {detail : String} {x : Option α} :
    RefusesOnly (ResourceServer.presentOr (.refused .other status detail) x) w P := by
  intro status detail w' h
  cases x with
  | none => cases h
  | some a => cases h

theorem RefusesOnly.unlessRaise {p : Prop} [Decidable p] {e : RequestError}
    (hnot : ¬ p → P) : RefusesOnly (unlessRaise p e) w P := by
  intro status detail w' h
  unfold ResourceServer.unlessRaise at h
  split at h
  · cases h
  · rename_i hp
    exact hnot hp

theorem RefusesOnly.unlessRaise_other {p : Prop} [Decidable p] {status : ℕ}
    {detail : String} :
    RefusesOnly (ResourceServer.unlessRaise p (.refused .other status detail)) w P := by
  intro status detail w' h
  unfold ResourceServer.unlessRaise at h
  split at h <;> cases h

theorem RefusesOnly.existingForum (forumId : Int) (forum : Except Exn (Option α)) :
    RefusesOnly (existingForum forumId forum) w P :=
  .bind (.raiseOrReturn forum) fun _ _ _ => .presentOr_other

end

variable {access : RoleAccess ω} {c : AdminCall}

/-- An endpoint that reaches its write has found the forum, and its checks have let
through what the two lookups gave. -/
theorem AdminCall.run_eq_ok {u : Unit} (h : c.run access w = .ok u w') :
    ∃ name requester existing w₁ w₂, c.reads.forum = .ok (some name) ∧
      access.lookup c.forumId c.sid w = .ok (some requester) w₁ ∧
      access.lookup c.forumId c.userId w₁ = .ok existing w₂ ∧
      c.action.Allows requester existing ∧ c.write access w₂ = .ok u w' := by
  unfold AdminCall.run at h
  unfold AdminCall.write
  cases haction : c.action with
  | addAdmin role =>
      simp only [haction, addAdmin, bind_eq_ok, existingForum_eq_ok, presentOr_eq_ok,
        unlessRaise_eq_ok, raiseOrReturn_eq_ok, calling_eq_ok] at h
      obtain ⟨name, _, ⟨hforum, rfl⟩, _, w₁, hsid, requester, _, ⟨rfl, rfl⟩, _, _,
        ⟨hpermission, rfl⟩, existing, w₂, huser, _, _, ⟨hfresh, rfl⟩, _, _, ⟨_, rfl⟩, _, _,
        ⟨_, rfl⟩, hwrite⟩ := h
      exact ⟨name, requester, existing, _, _, hforum, hsid, huser, ⟨hpermission, hfresh⟩,
        hwrite⟩
  | removeAdmin =>
      simp only [haction, removeAdmin, bind_eq_ok, existingForum_eq_ok, presentOr_eq_ok,
        unlessRaise_eq_ok, calling_eq_ok] at h
      obtain ⟨name, _, ⟨hforum, rfl⟩, _, w₁, hsid, requester, _, ⟨rfl, rfl⟩, _, w₂, huser,
        role, _, ⟨rfl, rfl⟩, _, _, ⟨howner, rfl⟩, _, _, ⟨hpermission, rfl⟩, hwrite⟩ := h
      exact ⟨name, requester, some role, _, _, hforum, hsid, huser,
        ⟨role, rfl, howner, hpermission⟩, hwrite⟩
  | editAdminPermissions new =>
      simp only [haction, editAdminPermissions, bind_eq_ok, existingForum_eq_ok,
        presentOr_eq_ok, unlessRaise_eq_ok, calling_eq_ok] at h
      obtain ⟨name, _, ⟨hforum, rfl⟩, _, w₁, hsid, requester, _, ⟨rfl, rfl⟩, _, w₂, huser,
        role, _, ⟨rfl, rfl⟩, _, _, ⟨howner, rfl⟩, _, _, ⟨hchange, rfl⟩, _, _, ⟨hpeer, rfl⟩,
        _, _, ⟨hpermission, rfl⟩, hwrite⟩ := h
      exact ⟨name, requester, some role, _, _, hforum, hsid, huser,
        ⟨role, rfl, howner, hchange, hpeer, hpermission⟩, hwrite⟩

theorem AdminCall.write_refusesOnly {P : Prop} : RefusesOnly (c.write access) w P := by
  intro status detail w' h
  unfold AdminCall.write at h
  cases haction : c.action with
  | addAdmin role =>
      simp only [haction, addForumAdmin] at h
      split at h
      · cases h
      · split at h <;> cases h
  | removeAdmin =>
      simp only [haction, removeForumAdmin] at h
      split at h <;> cases h
  | editAdminPermissions role =>
      simp only [haction, updateAdminRole] at h
      split at h <;> cases h

/-- A refused write changes nothing. -/
theorem AdminCall.write_keepsOnError {I : ω → Prop} : KeepsOnError I (c.write access) := by
  intro v e v' hI h
  unfold AdminCall.write at h
  cases haction : c.action with
  | addAdmin role =>
      simp only [haction, addForumAdmin] at h
      split at h
      · cases h
        exact hI
      · split at h
        · cases h
          exact hI
        · cases h
  | removeAdmin =>
      simp only [haction, removeForumAdmin] at h
      split at h
      · cases h
        exact hI
      · cases h
  | editAdminPermissions role =>
      simp only [haction, updateAdminRole] at h
      split at h
      · cases h
        exact hI
      · cases h

/-- What the endpoints look at before they come to a decision: the requester has no row, or
a row that does not grant the permission that the answers say is needed. -/
def AdminCall.Lacks (access : RoleAccess ω) (c : AdminCall) (w : ω) : Prop :=
  (∃ w₁, access.lookup c.forumId c.sid w = .ok none w₁) ∨
  ∃ requester existing w₁ w₂ permission,
    access.lookup c.forumId c.sid w = .ok (some requester) w₁ ∧
    (access.lookup c.forumId c.userId w₁ = .ok existing w₂ ∨
      ∃ role, c.action = .addAdmin role) ∧
    c.action.needs existing = some permission ∧
    checkPermission requester permission = false

/-- The beginning of all endpoints: only a requester without a row is refused for lack of a
permission. -/
theorem RefusesOnly.requester {β : Type} {P : Prop} {forumId sid : Int}
    {forum : Except Exn (Option (Except Exn String))}
    {f : Except Exn String → AdminRoles → EStateM RequestError ω β}
    (hnone : ∀ w₁, access.lookup forumId sid w = .ok none w₁ → P)
    (hf : ∀ name requester w₁, access.lookup forumId sid w = .ok (some requester) w₁ →
      RefusesOnly (f name requester) w₁ P) :
    RefusesOnly (do
      let name ← ResourceServer.existingForum forumId forum
      let forumAdmin ← ResourceServer.calling (access.lookup forumId sid)
      let adminRole ← ResourceServer.presentOr (notAnAdmin name) forumAdmin
      f name adminRole) w P := by
  refine .bind (.existingForum _ _) fun name v hforum => ?_
  obtain ⟨_, rfl⟩ := existingForum_eq_ok.mp hforum
  refine .bind (.calling _) fun found w₁ hsid => ?_
  rw [calling_eq_ok] at hsid
  refine .bind (.presentOr fun hmissing => hnone w₁ (hmissing ▸ hsid)) fun requester v hsome => ?_
  obtain ⟨rfl, rfl⟩ := presentOr_eq_ok.mp hsome
  exact hf name requester _ hsid

/-- The admin in question. -/
theorem RefusesOnly.existingAdmin {β : Type} {P : Prop} {forumId userId : Int}
    {status : ℕ} {detail : String} {f : AdminRoles → EStateM RequestError ω β}
    (hf : ∀ role w₂, access.lookup forumId userId w = .ok (some role) w₂ →
      RefusesOnly (f role) w₂ P) :
    RefusesOnly (do
      let existingAdmin ← ResourceServer.calling (access.lookup forumId userId)
      let existingRole ← ResourceServer.presentOr (.refused .other status detail) existingAdmin
      f existingRole) w P := by
  refine .bind (.calling _) fun existing w₂ huser => ?_
  rw [calling_eq_ok] at huser
  refine .bind .presentOr_other fun role v hrole => ?_
  obtain ⟨rfl, rfl⟩ := presentOr_eq_ok.mp hrole
  exact hf role _ huser

/-- An endpoint that refuses for lack of a permission has seen it lacking. -/
theorem AdminCall.run_refusesOnly : RefusesOnly (c.run access) w (c.Lacks access w) := by
  have hwrite : ∀ v, RefusesOnly (c.write access) v (c.Lacks access w) :=
    fun v => AdminCall.write_refusesOnly
  unfold AdminCall.write at hwrite
  unfold AdminCall.run
  cases haction : c.action with
  | addAdmin role =>
      simp only [haction] at hwrite
      refine .requester (fun w₁ hnone => .inl ⟨w₁, hnone⟩) fun name requester w₁ hsid => ?_
      refine .bind (.unlessRaise fun hlacks => .inr ?_) fun _ _ _ => ?_
      · exact ⟨requester, none, w₁, w₁, addPermission role, hsid, .inr ⟨role, haction⟩,
          by rw [haction]; rfl, by simpa using hlacks⟩
      refine .bind (RefusesOnly.calling _) fun existing _ _ => ?_
      refine .bind RefusesOnly.unlessRaise_other fun _ _ _ => ?_
      refine .bind (RefusesOnly.raiseOrReturn _) fun user _ _ => ?_
      exact .bind RefusesOnly.unlessRaise_other fun _ v _ => hwrite v
  | removeAdmin =>
      simp only [haction] at hwrite
      refine .requester (fun w₁ hnone => .inl ⟨w₁, hnone⟩) fun name requester w₁ hsid => ?_
      refine .existingAdmin fun role w₂ huser => ?_
      refine .bind RefusesOnly.unlessRaise_other fun _ _ _ => ?_
      refine .bind (.unlessRaise fun hlacks => .inr ?_) fun _ v _ => hwrite v
      exact ⟨requester, some role, _, _, removePermission role, hsid, .inl huser,
        by rw [haction]; rfl, by simpa using hlacks⟩
  | editAdminPermissions new =>
      simp only [haction] at hwrite
      refine .requester (fun w₁ hnone => .inl ⟨w₁, hnone⟩) fun name requester w₁ hsid => ?_
      refine .existingAdmin fun role w₂ huser => ?_
      refine .bind RefusesOnly.unlessRaise_other fun _ _ _ => ?_
      refine .bind RefusesOnly.unlessRaise_other fun _ _ _ => ?_
      refine .bind RefusesOnly.unlessRaise_other fun _ _ h => ?_
      obtain ⟨_, rfl⟩ := unlessRaise_eq_ok.mp h
      refine .bind (.unlessRaise fun hlacks => .inr ?_) fun _ v _ => hwrite v
      exact ⟨requester, some role, _, _, editPermission new, hsid, .inl huser,
        by rw [haction]; rfl, by simpa using hlacks⟩

section
variable {I : ω → Prop}

theorem keeps_calling {x : EStateM Exn ω α} (h : Keeps I x) : Keeps I (calling x) := by
  intro v hI
  have hkept := h v hI
  unfold stateAfter calling at *
  cases hx : x v with
  | ok a v' => simpa only [hx] using hkept
  | error e v' => simpa only [hx] using hkept

theorem keeps_raiseOrReturn (result : Except Exn α) : Keeps I (raiseOrReturn result) := by
  intro v hI
  cases result with
  | ok a => exact hI
  | error e => exact hI

theorem keeps_presentOr (e : RequestError) (x : Option α) : Keeps I (presentOr e x) := by
  intro v hI
  cases x with
  | some a => exact hI
  | none => exact hI

theorem keeps_unlessRaise (p : Prop) [Decidable p] (e : RequestError) :
    Keeps I (unlessRaise p e) := by
  intro v hI
  unfold unlessRaise
  split
  · exact hI
  · exact hI

theorem keeps_existingForum (forumId : Int) (forum : Except Exn (Option α)) :
    Keeps I (existingForum forumId forum) :=
  (keeps_raiseOrReturn forum).bind fun _ => keeps_presentOr _ _

/-- An endpoint that raises has kept what its lookups keep. -/
theorem AdminCall.run_keepsOnError (hlookup : ∀ f u, Keeps I (access.lookup f u)) :
    KeepsOnError I (c.run access) := by
  have hwrite : KeepsOnError I (c.write access) := AdminCall.write_keepsOnError
  unfold AdminCall.write at hwrite
  unfold AdminCall.run
  cases haction : c.action with
  | addAdmin role =>
      simp only [haction] at hwrite
      refine .bind (keeps_existingForum _ _) fun _ => ?_
      refine .bind (keeps_calling (hlookup _ _)) fun _ => ?_
      refine .bind (keeps_presentOr _ _) fun _ => ?_
      refine .bind (keeps_unlessRaise _ _) fun _ => ?_
      refine .bind (keeps_calling (hlookup _ _)) fun _ => ?_
      refine .bind (keeps_unlessRaise _ _) fun _ => ?_
      refine .bind (keeps_raiseOrReturn _) fun _ => ?_
      exact .bind (keeps_unlessRaise _ _) fun _ => hwrite
  | removeAdmin =>
      simp only [haction] at hwrite
      refine .bind (keeps_existingForum _ _) fun _ => ?_
      refine .bind (keeps_calling (hlookup _ _)) fun _ => ?_
      refine .bind (keeps_presentOr _ _) fun _ => ?_
      refine .bind (keeps_calling (hlookup _ _)) fun _ => ?_
      refine .bind (keeps_presentOr _ _) fun _ => ?_
      refine .bind (keeps_unlessRaise _ _) fun _ => ?_
      exact .bind (keeps_unlessRaise _ _) fun _ => hwrite
  | editAdminPermissions role =>
      simp only [haction] at hwrite
      refine .bind (keeps_existingForum _ _) fun _ => ?_
      refine .bind (keeps_calling (hlookup _ _)) fun _ => ?_
      refine .bind (keeps_presentOr _ _) fun _ => ?_
      refine .bind (keeps_calling (hlookup _ _)) fun _ => ?_
      refine .bind (keeps_presentOr _ _) fun _ => ?_
      refine .bind (keeps_unlessRaise _ _) fun _ => ?_
      refine .bind (keeps_unlessRaise _ _) fun _ => ?_
      refine .bind (keeps_unlessRaise _ _) fun _ => ?_
      exact .bind (keeps_unlessRaise _ _) fun _ => hwrite

end

end

/-- One request, with lookups that return the current rows. -/
def adminStep (t : ForumAdmins) (c : AdminCall) : Option ForumAdmins :=
  some (stateAfter (c.run currentRoles) t)

/-- The forum has the owner and no other. -/
def SingleOwner (forumId owner : Int) (t : ForumAdmins) : Prop :=
  ∀ u, t forumId u = some .owner ↔ u = owner

/-- The request changes or removes only rows of a lower role than the requester's. -/
def RoleLaw (t : ForumAdmins) (c : AdminCall) : Prop :=
  ∀ f u role, t f u = some role → stateAfter (c.run currentRoles) t f u ≠ some role →
    ∃ requester, t f c.sid = some requester ∧ role.rank < requester.rank

/-- The request makes no user of the forum a super admin who is none. -/
def NoNewSuper (forumId : Int) (t : ForumAdmins) (c : AdminCall) : Prop :=
  ∀ u, t forumId u ≠ some .super → stateAfter (c.run currentRoles) t forumId u ≠ some .super

/-- The request is not made by the forum's owner. -/
def NotByOwner (forumId : Int) (t : ForumAdmins) (c : AdminCall) : Prop :=
  t forumId c.sid ≠ some .owner

/-- The forum is found, and the database accepts the write. -/
def AdminReads.Served (reads : AdminReads) : Prop :=
  (∃ name, reads.forum = .ok (some name)) ∧ reads.execute = .ok ()

/-- A super admin of the forum asks to promote one of its admins, and is served. -/
def SuperPromotes (forumId : Int) (t : ForumAdmins) (c : AdminCall) : Prop :=
  c.action = .editAdminPermissions .super ∧ c.forumId = forumId ∧
    t forumId c.sid = some .super ∧ t forumId c.userId = some .admin ∧ c.reads.Served

theorem lookup_currentRoles {t t' : ForumAdmins} {f u : Int} {row : Option AdminRoles} :
    currentRoles.lookup f u t = .ok row t' ↔ row = t f u ∧ t = t' := by
  simp [currentRoles, eq_comm]

/-- The write of a request that its checks have let through. -/
theorem write_currentRoles {t t' : ForumAdmins} {c : AdminCall} {requester : AdminRoles}
    {u : Unit} (hallows : c.action.Allows requester (t c.forumId c.userId))
    (hwrite : c.write currentRoles t = .ok u t') :
    c.reads.execute = .ok () ∧ t' = t.set c.forumId c.userId c.action.row := by
  unfold AdminCall.write at hwrite
  cases haction : c.action with
  | addAdmin role =>
      simp only [haction, addForumAdmin, currentRoles] at hwrite
      split at hwrite
      · cases hwrite
      · rename_i hexecute
        split at hwrite
        · cases hwrite
        · cases hwrite
          exact ⟨hexecute, rfl⟩
  | removeAdmin =>
      simp only [haction, removeForumAdmin, currentRoles] at hwrite
      split at hwrite
      · cases hwrite
      · rename_i hexecute
        cases hwrite
        exact ⟨hexecute, rfl⟩
  | editAdminPermissions new =>
      rw [haction] at hallows
      -- the update writes only a row that is there, as the checks have seen
      obtain ⟨role, hrole, _⟩ := hallows
      simp only [haction, updateAdminRole, currentRoles, hrole] at hwrite
      split at hwrite
      · cases hwrite
      · rename_i hexecute
        cases hwrite
        exact ⟨hexecute, rfl⟩

/-- All that a request does to the table: nothing, or it writes one row that its checks
have let through. -/
theorem adminStep_cases (t : ForumAdmins) (c : AdminCall) :
    stateAfter (c.run currentRoles) t = t ∨
    ∃ requester, c.reads.Served ∧ t c.forumId c.sid = some requester ∧
      c.action.Allows requester (t c.forumId c.userId) ∧
      stateAfter (c.run currentRoles) t = t.set c.forumId c.userId c.action.row := by
  cases h : c.run currentRoles t with
  -- lookups change no row and a write that raises none, so neither does the request
  | error e t' =>
      left
      have hkeeps : KeepsOnError (fun v => v = t) (c.run currentRoles) :=
        AdminCall.run_keepsOnError fun _ _ _ hv => hv
      rw [stateAfter_of_error h]
      exact hkeeps t e t' rfl h
  -- the lookups have seen the rows of the table before the request
  | ok u t' =>
      right
      obtain ⟨name, requester, existing, _, _, hforum, hsid, huser, hallows, hwrite⟩ :=
        AdminCall.run_eq_ok h
      obtain ⟨hrow, rfl⟩ := lookup_currentRoles.mp hsid
      obtain ⟨rfl, rfl⟩ := lookup_currentRoles.mp huser
      obtain ⟨hexecute, ht'⟩ := write_currentRoles hallows hwrite
      refine ⟨requester, ⟨⟨name, hforum⟩, hexecute⟩, hrow.symm, hallows, ?_⟩
      rw [stateAfter_of_ok h]
      exact ht'

theorem ForumAdmins.set_self (t : ForumAdmins) (f u : Int) (row : Option AdminRoles) :
    t.set f u row f u = row := by
  simp [ForumAdmins.set]

theorem ForumAdmins.set_ne {t : ForumAdmins} {f u f' u' : Int} {row : Option AdminRoles}
    (h : ¬ (f' = f ∧ u' = u)) : t.set f u row f' u' = t f' u' := by
  simp [ForumAdmins.set, h]

/-- The checks let through only what concerns an admin of a lower role. -/
theorem AdminAction.Allows.rank_lt {action : AdminAction} {requester role : AdminRoles}
    (h : action.Allows requester (some role)) : role.rank < requester.rank := by
  cases action with
  | addAdmin new => cases h.2
  | removeAdmin =>
      obtain ⟨_, hrole, howner, hpermission⟩ := h
      cases hrole
      -- the roles are few: the permissions of each are compared
      revert howner hpermission
      cases requester <;> cases role <;> decide
  | editAdminPermissions new =>
      obtain ⟨_, hrole, howner, hchange, hpeer, hpermission⟩ := h
      cases hrole
      revert howner hchange hpeer hpermission
      cases requester <;> cases role <;> cases new <;> decide

/-- No write makes an owner, and none concerns one. -/
theorem AdminAction.row_ne_owner (action : AdminAction) : action.row ≠ some .owner := by
  cases action with
  | addAdmin role => cases role <;> decide
  | removeAdmin => decide
  | editAdminPermissions role => cases role <;> decide

theorem AdminAction.Allows.existing_ne_owner {action : AdminAction} {requester : AdminRoles}
    {existing : Option AdminRoles} (h : action.Allows requester existing) :
    existing ≠ some .owner := by
  rintro rfl
  have hrank := h.rank_lt
  cases requester <;> simp [AdminRoles.rank] at hrank

/-- A request leaves every owner in place and makes none. -/
theorem adminStep_owner (t : ForumAdmins) (c : AdminCall) (f u : Int) :
    stateAfter (c.run currentRoles) t f u = some .owner ↔ t f u = some .owner := by
  rcases adminStep_cases t c with h | ⟨requester, _, _, hallows, h⟩
  · rw [h]
  · rw [h]
    by_cases hkey : f = c.forumId ∧ u = c.userId
    · obtain ⟨rfl, rfl⟩ := hkey
      rw [ForumAdmins.set_self]
      exact iff_of_false c.action.row_ne_owner hallows.existing_ne_owner
    · rw [ForumAdmins.set_ne hkey]

theorem adminStep_roleLaw (t : ForumAdmins) (c : AdminCall) : RoleLaw t c := by
  intro f u role hrole hchanged
  rcases adminStep_cases t c with h | ⟨requester, _, hrequester, hallows, h⟩
  · rw [h] at hchanged
    exact absurd hrole hchanged
  · rw [h] at hchanged
    by_cases hkey : f = c.forumId ∧ u = c.userId
    · obtain ⟨rfl, rfl⟩ := hkey
      rw [hrole] at hallows
      exact ⟨requester, hrequester, hallows.rank_lt⟩
    · rw [ForumAdmins.set_ne hkey] at hchanged
      exact absurd hrole hchanged

/-- In every run of requests the owner of a forum stays its only owner, and every request
changes and removes only rows of a lower role than the requester's current one. -/
theorem forum_role_law {forumId owner : Int} {t : ForumAdmins}
    (howner : SingleOwner forumId owner t) (calls : List AdminCall) :
    Always adminStep (SingleOwner forumId owner) t calls ∧
      EachStep adminStep RoleLaw t calls := by
  have halways : Always adminStep (SingleOwner forumId owner) t calls := by
    refine always_of_preserved (fun s c s' hs hstep u => ?_) calls t howner
    cases hstep
    rw [adminStep_owner]
    exact hs u
  exact ⟨halways, eachStep_of_always (fun s c _ => adminStep_roleLaw s c) halways⟩

/-- Forum 1 with its owner 1, the super admin 2 and the admin 3. -/
def threeAdmins : ForumAdmins := fun f u =>
  if f = 1 then
    if u = 1 then some .owner else if u = 2 then some .super else if u = 3 then some .admin
    else none
  else none

/-- A request in forum 1 that finds what it looks for. -/
def servedCall (action : AdminAction) (sid userId : Int) : AdminCall where
  action := action
  forumId := 1
  sid := sid
  userId := userId
  reads := ⟨.ok (some (.ok "one_piece")), .ok true, .ok ()⟩

theorem threeAdmins_role_law :
    Always adminStep (SingleOwner 1 1) threeAdmins
      [servedCall (.addAdmin .admin) 2 4, servedCall .removeAdmin 1 2] ∧
    EachStep adminStep RoleLaw threeAdmins
      [servedCall (.addAdmin .admin) 2 4, servedCall .removeAdmin 1 2] :=
  forum_role_law (by
    intro u
    unfold threeAdmins
    by_cases h1 : u = 1
    · simp [h1]
    · by_cases h2 : u = 2
      · simp [h2]
      · by_cases h3 : u = 3
        · simp [h3]
        · simp [h1, h2, h3]) _

/-- Without the owner, the checks let a row become one of a super admin only when a super
admin promotes an admin. -/
theorem AdminAction.Allows.promotes {action : AdminAction} {requester : AdminRoles}
    {existing : Option AdminRoles} (h : action.Allows requester existing)
    (howner : requester ≠ .owner) (hrow : action.row = some .super) :
    action = .editAdminPermissions .super ∧ requester = .super ∧ existing = some .admin := by
  cases action with
  | addAdmin role =>
      obtain ⟨hpermission, rfl⟩ := h
      revert howner hrow hpermission
      cases role <;> cases requester <;> decide
  | removeAdmin => cases hrow
  | editAdminPermissions new =>
      obtain ⟨role, rfl, hnot, hchange, hpeer, hpermission⟩ := h
      revert howner hrow hnot hchange hpeer hpermission
      cases new <;> cases requester <;> cases role <;> decide

/-- A promotion by a super admin goes through. -/
theorem SuperPromotes.run_eq {forumId : Int} {t : ForumAdmins} {c : AdminCall}
    (h : SuperPromotes forumId t c) :
    c.run currentRoles t = .ok () (t.set forumId c.userId (some .super)) := by
  obtain ⟨haction, rfl, hsid, huser, ⟨name, hforum⟩, hexecute⟩ := h
  simp only [AdminCall.run, haction, editAdminPermissions, bind_eq_ok, existingForum_eq_ok,
    presentOr_eq_ok, unlessRaise_eq_ok, calling_eq_ok]
  refine ⟨name, t, ⟨hforum, rfl⟩, some .super, t, lookup_currentRoles.mpr ⟨hsid.symm, rfl⟩,
    .super, t, ⟨rfl, rfl⟩, some .admin, t, lookup_currentRoles.mpr ⟨huser.symm, rfl⟩,
    .admin, t, ⟨rfl, rfl⟩, (), t, ⟨by decide, rfl⟩, (), t, ⟨by decide, rfl⟩, (), t,
    ⟨by decide, rfl⟩, (), t, ⟨by decide, rfl⟩, ?_⟩
  simp [updateAdminRole, currentRoles, hexecute, huser, AssignableRole.role]

/-- A request that is not the owner's makes no new super admin exactly when it is not a
promotion by a super admin. -/
theorem adminStep_noNewSuper_iff {forumId : Int} {t : ForumAdmins} {c : AdminCall}
    (howner : NotByOwner forumId t c) :
    NoNewSuper forumId t c ↔ ¬ SuperPromotes forumId t c := by
  constructor
  · intro hnone hpromotes
    have hadmin : t forumId c.userId ≠ some .super := by
      rw [hpromotes.2.2.2.1]
      decide
    have hsuper := hnone c.userId hadmin
    rw [stateAfter_of_ok hpromotes.run_eq, ForumAdmins.set_self] at hsuper
    exact hsuper rfl
  -- the one row that is written is that of the user in question
  · intro hnot u hu hsuper
    rcases adminStep_cases t c with h | ⟨requester, hserved, hrequester, hallows, h⟩
    · rw [h] at hsuper
      exact hu hsuper
    · rw [h] at hsuper
      by_cases hkey : forumId = c.forumId ∧ u = c.userId
      · obtain ⟨rfl, rfl⟩ := hkey
        rw [ForumAdmins.set_self] at hsuper
        have hne : requester ≠ .owner := by
          rintro rfl
          exact howner hrequester
        obtain ⟨haction, rfl, hadmin⟩ := hallows.promotes hne hsuper
        exact hnot ⟨haction, rfl, hrequester, hadmin, hserved⟩
      · rw [ForumAdmins.set_ne hkey] at hsuper
        exact hu hsuper

/-- In a run of requests none of which is the owner's, no user of the forum becomes a super
admin if and only if no step is a promotion by a super admin. -/
theorem eachStep_noNewSuper_iff {forumId : Int} {t : ForumAdmins} {calls : List AdminCall}
    (howner : EachStep adminStep (NotByOwner forumId) t calls) :
    EachStep adminStep (NoNewSuper forumId) t calls ↔
      EachStep adminStep (fun s c => ¬ SuperPromotes forumId s c) t calls :=
  eachStep_congr_of (fun _ _ _ _ h => adminStep_noNewSuper_iff h) howner

theorem super_run_not_by_owner :
    EachStep adminStep (NotByOwner 1) threeAdmins
      [servedCall (.editAdminPermissions .super) 2 3] :=
  fun _ _ => ⟨by unfold NotByOwner; decide, trivial⟩

theorem super_run_noNewSuper_iff :
    EachStep adminStep (NoNewSuper 1) threeAdmins
      [servedCall (.editAdminPermissions .super) 2 3] ↔
    EachStep adminStep (fun s c => ¬ SuperPromotes 1 s c) threeAdmins
      [servedCall (.editAdminPermissions .super) 2 3] :=
  eachStep_noNewSuper_iff super_run_not_by_owner

/-- The super admin makes the admin a super admin, and the owner has not asked for it.  The
lookup of the forum gives an object while a sentinel of before its creation is cached, as the
names in the reply are bytes; with nothing cached the leader raises an `AttributeError`. -/
theorem super_makes_super :
    EachStep adminStep (NotByOwner 1) threeAdmins
      [servedCall (.editAdminPermissions .super) 2 3] ∧
    ¬ EachStep adminStep (NoNewSuper 1) threeAdmins
      [servedCall (.editAdminPermissions .super) 2 3] := by
  refine ⟨super_run_not_by_owner, fun h => ?_⟩
  have hpromotes : SuperPromotes 1 threeAdmins (servedCall (.editAdminPermissions .super) 2 3) :=
    ⟨rfl, rfl, by decide, by decide, ⟨_, rfl⟩, rfl⟩
  exact (adminStep_noNewSuper_iff (by unfold NotByOwner; decide)).mp (h _ rfl).1 hpromotes

end ResourceServer
end Tenjin
