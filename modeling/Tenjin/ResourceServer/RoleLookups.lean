import Tenjin.ResourceServer.Endpoints
import Tenjin.ResourceServer.ForumAdmins
import Tenjin.ResourceServer.Lookups

/-!
# Role lookups through the cache

The endpoints that ask for an admin permission, over the table `forum_admins` and the cache
entries of its rows.  Every lookup is a `distributed_get_or_load`; the writes of
`repositories/forum.py` go to the table and leave the entries as they are.

* `RoleWorld` is the table, the entries with the times at which they expire, and the time.
* `cachedLookup` is the lookup, made of the parts of `CacheReads`; `cachedLookup_looksUp`
  says that it ends as a call of the cache manager does.
* `Authorised` is the purpose of a step: what is carried out is granted by the current rows,
  and what they grant is not refused for lack of a permission.
* `eachStep_authorised` — every step is authorised in a run in which no live entry gives an
  answer that differs from its row, and no plain admin is let through by `edit_forum`.
* `lookupCurrent_of_bytes` — with a client that returns bytes no entry answers with another
  row.
-/

namespace Tenjin
namespace ResourceServer

open Python Foundation

/-- The cache manager's settings with the lifetimes of entries, in seconds. -/
structure RoleCacheSettings extends CacheSettings where
  ttlCap : ℕ
  ttlPromotion : ℕ
  ttlStrong : ℕ
  ttlEphemeral : ℕ

/-- The table, the entry of each row with the time at which it expires, and the time. -/
structure RoleWorld where
  admins : ForumAdmins
  entries : Int → Int → Option (CacheEntry × ℕ)
  now : ℕ

/-- The entry of a row, unless it has expired. -/
def RoleWorld.live (w : RoleWorld) (f u : Int) : Option (CacheEntry × ℕ) :=
  (w.entries f u).filter fun entry => w.now < entry.2

/-- `HSET` and `EXPIRE`. -/
def RoleWorld.store (w : RoleWorld) (f u : Int) (entry : CacheEntry) (ttl : ℕ) : RoleWorld :=
  { w with
    entries := fun f' u' =>
      if f' = f ∧ u' = u then some (entry, w.now + ttl) else w.entries f' u' }

/-- `role` of a `ForumAdminResult`. -/
def Dto.adminRole (dto : Dto) : Except Exn AdminRoles :=
  match dto.lookup "role" with
  | some (.value (.str "ADMIN")) => .ok .admin
  | some (.value (.str "SUPER")) => .ok .super
  | some (.value (.str "OWNER")) => .ok .owner
  | _ => .error .attributeError

/-- What the endpoints make of an outcome of the lookup. -/
def outcomeRole : Except Exn (Option Dto) → Except Exn (Option AdminRoles)
  | .error e => .error e
  | .ok none => .ok none
  | .ok (some dto) => (Dto.adminRole dto).map some

/-- A row as SQLAlchemy loads it. -/
def adminRow (f u : Int) (role : AdminRoles) : Row := fun name =>
  if name = "forum_id" then .value (.int f)
  else if name = "user_id" then .value (.int u)
  else .value (.str role.value)

/-- What is cached for a row. -/
def adminItems (f u : Int) (role : AdminRoles) : List (String × String) :=
  [("forum_id", toString f), ("user_id", toString u), ("role", role.value)]

section
variable (settings : RoleCacheSettings)

/-- `_fetch_from_cache` up to its second command. -/
def fetchRole (w : RoleWorld) (f u : Int) : Except Exn Fetched :=
  fetchFromCache settings.toCacheSettings .mapping ResultType.forumAdminResult.counterFieldsMap
    (fun _ => none) ((w.live f u).map Prod.fst)

/-- What the cache answers, if it does. -/
def cachedAnswer (w : RoleWorld) (f u : Int) : Option (Except Exn (Option AdminRoles)) :=
  (cachedResult settings.toCacheSettings .mapping ResultType.forumAdminResult.counterFieldsMap
    (fun _ => none) .forumAdminResult ((w.live f u).map Prod.fst)).map outcomeRole

/-- The sentinel as a mapping. -/
def nfMapping : CacheEntry :=
  .hash [(settings.nfSentinelKey, settings.nfSentinelValue)]

/-- The leader's part: the row is loaded and cached, or its absence is. -/
def loadRole (f u : Int) : EStateM Exn RoleWorld (Option AdminRoles) := fun w =>
  match w.admins f u with
  | none => .ok none (w.store f u (nfMapping settings) settings.ttlEphemeral)
  | some role =>
      .ok (some role) (w.store f u (.hash (adminItems f u role)) settings.ttlStrong)

/-- What the first part of the lookup does to the entry: a sentinel is written again, and
an entry that is found is promoted. -/
def touchRole (w : RoleWorld) (f u : Int) : RoleWorld :=
  match fetchRole settings w f u, w.live f u with
  | .ok .negative, _ => w.store f u (nfMapping settings) settings.ttlEphemeral
  -- the lifetime grows by the promotion with every hit, up to the cap
  | .ok (.found _), some (entry, expires) =>
      w.store f u entry (min settings.ttlCap (settings.ttlPromotion + (expires - w.now)))
  -- what is missing or cannot be read is left alone
  | _, _ => w

/-- `distributed_get_or_load` of a row.  Requests follow one another, so a call that finds
nothing becomes the leader. -/
def cachedLookup (f u : Int) : EStateM Exn RoleWorld (Option AdminRoles) := fun w =>
  match cachedAnswer settings w f u with
  | some (.ok row) => .ok row (touchRole settings w f u)
  | some (.error e) => .error e (touchRole settings w f u)
  | none => loadRole settings f u (touchRole settings w f u)

/-- The access through the cache: writes leave the entries as they are. -/
def cachedRoles : RoleAccess RoleWorld where
  lookup := cachedLookup settings
  admins w := w.admins
  setAdmins t w := { w with admins := t }

end

/-- The object that is made of a row. -/
def adminDto (f u : Int) (role : AdminRoles) : Dto :=
  [("role", .value (.str role.value)), ("forum_id", .value (.int f)),
    ("user_id", .value (.int u))]

theorem storedItems_adminDto (f u : Int) (role : AdminRoles) :
    storedItems .forumAdminResult (adminDto f u role) = .ok (adminItems f u role) := by
  have hforum : stripUnderscores "forum_id" = "forum_id" := by decide
  have huser : stripUnderscores "user_id" = "user_id" := by decide
  have hrole : stripUnderscores "role" = "role" := by decide
  simp [adminDto, storedItems, cacheRepr, ResultType.fields, cacheItem, Dto.getattr,
    castCacheValue, encodeMapping, encodeAttr, adminItems, hforum, huser, hrole, bind,
    Except.bind, pure, Except.pure, List.lookup_cons]

/-- The leader's result for a row is an object with its role, and it can be cached. -/
theorem leaderResult_adminRow (settings : CacheSettings) (f u : Int) (role : AdminRoles) :
    leaderResult settings .forumAdminResult (adminRow f u role) =
      .ok (some (adminDto f u role)) ∧
    Dto.adminRole (adminDto f u role) = .ok role := by
  constructor
  · have hmade : constructFromOrm settings.toResultRuntime .forumAdminResult
        (adminRow f u role) = .ok (adminDto f u role) := by
      cases role <;> rfl
    unfold leaderResult
    rw [hmade]
    show (storedItems .forumAdminResult (adminDto f u role) >>= fun _ => _) = _
    rw [storedItems_adminDto]
    rfl
  · cases role <;> rfl

/-- The attributes of a looked-up object that the endpoints read. -/
structure LoadedResource where
  authorId : Int
  /-- The forum of a post or of a comment. -/
  forumId : Int
  /-- `name_` of a forum. -/
  title : String

/-- The check of `delete_post` and `delete_comment` on a requester who is not the author. -/
def requireAuthorOr {ω : Type} (access : RoleAccess ω) (sid : Int) (resource : LoadedResource)
    (permission : AdminPermissions) (notAdmin noPermission : String) :
    EStateM RequestError ω Unit := do
  if sid ≠ resource.authorId then
    let forumAdmin ← calling (access.lookup resource.forumId sid)
    let role ← presentOr (.refused .permission 403 notAdmin) forumAdmin
    unlessRaise (checkPermission role permission) (.refused .permission 403 noPermission)
  else pure ()

/-- The endpoints' check, on an object that has the attributes. -/
theorem checkRights_loaded (r : Request) (v : Reads) (forumField notAdmin noPermission : String)
    {resource : Dto} {loaded : LoadedResource} {allowed : Option Bool}
    (hauthor : resource.number "author_id" = .ok loaded.authorId)
    (hforum : resource.number forumField = .ok loaded.forumId)
    (hadmin : v.forumAdmin = .ok allowed) :
    checkRights r v resource forumField notAdmin noPermission =
      if r.sid = loaded.authorId then .ok ()
      else
        allowed.elim (.error (.httpException 403 notAdmin)) fun ok =>
          if ok then .ok () else .error (.httpException 403 noPermission) := by
  unfold checkRights
  rw [hauthor, hforum, hadmin]
  cases allowed with
  | none => rfl
  | some ok => cases ok <;> rfl

/-- With current lookups the check raises what the endpoints' `checkRights` does on an object
that has the attributes. -/
theorem requireAuthorOr_currentRoles (t : ForumAdmins) (r : Request) (v : Reads)
    (permission : AdminPermissions) (forumField notAdmin noPermission : String)
    {resource : Dto} {loaded : LoadedResource}
    (hauthor : resource.number "author_id" = .ok loaded.authorId)
    (hforum : resource.number forumField = .ok loaded.forumId)
    (hadmin : v.forumAdmin =
      .ok ((t loaded.forumId r.sid).map fun role => checkPermission role permission)) :
    requireAuthorOr currentRoles r.sid loaded permission notAdmin noPermission t =
      match checkRights r v resource forumField notAdmin noPermission with
      | .error (.httpException status detail) => .error (.refused .permission status detail) t
      | .error e => .error (.failed e) t
      | .ok () => .ok () t := by
  rw [checkRights_loaded r v forumField notAdmin noPermission hauthor hforum hadmin]
  unfold requireAuthorOr
  by_cases hself : r.sid = loaded.authorId
  · simp only [hself, ne_eq, not_true_eq_false, if_false, if_true]
    rfl
  · simp only [ne_eq, hself, not_false_eq_true, if_true, if_false]
    have hlookup : calling (currentRoles.lookup loaded.forumId r.sid) t =
        .ok (t loaded.forumId r.sid) t := rfl
    rw [bind_of_ok hlookup]
    cases hrow : t loaded.forumId r.sid with
    | none => rfl
    | some role =>
        rw [bind_of_ok (presentOr_eq_ok.mpr ⟨rfl, rfl⟩)]
        unfold unlessRaise
        cases hpermission : checkPermission role permission with
        | true =>
            simp only [Option.map_some, hpermission, if_true]
            rfl
        | false =>
            simp only [Option.map_some, hpermission, Bool.false_eq_true, if_false]
            rfl

/-- What `guard_action` does in front of the body. -/
def passGuard {ω : Type} : GuardOutcome → EStateM RequestError ω Unit
  | .rejected e => raiseOrReturn (.error e)
  | .entered _ => raiseOrReturn (.ok ())

/-- What a request meets besides the roles: the lookup of its resource, the guard, and what
the event streamer or the database answers to the effect. -/
structure ModerationReads where
  resource : Except Exn (Option LoadedResource)
  guard : GuardOutcome
  execute : Except Exn Unit

section
variable {ω : Type} (access : RoleAccess ω)

/-- `delete_post`, up to the emission of its event. -/
def deletePostAs (sid postId : Int) (reads : ModerationReads) : EStateM RequestError ω Unit := do
  let found ← raiseOrReturn reads.resource
  let post ← presentOr (.refused .other 404 s!"No post with id {postId} found") found
  passGuard reads.guard
  requireAuthorOr access sid post .deletePost "Only author and admins can delete post"
    "Insufficient permissions to delete post"
  raiseOrReturn reads.execute

/-- `delete_comment`, up to the emission of its event. -/
def deleteCommentAs (sid : Int) (reads : ModerationReads) : EStateM RequestError ω Unit := do
  let found ← raiseOrReturn reads.resource
  let comment ← presentOr (.refused .other 404 "Comment not found") found
  requireAuthorOr access sid comment .deleteComment
    "Only author and admins can delete comments" "Insufficient permissions to delete comment"
  passGuard reads.guard
  raiseOrReturn reads.execute

/-- `edit_forum`, up to its commit.  The role is compared with a text that no role has. -/
def editForum (forumId sid : Int) (reads : ModerationReads) : EStateM RequestError ω Unit := do
  let found ← raiseOrReturn reads.resource
  let _ ← presentOr (.refused .other 404 s!"No forum with ID {forumId} exists") found
  let adminRole ← calling (access.lookup forumId sid)
  let role ← presentOr (.refused .permission 403 "You are not an admin for this forum") adminRole
  -- no permission is asked for
  unlessRaise (role.value ≠ "staff")
    (.refused .permission 403 "You do not have access rights to edit this forum")
  raiseOrReturn reads.execute

end

/-- A request to an endpoint that asks for an admin permission. -/
inductive PrivilegedCall
  | admin (call : AdminCall)
  | deletePost (sid postId : Int) (reads : ModerationReads)
  | deleteComment (sid : Int) (reads : ModerationReads)
  | editForum (forumId sid : Int) (reads : ModerationReads)

/-- The endpoint of the request. -/
def PrivilegedCall.run {ω : Type} (access : RoleAccess ω) :
    PrivilegedCall → EStateM RequestError ω Unit
  | .admin call => call.run access
  | .deletePost sid postId reads => deletePostAs access sid postId reads
  | .deleteComment sid reads => deleteCommentAs access sid reads
  | .editForum forumId sid reads => ResourceServer.editForum access forumId sid reads

/-- A user's row grants a permission. -/
def Grants (t : ForumAdmins) (f u : Int) (permission : AdminPermissions) : Prop :=
  ∃ role, t f u = some role ∧ checkPermission role permission = true

/-- The current rows entitle the requester to what the request asks for. -/
def PrivilegedCall.Entitled (t : ForumAdmins) : PrivilegedCall → Prop
  | .admin call => ∃ permission, call.action.needs (t call.forumId call.userId) =
      some permission ∧ Grants t call.forumId call.sid permission
  | .deletePost sid _ reads => ∃ post, reads.resource = .ok (some post) ∧
      (sid = post.authorId ∨ Grants t post.forumId sid .deletePost)
  | .deleteComment sid reads => ∃ comment, reads.resource = .ok (some comment) ∧
      (sid = comment.authorId ∨ Grants t comment.forumId sid .deleteComment)
  | .editForum forumId sid _ => Grants t forumId sid .editForum

/-- What may happen. -/
inductive RoleLabel
  | request (call : PrivilegedCall)
  /-- A lookup that another endpoint makes. -/
  | lookup (f u : Int)
  /-- Time passes. -/
  | tick (seconds : ℕ)

section
variable (settings : RoleCacheSettings)

/-- One step. -/
def roleStep (w : RoleWorld) : RoleLabel → Option RoleWorld
  | .request call => some (stateAfter (call.run (cachedRoles settings)) w)
  | .lookup f u => some (stateAfter (cachedLookup settings f u) w)
  | .tick seconds => some { w with now := w.now + seconds }

/-- A request that is carried out is one that the current rows entitle to, and a request
that is refused for lack of a permission is not. -/
def Authorised (w : RoleWorld) (call : PrivilegedCall) : Prop :=
  (∀ u w', call.run (cachedRoles settings) w = .ok u w' → call.Entitled w.admins) ∧
    RefusesOnly (call.run (cachedRoles settings)) w (¬ call.Entitled w.admins)

/-- The purpose of a step. -/
def StepAuthorised (w : RoleWorld) : RoleLabel → Prop
  | .request call => Authorised settings w call
  | _ => True

/-- If a live entry answers for the row, its answer is the row. -/
def LookupCurrent (w : RoleWorld) (f u : Int) : Prop :=
  ∀ row, cachedAnswer settings w f u = some (.ok row) → row = w.admins f u

/-- The lookups of a request are answered with current rows, and `edit_forum` does not let
a plain admin through. -/
def CallCurrent (w : RoleWorld) : PrivilegedCall → Prop
  | .admin call =>
      LookupCurrent settings w call.forumId call.sid ∧
        LookupCurrent settings (stateAfter (cachedLookup settings call.forumId call.sid) w)
          call.forumId call.userId
  | .deletePost sid _ reads => ∀ post, reads.resource = .ok (some post) →
      sid ≠ post.authorId → LookupCurrent settings w post.forumId sid
  | .deleteComment sid reads => ∀ comment, reads.resource = .ok (some comment) →
      sid ≠ comment.authorId → LookupCurrent settings w comment.forumId sid
  | .editForum forumId sid reads =>
      LookupCurrent settings w forumId sid ∧
        ¬ (w.admins forumId sid = some .admin ∧
          (∃ forum, reads.resource = .ok (some forum)) ∧ reads.execute = .ok ())

/-- The condition on a step. -/
def StepCurrent (w : RoleWorld) : RoleLabel → Prop
  | .request call => CallCurrent settings w call
  | _ => True

end

section
variable {settings : RoleCacheSettings} {w w' : RoleWorld} {f u : Int}

theorem touchRole_admins : (touchRole settings w f u).admins = w.admins := by
  unfold touchRole
  split <;> rfl

/-- A lookup answers from the cache or with the row, and changes no row. -/
theorem cachedLookup_eq_ok {row : Option AdminRoles}
    (h : cachedLookup settings f u w = .ok row w') :
    (cachedAnswer settings w f u = some (.ok row) ∨ row = w.admins f u) ∧
      w'.admins = w.admins := by
  unfold cachedLookup at h
  split at h
  · rename_i answer hanswer
    cases h
    exact ⟨.inl hanswer, touchRole_admins⟩
  · cases h
  · unfold loadRole at h
    rw [touchRole_admins] at h
    split at h
    · rename_i hnone
      cases h
      exact ⟨.inr hnone.symm, touchRole_admins⟩
    · rename_i role hrole
      cases h
      exact ⟨.inr hrole.symm, touchRole_admins⟩

/-- It ends as a lookup of the cache manager does, with the role of the object. -/
theorem cachedLookup_looksUp (settings : RoleCacheSettings) (w : RoleWorld) (f u : Int) :
    ∃ outcome, LooksUp settings.toCacheSettings .mapping .forumAdminResult outcome ∧
      match cachedLookup settings f u w with
      | .ok row _ => outcomeRole outcome = .ok row
      | .error e _ => outcomeRole outcome = .error e := by
  unfold cachedLookup
  cases hanswer : cachedAnswer settings w f u with
  | some answer =>
      obtain ⟨outcome, hcached, hrole⟩ := Option.map_eq_some_iff.mp hanswer
      refine ⟨outcome, .cached hcached, ?_⟩
      cases answer with
      | ok row => exact hrole
      | error e => exact hrole
  | none =>
      dsimp only
      unfold loadRole
      rw [touchRole_admins]
      cases hrow : w.admins f u with
      | none => exact ⟨.ok none, .missing, rfl⟩
      | some role =>
          obtain ⟨hloaded, hrole⟩ := leaderResult_adminRow settings.toCacheSettings f u role
          refine ⟨_, .leader (adminRow f u role), ?_⟩
          rw [hloaded]
          show (Dto.adminRole (adminDto f u role)).map some = .ok (some role)
          rw [hrole]
          rfl

theorem LookupCurrent.eq {row : Option AdminRoles} (hcurrent : LookupCurrent settings w f u)
    (h : cachedLookup settings f u w = .ok row w') : row = w.admins f u := by
  rcases (cachedLookup_eq_ok h).1 with hanswer | hrow
  · exact hcurrent row hanswer
  · exact hrow

/-- The same for a lookup that follows another one. -/
theorem LookupCurrent.eq_after {f' u' : Int} {row row' : Option AdminRoles} {w'' : RoleWorld}
    (hcurrent : LookupCurrent settings (stateAfter (cachedLookup settings f u) w) f' u')
    (hfirst : cachedLookup settings f u w = .ok row w')
    (h : cachedLookup settings f' u' w' = .ok row' w'') : row' = w.admins f' u' := by
  rw [stateAfter_of_ok hfirst] at hcurrent
  rw [hcurrent.eq h, (cachedLookup_eq_ok hfirst).2]

end

/-- What the checks let through has the permission that is needed. -/
theorem AdminAction.Allows.exists_needs {action : AdminAction} {requester : AdminRoles}
    {existing : Option AdminRoles} (h : action.Allows requester existing) :
    ∃ permission, action.needs existing = some permission ∧
      checkPermission requester permission = true := by
  cases action with
  | addAdmin role => exact ⟨_, rfl, h.1⟩
  | removeAdmin =>
      obtain ⟨role, rfl, _, hpermission⟩ := h
      exact ⟨_, rfl, hpermission⟩
  | editAdminPermissions new =>
      obtain ⟨role, rfl, _, _, _, hpermission⟩ := h
      exact ⟨_, rfl, hpermission⟩

section
variable {settings : RoleCacheSettings} {w w' : RoleWorld}

/-- With current answers the three endpoints for admins are authorised. -/
theorem authorised_admin {c : AdminCall} (h : CallCurrent settings w (.admin c)) :
    Authorised settings w (.admin c) := by
  obtain ⟨hsidCurrent, huserCurrent⟩ := h
  constructor
  · intro u w' hrun
    obtain ⟨_, requester, existing, w₁, w₂, _, hsid, huser, hallows, _⟩ :=
      AdminCall.run_eq_ok hrun
    have hrequester := hsidCurrent.eq hsid
    have hexisting := huserCurrent.eq_after hsid huser
    obtain ⟨permission, hneeds, hpermission⟩ := hallows.exists_needs
    exact ⟨permission, hexisting ▸ hneeds, requester, hrequester.symm, hpermission⟩
  · intro status detail w' hrun
    rintro ⟨permission, hneeds, role, hrole, hpermission⟩
    rcases AdminCall.run_refusesOnly status detail w' hrun with
      ⟨w₁, hnone⟩ | ⟨requester, existing, w₁, w₂, needed, hsid, huser, hneeded, hlacks⟩
    · rw [← hsidCurrent.eq hnone] at hrole
      cases hrole
    · have hrequester := hsidCurrent.eq hsid
      rw [hrole] at hrequester
      cases hrequester
      -- `add_admin` decides before the second lookup, by the role that is asked for
      have hsame : needed = permission := by
        rcases huser with huser | ⟨new, hnew⟩
        · rw [huserCurrent.eq_after hsid huser, hneeds] at hneeded
          exact (Option.some.inj hneeded).symm
        · rw [hnew] at hneeded hneeds
          exact (Option.some.inj hneeded).symm.trans (Option.some.inj hneeds)
      rw [hsame, hpermission] at hlacks
      cases hlacks

/-- The check on a requester who is not the author, with a current answer. -/
theorem requireAuthorOr_authorised {sid : Int} {resource : LoadedResource}
    {permission : AdminPermissions} {notAdmin noPermission : String}
    (hcurrent : sid ≠ resource.authorId →
      LookupCurrent settings w resource.forumId sid) :
    (∀ u w', requireAuthorOr (cachedRoles settings) sid resource permission notAdmin
        noPermission w = .ok u w' →
      sid = resource.authorId ∨ Grants w.admins resource.forumId sid permission) ∧
    RefusesOnly (requireAuthorOr (cachedRoles settings) sid resource permission notAdmin
        noPermission) w
      (¬ (sid = resource.authorId ∨ Grants w.admins resource.forumId sid permission)) := by
  unfold requireAuthorOr
  by_cases hauthor : sid = resource.authorId
  · simp only [hauthor, ne_eq, not_true_eq_false, if_false, true_or, implies_true, true_and]
    intro status detail w' h
    cases h
  -- only for somebody else than the author is the role looked up
  · have hlookup := hcurrent hauthor
    simp only [ne_eq, hauthor, not_false_eq_true, if_true, false_or]
    constructor
    · intro u w' h
      simp only [bind_eq_ok, calling_eq_ok, presentOr_eq_ok, unlessRaise_eq_ok] at h
      obtain ⟨_, w₁, hsid, role, _, ⟨rfl, rfl⟩, hpermission, _⟩ := h
      exact ⟨role, (hlookup.eq hsid).symm, hpermission⟩
    · refine .bind (RefusesOnly.calling _) fun found w₁ hsid => ?_
      rw [calling_eq_ok] at hsid
      have hrow := hlookup.eq hsid
      refine .bind (.presentOr fun hnone => ?_) fun role v hsome => ?_
      · rintro ⟨role, hrole, _⟩
        rw [← hrow, hnone] at hrole
        cases hrole
      · obtain ⟨rfl, rfl⟩ := presentOr_eq_ok.mp hsome
        refine .unlessRaise fun hlacks => ?_
        rintro ⟨role', hrole', hpermission⟩
        rw [← hrow] at hrole'
        cases hrole'
        exact hlacks hpermission

theorem passGuard_refusesOnly {ω : Type} {P : Prop} (guard : GuardOutcome) (v : ω) :
    RefusesOnly (passGuard guard) v P := by
  cases guard with
  | rejected e => exact RefusesOnly.raiseOrReturn (.error e)
  | entered latestIntent => exact RefusesOnly.raiseOrReturn (.ok ())

theorem passGuard_eq_ok {ω : Type} {guard : GuardOutcome} {v v' : ω} {u : Unit}
    (h : passGuard guard v = .ok u v') : v' = v := by
  cases guard with
  | rejected e => cases h
  | entered latestIntent =>
      cases h
      rfl

theorem authorised_deletePost {sid postId : Int} {reads : ModerationReads}
    (h : CallCurrent settings w (.deletePost sid postId reads)) :
    Authorised settings w (.deletePost sid postId reads) := by
  constructor
  · intro u w' hrun
    simp only [PrivilegedCall.run, deletePostAs, bind_eq_ok, raiseOrReturn_eq_ok,
      presentOr_eq_ok] at hrun
    obtain ⟨_, _, ⟨hresource, rfl⟩, post, _, ⟨rfl, rfl⟩, _, v, hguard, _, v', hcheck, _⟩ := hrun
    rw [passGuard_eq_ok hguard] at hcheck
    exact ⟨post, hresource, (requireAuthorOr_authorised (h post hresource)).1 _ _ hcheck⟩
  · refine .bind (RefusesOnly.raiseOrReturn _) fun found v hfound => ?_
    obtain ⟨hresource, rfl⟩ := raiseOrReturn_eq_ok.mp hfound
    refine .bind RefusesOnly.presentOr_other fun post v hpost => ?_
    obtain ⟨rfl, rfl⟩ := presentOr_eq_ok.mp hpost
    refine .bind (passGuard_refusesOnly _ _) fun _ v hguard => ?_
    rw [passGuard_eq_ok hguard]
    refine .bind ?_ fun _ _ _ => RefusesOnly.raiseOrReturn _
    intro status detail w' hcheck
    rintro ⟨post', hpost', hentitled⟩
    rw [hresource] at hpost'
    cases hpost'
    exact (requireAuthorOr_authorised (h post hresource)).2 status detail w' hcheck hentitled

theorem authorised_deleteComment {sid : Int} {reads : ModerationReads}
    (h : CallCurrent settings w (.deleteComment sid reads)) :
    Authorised settings w (.deleteComment sid reads) := by
  constructor
  · intro u w' hrun
    simp only [PrivilegedCall.run, deleteCommentAs, bind_eq_ok, raiseOrReturn_eq_ok,
      presentOr_eq_ok] at hrun
    obtain ⟨_, _, ⟨hresource, rfl⟩, comment, _, ⟨rfl, rfl⟩, _, v, hcheck, _⟩ := hrun
    exact ⟨comment, hresource, (requireAuthorOr_authorised (h comment hresource)).1 _ _ hcheck⟩
  · refine .bind (RefusesOnly.raiseOrReturn _) fun found v hfound => ?_
    obtain ⟨hresource, rfl⟩ := raiseOrReturn_eq_ok.mp hfound
    refine .bind RefusesOnly.presentOr_other fun comment v hcomment => ?_
    obtain ⟨rfl, rfl⟩ := presentOr_eq_ok.mp hcomment
    refine .bind ?_ fun _ v _ => .bind (passGuard_refusesOnly _ v) fun _ _ _ =>
      RefusesOnly.raiseOrReturn _
    intro status detail w' hcheck
    rintro ⟨comment', hcomment', hentitled⟩
    rw [hresource] at hcomment'
    cases hcomment'
    exact (requireAuthorOr_authorised (h comment hresource)).2 status detail w' hcheck hentitled

theorem AdminRoles.value_ne_staff (role : AdminRoles) : role.value ≠ "staff" := by
  cases role <;> decide

/-- Every role but the plain admin's may edit the forum. -/
theorem grants_editForum_iff {t : ForumAdmins} {f u : Int} {role : AdminRoles}
    (h : t f u = some role) : Grants t f u .editForum ↔ role ≠ .admin := by
  unfold Grants
  rw [h]
  constructor
  · rintro ⟨role', hrole', hpermission⟩
    cases hrole'
    rintro rfl
    revert hpermission
    decide
  · intro hne
    refine ⟨role, rfl, ?_⟩
    cases role with
    | admin => exact absurd rfl hne
    | super => decide
    | owner => decide

theorem authorised_editForum {forumId sid : Int} {reads : ModerationReads}
    (h : CallCurrent settings w (.editForum forumId sid reads)) :
    Authorised settings w (.editForum forumId sid reads) := by
  obtain ⟨hcurrent, hplain⟩ := h
  constructor
  · intro u w' hrun
    simp only [PrivilegedCall.run, editForum, bind_eq_ok, raiseOrReturn_eq_ok, presentOr_eq_ok,
      calling_eq_ok, unlessRaise_eq_ok] at hrun
    obtain ⟨_, _, ⟨hresource, rfl⟩, forum, _, ⟨rfl, rfl⟩, _, w₁, hsid, role, _, ⟨rfl, rfl⟩,
      _, _, ⟨_, rfl⟩, hexecute, _⟩ := hrun
    have hrow := (hcurrent.eq hsid).symm
    refine (grants_editForum_iff hrow).mpr ?_
    -- a plain admin gets through as well, which the condition excludes
    rintro rfl
    exact hplain ⟨hrow, ⟨forum, hresource⟩, hexecute⟩
  · refine .bind (RefusesOnly.raiseOrReturn _) fun found v hfound => ?_
    obtain ⟨_, rfl⟩ := raiseOrReturn_eq_ok.mp hfound
    refine .bind RefusesOnly.presentOr_other fun forum v hforum => ?_
    obtain ⟨_, rfl⟩ := presentOr_eq_ok.mp hforum
    refine .bind (RefusesOnly.calling _) fun row w₁ hsid => ?_
    rw [calling_eq_ok] at hsid
    refine .bind (.presentOr fun hnone => ?_) fun role v hrole => ?_
    · rintro ⟨role, hrole, _⟩
      rw [← hcurrent.eq hsid, hnone] at hrole
      cases hrole
    -- and nobody with a role is refused
    · exact .bind (.unlessRaise fun hstaff => absurd role.value_ne_staff hstaff)
        fun _ _ _ => RefusesOnly.raiseOrReturn _

/-- A request that meets the condition is authorised. -/
theorem authorised_of_current {call : PrivilegedCall} (h : CallCurrent settings w call) :
    Authorised settings w call := by
  cases call with
  | admin c => exact authorised_admin h
  | deletePost sid postId reads => exact authorised_deletePost h
  | deleteComment sid reads => exact authorised_deleteComment h
  | editForum forumId sid reads => exact authorised_editForum h

theorem stepAuthorised_of_current {label : RoleLabel} (h : StepCurrent settings w label) :
    StepAuthorised settings w label := by
  cases label with
  | request call => exact authorised_of_current h
  | lookup f u => trivial
  | tick seconds => trivial

/-- In every run of requests, lookups and passing time whose steps meet the condition, what
is carried out is granted by the current rows, and what they grant is not refused for lack
of a permission. -/
theorem eachStep_authorised (settings : RoleCacheSettings) {labels : List RoleLabel}
    {w : RoleWorld} (h : EachStep (roleStep settings) (StepCurrent settings) w labels) :
    EachStep (roleStep settings) (StepAuthorised settings) w labels :=
  h.mono fun _ _ hcurrent => stepAuthorised_of_current hcurrent

end

/-- The settings of an application with the client that it builds, or with one that decodes
its replies. -/
def roleSettings (decodeResponses : Bool) : RoleCacheSettings where
  toCacheSettings := { bytesSettings with decodeResponses := decodeResponses }
  ttlCap := 3600
  ttlPromotion := 60
  ttlStrong := 600
  ttlEphemeral := 30

/-- The three admins of forum 1, and nothing cached. -/
def coldWorld : RoleWorld := ⟨threeAdmins, fun _ _ => none, 0⟩

/-- A request on a resource of user 9 in forum 1 that is answered everywhere. -/
def servedReads : ModerationReads :=
  ⟨.ok (some ⟨9, 1, "one_piece"⟩), .entered none, .ok ()⟩

/-- A super admin edits the forum, and an admin deletes a post. -/
def authorisedRun : List RoleLabel :=
  [.request (.editForum 1 2 servedReads), .tick 60, .request (.deletePost 3 5 servedReads)]

theorem LookupCurrent.of_none {settings : RoleCacheSettings} {w : RoleWorld} {f u : Int}
    (h : cachedAnswer settings w f u = none) : LookupCurrent settings w f u := by
  intro row hanswer
  rw [h] at hanswer
  cases hanswer

theorem authorisedRun_authorised :
    EachStep (roleStep (roleSettings false)) (StepAuthorised (roleSettings false)) coldWorld
      authorisedRun := by
  refine eachStep_authorised (roleSettings false) ?_
  intro w hw
  refine ⟨⟨.of_none (by decide), fun h => absurd h.1 (by decide)⟩, ?_⟩
  cases hw
  intro w hw
  refine ⟨trivial, ?_⟩
  cases hw
  intro w hw
  refine ⟨?_, trivial⟩
  intro post hpost _
  cases hpost
  exact .of_none (by decide)

/-- The owner removes an admin whose role has been looked up before, and the former admin
deletes a post. -/
def staleRun : List RoleLabel :=
  [.lookup 1 3, .request (.admin (servedCall .removeAdmin 1 3)),
    .request (.deletePost 3 5 servedReads)]

/-- A plain admin edits the forum, also with the client that the application builds; and a
client that decodes its replies lets a former admin delete a post.  The lookup of the forum
gives an object while a sentinel of before its creation is cached, as the names in the reply
are bytes; with nothing cached the leader raises an `AttributeError`. -/
theorem roles_not_authorised :
    ¬ EachStep (roleStep (roleSettings false)) (StepAuthorised (roleSettings false)) coldWorld
      [.request (.editForum 1 3 servedReads)] ∧
    ¬ EachStep (roleStep (roleSettings true)) (StepAuthorised (roleSettings true)) coldWorld
      staleRun := by
  constructor
  · intro h
    have hrow : coldWorld.admins 1 3 = some .admin := by decide
    have hentitled := (h _ rfl).1.1 () _ rfl
    exact (grants_editForum_iff hrow).mp hentitled rfl
  · intro h
    have hentitled := ((((h _ rfl).2 _ rfl).2 _ rfl).1).1 () _ rfl
    obtain ⟨post, hpost, hauthor | ⟨role, hrole, _⟩⟩ := hentitled
    · cases hpost
      exact absurd hauthor (by decide)
    · cases hpost
      have hremoved : none = some role := hrole
      cases hremoved

/-- With a client that returns bytes no entry answers with a row, so every lookup that
returns has asked the database. -/
theorem lookupCurrent_of_bytes {settings : RoleCacheSettings}
    (hbytes : settings.decodeResponses = false) (w : RoleWorld) (f u : Int) :
    LookupCurrent settings w f u := by
  intro row hanswer
  unfold cachedAnswer cachedResult fetchFromCache at hanswer
  cases hlive : w.live f u with
  | none => simp [hlive, primitiveGetFromCache] at hanswer
  | some entry =>
      obtain ⟨entry, expires⟩ := entry
      cases entry with
      -- the command fails on an entry of the wrong type
      | text s => simp [hlive, primitiveGetFromCache, outcomeRole] at hanswer
      | hash items =>
          -- the field of the role is looked up by its text and is not found
          have hnone := fun name => lookup_hashReply_bytes name items
          cases items with
          | nil => simp [hlive, primitiveGetFromCache] at hanswer
          | cons item items =>
              simp [hlive, primitiveGetFromCache, hbytes, ResultType.counterFieldsMap,
                addCounters, Except.map, CacheMapping.contains, hnone, foundOutcome,
                constructFromCache, CacheMapping.item, outcomeRole, bind, Except.bind,
                pure, Except.pure] at hanswer

/-- A step is no edit of a forum by a plain admin that the database accepts. -/
def NoPlainEdit (w : RoleWorld) : RoleLabel → Prop
  | .request (.editForum forumId sid reads) =>
      ¬ (w.admins forumId sid = some .admin ∧
        (∃ forum, reads.resource = .ok (some forum)) ∧ reads.execute = .ok ())
  | _ => True

/-- With the client that the application builds, only such an edit is not authorised. -/
theorem eachStep_authorised_of_bytes {settings : RoleCacheSettings}
    (hbytes : settings.decodeResponses = false) {labels : List RoleLabel} {w : RoleWorld}
    (h : EachStep (roleStep settings) NoPlainEdit w labels) :
    EachStep (roleStep settings) (StepAuthorised settings) w labels := by
  refine h.mono fun v label hplain => stepAuthorised_of_current ?_
  have hcurrent : ∀ f u, LookupCurrent settings v f u := lookupCurrent_of_bytes hbytes v
  cases label with
  | request call =>
      cases call with
      | admin c => exact ⟨hcurrent _ _, lookupCurrent_of_bytes hbytes _ _ _⟩
      | deletePost sid postId reads => exact fun _ _ _ => hcurrent _ _
      | deleteComment sid reads => exact fun _ _ _ => hcurrent _ _
      | editForum forumId sid reads => exact ⟨hcurrent _ _, hplain⟩
  | lookup f u => trivial
  | tick seconds => trivial

end ResourceServer
end Tenjin
