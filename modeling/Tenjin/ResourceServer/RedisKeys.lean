import Tenjin.Foundation.Projection
import Tenjin.ResourceServer.CacheKeys
import Tenjin.ResourceServer.GuardAction
import Tenjin.ResourceServer.PaginationKeys

/-!
# The keys of the application store

Everything that the resource server keeps in Redis, under the key that is built for it:
cached results, pages, intents, counter groups, a few constants, and the locks of
`distributed_get_or_load`, `distributed_pagination_get_or_load` and `guard_action`.

* `KeyName` is what a value is kept for, and `LockName` what a lock is for.
* `KeyClass` is what the pieces of a key between colons give away.
* `RedisKey.text_eq_iff` — two keys coincide only where `RedisKey.Shares` says so: under the
  names of users, which are not restricted, lie the counter groups of users and the intents
  to delete an account.
* `runOps_redisKeys` — so the value under a key depends only on the commands for it and on
  those that share it.
-/

namespace Tenjin
namespace ResourceServer

open Python Foundation ResourceAuxillary

/-- `ReportTags`. -/
inductive ReportTags
  | spam
  | harassment
  | hate
  | violence
  | other
  deriving DecidableEq

/-- The value of the tag. -/
def ReportTags.value : ReportTags → String
  | .spam => "SPAM"
  | .harassment => "HARASSMENT"
  | .hate => "HATE"
  | .violence => "VIOLENCE"
  | .other => "OTHER"

/-- The resource names that endpoints give to `guard_action`, `fetch_indicators` and
`set_intent`: those of the results, which for a report carry its tag, and those of three
tables. -/
inductive GuardedResource
  | posts
  | comments
  | forums
  | animes
  | postVotes
  | commentVotes
  | animeSubscriptions
  | reportedPosts (tag : ReportTags)
  | reportedComments (tag : ReportTags)
  deriving DecidableEq

/-- The resource name. -/
def GuardedResource.name : GuardedResource → String
  | .posts => postResource
  | .comments => commentResource
  | .forums => forumResource
  | .animes => animeResource
  | .postVotes => "post_votes"
  | .commentVotes => "comment_votes"
  | .animeSubscriptions => "anime_subscriptions"
  | .reportedPosts tag => pyJoin nameSeperator [postResource, tag.value]
  | .reportedComments tag => pyJoin nameSeperator [commentResource, tag.value]

/-- What a user does to a resource.  Where a resource is created, its identifier may be a
text that the client chooses. -/
structure GuardTarget where
  resource : GuardedResource
  action : Action
  userId : Int
  resourceIdentifier : String
  deriving DecidableEq

/-- The key of the intent. -/
def GuardTarget.intent (t : GuardTarget) : String :=
  createIntentFlag t.resource.name t.action.value (toString t.userId) t.resourceIdentifier

/-- The key of the lock. -/
def GuardTarget.lockName (t : GuardTarget) : String :=
  deriveLockKey [t.resource.name, t.action.value, toString t.userId, t.resourceIdentifier]

/-- A page of results: what `derive_pagination_key` is called with, and the version. -/
structure PageName where
  version : Option Int
  resourceName : String
  cursor : Int
  args : List String
  deriving DecidableEq

/-- The key of the page. -/
def PageName.text (p : PageName) : String :=
  pyJoin nameSeperator (versionText p.version :: p.resourceName :: toString p.cursor :: p.args)

/-- The counter groups that events update. -/
inductive CounterGroup
  | forumPosts
  | forumSubscriptions
  | animeSubscriptions
  | postScore
  | postSaves
  | postReports
  | postTotalComments
  | commentScore
  | commentReports
  | userAura
  | userTotalPosts
  | userTotalComments
  deriving DecidableEq

/-- The resource and the field of the group. -/
def CounterGroup.parts : CounterGroup → String × String
  | .forumPosts => (forumResource, "posts")
  | .forumSubscriptions => (forumResource, "subscriptions")
  | .animeSubscriptions => (animeResource, "subscriptions")
  | .postScore => (postResource, "score")
  | .postSaves => (postResource, "saves")
  | .postReports => (postResource, "reports")
  | .postTotalComments => (postResource, "total_comments")
  | .commentScore => (commentResource, "score")
  | .commentReports => (commentResource, "reports")
  | .userAura => (userResource, "aura")
  | .userTotalPosts => (userResource, "total_posts")
  | .userTotalComments => (userResource, "total_comments")

/-- The key of the group. -/
def CounterGroup.name (group : CounterGroup) : String :=
  deriveHashmapName group.parts.1 group.parts.2

/-- Keys that are constants. -/
inductive ConstantKey
  | paginationVersionMap
  | jwksMapping
  | jwksPollLock
  | jwksPollCooldown
  | stream (name : StreamName)
  deriving DecidableEq

/-- The constant. -/
def ConstantKey.text : ConstantKey → String
  | .paginationVersionMap => "pagination_versions"
  | .jwksMapping => "JWKS_MAPPING"
  | .jwksPollLock => "JWKS_POLL_LOCK"
  | .jwksPollCooldown => "JWKS_POLL_COOLDOWN"
  | .stream name => name.value

/-- What a value is kept for.  `accountIntent` is the one that `delete_user` looks for. -/
inductive KeyName
  | cached (site : ReadSite)
  | page (page : PageName)
  | intent (target : GuardTarget)
  | accountIntent (username : String)
  | counterGroup (group : CounterGroup)
  | constant (key : ConstantKey)
  deriving DecidableEq

/-- The key of the value. -/
def KeyName.text : KeyName → String
  | .cached site => site.key
  | .page p => p.text
  | .intent target => target.intent
  | .accountIntent username =>
      createIntentFlag userResource Action.delete.value username username
  | .counterGroup group => group.name
  | .constant key => key.text

/-- What a lock is for: loading a result or a page, an action of a user, or the deletion of
an account. -/
inductive LockName
  | fetch (site : ReadSite)
  | fetchPage (page : PageName)
  | action (target : GuardTarget)
  | account (username : String)
  deriving DecidableEq

/-- The value that the lock belongs to. -/
def LockName.guarded : LockName → KeyName
  | .fetch site => .cached site
  | .fetchPage p => .page p
  | .action target => .intent target
  | .account username => .accountIntent username

/-- The key of the lock. -/
def LockName.text : LockName → String
  | .fetch site => deriveLockKey [site.key]
  | .fetchPage p => deriveLockKey [p.text]
  | .action target => target.lockName
  | .account username =>
      deriveLockKey [userResource, Action.delete.value, username, username]

/-- A key of the store. -/
inductive RedisKey
  | value (name : KeyName)
  | lock (name : LockName)
  deriving DecidableEq

/-- The key itself. -/
def RedisKey.text : RedisKey → String
  | .value name => name.text
  | .lock name => name.text

/-- The site with the same key that is not the one of `add_admin`. -/
def ReadSite.canonical : ReadSite → ReadSite
  | .newAdmin forumId _ => .forum forumId
  | site => site

/-- What a page is about, in pieces: its resource, its cursor and its arguments, each of which
may have colons. -/
def PageName.subject (p : PageName) : List String :=
  pySplit ':' p.resourceName ++ toString p.cursor :: p.args.flatMap (pySplit ':')

/-- The values that are kept under one key.  A page without a version has version 0. -/
def KeyName.Shares : KeyName → KeyName → Prop
  | .cached site, .cached site' => site.canonical = site'.canonical
  | .cached (.user username), .counterGroup group => group.parts = (userResource, username)
  | .counterGroup group, .cached (.user username) => group.parts = (userResource, username)
  | .cached (.user username), .accountIntent deleted =>
      username = pyJoin nameSeperator [Action.delete.value, deleted, deleted]
  | .accountIntent deleted, .cached (.user username) =>
      username = pyJoin nameSeperator [Action.delete.value, deleted, deleted]
  | .page p, .page p' =>
      p.version.getD 0 = p'.version.getD 0 ∧ p.subject = p'.subject
  | name, name' => name = name'

/-- Two keys are shared when what they guard or hold is. -/
def RedisKey.Shares : RedisKey → RedisKey → Prop
  | .value name, .value name' => name.Shares name'
  | .lock name, .lock name' => name.guarded.Shares name'.guarded
  | _, _ => False

/-- A text that consists of digits and dashes, as numbers do. -/
def numericText (s : String) : Bool := s.toList.all fun c => c.isDigit || c == '-'

/-- What can be told from the pieces of a key. -/
inductive KeyClass
  | lock
  | page
  | constant
  | user
  | intent
  | entity
  deriving DecidableEq

/-- The class of a key with these pieces. -/
def KeyClass.ofPieces : List String → KeyClass
  | front :: rest =>
      if front = "lock" then .lock
      else if numericText front then .page
      else if rest = [] then .constant
      else if front = userResource then .user
      else if 2 < rest.length then .intent
      else .entity
  | [] => .constant

/-- The pieces of the name of a guarded resource. -/
def GuardedResource.pieces : GuardedResource → List String
  | .posts => [postResource]
  | .comments => [commentResource]
  | .forums => [forumResource]
  | .animes => [animeResource]
  | .postVotes => ["post_votes"]
  | .commentVotes => ["comment_votes"]
  | .animeSubscriptions => ["anime_subscriptions"]
  | .reportedPosts tag => [postResource, tag.value]
  | .reportedComments tag => [commentResource, tag.value]

/-- The pieces of the key of a value. -/
def KeyName.pieces : KeyName → List String
  | .cached site => site.pieces
  | .page p => versionText p.version :: p.subject
  | .intent target =>
      target.resource.pieces ++ target.action.value :: toString target.userId ::
        pySplit ':' target.resourceIdentifier
  | .accountIntent username =>
      userResource :: Action.delete.value :: (pySplit ':' username ++ pySplit ':' username)
  | .counterGroup group => [group.parts.1, group.parts.2]
  | .constant key => [key.text]

/-- The class of a value. -/
def KeyName.keyClass : KeyName → KeyClass
  | .cached (.user _) => .user
  | .cached _ => .entity
  | .page _ => .page
  | .intent _ => .intent
  | .accountIntent _ => .user
  | .counterGroup group => if group.parts.1 = userResource then .user else .entity
  | .constant _ => .constant

theorem numericText_toString (n : Int) : numericText (toString n) = true := by
  have hdigit : ∀ m : ℕ, ∀ c ∈ Nat.toDigits 10 m, (c.isDigit || c == '-') = true := by
    intro m c hc
    rw [Nat.isDigit_of_mem_toDigits (by omega) (by omega) hc, Bool.true_or]
  rw [numericText, toString_toList, List.all_eq_true]
  intro c hc
  split at hc
  · exact hdigit _ c hc
  · rcases List.mem_cons.mp hc with rfl | hc
    · rfl
    · exact hdigit _ c hc

theorem numericText_versionText (stored : Option Int) :
    numericText (versionText stored) = true := by
  cases stored with
  | none => rfl
  | some n => exact numericText_toString n

/-- A number is not a text with another character. -/
theorem toString_ne {n : Int} {w : String} (h : numericText w = false) : toString n ≠ w := by
  intro heq
  rw [← heq, numericText_toString] at h
  cases h

theorem pySplit_name (resource : GuardedResource) :
    pySplit ':' resource.name = resource.pieces := by
  cases resource with
  | reportedPosts tag | reportedComments tag => cases tag <;> decide
  | _ => decide

theorem pySplit_action (action : Action) : pySplit ':' action.value = [action.value] := by
  cases action <;> decide

/-- The pieces of a key of four parts. -/
theorem pySplit_createIntentFlag (entity action userIdentifier resourceIdentifier : String) :
    pySplit ':' (createIntentFlag entity action userIdentifier resourceIdentifier) =
      pySplit ':' entity ++ (pySplit ':' action ++ (pySplit ':' userIdentifier ++
        pySplit ':' resourceIdentifier)) := by
  have h := pySplit_pyJoin ':'
    (List.cons_ne_nil entity [action, userIdentifier, resourceIdentifier])
  rw [List.flatMap_cons, List.flatMap_cons, List.flatMap_cons, List.flatMap_singleton] at h
  exact h

theorem KeyName.pySplit_text (name : KeyName) : pySplit ':' name.text = name.pieces := by
  cases name with
  | cached site => exact site.pySplit_key
  | page p =>
      show pySplit ':' (pyJoin (String.singleton ':') _) = _
      rw [pySplit_pyJoin _ (by simp), List.flatMap_cons, List.flatMap_cons, List.flatMap_cons,
        pySplit_versionText, pySplit_cursor]
      rfl
  | intent target =>
      rw [KeyName.text, GuardTarget.intent, pySplit_createIntentFlag, pySplit_name,
        pySplit_action, pySplit_toString]
      rfl
  | accountIntent username =>
      rw [KeyName.text, pySplit_createIntentFlag, pySplit_action]
      rfl
  | counterGroup group => cases group <;> decide
  | constant key =>
      cases key with
      | stream name => cases name <;> decide
      | _ => decide

/-- The pieces of a value tell its class. -/
theorem KeyName.ofPieces_pieces (name : KeyName) :
    KeyClass.ofPieces name.pieces = name.keyClass := by
  cases name with
  | cached site =>
      cases site with
      | user username =>
          simp [KeyName.pieces, KeyName.keyClass, ReadSite.pieces, KeyClass.ofPieces,
            userResource, pySplit_ne_nil, show numericText "users" = false from rfl]
      | _ =>
          simp [KeyName.pieces, KeyName.keyClass, ReadSite.pieces, KeyClass.ofPieces,
            forumResource, animeResource, postResource, commentResource, userResource,
            show numericText "forums" = false from rfl,
            show numericText "animes" = false from rfl,
            show numericText "posts" = false from rfl,
            show numericText "comments" = false from rfl,
            show numericText "forum_admins" = false from rfl]
  | page p =>
      have hlock : versionText p.version ≠ "lock" := by
        intro h
        have hnumeric := numericText_versionText p.version
        rw [h] at hnumeric
        cases hnumeric
      simp [KeyName.pieces, KeyName.keyClass, KeyClass.ofPieces, numericText_versionText, hlock]
  | intent target =>
      have hpos : 0 < (pySplit ':' target.resourceIdentifier).length :=
        List.length_pos_iff.mpr (pySplit_ne_nil _ _)
      obtain ⟨resource, action, userId, resourceIdentifier⟩ := target
      cases resource <;>
        simp [KeyName.pieces, KeyName.keyClass, GuardedResource.pieces, KeyClass.ofPieces,
          forumResource, animeResource, postResource, commentResource, userResource, hpos,
          show numericText "forums" = false from rfl,
          show numericText "animes" = false from rfl,
          show numericText "posts" = false from rfl,
          show numericText "comments" = false from rfl,
          show numericText "post_votes" = false from rfl,
          show numericText "comment_votes" = false from rfl,
          show numericText "anime_subscriptions" = false from rfl]
  | accountIntent username =>
      simp [KeyName.pieces, KeyName.keyClass, KeyClass.ofPieces, userResource,
        show numericText "users" = false from rfl]
  | counterGroup group => cases group <;> decide
  | constant key =>
      cases key with
      | stream name => cases name <;> decide
      | _ => decide

theorem KeyName.text_eq_iff_pieces (name name' : KeyName) :
    name.text = name'.text ↔ name.pieces = name'.pieces := by
  rw [← name.pySplit_text, ← name'.pySplit_text, pySplit_inj]

theorem tag_ne_action (tag : ReportTags) (action : Action) : tag.value ≠ action.value := by
  cases tag <;> cases action <;> decide

theorem action_ne_tag (tag : ReportTags) (action : Action) : action.value ≠ tag.value :=
  (tag_ne_action tag action).symm

theorem reportTags_value_inj {tag tag' : ReportTags} : tag.value = tag'.value ↔ tag = tag' := by
  cases tag <;> cases tag' <;> decide

theorem action_value_inj {action action' : Action} :
    action.value = action'.value ↔ action = action' := by
  cases action <;> cases action' <;> decide

/-- The intents of different targets have different keys. -/
theorem GuardTarget.pieces_inj {t t' : GuardTarget}
    (h : (KeyName.intent t).pieces = (KeyName.intent t').pieces) : t = t' := by
  obtain ⟨resource, action, userId, resourceIdentifier⟩ := t
  obtain ⟨resource', action', userId', resourceIdentifier'⟩ := t'
  cases resource <;> cases resource' <;>
    simp only [KeyName.pieces, GuardedResource.pieces, forumResource, animeResource,
      postResource, commentResource, List.cons_append, List.nil_append, List.cons.injEq,
      String.reduceEq, toString_inj, pySplit_inj, action_value_inj, reportTags_value_inj,
      tag_ne_action, action_ne_tag, true_and, false_and] at h
  -- targets of one resource are left
  · obtain ⟨rfl, rfl, rfl⟩ := h
    rfl
  · obtain ⟨rfl, rfl, rfl⟩ := h
    rfl
  · obtain ⟨rfl, rfl, rfl⟩ := h
    rfl
  · obtain ⟨rfl, rfl, rfl⟩ := h
    rfl
  · obtain ⟨rfl, rfl, rfl⟩ := h
    rfl
  · obtain ⟨rfl, rfl, rfl⟩ := h
    rfl
  · obtain ⟨rfl, rfl, rfl⟩ := h
    rfl
  · obtain ⟨rfl, rfl, rfl, rfl⟩ := h
    rfl
  · obtain ⟨rfl, rfl, rfl, rfl⟩ := h
    rfl

theorem CounterGroup.parts_inj {group group' : CounterGroup} (h : group.parts = group'.parts) :
    group = group' := by
  revert h
  cases group <;> cases group' <;> decide

theorem ConstantKey.text_inj {key key' : ConstantKey} (h : key.text = key'.text) :
    key = key' := by
  revert h
  rcases key with _ | _ | _ | _ | ⟨_ | _⟩ <;> rcases key' with _ | _ | _ | _ | ⟨_ | _⟩ <;> decide

/-- The field of a group is one piece, and no number. -/
theorem CounterGroup.field_plain (group : CounterGroup) :
    pySplit ':' group.parts.2 = [group.parts.2] ∧ numericText group.parts.2 = false := by
  cases group <;> decide

/-- The key of a site is that of its canonical site. -/
theorem ReadSite.canonical_key (site : ReadSite) : site.canonical.key = site.key := by
  cases site <;> rfl

theorem ReadSite.canonical_proper (site : ReadSite) : site.canonical.Proper := by
  cases site <;> trivial

theorem ReadSite.key_eq_iff (site site' : ReadSite) :
    site.key = site'.key ↔ site.canonical = site'.canonical := by
  constructor
  · intro h
    apply ReadSite.key_inj site.canonical_proper site'.canonical_proper
    rw [site.canonical_key, site'.canonical_key, h]
  · intro h
    rw [← site.canonical_key, h, site'.canonical_key]

theorem KeyName.shares_cached_counterGroup (site : ReadSite) (group : CounterGroup) :
    (KeyName.cached site).Shares (.counterGroup group) ↔
      ∃ username, site = .user username ∧ group.parts = (userResource, username) := by
  cases site <;> simp [KeyName.Shares]

theorem KeyName.shares_cached_accountIntent (site : ReadSite) (deleted : String) :
    (KeyName.cached site).Shares (.accountIntent deleted) ↔
      site = .user (pyJoin nameSeperator [Action.delete.value, deleted, deleted]) := by
  cases site <;> simp [KeyName.Shares]

theorem KeyName.shares_counterGroup_cached (site : ReadSite) (group : CounterGroup) :
    (KeyName.counterGroup group).Shares (.cached site) ↔
      (KeyName.cached site).Shares (.counterGroup group) := by
  cases site <;> simp [KeyName.Shares]

theorem KeyName.shares_accountIntent_cached (site : ReadSite) (deleted : String) :
    (KeyName.accountIntent deleted).Shares (.cached site) ↔
      (KeyName.cached site).Shares (.accountIntent deleted) := by
  cases site <;> simp [KeyName.Shares]

/-- A cached result and a counter group. -/
theorem KeyName.cached_eq_counterGroup (site : ReadSite) (group : CounterGroup) :
    (KeyName.cached site).text = (KeyName.counterGroup group).text ↔
      (KeyName.cached site).Shares (.counterGroup group) := by
  obtain ⟨hfield, hword⟩ := group.field_plain
  have hid : ∀ n : Int, n.repr ≠ group.parts.2 := fun n => toString_ne hword
  rw [KeyName.text_eq_iff_pieces, KeyName.shares_cached_counterGroup]
  cases site with
  | user username =>
      simp only [KeyName.pieces, ReadSite.pieces, List.cons.injEq, ReadSite.user.injEq,
        exists_eq_left', Prod.ext_iff]
      rw [← hfield, pySplit_inj]
      exact ⟨fun h => ⟨h.1.symm, h.2.symm⟩, fun h => ⟨h.1.symm, h.2.symm⟩⟩
  | _ => simp [KeyName.pieces, ReadSite.pieces, hid]

/-- A cached result and the intent to delete an account. -/
theorem KeyName.cached_eq_accountIntent (site : ReadSite) (deleted : String) :
    (KeyName.cached site).text = (KeyName.accountIntent deleted).text ↔
      (KeyName.cached site).Shares (.accountIntent deleted) := by
  have hpieces : pySplit ':' (pyJoin nameSeperator [Action.delete.value, deleted, deleted]) =
      Action.delete.value :: (pySplit ':' deleted ++ pySplit ':' deleted) := by
    have h := pySplit_pyJoin ':' (List.cons_ne_nil Action.delete.value [deleted, deleted])
    rw [List.flatMap_cons, List.flatMap_cons, List.flatMap_singleton, pySplit_action] at h
    exact h
  rw [KeyName.text_eq_iff_pieces, KeyName.shares_cached_accountIntent]
  cases site with
  | user username =>
      simp only [KeyName.pieces, ReadSite.pieces, List.cons.injEq, ReadSite.user.injEq, true_and]
      rw [← hpieces, pySplit_inj]
  | _ =>
      simp [KeyName.pieces, ReadSite.pieces, forumResource, animeResource, postResource,
        commentResource, userResource]

/-- Values with one key are of one class. -/
theorem KeyName.keyClass_eq {name name' : KeyName} (h : name.text = name'.text) :
    name.keyClass = name'.keyClass := by
  rw [← name.ofPieces_pieces, ← name'.ofPieces_pieces, (name.text_eq_iff_pieces name').mp h]

/-- The class of a cached result. -/
theorem KeyName.keyClass_cached (site : ReadSite) :
    (KeyName.cached site).keyClass = .user ∨ (KeyName.cached site).keyClass = .entity := by
  cases site <;> simp [KeyName.keyClass]

theorem KeyName.keyClass_counterGroup (group : CounterGroup) :
    (KeyName.counterGroup group).keyClass = .user ∨
      (KeyName.counterGroup group).keyClass = .entity := by
  cases group <;> decide

/-- The intents to delete accounts have different keys. -/
theorem KeyName.accountIntent_inj {username username' : String}
    (h : (KeyName.accountIntent username).text = (KeyName.accountIntent username').text) :
    username = username' := by
  rw [KeyName.text_eq_iff_pieces] at h
  simp only [KeyName.pieces, List.cons.injEq, true_and] at h
  have hlength := congrArg List.length h
  rw [List.length_append, List.length_append] at hlength
  exact pySplit_inj.mp (List.append_inj h (by omega)).1

theorem KeyName.accountIntent_ne_counterGroup (username : String) (group : CounterGroup) :
    (KeyName.accountIntent username).text ≠ (KeyName.counterGroup group).text := by
  intro h
  rw [KeyName.text_eq_iff_pieces] at h
  simp only [KeyName.pieces, List.cons.injEq, List.append_eq_nil_iff, pySplit_ne_nil,
    and_false] at h

theorem versionText_eq (version : Option Int) :
    versionText version = toString (version.getD 0) := by
  cases version <;> rfl

/-- Two pages have one key when their version and their pieces are the same. -/
theorem PageName.text_eq_iff (p p' : PageName) :
    p.text = p'.text ↔ p.version.getD 0 = p'.version.getD 0 ∧ p.subject = p'.subject := by
  have hpieces := KeyName.text_eq_iff_pieces (.page p) (.page p')
  simp only [KeyName.pieces, List.cons.injEq, versionText_eq, toString_inj] at hpieces
  exact hpieces

theorem KeyName.shares_of_text_eq {name name' : KeyName} (h : name.text = name'.text) :
    name.Shares name' := by
  have hclass := KeyName.keyClass_eq h
  cases name with
  | cached site =>
      cases name' with
      | cached site' => exact (site.key_eq_iff site').mp h
      | accountIntent deleted => exact (KeyName.cached_eq_accountIntent site deleted).mp h
      | counterGroup group => exact (KeyName.cached_eq_counterGroup site group).mp h
      | page p | intent target | constant key =>
          rcases KeyName.keyClass_cached site with hsite | hsite <;> rw [hsite] at hclass <;>
            cases hclass
  | page p =>
      cases name' with
      | page p' => exact (p.text_eq_iff p').mp h
      | cached site =>
          rcases KeyName.keyClass_cached site with hsite | hsite <;> rw [hsite] at hclass <;>
            cases hclass
      | counterGroup group =>
          rcases KeyName.keyClass_counterGroup group with hgroup | hgroup <;>
            rw [hgroup] at hclass <;> cases hclass
      | intent target | accountIntent username | constant key => cases hclass
  | intent target =>
      cases name' with
      | intent target' =>
          exact congrArg _ (GuardTarget.pieces_inj ((KeyName.text_eq_iff_pieces _ _).mp h))
      | cached site =>
          rcases KeyName.keyClass_cached site with hsite | hsite <;> rw [hsite] at hclass <;>
            cases hclass
      | counterGroup group =>
          rcases KeyName.keyClass_counterGroup group with hgroup | hgroup <;>
            rw [hgroup] at hclass <;> cases hclass
      | page p | accountIntent username | constant key => cases hclass
  | accountIntent username =>
      cases name' with
      | cached site =>
          exact (KeyName.shares_accountIntent_cached site username).mpr
            ((KeyName.cached_eq_accountIntent site username).mp h.symm)
      | accountIntent username' => exact congrArg _ (KeyName.accountIntent_inj h)
      | counterGroup group => exact absurd h (KeyName.accountIntent_ne_counterGroup username group)
      | page p | intent target | constant key => cases hclass
  | counterGroup group =>
      cases name' with
      | cached site =>
          exact (KeyName.shares_counterGroup_cached site group).mpr
            ((KeyName.cached_eq_counterGroup site group).mp h.symm)
      | accountIntent username =>
          exact absurd h.symm (KeyName.accountIntent_ne_counterGroup username group)
      | counterGroup group' =>
          have hpieces := (KeyName.text_eq_iff_pieces _ _).mp h
          simp only [KeyName.pieces, List.cons.injEq, and_true] at hpieces
          exact congrArg _ (CounterGroup.parts_inj (Prod.ext hpieces.1 hpieces.2))
      | page p | intent target | constant key =>
          rcases KeyName.keyClass_counterGroup group with hgroup | hgroup <;>
            rw [hgroup] at hclass <;> cases hclass
  | constant key =>
      cases name' with
      | constant key' => exact congrArg _ (ConstantKey.text_inj h)
      | cached site =>
          rcases KeyName.keyClass_cached site with hsite | hsite <;> rw [hsite] at hclass <;>
            cases hclass
      | counterGroup group =>
          rcases KeyName.keyClass_counterGroup group with hgroup | hgroup <;>
            rw [hgroup] at hclass <;> cases hclass
      | page p | intent target | accountIntent username => cases hclass

theorem KeyName.text_eq_of_shares {name name' : KeyName} (h : name.Shares name') :
    name.text = name'.text := by
  cases name with
  | cached site =>
      cases name' with
      | cached site' => exact (site.key_eq_iff site').mpr h
      | accountIntent deleted => exact (KeyName.cached_eq_accountIntent site deleted).mpr h
      | counterGroup group => exact (KeyName.cached_eq_counterGroup site group).mpr h
      | page p | intent target | constant key => cases site <;> exact nomatch h
  | page p =>
      cases name' with
      | page p' => exact (p.text_eq_iff p').mpr h
      | _ => exact nomatch h
  | accountIntent username =>
      cases name' with
      | cached site =>
          exact ((KeyName.cached_eq_accountIntent site username).mpr
            ((KeyName.shares_accountIntent_cached site username).mp h)).symm
      | accountIntent username' => exact congrArg KeyName.text h
      | _ => exact nomatch h
  | counterGroup group =>
      cases name' with
      | cached site =>
          exact ((KeyName.cached_eq_counterGroup site group).mpr
            ((KeyName.shares_counterGroup_cached site group).mp h)).symm
      | counterGroup group' => exact congrArg KeyName.text h
      | _ => exact nomatch h
  | intent target | constant key => cases name' <;> exact congrArg KeyName.text h

/-- The key of a lock has the pieces of the value that it belongs to, after one more. -/
theorem LockName.pySplit_text (name : LockName) :
    pySplit ':' name.text = "lock" :: pySplit ':' name.guarded.text := by
  have hsplit : ∀ args : List String, pySplit ':' (deriveLockKey args) =
      "lock" :: args.flatMap (pySplit ':') := by
    intro args
    have h := pySplit_pyJoin ':' (List.cons_ne_nil "lock" args)
    rw [List.flatMap_cons, show pySplit ':' "lock" = ["lock"] by decide] at h
    exact h
  cases name with
  | fetch site | fetchPage p =>
      rw [LockName.text, hsplit, List.flatMap_singleton]
      rfl
  | action target =>
      rw [LockName.text, GuardTarget.lockName, hsplit, LockName.guarded, KeyName.text,
        GuardTarget.intent, pySplit_createIntentFlag]
      simp
  | account username =>
      rw [LockName.text, hsplit, LockName.guarded, KeyName.text, pySplit_createIntentFlag]
      simp

/-- No value is kept under the key of a lock. -/
theorem KeyName.text_ne_lock (name : KeyName) (lock : LockName) : name.text ≠ lock.text := by
  intro h
  have hclass := name.ofPieces_pieces
  rw [← name.pySplit_text, h, lock.pySplit_text, KeyClass.ofPieces, if_pos rfl] at hclass
  cases name with
  | cached site =>
      rcases KeyName.keyClass_cached site with hsite | hsite <;> rw [hsite] at hclass <;>
        cases hclass
  | counterGroup group =>
      rcases KeyName.keyClass_counterGroup group with hgroup | hgroup <;>
        rw [hgroup] at hclass <;> cases hclass
  | page p | intent target | accountIntent username | constant key => cases hclass

/-- Two keys coincide exactly when they are shared. -/
theorem RedisKey.text_eq_iff (key key' : RedisKey) : key.text = key'.text ↔ key.Shares key' := by
  cases key with
  | value name =>
      cases key' with
      | value name' => exact ⟨KeyName.shares_of_text_eq, KeyName.text_eq_of_shares⟩
      | lock lock' => exact iff_of_false (name.text_ne_lock lock') not_false
  | lock lock =>
      cases key' with
      | value name' => exact iff_of_false (fun h => name'.text_ne_lock lock h.symm) not_false
      | lock lock' =>
          have hpieces : lock.text = lock'.text ↔ lock.guarded.text = lock'.guarded.text := by
            rw [← @pySplit_inj ':', lock.pySplit_text, lock'.pySplit_text,
              List.cons.injEq, pySplit_inj]
            exact ⟨fun h => h.2, fun h => ⟨rfl, h⟩⟩
          exact hpieces.trans ⟨KeyName.shares_of_text_eq, KeyName.text_eq_of_shares⟩

instance (key key' : RedisKey) : Decidable (key.Shares key') :=
  decidable_of_iff _ (key.text_eq_iff key')

/-- A command for a key, as a command on the text of the key. -/
def textOp {V : Type} (op : KeyedOp RedisKey V) : KeyedOp String V := ⟨op.key.text, op.run⟩

/-- Two keys coincide exactly when they are shared.  So after commands for any keys, the
value under a key is what the commands make of it that are for this key or share it. -/
theorem runOps_redisKeys {V : Type} (ops : List (KeyedOp RedisKey V)) (store : String → V)
    (key : RedisKey) :
    (∀ key' : RedisKey, key'.text = key.text ↔ key'.Shares key) ∧
      runOps store (ops.map textOp) key.text =
        (ops.filter fun op => op.key.Shares key).foldl (fun v op => op.run v)
          (store key.text) := by
  have hkeys : ((fun op => decide (op.key = key.text)) ∘ textOp : KeyedOp RedisKey V → Bool) =
      fun op => decide (op.key.Shares key) := by
    funext op
    exact decide_eq_decide.mpr (op.key.text_eq_iff key)
  refine ⟨fun key' => key'.text_eq_iff key, ?_⟩
  rw [runOps_eq, List.filter_map, hkeys, List.foldl_map]
  rfl

/-- A user may have the name of a counter of users. -/
example : (RedisKey.value (.cached (.user "aura"))).text =
    (RedisKey.value (.counterGroup .userAura)).text := by decide

end ResourceServer
end Tenjin
