import Tenjin.Foundation.Tally
import Tenjin.Python.Separated
import Tenjin.ResourceServer.ForumAdmins
import Tenjin.ResourceServer.IntentReads

/-!
# The tallies of posts and comments

`create_post`, `delete_post`, `comment_on_post` and `delete_comment` as far as their events
go: the counter updates that an accepted request emits, against the posts and comments that
have been created and deleted.

* `Contributions` is what exists, the history of what was created and deleted, and the
  deltas emitted so far.
* `ContributionLabel.offered` is the event that a request hands to `emit_user_event`, and
  `emitted` the one that is executed: only a request with a representable event is accepted.
* `Balanced` is the purpose: under one cache key for each user, each forum and each post the
  deltas add up to what was created less what was deleted.
* `StepBalanced` is the condition on single requests, and `always_balanced_iff` says that it
  is exactly what a run needs.
* `always_balanced` — no request is accepted with a serialiser that refuses bytes.
-/

namespace Tenjin
namespace ResourceServer

open Python Foundation ResourceAuxillary

/-- What the two creating endpoints read of an access token. -/
structure AccessTokenClaims where
  sid : Int
  sub : String

/-- The event of `create_post`.  The forum is counted under its id, the author under the
`sub` of the token. -/
def createPostEvent (claims : AccessTokenClaims) (forumId : Int) (title body now : String) :
    Event where
  name := .postCreate
  payload := [("author_id", .int claims.sid), ("forum_id", .int forumId),
    ("title", .str title), ("body_text", .str body), ("time_posted", .str now)]
  sideEffects :=
    { counterUpdates :=
        [counterUpdate forumResource "posts" (deriveCacheKey forumResource (toString forumId)) 1,
          counterUpdate userResource "total_posts"
            (deriveCacheKey userResource claims.sub) 1] }

/-- The event of `comment_on_post`. -/
def commentOnPostEvent (claims : AccessTokenClaims) (postId parentForum : Int)
    (body now : String) : Event where
  name := .commentCreate
  payload := [("author_id", .int claims.sid), ("parent_forum", .int parentForum),
    ("parent_post", .int postId), ("body", .str body), ("time_created", .str now)]
  sideEffects :=
    { counterUpdates :=
        [counterUpdate postResource "total_comments"
            (deriveCacheKey postResource (toString postId)) 1,
          counterUpdate userResource "total_comments"
            (deriveCacheKey userResource (toString claims.sid)) 1] }

/-- A post, as far as it is counted. -/
structure PostRecord where
  authorId : Int
  forumId : Int
  deleted : Bool
  deriving DecidableEq

/-- A comment, as far as it is counted. -/
structure CommentRecord where
  authorId : Int
  parentPost : Int
  parentForum : Int
  deleted : Bool
  deriving DecidableEq

/-- Posts and comments by id, what the run has created and deleted, and the counter updates
that were emitted. -/
structure Contributions where
  posts : Int → Option PostRecord
  comments : Int → Option CommentRecord
  postsCreated : List PostRecord
  postsDeleted : List PostRecord
  commentsCreated : List CommentRecord
  commentsDeleted : List CommentRecord
  emitted : List CounterUpdate

/-- A request with what is looked up for it, the replies that it gets from the guard or to
`fetch_indicators`, and the id that the new row gets. -/
inductive ContributionLabel
  | createPost (claims : AccessTokenClaims) (forumId postId : Int) (title body now : String)
      (forum : Except Exn (Option Dto)) (guard : GuardOutcome)
  | deletePost (claims : AccessTokenClaims) (postId : Int) (intentId now : String)
      (post : Except Exn (Option Dto)) (role : Except Exn (Option AdminRoles))
      (guard : GuardOutcome)
  | commentOnPost (claims : AccessTokenClaims) (postId commentId : Int) (body now : String)
      (post : Except Exn (Option Dto)) (lock intent : Option String)
  | deleteComment (claims : AccessTokenClaims) (postId commentId : Int) (intentId now : String)
      (comment : Except Exn (Option Dto)) (role : Except Exn (Option AdminRoles))
      (guard : GuardOutcome)

/-- `create_post`, up to its emission.  The forum of the payload is that of the object. -/
def createPostOffer (claims : AccessTokenClaims) (forumId : Int) (title body now : String)
    (forum : Except Exn (Option Dto)) (guard : GuardOutcome) : Except Exn Event := do
  let forum ← present forum "Forum not found"
  match guard with
  | .rejected e => .error e
  | .entered _ =>
      let id ← forum.number "id_"
      .ok { createPostEvent claims forumId title body now with
        payload := (createPostEvent claims id title body now).payload }

/-- Whether the reply to `GET` on a lock counts as true. -/
def isHeld : Option Reply → Bool
  | none => false
  | some (.bytes lock) => !lock.isEmpty
  | some (.str lock) => !lock.isEmpty

/-- `comment_on_post`, up to its emission; `lock` and `intent` are the replies to
`fetch_indicators`. -/
def commentOnPostOffer (decodeResponses : Bool) (claims : AccessTokenClaims) (postId : Int)
    (body now : String) (post : Except Exn (Option Dto)) (lock intent : Option String) :
    Except Exn Event := do
  let post ← present post s!"No post with id {postId} found"
  if ← post.flag "closed" then .error (.httpException 409 "Post closed")
  else
    let (lock, latestIntent) ← fetchIndicators decodeResponses lock intent
    if isHeld lock || latestIntent.isSome then
      .error (.httpException 409 "Identical request being processed")
    else
      let forumId ← post.number "forum_id"
      let id ← post.number "id_"
      .ok { commentOnPostEvent claims postId forumId body now with
        payload := (commentOnPostEvent claims id forumId body now).payload }

/-- A request to one of the two deleting endpoints. -/
def deletionRequest (claims : AccessTokenClaims) (resourceId postId : Int)
    (intentId now : String) : Request where
  sid := claims.sid
  resourceId := resourceId
  postId := postId
  vote := .up
  tag := ""
  description := ""
  intentId := intentId
  now := now

/-- What such a request reads. -/
def deletionReads (resource : Except Exn (Option Dto)) (role : Except Exn (Option AdminRoles))
    (permission : AdminPermissions) : Reads where
  resource := resource
  forumAdmin := role.map (Option.map fun r => checkPermission r permission)
  existingVote := none
  associated := false
  forumOwner := .ok none

/-- The event of a request whose guard has this outcome. -/
def Handler.offered (h : Handler) (guard : GuardOutcome) : Except Exn Event := do
  let guarded ← h.prepare
  match guard with
  | .rejected e => .error e
  | .entered latestIntent =>
      match guarded.body latestIntent with
      | .error (_, e) => .error e
      | .ok (_, event) => .ok event

section
variable (dumps : PyValue → Except Exn String) (decodeResponses : Bool)

/-- The event that the request hands to `emit_user_event`, or what it ends with before. -/
def ContributionLabel.offered : ContributionLabel → Except Exn Event
  | .createPost claims forumId _ title body now forum guard =>
      createPostOffer claims forumId title body now forum guard
  | .deletePost claims postId intentId now post role guard =>
      (ResourceServer.deletePost (deletionRequest claims postId postId intentId now)
        (deletionReads post role .deletePost)).offered guard
  | .commentOnPost claims postId _ body now post lock intent =>
      commentOnPostOffer decodeResponses claims postId body now post lock intent
  | .deleteComment claims postId commentId intentId now comment role guard =>
      -- the post of the path is not compared with that of the comment
      (ResourceServer.deleteComment (deletionRequest claims commentId postId intentId now)
        (deletionReads comment role .deleteComment)).offered guard

/-- The event of an accepted request: `emit_user_event` has executed it. -/
def ContributionLabel.emitted (label : ContributionLabel) : Option Event :=
  match label.offered decodeResponses with
  | .error _ => none
  | .ok event =>
      match event.cacheRepr dumps with
      | .error _ => none
      | .ok _ => some event

end

/-- The emission of an event. -/
def Contributions.emit (s : Contributions) (event : Event) : Contributions :=
  { s with emitted := s.emitted ++ event.sideEffects.counterUpdates }

/-- A new post. -/
def Contributions.addPost (s : Contributions) (id : Int) (post : PostRecord) : Contributions :=
  { s with
    posts := Function.update s.posts id (some post)
    postsCreated := post :: s.postsCreated }

/-- A new comment. -/
def Contributions.addComment (s : Contributions) (id : Int) (comment : CommentRecord) :
    Contributions :=
  { s with
    comments := Function.update s.comments id (some comment)
    commentsCreated := comment :: s.commentsCreated }

/-- A deletion of a post; a second one of the same post deletes nothing. -/
def Contributions.deletePost (s : Contributions) (id : Int) (post : PostRecord) :
    Contributions :=
  { s with
    posts := Function.update s.posts id (some { post with deleted := true })
    postsDeleted := if post.deleted then s.postsDeleted else post :: s.postsDeleted }

/-- A deletion of a comment. -/
def Contributions.deleteComment (s : Contributions) (id : Int) (comment : CommentRecord) :
    Contributions :=
  { s with
    comments := Function.update s.comments id (some { comment with deleted := true })
    commentsDeleted :=
      if comment.deleted then s.commentsDeleted else comment :: s.commentsDeleted }

/-- What an accepted request does to the rows, once the worker has its event.  An object that
has an identifier has the one that it was looked up under. -/
def Contributions.record (s : Contributions) : ContributionLabel → Option Contributions
  | .createPost claims forumId postId _ _ _ _ _ =>
      match s.posts postId with
      | some _ => none
      | none => some (s.addPost postId ⟨claims.sid, forumId, false⟩)
  | .deletePost _ postId _ _ _ _ _ => (s.posts postId).map (s.deletePost postId)
  | .commentOnPost claims postId commentId _ _ _ _ _ =>
      match s.posts postId, s.comments commentId with
      | some post, none =>
          some (s.addComment commentId ⟨claims.sid, postId, post.forumId, false⟩)
      | _, _ => none
  | .deleteComment _ _ commentId _ _ _ _ _ =>
      (s.comments commentId).map (s.deleteComment commentId)

/-- One request.  A request that is not accepted emits nothing and changes nothing. -/
def contributionStep (dumps : PyValue → Except Exn String) (decodeResponses : Bool)
    (s : Contributions) (label : ContributionLabel) : Option Contributions :=
  match label.emitted dumps decodeResponses with
  | none => some s
  | some event => (s.emit event).record label

/-- Counter updates as increments of the counter hashes. -/
def counterAmounts (updates : List CounterUpdate) : List ((String × String) × Int) :=
  updates.map fun u => ((u.counterGroup, u.cacheKey), u.delta)

/-- The four families of tallies. -/
inductive Tallied
  | userPosts
  | userComments
  | forumPosts
  | postComments
  deriving DecidableEq

/-- The counter group of a family. -/
def Tallied.group : Tallied → String
  | .userPosts => deriveHashmapName userResource "total_posts"
  | .userComments => deriveHashmapName userResource "total_comments"
  | .forumPosts => deriveHashmapName forumResource "posts"
  | .postComments => deriveHashmapName postResource "total_comments"

/-- The cache key of a user, forum or post; `userKey` is the one key of each user. -/
def Tallied.key (userKey : Int → String) : Tallied → Int → String
  | .userPosts, u => userKey u
  | .userComments, u => userKey u
  | .forumPosts, f => deriveCacheKey forumResource (toString f)
  | .postComments, p => deriveCacheKey postResource (toString p)

/-- What counter updates add to the tally of a user, forum or post. -/
def tallyOf (userKey : Int → String) (updates : List CounterUpdate) (kind : Tallied)
    (id : Int) : Int :=
  total (kind.group, kind.key userKey id) (counterAmounts updates)

/-- How many of the created are left. -/
def remaining {α : Type} (p : α → Bool) (created deleted : List α) : Int :=
  (created.countP p : Int) - deleted.countP p

/-- What was created less what was deleted, for each user, forum and post. -/
def Contributions.counted (s : Contributions) (kind : Tallied) (id : Int) : Int :=
  match kind with
  | .userPosts => remaining (·.authorId = id) s.postsCreated s.postsDeleted
  | .userComments => remaining (·.authorId = id) s.commentsCreated s.commentsDeleted
  | .forumPosts => remaining (·.forumId = id) s.postsCreated s.postsDeleted
  | .postComments => remaining (·.parentPost = id) s.commentsCreated s.commentsDeleted

/-- Every tally is what was created less what was deleted. -/
def Balanced (userKey : Int → String) (s : Contributions) : Prop :=
  ∀ kind id, tallyOf userKey s.emitted kind id = s.counted kind id

/-- The key is that of the user and of nobody else. -/
def KeyOf (userKey : Int → String) (key : String) (user : Int) : Prop :=
  ∀ u, key = userKey u ↔ user = u

/-- The condition on an accepted request: it is counted under the key of the author; no post
is deleted; and a comment is deleted once, by its author and below its post. -/
def AcceptedBalanced (userKey : Int → String) (s : Contributions) : ContributionLabel → Prop
  | .createPost claims _ _ _ _ _ _ _ =>
      KeyOf userKey (deriveCacheKey userResource claims.sub) claims.sid
  | .deletePost .. => False
  | .commentOnPost claims _ _ _ _ _ _ _ =>
      KeyOf userKey (deriveCacheKey userResource (toString claims.sid)) claims.sid
  | .deleteComment claims postId commentId _ _ _ _ _ =>
      ∀ comment, s.comments commentId = some comment →
        comment.deleted = false ∧ comment.parentPost = postId ∧
          KeyOf userKey (deriveCacheKey userResource (toString claims.sid)) comment.authorId

/-- The condition on a request. -/
def StepBalanced (dumps : PyValue → Except Exn String) (decodeResponses : Bool)
    (userKey : Int → String) (s : Contributions) (label : ContributionLabel) : Prop :=
  (label.emitted dumps decodeResponses).isSome → AcceptedBalanced userKey s label

/-- What one post counts for. -/
def PostRecord.count (post : PostRecord) : Tallied → Int → Int
  | .userPosts, u => if post.authorId = u then 1 else 0
  | .forumPosts, f => if post.forumId = f then 1 else 0
  | _, _ => 0

/-- What one comment counts for. -/
def CommentRecord.count (comment : CommentRecord) : Tallied → Int → Int
  | .userComments, u => if comment.authorId = u then 1 else 0
  | .postComments, p => if comment.parentPost = p then 1 else 0
  | _, _ => 0

/-- The identifier can be read off a key. -/
theorem deriveCacheKey_inj {resource a b : String} :
    deriveCacheKey resource a = deriveCacheKey resource b ↔ a = b := by
  refine ⟨fun h => ?_, fun h => h ▸ rfl⟩
  have htext := congrArg String.toList h
  simpa [deriveCacheKey, pyJoin, String.toList_inj] using htext

theorem numberKey_inj {resource : String} {m n : Int} :
    deriveCacheKey resource m.repr = deriveCacheKey resource n.repr ↔ m = n :=
  deriveCacheKey_inj.trans toString_inj

section
variable {α : Type} (p : α → Bool) (a : α) (created deleted : List α)

theorem remaining_created :
    remaining p (a :: created) deleted =
      remaining p created deleted + if p a then 1 else 0 := by
  unfold remaining
  rw [List.countP_cons]
  split
  · push_cast
    omega
  · omega

theorem remaining_deleted :
    remaining p created (a :: deleted) =
      remaining p created deleted - if p a then 1 else 0 := by
  unfold remaining
  rw [List.countP_cons]
  split
  · push_cast
    omega
  · omega

end

section
variable {userKey : Int → String} (s : Contributions) (kind : Tallied) (id : Int)

theorem counted_addPost (postId : Int) (post : PostRecord) :
    (s.addPost postId post).counted kind id = s.counted kind id + post.count kind id := by
  cases kind <;>
    simp [Contributions.counted, Contributions.addPost, PostRecord.count, remaining_created]

theorem counted_addComment (commentId : Int) (comment : CommentRecord) :
    (s.addComment commentId comment).counted kind id =
      s.counted kind id + comment.count kind id := by
  cases kind <;>
    simp [Contributions.counted, Contributions.addComment, CommentRecord.count,
      remaining_created]

theorem counted_deletePost (postId : Int) (post : PostRecord) :
    (s.deletePost postId post).counted kind id =
      s.counted kind id - if post.deleted then 0 else post.count kind id := by
  cases hdeleted : post.deleted <;> cases kind <;>
    simp [Contributions.counted, Contributions.deletePost, PostRecord.count,
      remaining_deleted, hdeleted]

theorem counted_deleteComment (commentId : Int) (comment : CommentRecord) :
    (s.deleteComment commentId comment).counted kind id =
      s.counted kind id - if comment.deleted then 0 else comment.count kind id := by
  cases hdeleted : comment.deleted <;> cases kind <;>
    simp [Contributions.counted, Contributions.deleteComment, CommentRecord.count,
      remaining_deleted, hdeleted]

theorem tallyOf_append (updates updates' : List CounterUpdate) :
    tallyOf userKey (updates ++ updates') kind id =
      tallyOf userKey updates kind id + tallyOf userKey updates' kind id := by
  simp [tallyOf, counterAmounts, total_append]

/-- What two updates add. -/
theorem tallyOf_pair (u v : CounterUpdate) :
    tallyOf userKey [u, v] kind id =
      (if u.counterGroup = kind.group ∧ u.cacheKey = kind.key userKey id then u.delta else 0) +
      if v.counterGroup = kind.group ∧ v.cacheKey = kind.key userKey id then v.delta else 0 := by
  simp [tallyOf, counterAmounts, total_cons]

theorem tallyOf_single (u : CounterUpdate) :
    tallyOf userKey [u] kind id =
      if u.counterGroup = kind.group ∧ u.cacheKey = kind.key userKey id then u.delta else 0 := by
  simp [tallyOf, counterAmounts, total_cons]

/-- An offered event is one that the body behind the guard comes to. -/
theorem offered_eq_ok {h : Handler} {guard : GuardOutcome} {event : Event}
    (hoffered : h.offered guard = .ok event) :
    ∃ guarded latestIntent stream, h.prepare = .ok guarded ∧
      guarded.body latestIntent = .ok (stream, event) := by
  obtain ⟨guarded, hprepare, hrest⟩ := except_bind_eq_ok hoffered
  cases guard with
  | rejected e => cases hrest
  | entered latestIntent =>
      cases hbody : guarded.body latestIntent with
      | error refusal => simp [hbody] at hrest
      | ok emission =>
          obtain ⟨stream, event'⟩ := emission
          simp only [hbody, Except.ok.injEq] at hrest
          subst hrest
          exact ⟨guarded, latestIntent, stream, hprepare, hbody⟩

/-- The event of `create_post` counts what its own constructor says. -/
theorem createPostOffer_eq_ok {claims : AccessTokenClaims} {forumId : Int}
    {title body now : String} {forum : Except Exn (Option Dto)} {guard : GuardOutcome}
    {event : Event} (h : createPostOffer claims forumId title body now forum guard = .ok event) :
    event.sideEffects = (createPostEvent claims forumId title body now).sideEffects := by
  obtain ⟨dto, _, h⟩ := except_bind_eq_ok h
  cases guard with
  | rejected e => cases h
  | entered latestIntent =>
      obtain ⟨id, _, h⟩ := except_bind_eq_ok h
      cases h
      rfl

/-- So does that of `comment_on_post`. -/
theorem commentOnPostOffer_eq_ok {decodeResponses : Bool} {claims : AccessTokenClaims}
    {postId : Int} {body now : String} {post : Except Exn (Option Dto)}
    {lock intent : Option String} {event : Event}
    (h : commentOnPostOffer decodeResponses claims postId body now post lock intent = .ok event)
    (parentForum : Int) :
    event.sideEffects = (commentOnPostEvent claims postId parentForum body now).sideEffects := by
  obtain ⟨dto, _, h⟩ := except_bind_eq_ok h
  obtain ⟨closed, _, h⟩ := except_bind_eq_ok h
  cases closed with
  | true => cases h
  | false =>
      obtain ⟨⟨held, latestIntent⟩, _, h⟩ := except_bind_eq_ok h
      simp only at h
      split at h
      · cases h
      · obtain ⟨forumId, _, h⟩ := except_bind_eq_ok h
        obtain ⟨id, _, h⟩ := except_bind_eq_ok h
        cases h
        rfl

/-- The counter groups, spelt out. -/
theorem contributionGroups :
    deriveHashmapName userResource "total_posts" = "users:total_posts" ∧
    deriveHashmapName userResource "total_comments" = "users:total_comments" ∧
    deriveHashmapName forumResource "posts" = "forums:posts" ∧
    deriveHashmapName postResource "total_comments" = "posts:total_comments" := by
  decide

theorem tallyOf_createPost (claims : AccessTokenClaims) (forumId : Int)
    (title body now : String) :
    tallyOf userKey (createPostEvent claims forumId title body now).sideEffects.counterUpdates
        kind id =
      match kind with
      | .userPosts =>
          if deriveCacheKey userResource claims.sub = userKey id then 1 else 0
      | .forumPosts => if forumId = id then 1 else 0
      | _ => 0 := by
  obtain ⟨hposts, hcomments, hforum, hpost⟩ := contributionGroups
  simp only [createPostEvent, tallyOf_pair, counterUpdate]
  cases kind <;>
    simp [Tallied.group, Tallied.key, hposts, hcomments, hforum, hpost, numberKey_inj]

theorem tallyOf_commentOnPost (claims : AccessTokenClaims) (postId parentForum : Int)
    (body now : String) :
    tallyOf userKey
        (commentOnPostEvent claims postId parentForum body now).sideEffects.counterUpdates
        kind id =
      match kind with
      | .userComments =>
          if deriveCacheKey userResource (toString claims.sid) = userKey id then 1 else 0
      | .postComments => if postId = id then 1 else 0
      | _ => 0 := by
  obtain ⟨hposts, hcomments, hforum, hpost⟩ := contributionGroups
  simp only [commentOnPostEvent, tallyOf_pair, counterUpdate]
  cases kind <;>
    simp [Tallied.group, Tallied.key, hposts, hcomments, hforum, hpost, numberKey_inj]

/-- The event of `delete_post` lowers the posts of the forum, and no user's. -/
theorem tallyOf_deletePost {r : Request} {v : Reads} {guard : GuardOutcome} {event : Event}
    (h : (ResourceServer.deletePost r v).offered guard = .ok event) :
    ∃ forumId, tallyOf userKey event.sideEffects.counterUpdates = fun kind id =>
      match kind with
      | .forumPosts => if forumId = id then -1 else 0
      | _ => 0 := by
  obtain ⟨hposts, hcomments, hforum, hpost⟩ := contributionGroups
  obtain ⟨guarded, latestIntent, stream, hprepare, hbody⟩ := offered_eq_ok h
  obtain ⟨post, _, hprepare⟩ := except_bind_eq_ok hprepare
  cases hprepare
  obtain ⟨_, _, hbody⟩ := except_bind_eq_ok hbody
  obtain ⟨forumId, _, hbody⟩ := except_bind_eq_ok hbody
  cases hbody
  refine ⟨forumId, funext fun kind => funext fun id => ?_⟩
  simp only [userEvent, tallyOf_single, counterUpdate]
  cases kind <;>
    simp [Tallied.group, Tallied.key, hposts, hcomments, hforum, hpost, numberKey_inj]

/-- The event of `delete_comment` lowers the comments of the post in the path and of the user
who asks. -/
theorem tallyOf_deleteComment {r : Request} {v : Reads} {guard : GuardOutcome} {event : Event}
    (h : (ResourceServer.deleteComment r v).offered guard = .ok event) :
    tallyOf userKey event.sideEffects.counterUpdates kind id =
      match kind with
      | .userComments =>
          if deriveCacheKey userResource (toString r.sid) = userKey id then -1 else 0
      | .postComments => if r.postId = id then -1 else 0
      | _ => 0 := by
  obtain ⟨hposts, hcomments, hforum, hpost⟩ := contributionGroups
  obtain ⟨guarded, latestIntent, stream, hprepare, hbody⟩ := offered_eq_ok h
  obtain ⟨comment, _, hprepare⟩ := except_bind_eq_ok hprepare
  obtain ⟨_, _, hprepare⟩ := except_bind_eq_ok hprepare
  cases hprepare
  cases hbody
  simp only [userEvent, tallyOf_pair, counterUpdate]
  cases kind <;>
    simp [Tallied.group, Tallied.key, hposts, hcomments, hforum, hpost, numberKey_inj]

end

section
variable {userKey : Int → String} {s : Contributions}

/-- When the tallies are right before a request, they are right after it exactly if its
deltas are the change of the counts; `write` is what it does to the rows. -/
theorem balanced_iff_of_change (h : Balanced userKey s) (event : Event)
    (write : Contributions → Contributions) {change : Tallied → Int → Int}
    (hemitted : ∀ t, (write t).emitted = t.emitted)
    (hcounted : ∀ t kind id, (write t).counted kind id = t.counted kind id + change kind id) :
    Balanced userKey (write (s.emit event)) ↔
      ∀ kind id, tallyOf userKey event.sideEffects.counterUpdates kind id = change kind id := by
  have htally : ∀ kind id, tallyOf userKey (write (s.emit event)).emitted kind id =
      s.counted kind id + tallyOf userKey event.sideEffects.counterUpdates kind id := by
    intro kind id
    rw [hemitted, ← h kind id]
    exact tallyOf_append kind id s.emitted event.sideEffects.counterUpdates
  have hcount : ∀ kind id, (write (s.emit event)).counted kind id =
      s.counted kind id + change kind id := hcounted (s.emit event)
  unfold Balanced
  constructor
  · intro hafter kind id
    have hsum := hafter kind id
    rw [htally, hcount] at hsum
    exact add_left_cancel hsum
  · intro hsame kind id
    rw [htally, hcount, hsame]

theorem indicator_eq_iff {p q : Prop} [Decidable p] [Decidable q] :
    ((if p then (1 : Int) else 0) = if q then 1 else 0) ↔ (p ↔ q) := by
  by_cases hp : p <;> by_cases hq : q <;> simp [hp, hq]

theorem balanced_createPost (h : Balanced userKey s) {claims : AccessTokenClaims}
    {forumId : Int} {title body now : String} {event : Event}
    (hevent : event.sideEffects =
      (createPostEvent claims forumId title body now).sideEffects) (postId : Int) :
    Balanced userKey ((s.emit event).addPost postId ⟨claims.sid, forumId, false⟩) ↔
    KeyOf userKey (deriveCacheKey userResource claims.sub) claims.sid := by
  refine (balanced_iff_of_change h event
    (·.addPost postId ⟨claims.sid, forumId, false⟩) (fun _ => rfl)
    fun t kind id => counted_addPost t kind id postId _).trans ?_
  simp only [hevent, tallyOf_createPost]
  constructor
  · intro hsame u
    exact indicator_eq_iff.mp (hsame .userPosts u)
  · intro hkey kind id
    cases kind with
    | userPosts => exact indicator_eq_iff.mpr (hkey id)
    | userComments => rfl
    | forumPosts => rfl
    | postComments => rfl

theorem balanced_commentOnPost (h : Balanced userKey s) {claims : AccessTokenClaims}
    {postId parentForum : Int} {body now : String} {event : Event}
    (hevent : event.sideEffects =
      (commentOnPostEvent claims postId parentForum body now).sideEffects) (commentId : Int) :
    Balanced userKey ((s.emit event).addComment commentId
      ⟨claims.sid, postId, parentForum, false⟩) ↔
    KeyOf userKey (deriveCacheKey userResource (toString claims.sid)) claims.sid := by
  refine (balanced_iff_of_change h event
    (·.addComment commentId ⟨claims.sid, postId, parentForum, false⟩) (fun _ => rfl)
    fun t kind id => counted_addComment t kind id commentId _).trans ?_
  simp only [hevent, tallyOf_commentOnPost]
  constructor
  · intro hsame u
    exact indicator_eq_iff.mp (hsame .userComments u)
  · intro hkey kind id
    cases kind with
    | userPosts => rfl
    | userComments => exact indicator_eq_iff.mpr (hkey id)
    | forumPosts => rfl
    | postComments => rfl

/-- An accepted `delete_post` never keeps the tallies right: it lowers the posts of the
forum, and with a post that was not deleted before the author's count goes down alone. -/
theorem not_balanced_deletePost (h : Balanced userKey s) {r : Request} {v : Reads}
    {guard : GuardOutcome} {event : Event}
    (hoffered : (ResourceServer.deletePost r v).offered guard = .ok event)
    (postId : Int) (post : PostRecord) :
    ¬ Balanced userKey ((s.emit event).deletePost postId post) := by
  intro hafter
  obtain ⟨forumId, htally⟩ := @tallyOf_deletePost userKey _ _ _ _ hoffered
  have hsame := (balanced_iff_of_change h event (·.deletePost postId post) (fun _ => rfl)
    fun t kind id => (counted_deletePost t kind id postId post).trans Int.sub_eq_add_neg).mp
    hafter
  simp only [htally] at hsame
  cases hdeleted : post.deleted with
  -- a second deletion lowers the forum again
  | true =>
      have hforum := hsame .forumPosts forumId
      simp [hdeleted] at hforum
  -- the first one leaves the author with the post
  | false =>
      have huser := hsame .userPosts post.authorId
      simp [hdeleted, PostRecord.count] at huser

theorem balanced_deleteComment (h : Balanced userKey s) {r : Request} {v : Reads}
    {guard : GuardOutcome} {event : Event}
    (hoffered : (ResourceServer.deleteComment r v).offered guard = .ok event)
    (commentId : Int) (comment : CommentRecord) :
    Balanced userKey ((s.emit event).deleteComment commentId comment) ↔
      comment.deleted = false ∧ comment.parentPost = r.postId ∧
        KeyOf userKey (deriveCacheKey userResource (toString r.sid)) comment.authorId := by
  refine (balanced_iff_of_change h event (·.deleteComment commentId comment) (fun _ => rfl)
    fun t kind id =>
      (counted_deleteComment t kind id commentId comment).trans Int.sub_eq_add_neg).trans ?_
  simp only [tallyOf_deleteComment _ _ hoffered]
  constructor
  · intro hsame
    have hlive : comment.deleted = false := by
      -- the post of the path is lowered, so something must have been deleted
      have hpost := hsame .postComments r.postId
      cases hdeleted : comment.deleted with
      | true => simp [hdeleted] at hpost
      | false => rfl
    refine ⟨hlive, ?_, fun u => ?_⟩
    · have hpost := hsame .postComments r.postId
      by_contra hne
      simp [hlive, CommentRecord.count, hne] at hpost
    -- the user who asks is lowered, and must be the author
    · have huser := hsame .userComments u
      simp only [hlive, CommentRecord.count, Bool.false_eq_true, if_false] at huser
      apply indicator_eq_iff.mp
      split at huser
      · rw [if_pos ‹_›]
        omega
      · rw [if_neg ‹_›]
        omega
  · rintro ⟨hlive, hpost, hkey⟩ kind id
    cases kind with
    | userPosts => simp [CommentRecord.count]
    | userComments =>
        simp only [hlive, CommentRecord.count, Bool.false_eq_true, if_false, hkey id]
        split <;> rfl
    | forumPosts => simp [CommentRecord.count]
    | postComments =>
        simp only [hlive, CommentRecord.count, Bool.false_eq_true, if_false, hpost]
        split <;> rfl

/-- An emitted event has been offered. -/
theorem offered_of_emitted {dumps : PyValue → Except Exn String} {decodeResponses : Bool}
    {label : ContributionLabel} {event : Event}
    (h : label.emitted dumps decodeResponses = some event) :
    label.offered decodeResponses = .ok event ∧ Represented dumps event := by
  unfold ContributionLabel.emitted at h
  split at h
  · cases h
  · rename_i offered hoffered
    split at h
    · cases h
    · rename_i entry hentry
      cases h
      exact ⟨hoffered, entry, hentry⟩

/-- One accepted request keeps the tallies right exactly when it meets the condition. -/
theorem record_balanced_iff (h : Balanced userKey s) {decodeResponses : Bool}
    {label : ContributionLabel} {event : Event}
    (hoffered : label.offered decodeResponses = .ok event) {s' : Contributions}
    (hrecord : (s.emit event).record label = some s') :
    Balanced userKey s' ↔ AcceptedBalanced userKey s label := by
  cases label with
  | createPost claims forumId postId title body now forum guard =>
      simp only [Contributions.record] at hrecord
      split at hrecord
      · cases hrecord
      · cases hrecord
        exact balanced_createPost h (createPostOffer_eq_ok hoffered) postId
  | deletePost claims postId intentId now post role guard =>
      obtain ⟨row, _, rfl⟩ := Option.map_eq_some_iff.mp hrecord
      exact iff_of_false (not_balanced_deletePost h hoffered _ _) id
  | commentOnPost claims postId commentId body now post lock intent =>
      simp only [Contributions.record] at hrecord
      split at hrecord
      · cases hrecord
        exact balanced_commentOnPost h (commentOnPostOffer_eq_ok hoffered _) commentId
      · cases hrecord
  | deleteComment claims postId commentId intentId now comment role guard =>
      obtain ⟨row, hrow, rfl⟩ := Option.map_eq_some_iff.mp hrecord
      rw [balanced_deleteComment h hoffered]
      constructor
      -- the condition is about the row of the comment that is asked for
      · intro hmet row' hrow'
        rw [show s.comments commentId = some row from hrow] at hrow'
        cases hrow'
        exact hmet
      · intro hmet
        exact hmet row hrow

section
variable {dumps : PyValue → Except Exn String} {decodeResponses : Bool}

/-- One request keeps the tallies right exactly when it meets the condition. -/
theorem contributionStep_balanced_iff (h : Balanced userKey s) {label : ContributionLabel}
    {s' : Contributions} (hstep : contributionStep dumps decodeResponses s label = some s') :
    Balanced userKey s' ↔ StepBalanced dumps decodeResponses userKey s label := by
  unfold contributionStep at hstep
  unfold StepBalanced
  cases hemitted : label.emitted dumps decodeResponses with
  | none =>
      rw [hemitted] at hstep
      cases hstep
      exact iff_of_true h fun hsome => by cases hsome
  | some event =>
      rw [hemitted] at hstep
      rw [record_balanced_iff h (offered_of_emitted hemitted).1 hstep]
      exact ⟨fun hmet _ => hmet, fun hmet => hmet rfl⟩

end

end

/-- Before the first request: any posts and comments, and nothing created, deleted or
emitted yet. -/
def Contributions.start (posts : Int → Option PostRecord)
    (comments : Int → Option CommentRecord) : Contributions :=
  ⟨posts, comments, [], [], [], [], []⟩

theorem balanced_start (userKey : Int → String) (posts : Int → Option PostRecord)
    (comments : Int → Option CommentRecord) : Balanced userKey (.start posts comments) := by
  intro kind id
  cases kind <;> rfl

/-- In every run of requests all tallies are right throughout if and only if every request
meets the condition. -/
theorem always_balanced_iff (dumps : PyValue → Except Exn String) (decodeResponses : Bool)
    (userKey : Int → String) (posts : Int → Option PostRecord)
    (comments : Int → Option CommentRecord) (labels : List ContributionLabel) :
    Always (contributionStep dumps decodeResponses) (Balanced userKey) (.start posts comments)
        labels ↔
      EachStep (contributionStep dumps decodeResponses)
        (StepBalanced dumps decodeResponses userKey) (.start posts comments) labels :=
  always_iff_eachStep (I := fun _ => True) (fun _ _ _ _ _ _ => trivial)
    (fun _ _ _ _ hQ hstep hmet => (contributionStep_balanced_iff hQ hstep).mpr hmet)
    (fun _ _ _ _ hQ hstep hnot hQ' => hnot ((contributionStep_balanced_iff hQ hstep).mp hQ'))
    labels _ trivial (balanced_start userKey posts comments)

/-- User 7 deletes its post 5 of forum 1 and its comment 8 below post 9. -/
def twoDeletions : List ContributionLabel :=
  [.deletePost ⟨7, "7"⟩ 5 "0a" "2025-01-02"
      (.ok (some [("author_id", .value (.int 7)), ("forum_id", .value (.int 1))]))
      (.ok none) (.entered none),
    .deleteComment ⟨7, "7"⟩ 9 8 "0b" "2025-01-03"
      (.ok (some [("author_id", .value (.int 7)), ("parent_forum", .value (.int 1))]))
      (.ok none) (.entered none)]

end ResourceServer
end Tenjin
