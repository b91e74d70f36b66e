import Tenjin.ResourceAuxillary.Events
import Tenjin.ResourceServer.GuardAction
import Tenjin.ResourceServer.Results

/-!
# The endpoints that guard an action

The thirteen endpoints of `posts.py`, `comments.py`, `forums.py` and `animes.py` that
run their body inside `guard_action` with an intent flag.

* `Request` holds what a client sends and the identifiers that are drawn for it;
  `Reads` holds what the lookups and the repositories answer to it.
* A `Handler` is one endpoint applied to both: what it does before the guard, the
  arguments of the guard, and its body.  An attribute that the looked-up object does not
  have raises where it is read.
* `runRequest` runs a handler on the server's Redis.  The entry that
  `emit_user_event` adds to a stream stands here for the event itself; an event without a
  representation raises.
* `emits_userEvent` — the key of the intent that each endpoint writes.
-/

namespace Tenjin
namespace ResourceServer

open Python ResourceAuxillary

/-- The `vote` of a `VoteModel`: one of the two literals 1 and -1. -/
inductive Vote
  | up
  | down
  deriving DecidableEq

/-- The literal. -/
def Vote.value : Vote → Int
  | .up => 1
  | .down => -1

/-- The intent flag of a vote. -/
def Vote.intent : Vote → IntentFlag
  | .up => .resourceCreationPendingFlag
  | .down => .resourceCreationPendingAltFlag

/-- What a request brings along. -/
structure Request where
  /-- `access_token["sid"]`. -/
  sid : Int
  /-- The id of the resource in the path. -/
  resourceId : Int
  /-- The id of the parent post in the path of a comment. -/
  postId : Int
  vote : Vote
  /-- Tag and description of a report. -/
  tag : String
  description : String
  /-- `uuid4().hex`. -/
  intentId : String
  /-- `datetime.now()`. -/
  now : String

/-- What is read for a request. -/
structure Reads where
  /-- The lookup of the resource in the path. -/
  resource : Except Exn (Option Dto)
  /-- The lookup of the requester's row in `forum_admins`, as whether its role has the
  permission. -/
  forumAdmin : Except Exn (Option Bool)
  /-- `vote_type` of the stored vote. -/
  existingVote : Option Bool
  /-- `check_saved`, `check_subscription` or `check_reported`. -/
  associated : Bool
  /-- The lookup of the forum's owner. -/
  forumOwner : Except Exn (Option Dto)

/-- What a refusing body has set and what it raises. -/
abbrev Refusal := Option (String × String) × Exn

/-- What a body comes to: the event that it hands to `emit_user_event`, with its stream. -/
abbrev BodyResult := Except Refusal (StreamName × Event)

/-- A `with guard_action` statement. -/
structure Guarded where
  options : GuardOptions
  body : (latestIntent : Option String) → BodyResult

/-- An endpoint applied to a request and to what is read for it. -/
structure Handler where
  resourceName : String
  action : Action
  /-- What comes before the guard, which may raise. -/
  prepare : Except Exn Guarded

/-- An exception of a body that has set no intent. -/
def raising {α : Type} (x : Except Exn α) : Except Refusal α :=
  match x with
  | .error e => .error (none, e)
  | .ok a => .ok a

/-- `not latest_intent`. -/
def noLatestIntent (latestIntent : Option String) : Bool :=
  match latestIntent with
  | none => true
  | some s => s.isEmpty

/-- A counter update of a field of a resource that is named like its counter group. -/
def counterUpdate (resource field key : String) (delta : Int) : CounterUpdate :=
  ⟨deriveHashmapName resource field, key, field, delta⟩

/-- The update of a user's aura. -/
def auraUpdate (userId delta : Int) : CounterUpdate :=
  counterUpdate userResource "aura" (deriveCacheKey userResource (toString userId)) delta

/-- The event of a request with one intent. -/
def userEvent (r : Request) (name : EventName) (payload : List (String × PyValue))
    (counterUpdates : List CounterUpdate) (resource : String) (action : Action)
    (flag : IntentFlag) : Event where
  name := name
  payload := payload
  sideEffects :=
    { counterUpdates := counterUpdates
      intentUpdates := [⟨createIntentFlag resource action.value (toString r.sid)
        (toString r.resourceId), flag, r.intentId⟩] }

/-- The key and the value that `set_intent` stores. -/
def setIntent (r : Request) (resource : String) (action : Action) (flag : IntentFlag) :
    String × String :=
  (createIntentFlag resource action.value (toString r.sid) (toString r.resourceId),
    pyJoin nameSeperator [flag.value, r.intentId])

/-- The looked-up object, or the 404 of a missing resource. -/
def present (found : Except Exn (Option Dto)) (detail : String) : Except Exn Dto := do
  match ← found with
  | none => .error (.httpException 404 detail)
  | some resource => .ok resource

/-- The check of the requester's rights on a resource of somebody else. -/
def checkRights (r : Request) (v : Reads) (resource : Dto) (forumField : String)
    (notAdmin noPermission : String) : Except Exn Unit := do
  let authorId ← resource.number "author_id"
  if r.sid = authorId then .ok ()
  else
    -- the forum is a part of the key of the row
    let _ ← resource.number forumField
    match ← v.forumAdmin with
    | none => .error (.httpException 403 notAdmin)
    | some false => .error (.httpException 403 noPermission)
    | some true => .ok ()

/-- `delete_post`.  The intent is written under the forums' resource name. -/
def deletePost (r : Request) (v : Reads) : Handler where
  resourceName := postResource
  action := .delete
  prepare := do
    let post ← present v.resource s!"No post with id {r.resourceId} found"
    .ok
      { options :=
          { conflictingIntent := some .resourceDeletionPendingFlag
            intentConflictMessage := some "Post already deleted" }
        body := fun _ => do
          raising (checkRights r v post "forum_id" "Only author and admins can delete post"
            "Insufficient permissions to delete post")
          let forumId ← raising (post.number "forum_id")
          .ok (.posts, userEvent r .postDelete [("post_id", .int r.resourceId)]
            [counterUpdate forumResource "posts"
              (deriveCacheKey forumResource (toString forumId)) (-1)]
            forumResource .delete .resourceDeletionPendingFlag) }

/-- The counter updates of a vote: the score of the resource and its author's aura. -/
def voteCounters (resource : String) (r : Request) (dto : Dto) (delta : Int) :
    Except Refusal (List CounterUpdate) := do
  let authorId ← raising (dto.number "author_id")
  .ok [counterUpdate resource "score" (deriveCacheKey resource (toString r.resourceId)) delta,
    auraUpdate authorId delta]

/-- The refusal or the delta of a vote, the same in both endpoints: `detail` is the
text of the refusal and `table` the name that its intent is set under. -/
def voteDelta (r : Request) (existingVote : Option Bool) (latestIntent : Option String)
    (table detail : String) : Except Refusal Int :=
  if noLatestIntent latestIntent then
    if (existingVote = some true ∧ r.vote = .up) ∨
        (existingVote = some false ∧ r.vote = .down) then
      .error (some (setIntent r table .vote r.vote.intent), .httpException 409 detail)
    -- the truth of the stored vote is tested, not its presence
    else if existingVote = some true then .ok (r.vote.value * 2)
    else .ok r.vote.value
  else .ok r.vote.value

/-- `vote_post`. -/
def votePost (r : Request) (v : Reads) : Handler where
  resourceName := postResource
  action := .vote
  prepare := do
    let post ← present v.resource s!"No post with id {r.resourceId} found"
    .ok
      { options :=
          { conflictingIntent := some r.vote.intent
            intentConflictMessage :=
              some (if r.vote = .up then "Post already upvoted"
                else "Post already downvoted") }
        body := fun latestIntent => do
          let delta ← voteDelta r v.existingVote latestIntent "post_votes"
            "Same vote already casted"
          let counters ← voteCounters postResource r post delta
          .ok (.posts, userEvent r .postVote
            [("user_id", .int r.sid), ("post_id", .int r.resourceId), ("vote", .int delta)]
            counters postResource .vote r.vote.intent) }

/-- The refusal or the delta of `unvote_post`: one unless a downvote is known. -/
def unvotePostDelta (r : Request) (v : Reads) (latestIntent : Option String) :
    Except Refusal Int :=
  if latestIntent = some IntentFlag.resourceCreationPendingAltFlag.value then .ok (-1)
  else if noLatestIntent latestIntent then
    match v.existingVote with
    | none =>
        .error (some (setIntent r "post_votes" .vote .resourceDeletionPendingFlag),
          .httpException 409 "No vote casted on post")
    | some false => .ok (-1)
    | some true => .ok 1
  else .ok 1

/-- `unvote_post`. -/
def unvotePost (r : Request) (v : Reads) : Handler where
  resourceName := postResource
  action := .vote
  prepare := do
    let post ← present v.resource s!"No post with id {r.resourceId} found"
    .ok
      { options :=
          { conflictingIntent := some .resourceDeletionPendingFlag
            intentConflictMessage := some "No vote casted on post" }
        body := fun latestIntent => do
          let delta ← unvotePostDelta r v latestIntent
          let counters ← voteCounters postResource r post delta
          .ok (.posts, userEvent r .postUnvote
            [("user_id", .int r.sid), ("post_id", .int r.resourceId), ("vote", .int delta)]
            counters postResource .vote .resourceDeletionPendingFlag) }

/-- The body of an endpoint that switches an association on or off: without a pending
intent it refuses in the state `refuse`, setting the intent `refusedIntent`. -/
def toggleBody (refuse : Bool) (refusedIntent : String × String) (detail : String)
    (emission : BodyResult) (latestIntent : Option String) : BodyResult :=
  if noLatestIntent latestIntent && refuse then
    .error (some refusedIntent, .httpException 409 detail)
  else emission

/-- The emission of a saved or unsaved post. -/
def saveEmission (r : Request) (post : Dto) (name : EventName) (delta : Int)
    (flag : IntentFlag) : BodyResult := do
  let authorId ← raising (post.number "author_id")
  .ok (.posts, userEvent r name [("user_id", .int r.sid), ("post_id", .int r.resourceId)]
    [counterUpdate postResource "saves" (deriveCacheKey postResource (toString r.resourceId))
      delta, auraUpdate authorId delta]
    postResource .save flag)

/-- `save_post`. -/
def savePost (r : Request) (v : Reads) : Handler where
  resourceName := postResource
  action := .save
  prepare := do
    let post ← present v.resource s!"No post with id {r.resourceId} found"
    .ok
      { options :=
          { conflictingIntent := some .resourceCreationPendingFlag
            intentConflictMessage := some "Post already saved" }
        body := toggleBody v.associated
          (setIntent r postResource .save .resourceCreationPendingFlag) "Post already saved"
          (saveEmission r post .postSave 1 .resourceCreationPendingFlag) }

/-- `unsave_post`. -/
def unsavePost (r : Request) (v : Reads) : Handler where
  resourceName := postResource
  action := .save
  prepare := do
    let post ← present v.resource s!"No post with id {r.resourceId} found"
    .ok
      { options :=
          { conflictingIntent := some .resourceDeletionPendingFlag
            intentConflictMessage := some "Post not saved" }
        body := toggleBody (!v.associated)
          (setIntent r postResource .save .resourceDeletionPendingFlag) "Post not saved"
          (saveEmission r post .postUnsave (-1) .resourceDeletionPendingFlag) }

/-- The counter update of a subscription; the field is not named like the group. -/
def subscriptionCounter (resource : String) (r : Request) (delta : Int) : CounterUpdate :=
  ⟨deriveHashmapName resource "subscriptions",
    deriveCacheKey resource (toString r.resourceId), "subscribers", delta⟩

/-- The payload of a subscription. -/
def subscriptionPayload (r : Request) (idField : String) : List (String × PyValue) :=
  [("user_id", .int r.sid), (idField, .int r.resourceId), ("time_subscribed", .str r.now)]

/-- The emission of a forum subscription, which needs the forum's owner. -/
def forumEmission (r : Request) (v : Reads) (failure : String) (name : EventName)
    (delta : Int) (action : Action) (flag : IntentFlag) : BodyResult := do
  match ← raising v.forumOwner with
  | none => .error (none, .httpException 500 failure)
  | some owner =>
      let ownerId ← raising (owner.number "id_")
      .ok (.forums, userEvent r name (subscriptionPayload r "forum_id")
        [subscriptionCounter forumResource r delta, auraUpdate ownerId delta]
        forumResource action flag)

/-- `subscribe_forum`. -/
def subscribeForum (r : Request) (v : Reads) : Handler where
  resourceName := forumResource
  action := .sub
  prepare := do
    let forum ← present v.resource s!"No forum with ID {r.resourceId} exists"
    let name ← forum.text "name_"
    .ok
      { options :=
          { conflictingIntent := some .resourceCreationPendingFlag
            intentConflictMessage := some s!"Already subscribed to forum: {name}" }
        body := toggleBody v.associated
          (setIntent r forumResource .sub .resourceCreationPendingFlag)
          s!"Already subscribed to forum: {name}"
          (forumEmission r v "Failed to perform subscription" .forumSub 1 .sub
            .resourceCreationPendingFlag) }

/-- `unsubscribe_forum`.  It guards the subscribing action and writes the intent of the
unsubscribing one. -/
def unsubscribeForum (r : Request) (v : Reads) : Handler where
  resourceName := forumResource
  action := .sub
  prepare := do
    let forum ← present v.resource s!"No forum with ID {r.resourceId} exists"
    let name ← forum.text "name_"
    .ok
      { options :=
          { conflictingIntent := some .resourceDeletionPendingFlag
            intentConflictMessage := some s!"Not subscribed to forum: {name}" }
        body := toggleBody (!v.associated)
          (setIntent r forumResource .unsub .resourceDeletionPendingFlag)
          s!"Not subscribed to forum: {name}"
          (forumEmission r v "Failed to perform unsubscription" .forumUnsub (-1) .unsub
            .resourceDeletionPendingFlag) }

/-- The emission of an anime subscription. -/
def animeEmission (r : Request) (name : EventName) (delta : Int) (flag : IntentFlag) :
    BodyResult :=
  .ok (.animes, userEvent r name (subscriptionPayload r "anime_id")
    [subscriptionCounter animeResource r delta] animeResource .sub flag)

/-- `sub_anime`. -/
def subAnime (r : Request) (v : Reads) : Handler where
  resourceName := animeResource
  action := .sub
  prepare := do
    let anime ← present v.resource s!"No anime with id {r.resourceId} could be found"
    let title ← anime.text "title"
    .ok
      { options :=
          { conflictingIntent := some .resourceCreationPendingFlag
            intentConflictMessage := some s!"Already subscribed to anime {title}" }
        body := toggleBody v.associated
          (setIntent r "anime_subscriptions" .sub .resourceCreationPendingFlag)
          s!"Already subscribed to anime {title}"
          (animeEmission r .animeSub 1 .resourceCreationPendingFlag) }

/-- `unsub_anime`.  Like its sibling it refuses when the subscription exists. -/
def unsubAnime (r : Request) (v : Reads) : Handler where
  resourceName := animeResource
  action := .sub
  prepare := do
    let anime ← present v.resource s!"No anime with id {r.resourceId} could be found"
    let title ← anime.text "title"
    .ok
      { options :=
          { conflictingIntent := some .resourceDeletionPendingFlag
            intentConflictMessage := some s!"Not subscribed to anime {title}" }
        body := toggleBody v.associated
          (setIntent r "anime_subscriptions" .unsub .resourceDeletionPendingFlag)
          s!"Not subscribed to anime {title}"
          (animeEmission r .animeUnsub (-1) .resourceDeletionPendingFlag) }

/-- `delete_comment`.  Its body does not look at the latest intent. -/
def deleteComment (r : Request) (v : Reads) : Handler where
  resourceName := commentResource
  action := .delete
  prepare := do
    let comment ← present v.resource "Comment not found"
    checkRights r v comment "parent_forum" "Only author and admins can delete comments"
      "Insufficient permissions to delete comment"
    .ok
      { options :=
          { conflictingIntent := some .resourceDeletionPendingFlag
            intentConflictMessage := some "Already deleted comment" }
        body := fun _ =>
          .ok (.comments, userEvent r .commentDelete [("comment_id", .int r.resourceId)]
            [counterUpdate postResource "total_comments"
                (deriveCacheKey postResource (toString r.postId)) (-1),
              counterUpdate userResource "total_comments"
                (deriveCacheKey userResource (toString r.sid)) (-1)]
            commentResource .delete .resourceDeletionPendingFlag) }

/-- `vote_comment`.  The payload holds a truth value that is the same for both votes. -/
def voteComment (r : Request) (v : Reads) : Handler where
  resourceName := commentResource
  action := .vote
  prepare := do
    let comment ← present v.resource "Comment not found"
    let conflict := if r.vote = .up then "Comment already upvoted"
      else "Comment already downvoted"
    .ok
      { options :=
          { conflictingIntent := some r.vote.intent
            intentConflictMessage := some conflict }
        body := fun latestIntent => do
          let delta ← voteDelta r v.existingVote latestIntent "comment_votes" conflict
          let counters ← voteCounters commentResource r comment delta
          .ok (.comments, userEvent r .commentVote
            [("user_id", .int r.sid), ("comment_id", .int r.resourceId),
              ("vote", .bool (r.vote.value ≠ 0))]
            counters commentResource .vote r.vote.intent) }

/-- The refusal or the delta of `unvote_comment`, which is minus one throughout; a stored
downvote is refused like a missing vote. -/
def unvoteCommentDelta (r : Request) (v : Reads) (latestIntent : Option String) :
    Except Refusal Int :=
  if latestIntent = some IntentFlag.resourceCreationPendingAltFlag.value then .ok (-1)
  else if noLatestIntent latestIntent then
    if v.existingVote ≠ some true then
      .error (some (setIntent r "comment_votes" .vote .resourceDeletionPendingFlag),
        .httpException 409 "No vote casted on this comment")
    else .ok (-1)
  else .ok (-1)

/-- `unvote_comment`.  It guards the voting action and writes the intent of the unvoting
one. -/
def unvoteComment (r : Request) (v : Reads) : Handler where
  resourceName := commentResource
  action := .vote
  prepare := do
    let comment ← present v.resource "Comment not found"
    .ok
      { options :=
          { conflictingIntent := some .resourceDeletionPendingFlag
            intentConflictMessage := some "No vote casted on this comment" }
        body := fun latestIntent => do
          let delta ← unvoteCommentDelta r v latestIntent
          let counters ← voteCounters commentResource r comment delta
          .ok (.comments, userEvent r .commentUnvote
            [("user_id", .int r.sid), ("comment_id", .int r.resourceId), ("vote", .int delta)]
            counters commentResource .unvote .resourceDeletionPendingFlag) }

/-- `report_comment`.  The resource name of a report carries its tag. -/
def reportComment (r : Request) (v : Reads) : Handler where
  resourceName := pyJoin nameSeperator [commentResource, r.tag]
  action := .report
  prepare := do
    let _ ← present v.resource "Comment not found"
    .ok
      { options :=
          { conflictingIntent := some .resourceCreationPendingFlag
            intentConflictMessage := some s!"Comment already reported for reason: {r.tag}" }
        body := toggleBody v.associated
          (setIntent r (pyJoin nameSeperator [commentResource, r.tag]) .report
            .resourceCreationPendingFlag)
          s!"Comment already reported for reason: {r.tag}"
          (.ok (.comments, userEvent r .postUnsave
            [("comment_id", .int r.resourceId), ("user_id", .int r.sid),
              ("report_tag", .str r.tag), ("report_description", .str r.description),
              ("report_time", .str r.now)]
            [counterUpdate commentResource "reports"
              (deriveCacheKey commentResource (toString r.resourceId)) 1]
            (pyJoin nameSeperator [commentResource, r.tag]) .report
            .resourceCreationPendingFlag)) }

/-- The guarded endpoints. -/
inductive Endpoint
  | deletePost
  | votePost
  | unvotePost
  | savePost
  | unsavePost
  | subscribeForum
  | unsubscribeForum
  | subAnime
  | unsubAnime
  | deleteComment
  | voteComment
  | unvoteComment
  | reportComment
  deriving DecidableEq

/-- The endpoint's function. -/
def Endpoint.handler : Endpoint → Request → Reads → Handler
  | .deletePost => ResourceServer.deletePost
  | .votePost => ResourceServer.votePost
  | .unvotePost => ResourceServer.unvotePost
  | .savePost => ResourceServer.savePost
  | .unsavePost => ResourceServer.unsavePost
  | .subscribeForum => ResourceServer.subscribeForum
  | .unsubscribeForum => ResourceServer.unsubscribeForum
  | .subAnime => ResourceServer.subAnime
  | .unsubAnime => ResourceServer.unsubAnime
  | .deleteComment => ResourceServer.deleteComment
  | .voteComment => ResourceServer.voteComment
  | .unvoteComment => ResourceServer.unvoteComment
  | .reportComment => ResourceServer.reportComment

/-- The server's Redis: held locks, pending intents, the `HINCRBY` commands executed on
the counter hashes and the entries of the streams. -/
structure ServerState where
  locks : List String
  intents : String → Option String
  counters : List CounterUpdate
  streams : List (StreamName × Event)

/-- `SET key value`. -/
def ServerState.setIntent (s : ServerState) (key value : String) : ServerState :=
  { s with intents := fun k => if k = key then some value else s.intents k }

/-- The `DEL` of the lock key. -/
def ServerState.unlock (s : ServerState) (lockName : String) : ServerState :=
  { s with locks := s.locks.filter (· ≠ lockName) }

/-- `pipeline.execute()` of `emit_user_event`: one transaction of counter updates, intents and
the entry. -/
def executeEmission (s : ServerState) (stream : StreamName) (event : Event) : ServerState :=
  let s := { s with counters := s.counters ++ event.sideEffects.counterUpdates }
  let s := event.sideEffects.intentUpdates.foldl
    (fun s u => s.setIntent u.intentName u.intentValue) s
  { s with streams := s.streams ++ [(stream, event)] }

/-- `emit_user_event`.  The representation of the event is made while the transaction is put
together; without one nothing is executed. -/
def emitUserEvent (dumps : PyValue → Except Exn String) (s : ServerState) (stream : StreamName)
    (event : Event) : Except Exn ServerState := do
  let _ ← event.cacheRepr dumps
  .ok (executeEmission s stream event)

/-- The key of the intent that the guard reads. -/
def Handler.intentKey (h : Handler) (r : Request) : String :=
  createIntentFlag h.resourceName h.action.value (toString r.sid) (toString r.resourceId)

/-- The key of the lock that the guard sets and deletes. -/
def Handler.lockName (h : Handler) (r : Request) : String :=
  deriveLockKey [h.resourceName, h.action.value, toString r.sid, toString r.resourceId]

/-- A whole request.  The result is the exception that it ends with, if any. -/
def runRequest (dumps : PyValue → Except Exn String) (decodeResponses : Bool) (h : Handler)
    (r : Request) (s : ServerState) : ServerState × Option Exn :=
  match h.prepare with
  | .error e => (s, some e)
  | .ok guarded =>
      let lockName := h.lockName r
      let lockSet := decide (lockName ∉ s.locks)
      let intent := s.intents (h.intentKey r)
      match guardAction decodeResponses guarded.options lockSet intent with
      | .rejected e => (s.unlock lockName, some e)
      | .entered latestIntent =>
          match guarded.body latestIntent with
          | .error (set, e) =>
              let s := match set with
                | none => s
                | some (key, value) => s.setIntent key value
              (s.unlock lockName, some e)
          | .ok (stream, event) =>
              match emitUserEvent dumps s stream event with
              | .error e => (s.unlock lockName, some e)
              | .ok s => (s.unlock lockName, guardResume decodeResponses intent)

@[simp] theorem ServerState.unlock_streams (s : ServerState) (lockName : String) :
    (s.unlock lockName).streams = s.streams := rfl

@[simp] theorem ServerState.unlock_counters (s : ServerState) (lockName : String) :
    (s.unlock lockName).counters = s.counters := rfl

@[simp] theorem ServerState.setIntent_streams (s : ServerState) (key value : String) :
    (s.setIntent key value).streams = s.streams := rfl

@[simp] theorem ServerState.setIntent_counters (s : ServerState) (key value : String) :
    (s.setIntent key value).counters = s.counters := rfl

/-- Writing intents changes neither streams nor counters nor locks. -/
theorem foldl_setIntent_frame (us : List IntentUpdate) (s : ServerState) :
    (us.foldl (fun s u => s.setIntent u.intentName u.intentValue) s).streams = s.streams ∧
    (us.foldl (fun s u => s.setIntent u.intentName u.intentValue) s).counters =
      s.counters ∧
    (us.foldl (fun s u => s.setIntent u.intentName u.intentValue) s).locks = s.locks := by
  induction us generalizing s with
  | nil => exact ⟨rfl, rfl, rfl⟩
  | cons u us ih =>
      obtain ⟨hstreams, hcounters, hlocks⟩ := ih (s.setIntent u.intentName u.intentValue)
      exact ⟨hstreams, hcounters, hlocks⟩

/-- An emission adds the event to its stream. -/
theorem executeEmission_streams (s : ServerState) (stream : StreamName) (event : Event) :
    (executeEmission s stream event).streams = s.streams ++ [(stream, event)] := by
  simp [executeEmission, foldl_setIntent_frame]

/-- It executes the counter updates of the event. -/
theorem executeEmission_counters (s : ServerState) (stream : StreamName) (event : Event) :
    (executeEmission s stream event).counters =
      s.counters ++ event.sideEffects.counterUpdates := by
  simp [executeEmission, foldl_setIntent_frame]

/-- It takes no lock. -/
theorem executeEmission_locks (s : ServerState) (stream : StreamName) (event : Event) :
    (executeEmission s stream event).locks = s.locks := by
  simp [executeEmission, foldl_setIntent_frame]

/-- An event that `emit_user_event` can put into its transaction. -/
def Represented (dumps : PyValue → Except Exn String) (event : Event) : Prop :=
  ∃ entry, event.cacheRepr dumps = .ok entry

/-- With a serialiser that refuses bytes there is none. -/
theorem not_represented {dumps : PyValue → Except Exn String} (h : RejectsBytes dumps)
    (event : Event) : ¬ Represented dumps event := by
  rintro ⟨entry, hentry⟩
  exact Event.cacheRepr_ne_ok_of_rejectsBytes h event entry hentry

section
variable {dumps : PyValue → Except Exn String}

/-- An emission executes its transaction, or it raises for want of a representation. -/
theorem emitUserEvent_cases (dumps : PyValue → Except Exn String) (s : ServerState)
    (stream : StreamName) (event : Event) :
    (Represented dumps event ∧
      emitUserEvent dumps s stream event = .ok (executeEmission s stream event)) ∨
    (¬ Represented dumps event ∧ ∃ e, emitUserEvent dumps s stream event = .error e) := by
  unfold emitUserEvent Represented
  cases hrepr : event.cacheRepr dumps with
  | ok entry => exact .inl ⟨⟨entry, rfl⟩, rfl⟩
  | error e =>
      refine .inr ⟨?_, e, rfl⟩
      rintro ⟨entry, hentry⟩
      cases hentry

/-- What a request can do to the server: it emits the event of its body, or it changes
nothing but the lock and one intent that its body sets. -/
theorem runRequest_cases (dumps : PyValue → Except Exn String) (decodeResponses : Bool)
    (h : Handler) (r : Request) (s : ServerState) :
    (∃ guarded latestIntent stream event, h.prepare = .ok guarded ∧
      guardAction decodeResponses guarded.options (decide (h.lockName r ∉ s.locks))
        (s.intents (h.intentKey r)) = .entered latestIntent ∧
      guarded.body latestIntent = .ok (stream, event) ∧ Represented dumps event ∧
      (runRequest dumps decodeResponses h r s).1 =
        (executeEmission s stream event).unlock (h.lockName r)) ∨
    (runRequest dumps decodeResponses h r s).1 = s ∨
    (runRequest dumps decodeResponses h r s).1 = s.unlock (h.lockName r) ∨
    ∃ guarded latestIntent key value e, h.prepare = .ok guarded ∧
      guarded.body latestIntent = .error (some (key, value), e) ∧
      (runRequest dumps decodeResponses h r s).1 =
        (s.setIntent key value).unlock (h.lockName r) := by
  cases hprepare : h.prepare with
  | error e =>
      right; left
      simp [runRequest, hprepare]
  | ok guarded =>
      cases hguard : guardAction decodeResponses guarded.options
          (decide (h.lockName r ∉ s.locks)) (s.intents (h.intentKey r)) with
      | rejected e =>
          right; right; left
          simp only [runRequest, hprepare, hguard]
      | entered latestIntent =>
          cases hbody : guarded.body latestIntent with
          | ok emission =>
              obtain ⟨stream, event⟩ := emission
              rcases emitUserEvent_cases dumps s stream event with
                ⟨hrepr, hemit⟩ | ⟨_, e, hemit⟩
              · left
                refine ⟨guarded, latestIntent, stream, event, rfl, hguard, hbody, hrepr, ?_⟩
                simp only [runRequest, hprepare, hguard, hbody, hemit]
              · right; right; left
                simp only [runRequest, hprepare, hguard, hbody, hemit]
          | error refusal =>
              obtain ⟨set, e⟩ := refusal
              right; right
              cases set with
              | none =>
                  left
                  simp only [runRequest, hprepare, hguard, hbody]
              | some write =>
                  right
                  obtain ⟨key, value⟩ := write
                  refine ⟨guarded, latestIntent, key, value, e, rfl, hbody, ?_⟩
                  simp only [runRequest, hprepare, hguard, hbody]

/-- A request that passes the guard and whose body has an event to emit does emit it, if the
event has a representation. -/
theorem runRequest_of_emits {decodeResponses : Bool} {h : Handler} {r : Request}
    {s : ServerState} {guarded : Guarded} {latestIntent : Option String} {stream : StreamName}
    {event : Event} (hprepare : h.prepare = .ok guarded)
    (hguard : guardAction decodeResponses guarded.options (decide (h.lockName r ∉ s.locks))
      (s.intents (h.intentKey r)) = .entered latestIntent)
    (hbody : guarded.body latestIntent = .ok (stream, event))
    (hrepr : Represented dumps event) :
    (runRequest dumps decodeResponses h r s).1 =
      (executeEmission s stream event).unlock (h.lockName r) := by
  have hemit : emitUserEvent dumps s stream event = .ok (executeEmission s stream event) :=
    (emitUserEvent_cases dumps s stream event).elim And.right fun hnot => absurd hrepr hnot.1
  simp only [runRequest, hprepare, hguard, hbody, hemit]

end

/-- The resource name under which an endpoint writes its intent. -/
def Endpoint.intentResource (r : Request) : Endpoint → String
  | .votePost | .unvotePost | .savePost | .unsavePost => postResource
  | .deletePost | .subscribeForum | .unsubscribeForum => forumResource
  | .subAnime | .unsubAnime => animeResource
  | .deleteComment | .voteComment | .unvoteComment => commentResource
  | .reportComment => pyJoin nameSeperator [commentResource, r.tag]

/-- The action under which it does. -/
def Endpoint.intentAction : Endpoint → Action
  | .deletePost | .deleteComment => .delete
  | .votePost | .unvotePost | .voteComment => .vote
  | .unvoteComment => .unvote
  | .savePost | .unsavePost => .save
  | .subscribeForum | .subAnime | .unsubAnime => .sub
  | .unsubscribeForum => .unsub
  | .reportComment => .report

/-- A body that emits through `toggleBody` emits its emission. -/
theorem toggleBody_emits {refuse : Bool} {refusedIntent : String × String}
    {detail : String} {emission : BodyResult} {latestIntent : Option String}
    {stream : StreamName} {event : Event}
    (h : toggleBody refuse refusedIntent detail emission latestIntent =
      .ok (stream, event)) : emission = .ok (stream, event) := by
  unfold toggleBody at h
  split at h
  · cases h
  · exact h

theorem saveEmission_emits {r : Request} {post : Dto} {name : EventName} {delta : Int}
    {flag : IntentFlag} {stream : StreamName} {event : Event}
    (h : saveEmission r post name delta flag = .ok (stream, event)) :
    ∃ payload counters, event = userEvent r name payload counters postResource .save flag := by
  obtain ⟨authorId, _, h⟩ := except_bind_eq_ok h
  cases h
  exact ⟨_, _, rfl⟩

theorem forumEmission_emits {r : Request} {v : Reads} {failure : String} {name : EventName}
    {delta : Int} {action : Action} {flag : IntentFlag} {stream : StreamName} {event : Event}
    (h : forumEmission r v failure name delta action flag = .ok (stream, event)) :
    ∃ payload counters, event = userEvent r name payload counters forumResource action flag := by
  obtain ⟨found, _, h⟩ := except_bind_eq_ok h
  cases found with
  | none => cases h
  | some owner =>
      obtain ⟨ownerId, _, h⟩ := except_bind_eq_ok h
      cases h
      exact ⟨_, _, rfl⟩

/-- The event of an endpoint has one intent, and no cache entry to drop. -/
theorem emits_userEvent (endpoint : Endpoint) {r : Request} {v : Reads} {guarded : Guarded}
    {latestIntent : Option String} {stream : StreamName} {event : Event}
    (hprepare : (endpoint.handler r v).prepare = .ok guarded)
    (hbody : guarded.body latestIntent = .ok (stream, event)) :
    ∃ name payload counters flag, event = userEvent r name payload counters
      (endpoint.intentResource r) endpoint.intentAction flag := by
  cases endpoint with
  | deletePost =>
      obtain ⟨resource, _, hprepare⟩ := except_bind_eq_ok hprepare
      cases hprepare
      obtain ⟨_, _, hbody⟩ := except_bind_eq_ok hbody
      obtain ⟨forumId, _, hbody⟩ := except_bind_eq_ok hbody
      cases hbody
      exact ⟨_, _, _, _, rfl⟩
  | votePost | unvotePost | voteComment | unvoteComment =>
      obtain ⟨resource, _, hprepare⟩ := except_bind_eq_ok hprepare
      cases hprepare
      obtain ⟨delta, _, hbody⟩ := except_bind_eq_ok hbody
      obtain ⟨counters, _, hbody⟩ := except_bind_eq_ok hbody
      cases hbody
      exact ⟨_, _, _, _, rfl⟩
  | savePost | unsavePost =>
      obtain ⟨resource, _, hprepare⟩ := except_bind_eq_ok hprepare
      cases hprepare
      obtain ⟨payload, counters, hevent⟩ := saveEmission_emits (toggleBody_emits hbody)
      exact ⟨_, payload, counters, _, hevent⟩
  | subscribeForum | unsubscribeForum =>
      obtain ⟨forum, _, hprepare⟩ := except_bind_eq_ok hprepare
      obtain ⟨name, _, hprepare⟩ := except_bind_eq_ok hprepare
      cases hprepare
      obtain ⟨payload, counters, hevent⟩ := forumEmission_emits (toggleBody_emits hbody)
      exact ⟨_, payload, counters, _, hevent⟩
  | subAnime | unsubAnime =>
      obtain ⟨anime, _, hprepare⟩ := except_bind_eq_ok hprepare
      obtain ⟨title, _, hprepare⟩ := except_bind_eq_ok hprepare
      cases hprepare
      cases toggleBody_emits hbody
      exact ⟨_, _, _, _, rfl⟩
  | deleteComment =>
      obtain ⟨comment, _, hprepare⟩ := except_bind_eq_ok hprepare
      obtain ⟨_, _, hprepare⟩ := except_bind_eq_ok hprepare
      cases hprepare
      cases hbody
      exact ⟨_, _, _, _, rfl⟩
  | reportComment =>
      obtain ⟨resource, _, hprepare⟩ := except_bind_eq_ok hprepare
      cases hprepare
      cases toggleBody_emits hbody
      exact ⟨_, _, _, _, rfl⟩

end ResourceServer
end Tenjin
