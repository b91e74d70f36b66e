import Tenjin.Python.Runtime

/-!
# Names shared by the resource server and the workers

The enumerations of `strings.py` and the key builders of `cache.py`.  Every
composed name is its parts joined with `NAME_SEPERATOR`.
-/

namespace Tenjin
namespace ResourceAuxillary

open Python

/-- `NAME_SEPERATOR`. -/
def nameSeperator : String := ":"

/-- `IntentFlag`: what a pending intent says about the resource. -/
inductive IntentFlag
  | resourceCreationPendingFlag
  | resourceCreationPendingAltFlag
  | resourceDeletionPendingFlag
  deriving DecidableEq

/-- The value of the flag.  It contains the separator itself. -/
def IntentFlag.value : IntentFlag → String
  | .resourceCreationPendingFlag => pyJoin nameSeperator ["FLAG", "C"]
  | .resourceCreationPendingAltFlag => pyJoin nameSeperator ["FLAG", "CA"]
  | .resourceDeletionPendingFlag => pyJoin nameSeperator ["FLAG", "D"]

/-- `Action`, the middle part of lock and intent keys. -/
inductive Action
  | save
  | report
  | vote
  | unvote
  | sub
  | unsub
  | delete
  | create
  deriving DecidableEq

/-- The value of the action. -/
def Action.value : Action → String
  | .save => "SAVE"
  | .report => "REPORT"
  | .vote => "VOTE"
  | .unvote => "UNVOTE"
  | .sub => "SUB"
  | .unsub => "UNSUB"
  | .delete => "DELETE"
  | .create => "CREATE"

/-- `StreamName`. -/
inductive StreamName
  | posts
  | comments
  | forums
  | animes
  | users
  | downstreamDeletions
  | downstreamCounterDecrements
  | userEmails
  | deadLetterQueue
  deriving DecidableEq

/-- The value of the name of a stream. -/
def StreamName.value : StreamName → String
  | .posts => "POSTS"
  | .comments => "COMMENTS"
  | .forums => "FORUMS"
  | .animes => "ANIMES"
  | .users => "USERS"
  | .downstreamDeletions => "DOWNSTREAM_DELETIONS"
  | .downstreamCounterDecrements => "DOWNSTREAM_COUNTER_DECREMENTS"
  | .userEmails => "USER_EMAILS"
  | .deadLetterQueue => "DEAD_LETTER_QUEUE"

/-- `EventName`. -/
inductive EventName
  | postCreate
  | postSave
  | postUnsave
  | postReport
  | postVote
  | postUnvote
  | postDelete
  | animeSub
  | animeUnsub
  | commentCreate
  | commentVote
  | commentUnvote
  | commentReport
  | commentDelete
  | forumSub
  | forumUnsub
  | forumDelete
  | userCleanup
  | malformed
  | orphanedPostDelete
  | orphanedCommentDelete
  | downstreamUserPostDecrement
  | downstreamForumPostDecrement
  | downstreamUserCommentDecrement
  | downstreamPostCommentDecrement
  | dlqCounter
  | dlqSideEffects
  | userDeletionEmail
  | userRegistrationEmail
  | userPasswordRecoveryEmail
  deriving DecidableEq

/-- The value of the name, as it is written to a stream. -/
def EventName.value : EventName → String
  | .postCreate => "POST_CREATE"
  | .postSave => "POST_SAVE"
  | .postUnsave => "POST_UNSAVE"
  | .postReport => "POST_REPORT"
  | .postVote => "POST_VOTE"
  | .postUnvote => "POST_UNVOTE"
  | .postDelete => "POST_DELETE"
  | .animeSub => "ANIME_SUB"
  | .animeUnsub => "ANIME_UNSUB"
  | .commentCreate => "COMMENT_CREATE"
  | .commentVote => "COMMENT_VOTE"
  | .commentUnvote => "COMMENT_UNVOTE"
  | .commentReport => "COMMENT_REPORT"
  | .commentDelete => "COMMENT_DELETE"
  | .forumSub => "FORUM_SUB"
  | .forumUnsub => "FORUM_UNSUB"
  | .forumDelete => "FORUM_DELETE"
  | .userCleanup => "USER_CLEANUP"
  | .malformed => "MALFORMED"
  | .orphanedPostDelete => "ORPHANED_POST_DELETE"
  | .orphanedCommentDelete => "ORPHANED_COMMENT_DELETE"
  | .downstreamUserPostDecrement => "DOWNSTREAM_USER_POST_DECREMENT"
  | .downstreamForumPostDecrement => "DOWNSTREAM_FORUM_POST_DECREMENT"
  | .downstreamUserCommentDecrement => "DOWNSTREAM_USER_COMMENT_DECREMENT"
  | .downstreamPostCommentDecrement => "DOWNSTREAM_POST_COMMENT_DECREMENT"
  | .dlqCounter => "DLQ_COUNTER"
  | .dlqSideEffects => "DLQ_SIDE_EFFECTS"
  | .userDeletionEmail => "USER_DELETION_EMAIL"
  | .userRegistrationEmail => "USER_REGISTRATION_EMAIL"
  | .userPasswordRecoveryEmail => "USER_PASSWORD_RECOVERY_EMAIL"

/-- `derive_cache_key`. -/
def deriveCacheKey (resourceName identifier : String) : String :=
  pyJoin nameSeperator [resourceName, identifier]

/-- `derive_hashmap_name`. -/
def deriveHashmapName (resourceName field : String) : String :=
  pyJoin nameSeperator [resourceName, field]

/-- `create_intent_flag`: the key under which an intent is stored. -/
def createIntentFlag (entity action userIdentifier resourceIdentifier : String) : String :=
  pyJoin nameSeperator [entity, action, userIdentifier, resourceIdentifier]

end ResourceAuxillary
end Tenjin
