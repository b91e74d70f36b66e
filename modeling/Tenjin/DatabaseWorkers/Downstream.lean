import Tenjin.ResourceAuxillary.PostProcessing

/-!
# The tables behind downstream events

The two mappings of `downstream.py` and the functions of `downstream_post_processing.py`
that read them.  `EventSideEffects` is not imported in that module: what the call
`EventSideEffects()` gives there is the parameter `sideEffects` of the dispatching
functions, and `namedSideEffects` is what it gives as the module stands.

* `downstreamDeletionMapping` — which children a deleted entity leaves behind.
* `downstreamDecrementMapping` — which counters the deletion of children lowers.
-/

namespace Tenjin
namespace DatabaseWorkers

open Python ResourceAuxillary

/-- `StrongEntity`. -/
inductive StrongEntity
  | genre
  | anime
  | user
  | forum
  | post
  | comment
  deriving DecidableEq

/-- The table of the entity. -/
def StrongEntity.value : StrongEntity → String
  | .genre => "genres"
  | .anime => "animes"
  | .user => "users"
  | .forum => "forums"
  | .post => "posts"
  | .comment => "comments"

/-- `ForeignKeyColumnLiteral`. -/
inductive ForeignKeyColumnLiteral
  | authorId
  | parentForum
  | parentPost
  | parentAnime
  deriving DecidableEq

/-- `AnonymousDownstreamDeletionData`. -/
structure AnonymousDownstreamDeletionData where
  foreignKeyColumn : ForeignKeyColumnLiteral
  orphanTable : StrongEntity
  deriving DecidableEq

/-- `DownstreamDeletionData`; the time of the deletion is its ISO text. -/
structure DownstreamDeletionData extends AnonymousDownstreamDeletionData where
  foreignKey : Int
  deletedAt : String
  deriving DecidableEq

/-- `DownstreamCounterDecrementData`. -/
structure DownstreamCounterDecrementData where
  hashmapName : String
  affectedTableName : StrongEntity
  affectedColumnName : ForeignKeyColumnLiteral
  deletionAuthorEventId : Int
  deriving DecidableEq

/-- `DownstreamDeletionMapping[upstream_table]`. -/
def downstreamDeletionMapping :
    StrongEntity → Except Exn (List AnonymousDownstreamDeletionData)
  | .forum => .ok [⟨.parentForum, .comment⟩, ⟨.parentForum, .post⟩]
  | .user => .ok [⟨.authorId, .comment⟩, ⟨.authorId, .post⟩]
  | .post => .ok [⟨.parentPost, .comment⟩]
  -- genres, animes and comments are not among the keys
  | table => .error (.keyError table.value)

/-- `DOWNSTREAM_DECREMENT_MAPPING.get(deleted_entity, None)`. -/
def downstreamDecrementMapping :
    StrongEntity → Option (List (EventName × ForeignKeyColumnLiteral × String))
  | .user =>
      some [(.downstreamUserPostDecrement, .authorId,
          deriveHashmapName StrongEntity.user.value StrongEntity.post.value),
        (.downstreamUserCommentDecrement, .authorId,
          deriveHashmapName StrongEntity.user.value StrongEntity.comment.value)]
  | .post =>
      some [(.downstreamPostCommentDecrement, .authorId,
        deriveHashmapName StrongEntity.user.value StrongEntity.comment.value)]
  | .forum =>
      some [(.downstreamForumPostDecrement, .authorId,
        deriveHashmapName StrongEntity.user.value StrongEntity.post.value)]
  | _ => none

/-- A downstream event: its name, its payload and its side effects. -/
structure DownstreamEvent (α : Type) where
  name : EventName
  payload : α
  sideEffects : EventSideEffects
  deriving DecidableEq

/-- `EventSideEffects()` in a module that does not import the name. -/
def namedSideEffects : Except Exn EventSideEffects := .error .nameError

section
variable (sideEffects : Except Exn EventSideEffects)

/-- The events that `dispatch_downstream_events` builds, one for each deleted entry and
each kind of children.  All of them are named after orphaned comments. -/
def downstreamEvents (upstreamTable : StrongEntity) (deletedData : List (Int × String)) :
    Except Exn (List (DownstreamEvent DownstreamDeletionData)) :=
  match downstreamDeletionMapping upstreamTable with
  | .error e => .error e
  | .ok downstreamBases =>
      (deletedData.flatMap fun entry => downstreamBases.map fun base =>
        DownstreamDeletionData.mk base entry.1 entry.2).mapM fun payload =>
          sideEffects.map (DownstreamEvent.mk .orphanedCommentDelete payload)

/-- The events that `dispatch_downstream_counter_decrements` builds. -/
def downstreamCounterDecrements (deletedEntity : StrongEntity)
    (deletionAuthorEventId : Int) :
    Except Exn (List (DownstreamEvent DownstreamCounterDecrementData)) :=
  match downstreamDecrementMapping deletedEntity with
  | none => .error .valueError
  | some downstreamCounterData =>
      downstreamCounterData.mapM fun (eventName, foreignKeyColumn, hashmapName) =>
        sideEffects.map (DownstreamEvent.mk eventName
          { hashmapName
            affectedTableName := deletedEntity
            affectedColumnName := foreignKeyColumn
            deletionAuthorEventId })

end

/-- `emit_downstream_counter_decrement_updates`; a delta is a foreign key and a count. -/
def emitDownstreamCounterDecrementUpdates (deltas : List (String × ℕ)) (hashmapName : String)
    (hashKeyPrefix : StrongEntity) : List Command :=
  deltas.map fun delta =>
    .hincrby hashmapName (deriveCacheKey hashKeyPrefix.value delta.1) (-(delta.2 : Int))

/-- What is dispatched about counters is about the table of the deleted children, and its
hash is one of two. -/
theorem downstreamCounterDecrements_spec {sideEffects : Except Exn EventSideEffects}
    {deletedEntity : StrongEntity} {eventId : Int}
    {events : List (DownstreamEvent DownstreamCounterDecrementData)}
    (h : downstreamCounterDecrements sideEffects deletedEntity eventId = .ok events) :
    ∀ event ∈ events,
      event.payload.hashmapName ∈ ["users:posts", "users:comments"] ∧
        event.payload.affectedTableName = deletedEntity ∧
        event.payload.affectedColumnName = .authorId ∧
        event.payload.deletionAuthorEventId = eventId := by
  intro event hmem
  unfold downstreamCounterDecrements at h
  cases hmapping : downstreamDecrementMapping deletedEntity with
  | none =>
      rw [hmapping] at h
      cases h
  | some entries =>
      rw [hmapping] at h
      obtain ⟨⟨name, column, hashmapName⟩, hentry, hevent⟩ := exists_of_mem_mapM h hmem
      -- the rows of the mapping, one by one
      have hnamed : hashmapName ∈ ["users:posts", "users:comments"] ∧ column = .authorId := by
        cases deletedEntity <;> simp only [downstreamDecrementMapping, Option.some.injEq,
          reduceCtorEq] at hmapping
        all_goals
          subst hmapping
          simp only [List.mem_cons, List.not_mem_nil, or_false, Prod.mk.injEq] at hentry
        · rcases hentry with ⟨-, rfl, rfl⟩ | ⟨-, rfl, rfl⟩ <;> decide
        · obtain ⟨-, rfl, rfl⟩ := hentry
          decide
        · obtain ⟨-, rfl, rfl⟩ := hentry
          decide
      cases sideEffects with
      | error e => cases hevent
      | ok effects =>
          cases hevent
          exact ⟨hnamed.1, rfl, hnamed.2, rfl⟩

end DatabaseWorkers
end Tenjin
