import Mathlib.Data.Set.Finite.Lemmas
import Tenjin.DatabaseWorkers.ExactlyOnce
import Tenjin.ResourceAuxillary.SqlTemplates

/-!
# Associations: saves, votes and subscriptions

`batch_insert_association_entities` of `insertions.py`, the tables of
`translation.py` and the casts of `casting.py` that it uses, under the consumer of
`ExactlyOnce`.

* `AssociationDatabase` answers the statements of one batch; what it answers is up to
  the environment.
* `associationRow` is the purpose of the upsert: the row of a user and a resource
  after the committed rows, where the event with the greater id wins.
* `Converges` says that this row carries the last event that was handed over.

The upsert statement is never composed, so no batch writes a row.
-/

namespace Tenjin
namespace DatabaseWorkers

open Python Foundation ResourceAuxillary

/-- The types of the payload fields. -/
inductive FieldType
  | int
  | str
  | bool
  | datetime
  deriving DecidableEq

/-- `GenericPostAssosciaation`. -/
def genericPostAssosciaation : List (String × FieldType) :=
  [("user_id", .int), ("post_id", .int)]

/-- `GenericCommentAssosciation`. -/
def genericCommentAssosciation : List (String × FieldType) :=
  [("user_id", .int), ("comment_id", .int)]

/-- `BaseReportAssosciation`. -/
def baseReportAssosciation : List (String × FieldType) :=
  [("report_tag", .str), ("report_description", .str), ("report_time", .datetime)]

/-- `PostVoteAssosciation`: a user and a vote, but no post. -/
def postVoteAssosciation : List (String × FieldType) :=
  [("user_id", .int), ("vote", .bool)]

/-- `CommentVoteAssosciation`. -/
def commentVoteAssosciation : List (String × FieldType) :=
  genericCommentAssosciation ++ [("vote", .bool)]

/-- `ForumSubscriptionAssosciation`. -/
def forumSubscriptionAssosciation : List (String × FieldType) :=
  [("user_id", .int), ("forum_id", .int), ("time_subscribed", .datetime)]

/-- `AnimeSubscriptionAssosciation`. -/
def animeSubscriptionAssosciation : List (String × FieldType) :=
  [("user_id", .int), ("anime_id", .int), ("time_subscribed", .datetime)]

/-- `PostCreation`. -/
def postCreationPayload : List (String × FieldType) :=
  [("author_id", .int), ("forum_id", .int), ("title", .str), ("body_text", .str),
    ("time_posted", .datetime)]

/-- `CommentCreation`. -/
def commentCreationPayload : List (String × FieldType) :=
  [("author_id", .int), ("parent_post", .int), ("parent_forum", .int), ("body", .str),
    ("time_created", .datetime)]

/-- `CommentDeletion`. -/
def commentDeletionPayload : List (String × FieldType) :=
  [("comment_id", .int)]

/-- `EVENT_PAYLOAD_TYPES.get`. -/
def eventPayloadTypes : EventName → Option (List (String × FieldType))
  | .postCreate => some postCreationPayload
  | .postSave => some genericPostAssosciaation
  | .postUnsave => some genericPostAssosciaation
  | .postVote => some postVoteAssosciation
  | .postUnvote => some postVoteAssosciation
  | .postReport => some (genericPostAssosciaation ++ baseReportAssosciation)
  | .commentVote => some commentVoteAssosciation
  | .commentCreate => some commentCreationPayload
  | .commentUnvote => some commentVoteAssosciation
  | .commentReport => some (genericCommentAssosciation ++ baseReportAssosciation)
  | .commentDelete => some commentDeletionPayload
  | .forumSub => some forumSubscriptionAssosciation
  | .forumUnsub => some forumSubscriptionAssosciation
  | .animeSub => some animeSubscriptionAssosciation
  | .animeUnsub => some animeSubscriptionAssosciation
  | _ => none

/-- `user_post_pk`. -/
def userPostPk : List String := ["user_id", "post_id"]

/-- `user_comment_pk`. -/
def userCommentPk : List String := ["user_id", "comment_id"]

/-- `user_anime_pk`. -/
def userAnimePk : List String := ["user_id", "anime_id"]

/-- `ASSOCIATION_DB_METADATA`: a table and the columns of its primary key. -/
def associationDbMetadata : EventName → Option (String × List String)
  | .postSave => some ("post_saves", userPostPk)
  | .postUnsave => some ("post_saves", userPostPk)
  | .postVote => some ("post_votes", userPostPk)
  | .postUnvote => some ("post_votes", userPostPk)
  | .postReport => some ("post_reports", userPostPk)
  | .commentVote => some ("comment_votes", userCommentPk)
  | .commentUnvote => some ("comment_votes", userCommentPk)
  | .commentReport => some ("comment_reportss", userCommentPk)
  | .forumSub => some ("forum_subscriptions", userCommentPk)
  | .forumUnsub => some ("forum_subscriptions", userCommentPk)
  | .animeSub => some ("anime_subscriptions", userAnimePk)
  | .animeUnsub => some ("anime_subscriptions", userAnimePk)
  | _ => none

/-- `resolve_entity_metadata`. -/
def resolveEntityMetadata (event : StreamedEvent) : Except Exn (String × List String) :=
  match associationDbMetadata event.name with
  | some metadata => .ok metadata
  | none => .error (.keyError event.name.value)

/-- A value of a copied row.  An instant is kept as the text it stands for. -/
inductive Cell
  | null
  | int (i : Int)
  | str (s : String)
  | bool (b : Bool)
  | datetime (instant : String)
  deriving DecidableEq

/-- What the database answers to the statements of the `n`-th call for a batch, and the
name that the call draws for its temporary table. -/
structure AssociationDatabase where
  uuid4Hex : ℕ → String
  execute : ℕ → String → Except Exn Unit
  copy : ℕ → String → Except Exn Unit
  writeRow : ℕ → List Cell → Except Exn Unit
  upsert : ℕ → String → Except Exn (List Int)

/-- `str` and `datetime.fromisoformat` of the runtime. -/
structure Conversions where
  str : PyValue → String
  fromisoformat : PyValue → Except Exn String

section
variable (conv : Conversions) (db : AssociationDatabase)

/-- The cast of one payload value: `CAST_MAPPING` for truth values and instants, and
`default_serializer` for the rest.  An empty text becomes `NULL`. -/
def castField (fieldType : FieldType) (value : PyValue) : Except Exn Cell :=
  if value = .str "" then .ok .null
  else
    match fieldType with
    | .int => (pyIntOf value).map .int
    | .str => .ok (.str (conv.str value))
    | .bool => (pyIntOf value).map fun i => .bool (i ≠ 0)
    | .datetime => (conv.fromisoformat value).map .datetime

/-- The row of one event: every field of the payload type, in order. -/
def associationCells (fields : List (String × FieldType)) (event : StreamedEvent) :
    Except Exn (List Cell) :=
  fields.mapM fun field => do
    let value ← event.payloadField field.1
    castField conv field.2 value

/-- The loop that copies one row for each event. -/
def copyRows (n : ℕ) (fields : List (String × FieldType)) :
    List StreamedEvent → Except Exn Unit
  | [] => .ok ()
  | event :: events => do
      let row ← associationCells conv fields event
      db.writeRow n row
      copyRows n fields events

/-- `batch_insert_association_entities`, called for the `n`-th time. -/
def batchInsertAssociationEntities (action : AssociationAction) (n : ℕ)
    (events : List StreamedEvent) : Except Exn (List Int) :=
  match events with
  | [] => .error .indexError
  | first :: _ =>
      match eventPayloadTypes first.name with
      | none => .error .valueError
      | some fields => do
          let (table, pkColumns) ← resolveEntityMetadata first
          let columns := fields.map Prod.fst
          let tempTable := "_staging_" ++ table ++ "_" ++ db.uuid4Hex n
          let createSql ← prepareTempTableSql tempTable table
          db.execute n createSql
          let copySql ← prepareWeakInsertionCopySql tempTable columns
          db.copy n copySql
          copyRows conv db n fields events
          let upsertSql ← prepareWeakInsertionSql table tempTable columns pkColumns action
          db.upsert n upsertSql

/-- No association batch is ever inserted, whatever the database answers: composing
the upsert raises. -/
theorem batchInsertAssociationEntities_ne_ok (action : AssociationAction) (n : ℕ)
    (events : List StreamedEvent) (ids : List Int) :
    batchInsertAssociationEntities conv db action n events ≠ .ok ids := by
  intro hok
  unfold batchInsertAssociationEntities at hok
  split at hok
  · cases hok
  split at hok
  · cases hok
  obtain ⟨⟨table, pkColumns⟩, _, hok⟩ := except_bind_eq_ok hok
  obtain ⟨createSql, _, hok⟩ := except_bind_eq_ok hok
  obtain ⟨_, _, hok⟩ := except_bind_eq_ok hok
  obtain ⟨copySql, _, hok⟩ := except_bind_eq_ok hok
  obtain ⟨_, _, hok⟩ := except_bind_eq_ok hok
  obtain ⟨_, _, hok⟩ := except_bind_eq_ok hok
  obtain ⟨upsertSql, hcomposed, _⟩ := except_bind_eq_ok hok
  rw [prepareWeakInsertionSql_error] at hcomposed
  cases hcomposed

end

/-- The relations between a user and a resource. -/
inductive Association
  | postSave
  | postVote
  | commentVote
  | forumSubscription
  | animeSubscription
  deriving DecidableEq

/-- The payload field that holds the resource. -/
def Association.resourceField : Association → String
  | .postSave => "post_id"
  | .postVote => "post_id"
  | .commentVote => "comment_id"
  | .forumSubscription => "forum_id"
  | .animeSubscription => "anime_id"

/-- The relation that an event is about. -/
def association : EventName → Option Association
  | .postSave => some .postSave
  | .postUnsave => some .postSave
  | .postVote => some .postVote
  | .postUnvote => some .postVote
  | .commentVote => some .commentVote
  | .commentUnvote => some .commentVote
  | .forumSub => some .forumSubscription
  | .forumUnsub => some .forumSubscription
  | .animeSub => some .animeSubscription
  | .animeUnsub => some .animeSubscription
  | _ => none

/-- One user and one resource of a relation. -/
structure AssociationKey where
  association : Association
  userId : PyValue
  resourceId : PyValue
  deriving DecidableEq

/-- The key that an event is about. -/
def associationKey (event : StreamedEvent) : Option AssociationKey :=
  match association event.name with
  | none => none
  | some relation =>
      match event.payload.lookup "user_id", event.payload.lookup relation.resourceField with
      | some userId, some resourceId => some ⟨relation, userId, resourceId⟩
      | _, _ => none

/-- The state that an event calls for: on or off, or the vote. -/
def associationState (event : StreamedEvent) : Option PyValue :=
  match event.name with
  | .postVote | .commentVote => event.payload.lookup "vote"
  | .postSave | .forumSub | .animeSub => some (.bool true)
  | .postUnsave | .forumUnsub | .animeUnsub => some (.bool false)
  | _ => none

/-- A stored association: its state and the id of the event that wrote it. -/
structure AssociationRow where
  state : Option PyValue
  lastEventId : Int
  deriving DecidableEq

/-- The purpose of the upsert: a row is replaced by an event with a greater id. -/
def upsertAssociation (row : Option AssociationRow) (event : StreamedEvent) :
    Option AssociationRow :=
  match row with
  | none => some ⟨associationState event, event.eventId⟩
  | some stored =>
      if stored.lastEventId < event.eventId then
        some ⟨associationState event, event.eventId⟩
      else some stored

/-- The event whose row a write is. -/
def writtenEvent (stream : Stream) : DbWrite → Option StreamedEvent
  | .row i => some (stream.entry i)
  | .dedup _ => none

/-- The row of a key after everything that has been committed. -/
def associationRow (stream : Stream) (key : AssociationKey) (w : World) :
    Option AssociationRow :=
  ((w.committed.flatten.filterMap (writtenEvent stream)).filter fun event =>
    associationKey event = some key).foldl upsertAssociation none

/-- Where no row is committed, no key has one. -/
theorem associationRow_of_noRow {stream : Stream} {w : World}
    (h : ∀ i, ¬ w.Committed (.row i)) (key : AssociationKey) :
    associationRow stream key w = none := by
  have hnothing : w.committed.flatten.filterMap (writtenEvent stream) = [] := by
    rw [List.filterMap_eq_nil_iff]
    intro write hwrite
    cases write with
    | dedup i => rfl
    | row i =>
        obtain ⟨tx, htx, hrow⟩ := List.mem_flatten.mp hwrite
        exact absurd ⟨tx, htx, hrow⟩ (h i)
  rw [associationRow, hnothing]
  rfl

/-- One batch of an association consumer. -/
structure AssociationDelivery where
  eventIds : List Int
  db : AssociationDatabase

section
variable (dumps : PyValue → Except Exn String) (cfg : ConsumerSettings)
  (conv : Conversions) (action : AssociationAction) (stream : Stream)

/-- The batch with the insertion function that the consumer calls for it. -/
def AssociationDelivery.toDelivery (d : AssociationDelivery) : Delivery where
  eventIds := d.eventIds
  insert := batchInsertAssociationEntities conv d.db action

/-- The consumer hands over one batch after the other, starting from nothing. -/
def consumeAssociations (deliveries : List AssociationDelivery) : World :=
  deliveries.foldl (fun w d =>
    insertionIteration dumps cfg stream w (d.toDelivery conv action)) World.empty

/-- Some batch hands over the event. -/
def HandedOver (deliveries : List AssociationDelivery) (i : Int) : Prop :=
  ∃ d ∈ deliveries, i ∈ d.eventIds

/-- An event of the key is handed over. -/
def HandedOverFor (key : AssociationKey) (deliveries : List AssociationDelivery)
    (i : Int) : Prop :=
  HandedOver deliveries i ∧ associationKey (stream.entry i) = some key

/-- The row carries the last event of the key, and no batch is rejected because it
holds several events of the key. -/
structure Converges (key : AssociationKey) (deliveries : List AssociationDelivery) :
    Prop where
  lastWriterWins : ∀ i, IsGreatest {i | HandedOverFor stream key deliveries i} i →
    associationRow stream key (consumeAssociations dumps cfg conv action stream deliveries) =
      some ⟨associationState (stream.entry i), i⟩
  notRejected : ∀ d ∈ deliveries,
    (∃ i ∈ d.eventIds, ∃ j ∈ d.eventIds, i ≠ j ∧
      associationKey (stream.entry i) = some key ∧
      associationKey (stream.entry j) = some key) →
    ∀ n ids, batchInsertAssociationEntities conv d.db action n (batchOf stream ids) ≠
      .error .cardinalityViolation

end

/-- The open transaction holds no row. -/
def NoRows (committed : List (List DbWrite)) (st : InsertState) : Prop :=
  st.conn.committed = committed ∧ ∀ ws, st.conn.current = some ws → ∀ i, .row i ∉ ws

section
variable {dumps : PyValue → Except Exn String} {cfg : ConsumerSettings}
  {stream : Stream}

/-- An iteration in which no insertion returns commits no row. -/
theorem insertionIteration_noRow {w : World} {d : Delivery}
    (hnever : ∀ n events ids, d.insert n events ≠ .ok ids) (i : Int)
    (h : ¬ w.Committed (.row i)) :
    ¬ (insertionIteration dumps cfg stream w d).Committed (.row i) := by
  -- committing or dropping a transaction without rows
  have hend : ∀ st : InsertState, NoRows w.committed st →
      (∀ tx ∈ st.conn.commit.committed, DbWrite.row i ∉ tx) ∧
      ∀ tx ∈ st.conn.rollback.committed, DbWrite.row i ∉ tx := by
    intro st hst
    have hkept : ∀ tx ∈ st.conn.committed, DbWrite.row i ∉ tx := by
      rw [hst.1]
      intro tx htx hrow
      exact h ⟨tx, htx, hrow⟩
    refine ⟨?_, hkept⟩
    cases hcurrent : st.conn.current with
    | none => rwa [Connection.commit_committed_of_none hcurrent]
    | some ws =>
        rw [Connection.commit_committed_of_some hcurrent]
        intro tx htx
        rcases List.mem_append.mp htx with htx | htx
        · exact hkept tx htx
        · rw [List.mem_singleton.mp htx]
          exact hst.2 ws hcurrent i
  rintro ⟨tx, htx, hrow⟩
  unfold insertionIteration at htx
  dsimp only at htx
  split at htx
  · exact (hend ⟨(Connection.idle w.committed).execute _, [], 0⟩
      ⟨rfl, by simp [Connection.idle]⟩).1 tx htx hrow
  -- the retries roll back and the blocks raise, so the transaction stays without rows
  · have hafter := dbExecuteWithRetries_preserves InsertState.rollback
      (batchInsertWithIsolation d.insert (trimDuplicateEvents
        (freshEventIds w ((batchOf stream d.eventIds).map StreamedEvent.eventId))
        (batchOf stream d.eventIds)))
      (NoRows w.committed)
      (fun st hst => by
        unfold NoRows
        rw [isolation_conn_of_never_inserted hnever]
        exact hst)
      (fun st hst => ⟨hst.1, by simp [InsertState.rollback]⟩)
      cfg.maxRetries none
      ⟨(Connection.idle w.committed).execute ((freshEventIds w
        ((batchOf stream d.eventIds).map StreamedEvent.eventId)).map .dedup), [], 0⟩
      ⟨rfl, by simp [Connection.idle]⟩
    split at htx
    · exact (hend _ hafter).1 tx htx hrow
    · exact (hend _ hafter).2 tx htx hrow

end

section
variable (dumps : PyValue → Except Exn String) (cfg : ConsumerSettings)
  (conv : Conversions) (action : AssociationAction) (stream : Stream)

/-- No run of an association consumer commits a row. -/
theorem consumeAssociations_noRow (deliveries : List AssociationDelivery) (i : Int) :
    ¬ (consumeAssociations dumps cfg conv action stream deliveries).Committed (.row i) := by
  have hrun : ∀ (ds : List AssociationDelivery) (w : World), ¬ w.Committed (.row i) →
      ¬ (ds.foldl (fun w d => insertionIteration dumps cfg stream w
        (d.toDelivery conv action)) w).Committed (.row i) := by
    intro ds
    induction ds with
    | nil => exact fun w h => h
    | cons d ds ih =>
        intro w h
        apply ih
        exact insertionIteration_noRow
          (batchInsertAssociationEntities_ne_ok conv d.db action) i h
  apply hrun
  rintro ⟨tx, htx, _⟩
  cases htx

/-- So every key stays without a row. -/
theorem associationRow_consumeAssociations (key : AssociationKey)
    (deliveries : List AssociationDelivery) :
    associationRow stream key
      (consumeAssociations dumps cfg conv action stream deliveries) = none :=
  associationRow_of_noRow
    (consumeAssociations_noRow dumps cfg conv action stream deliveries) key

/-- The handed over events of a key have a greatest id when there are any. -/
theorem handedOverFor_exists_greatest {key : AssociationKey}
    {deliveries : List AssociationDelivery} {i : Int}
    (h : HandedOverFor stream key deliveries i) :
    ∃ j, IsGreatest {i | HandedOverFor stream key deliveries i} j := by
  -- the ids that were handed over are among those of the batches
  have hfinite : {i | HandedOverFor stream key deliveries i}.Finite := by
    apply (deliveries.flatMap AssociationDelivery.eventIds).finite_toSet.subset
    rintro j ⟨⟨d, hd, hj⟩, _⟩
    exact List.mem_flatMap.mpr ⟨d, hd, hj⟩
  obtain ⟨j, hj, hmax⟩ := Set.exists_max_image _ id hfinite ⟨i, h⟩
  exact ⟨j, hj, fun k hk => hmax k hk⟩

/-- An association converges only when none of its events is ever handed over. -/
theorem converges_iff (key : AssociationKey) (deliveries : List AssociationDelivery) :
    Converges dumps cfg conv action stream key deliveries ↔
      ∀ i, ¬ HandedOverFor stream key deliveries i := by
  constructor
  · intro hconverges i hi
    obtain ⟨j, hj⟩ := handedOverFor_exists_greatest stream hi
    have hrow := hconverges.lastWriterWins j hj
    rw [associationRow_consumeAssociations] at hrow
    cases hrow
  · intro hnothing
    constructor
    · intro i hi
      exact absurd hi.1 (hnothing i)
    · intro d hd hrepeats
      obtain ⟨i, hi, _, _, _, hkey, _⟩ := hrepeats
      exact absurd ⟨⟨d, hd, hi⟩, hkey⟩ (hnothing i)

end

/-- A user saves a post once. -/
def saveStream : Stream where
  entry i :=
    { name := .postSave
      payload := [("user_id", .int 7), ("post_id", .int 5)]
      sideEffects := {}
      eventId := i }
  entry_eventId _ := rfl

/-- A database that answers every statement. -/
def answeringDatabase : AssociationDatabase where
  uuid4Hex _ := "0"
  execute _ _ := .ok ()
  copy _ _ := .ok ()
  writeRow _ _ := .ok ()
  upsert _ _ := .ok [1]

/-- Conversions that only know texts. -/
def textConversions : Conversions where
  str value := match value with
    | .str s => s
    | _ => ""
  fromisoformat value := match value with
    | .str s => .ok s
    | _ => .error .typeError

/-- One save that the database has nothing against leaves no row. -/
theorem save_not_converges :
    ¬ Converges orjsonDumps postSettings textConversions .save saveStream
      ⟨.postSave, .int 7, .int 5⟩ [⟨[1], answeringDatabase⟩] := by
  intro hconverges
  have hgreatest : IsGreatest {i | HandedOverFor saveStream ⟨.postSave, .int 7, .int 5⟩
      [⟨[1], answeringDatabase⟩] i} 1 := by
    constructor
    · exact ⟨⟨_, List.mem_cons_self .., List.mem_cons_self ..⟩, by decide⟩
    · rintro i ⟨⟨d, hd, hi⟩, _⟩
      rw [List.mem_singleton] at hd
      subst hd
      exact le_of_eq (List.mem_singleton.mp hi)
  have hrow := hconverges.lastWriterWins 1 hgreatest
  rw [associationRow_consumeAssociations] at hrow
  cases hrow

end DatabaseWorkers
end Tenjin
