import Tenjin.DatabaseWorkers.Downstream
import Tenjin.ResourceAuxillary.SqlTemplates
import Tenjin.ResourceServer.ContributionTallies

/-!
# Cascades of deletions

A user is deleted by `delete_user` itself, a forum, a post or a comment by
`queue_deletion_consumer`.  Either consumer of these events then dispatches downstream
events, and for each of them `queue_downstream_deletion_consumer` deletes the children of
one parent and announces the counters to lower.  No consumer of children dispatches
downstream events of its own.

What the consumers take from elsewhere, and what fails there as the repository stands, is a
parameter: `CascadeParts`.  `deployedParts` is what they get.  A statement that can be composed
is taken to delete its rows.  The two of the repository cannot be, and they are no valid SQL
either: `STRONG_DELETION_SQL` lacks a comma behind the time of the deletion, and in
`KILL_ORPHANS_SQL` a semicolon stands in front of it.

* `Marks` are the rows that an operation deletes; every operation here adds some
  (`mark_mark`).
* `Settles` handles the pending events in any order, and `settles_eq` says that the order
  does not matter.
* `startDeletion_settles` — `Deletion.reached` is what a deletion has deleted in the end.
* `CascadeComplete` is the purpose.  It holds exactly when the deletion is not of a comment
  and what is reached leaves no orphans (`cascadeComplete_iff`).
* `sheltered_deployedParts_iff` and `sheltered_mended_iff` say what that is for the parts as
  deployed, and for parts that work.
-/

namespace Tenjin
namespace DatabaseWorkers

open Python Foundation ResourceAuxillary ResourceServer

/-- The four tables, as far as a cascade reads them. -/
@[ext]
structure ContentDatabase where
  userDeleted : Int → Bool
  forumDeleted : Int → Bool
  posts : Int → Option PostRecord
  comments : Int → Option CommentRecord
  parented : ∀ id comment, comments id = some comment →
    ∃ post, posts comment.parentPost = some post ∧ post.forumId = comment.parentForum

/-- Rows that are deleted together, by their keys and foreign keys. -/
@[ext]
structure Marks where
  user : (id : Int) → Bool := fun _ => false
  forum : (id : Int) → Bool := fun _ => false
  post : (id authorId parentForum : Int) → Bool := fun _ _ _ => false
  comment : (id authorId parentPost parentForum : Int) → Bool := fun _ _ _ _ => false

/-- The rows of both. -/
def Marks.union (m n : Marks) : Marks where
  user id := m.user id || n.user id
  forum id := m.forum id || n.forum id
  post id authorId parentForum := m.post id authorId parentForum || n.post id authorId parentForum
  comment id authorId parentPost parentForum :=
    m.comment id authorId parentPost parentForum || n.comment id authorId parentPost parentForum

/-- The rows of any of a list. -/
def Marks.unions (ms : List Marks) : Marks where
  user id := ms.any fun m => m.user id
  forum id := ms.any fun m => m.forum id
  post id authorId parentForum := ms.any fun m => m.post id authorId parentForum
  comment id authorId parentPost parentForum :=
    ms.any fun m => m.comment id authorId parentPost parentForum

/-- The rows with `deleted` set. -/
def ContentDatabase.mark (db : ContentDatabase) (m : Marks) : ContentDatabase where
  userDeleted id := db.userDeleted id || m.user id
  forumDeleted id := db.forumDeleted id || m.forum id
  posts id := (db.posts id).map fun post =>
    { post with deleted := post.deleted || m.post id post.authorId post.forumId }
  comments id := (db.comments id).map fun comment =>
    { comment with
      deleted := comment.deleted ||
        m.comment id comment.authorId comment.parentPost comment.parentForum }
  parented := by
    intro id marked h
    obtain ⟨comment, hcomment, rfl⟩ := Option.map_eq_some_iff.mp h
    obtain ⟨post, hpost, hforum⟩ := db.parented id comment hcomment
    exact ⟨_, Option.map_eq_some_iff.mpr ⟨post, hpost, rfl⟩, hforum⟩

/-- No undeleted post or comment has a deleted author, forum or parent post. -/
structure NoOrphans (db : ContentDatabase) : Prop where
  posts : ∀ id post, db.posts id = some post → post.deleted = false →
    db.userDeleted post.authorId = false ∧ db.forumDeleted post.forumId = false
  comments : ∀ id comment, db.comments id = some comment → comment.deleted = false →
    db.userDeleted comment.authorId = false ∧ db.forumDeleted comment.parentForum = false ∧
      ∀ post, db.posts comment.parentPost = some post → post.deleted = false

/-- An accepted deletion. -/
inductive Deletion
  | user (id : Int)
  | forum (id : Int)
  | post (id : Int)
  | comment (id : Int)

/-- The row of a table. -/
def rowMarks : StrongEntity → Int → Marks
  | .user, id => { user := fun i => i = id }
  | .forum, id => { forum := fun i => i = id }
  | .post, id => { post := fun i _ _ => i = id }
  | .comment, id => { comment := fun i _ _ _ => i = id }
  | _, _ => {}

/-- The rows of a table with a value in a column, if the table has the column. -/
def orphanMarks : StrongEntity → ForeignKeyColumnLiteral → Int → Option Marks
  | .post, .authorId, key => some { post := fun _ authorId _ => authorId = key }
  | .post, .parentForum, key => some { post := fun _ _ parentForum => parentForum = key }
  | .comment, .authorId, key => some { comment := fun _ authorId _ _ => authorId = key }
  | .comment, .parentForum, key => some { comment := fun _ _ _ parentForum => parentForum = key }
  | .comment, .parentPost, key => some { comment := fun _ _ parentPost _ => parentPost = key }
  -- no other column of the literal is in these tables
  | _, _, _ => none

/-- The column that a foreign key literal names. -/
def ForeignKeyColumnLiteral.value : ForeignKeyColumnLiteral → String
  | .authorId => "author_id"
  | .parentForum => "parent_forum"
  | .parentPost => "parent_post"
  | .parentAnime => "parent_anime"

/-- A text in a statement. -/
def textLiteral (s : String) : String := "'" ++ s ++ "'"

/-- `STRONG_DELETION_SQL`. -/
def strongDeletionSql : List Segment :=
  [.text "UPDATE ", .hole "table", .text " SET ", .hole "deletion_column",
    .text " = data.", .hole "deletion_column", .text ", ", .hole "deleted_at",
    .text " = data.", .hole "deleted_at", .text " ", .hole "deletion_author_column",
    .text " = ", .hole "deletion_author_id", .text " FROM ( VALUES ",
    .hole "values_collection", .text " ) AS data(", .hole "identifier", .text ", ",
    .hole "deletion_column", .text ", ", .hole "deleted_at", .text ") WHERE ",
    .hole "table", .text ".", .hole "identifier", .text " = data.", .hole "identifier",
    .text ";"]

/-- The arguments that `prepare_strong_deletion_sql` gives. -/
def strongDeletionArguments (table identifierColumn : String)
    (deletionData : List (Int × String × Int)) : List (String × String) :=
  [("table", identifier table), ("identifier", identifier identifierColumn),
    ("deletion_column", identifier "deleted"), ("deleted_at", identifier "deletion_time"),
    ("values_collection", pyJoin ", " (deletionData.map fun (id, deletedAt, eventId) =>
      "(" ++ toString id ++ ", true, " ++ textLiteral deletedAt ++ ", " ++ toString eventId ++
        ")"))]

/-- Their names. -/
def strongDeletionNames : List String :=
  ["table", "identifier", "deletion_column", "deleted_at", "values_collection"]

/-- `KILL_ORPHANS_SQL`. -/
def killOrphansSql : List Segment :=
  [.text "UPDATE ", .hole "orphan_table", .text " SET ", .hole "deletion_column",
    .text " = true; ", .hole "deleted_at", .text " = ", .hole "deletion_time",
    .text " WHERE ", .hole "parent_fk_column", .text " = ", .hole "parent_fk", .text ";"]

/-- The arguments that `prepare_orphan_deletion` gives. -/
def orphanDeletionArguments (orphanTable parentFkColumn : String) (parentFk : Int)
    (deletionTime : String) : List (String × String) :=
  [("orphan_table", identifier orphanTable), ("deletion_column", identifier "deleted"),
    ("deleted_at", identifier "deletion_time"), ("deletion_time", textLiteral deletionTime),
    ("parent_fk_column", identifier parentFkColumn), ("parent_values", toString parentFk)]

/-- Their names. -/
def orphanDeletionNames : List String :=
  ["orphan_table", "deletion_column", "deleted_at", "deletion_time", "parent_fk_column",
    "parent_values"]

/-- What the consumers of deletions use of other modules. -/
structure CascadeParts where
  /-- The deduplication of a batch of new events. -/
  batchDedup : Except Exn Unit
  /-- What a deletion event's payload says of the time, if it can be read. -/
  deletedAt : StrongEntity → Int → Except Exn String
  /-- The text of `STRONG_DELETION_SQL`. -/
  strongTemplate : List Segment
  /-- `EventSideEffects()` in the module of `dispatch_downstream_events`. -/
  sideEffects : Except Exn EventSideEffects
  /-- The text of `KILL_ORPHANS_SQL`. -/
  orphanTemplate : List Segment
  /-- `dispatch_downstream_counter_decrements` for the deleted children of a table. -/
  counters : StrongEntity → Except Exn Unit

/-- `soft_delete_strong_entity`.  A statement that can be composed deletes the rows it is
for. -/
def softDeleteStrongEntity (strongTemplate : List Segment) (db : ContentDatabase)
    (table : StrongEntity) (identifierColumn : String)
    (deletionData : List (Int × String × Int)) : Except Exn ContentDatabase :=
  (sqlFormat strongTemplate
    (strongDeletionArguments table.value identifierColumn deletionData)).map fun _ =>
      deletionData.foldl (fun db entry => db.mark (rowMarks table entry.1)) db

/-- `downstream_soft_delete_strong_entity`. -/
def downstreamSoftDeleteStrongEntity (orphanTemplate : List Segment) (db : ContentDatabase)
    (data : DownstreamDeletionData) : Except Exn ContentDatabase :=
  match sqlFormat orphanTemplate (orphanDeletionArguments data.orphanTable.value
      data.foreignKeyColumn.value data.foreignKey data.deletedAt) with
  | .error e => .error e
  | .ok _ =>
      match orphanMarks data.orphanTable data.foreignKeyColumn data.foreignKey with
      | none => .error .databaseError
      | some marks => .ok (db.mark marks)

section
variable (parts : CascadeParts)

/-- `queue_deletion_consumer` on the event of one deletion, with the downstream events that
it dispatches.  What it raises, and what makes it declare the event dead, leaves the
transaction of its connection rolled back. -/
def queueDeletionConsumer (table : StrongEntity) (id eventId : Int) (db : ContentDatabase) :
    Except Exn (ContentDatabase × List DownstreamDeletionData) := do
  parts.batchDedup
  let deletedAt ← parts.deletedAt table id
  let db ← softDeleteStrongEntity parts.strongTemplate db table "id_" [(id, deletedAt, eventId)]
  -- the statement has been executed, but its transaction is not committed yet
  let events ← downstreamEvents parts.sideEffects table [(id, deletedAt)]
  return (db, events.map DownstreamEvent.payload)

/-- `user_orphan_consumer` on the event of `delete_user`. -/
def userOrphanConsumer (userId : Int) (timeDeleted : String) :
    Except Exn (List DownstreamDeletionData) := do
  parts.batchDedup
  let events ← downstreamEvents parts.sideEffects .user [(userId, timeDeleted)]
  return events.map DownstreamEvent.payload

/-- `queue_downstream_deletion_consumer` on a new event.  The counters are announced before
the transaction is committed. -/
def queueDownstreamDeletionConsumer (db : ContentDatabase) (data : DownstreamDeletionData) :
    Except Exn ContentDatabase := do
  let db ← downstreamSoftDeleteStrongEntity parts.orphanTemplate db data
  parts.counters data.orphanTable
  return db

/-- The database after a consumer of a deletion event. -/
def afterConsumer (db : ContentDatabase) :
    Except Exn (ContentDatabase × List DownstreamDeletionData) →
    ContentDatabase × Except Exn (List DownstreamDeletionData)
  | .ok (db, events) => (db, .ok events)
  | .error e => (db, .error e)

/-- An accepted deletion up to its downstream events.  The row of a user is deleted by the
endpoint. -/
def startDeletion (db : ContentDatabase) (eventId : Int) (now : String) :
    Deletion → ContentDatabase × Except Exn (List DownstreamDeletionData)
  | .user id => (db.mark (rowMarks .user id), userOrphanConsumer parts id now)
  | .forum id => afterConsumer db (queueDeletionConsumer parts .forum id eventId db)
  | .post id => afterConsumer db (queueDeletionConsumer parts .post id eventId db)
  -- the same consumer, although a comment has no children
  | .comment id => afterConsumer db (queueDeletionConsumer parts .comment id eventId db)

/-- The database after a downstream event. -/
def afterDownstream (db : ContentDatabase) (data : DownstreamDeletionData) : ContentDatabase :=
  match queueDownstreamDeletionConsumer parts db data with
  | .ok db => db
  | .error _ => db

/-- All pending events are handled, one after the other in any order. -/
inductive Settles : ContentDatabase → List DownstreamDeletionData → ContentDatabase → Prop
  | done (db : ContentDatabase) : Settles db [] db
  | next {db final : ContentDatabase} {front back : List DownstreamDeletionData}
      {data : DownstreamDeletionData} :
      Settles (afterDownstream parts db data) (front ++ back) final →
      Settles db (front ++ data :: back) final

/-- The events that are dispatched. -/
def dispatched : Except Exn (List DownstreamDeletionData) → List DownstreamDeletionData
  | .ok events => events
  | .error _ => []

/-- Once everything is handled there are no orphans, and the deletion of a comment has no
downstream events and does not fail. -/
structure CascadeComplete (db : ContentDatabase) (eventId : Int) (now : String) (d : Deletion) :
    Prop where
  complete : ∀ final, Settles parts (startDeletion parts db eventId now d).1
    (dispatched (startDeletion parts db eventId now d).2) final → NoOrphans final
  leaf : ∀ id, d = .comment id → (startDeletion parts db eventId now d).2 = .ok []

/-- The consumers get as far as dispatching. -/
def CascadeParts.starts : Bool := parts.batchDedup.isOk && parts.sideEffects.isOk

/-- The row of a forum or post is deleted, if its statement can be composed, and its
downstream events are dispatched. -/
def CascadeParts.removes (table : StrongEntity) (id : Int) : Bool :=
  parts.starts && (parts.deletedAt table id).isOk &&
    fillable strongDeletionNames parts.strongTemplate

/-- The deletion of children in a table can be composed, and it is kept. -/
def CascadeParts.kills (table : StrongEntity) : Bool :=
  fillable orphanDeletionNames parts.orphanTemplate && (parts.counters table).isOk

/-- What a deletion has deleted in the end. -/
def Deletion.reached : Deletion → Marks
  | .user id =>
      { user := fun i => i = id
        post := fun _ authorId _ => parts.starts && parts.kills .post && authorId = id
        comment := fun _ authorId _ _ => parts.starts && parts.kills .comment && authorId = id }
  | .forum id =>
      { forum := fun i => parts.removes .forum id && i = id
        post := fun _ _ parentForum =>
          parts.removes .forum id && parts.kills .post && parentForum = id
        comment := fun _ _ _ parentForum =>
          parts.removes .forum id && parts.kills .comment && parentForum = id }
  | .post id =>
      { post := fun i _ _ => parts.removes .post id && i = id
        comment := fun _ _ parentPost _ =>
          parts.removes .post id && parts.kills .comment && parentPost = id }
  | .comment _ => {}

end

/-- No row that is neither deleted nor reached has an author, a forum or a parent post that
is deleted or reached. -/
structure Sheltered (db : ContentDatabase) (reached : Marks) : Prop where
  posts : ∀ id post, db.posts id = some post → post.deleted = false →
    reached.post id post.authorId post.forumId = false →
    (db.userDeleted post.authorId = false ∧ reached.user post.authorId = false) ∧
      db.forumDeleted post.forumId = false ∧ reached.forum post.forumId = false
  comments : ∀ id comment, db.comments id = some comment → comment.deleted = false →
    reached.comment id comment.authorId comment.parentPost comment.parentForum = false →
    (db.userDeleted comment.authorId = false ∧ reached.user comment.authorId = false) ∧
      (db.forumDeleted comment.parentForum = false ∧
        reached.forum comment.parentForum = false) ∧
      ∀ post, db.posts comment.parentPost = some post →
        post.deleted = false ∧
          reached.post comment.parentPost post.authorId post.forumId = false

@[simp] theorem mark_empty (db : ContentDatabase) : db.mark {} = db := by
  refine ContentDatabase.ext ?_ ?_ ?_ ?_ <;> funext id
  · exact Bool.or_false _
  · exact Bool.or_false _
  · cases hpost : db.posts id <;> simp [ContentDatabase.mark, hpost]
  · cases hcomment : db.comments id <;> simp [ContentDatabase.mark, hcomment]

/-- Marks add up: what selects a row are its keys, which no mark changes. -/
theorem mark_mark (db : ContentDatabase) (m n : Marks) :
    (db.mark m).mark n = db.mark (m.union n) := by
  -- a field of the row is set, its keys stay, so the second mark selects the same rows
  refine ContentDatabase.ext ?_ ?_ ?_ ?_ <;> funext id
  · exact Bool.or_assoc ..
  · exact Bool.or_assoc ..
  · cases hpost : db.posts id <;>
      simp [ContentDatabase.mark, Marks.union, hpost, Bool.or_assoc]
  · cases hcomment : db.comments id <;>
      simp [ContentDatabase.mark, Marks.union, hcomment, Bool.or_assoc]

/-- The marks of a list, one of which is taken out of the middle. -/
theorem unions_middle (front back : List Marks) (m : Marks) :
    Marks.unions (front ++ m :: back) = m.union (Marks.unions (front ++ back)) := by
  ext <;> simp [Marks.unions, Marks.union, Bool.or_left_comm]

/-- A marked database has no orphans exactly when the rows that remain are sheltered. -/
theorem noOrphans_mark_iff (db : ContentDatabase) (m : Marks) :
    NoOrphans (db.mark m) ↔ Sheltered db m := by
  constructor
  · rintro ⟨hposts, hcomments⟩
    constructor
    · intro id post hpost hdeleted hreached
      -- a row that is neither deleted nor marked is undeleted in the marked database
      have hmarked := hposts id _ (Option.map_eq_some_iff.mpr ⟨post, hpost, rfl⟩)
        (by simp [hdeleted, hreached])
      simpa [ContentDatabase.mark] using hmarked
    · intro id comment hcomment hdeleted hreached
      have hmarked := hcomments id _ (Option.map_eq_some_iff.mpr ⟨comment, hcomment, rfl⟩)
        (by simp [hdeleted, hreached])
      obtain ⟨huser, hforum, hpost⟩ := hmarked
      refine ⟨by simpa [ContentDatabase.mark] using huser,
        by simpa [ContentDatabase.mark] using hforum, ?_⟩
      intro post hparent
      simpa using hpost _ (Option.map_eq_some_iff.mpr ⟨post, hparent, rfl⟩)
  · rintro ⟨hposts, hcomments⟩
    constructor
    · intro id marked hmarked hdeleted
      obtain ⟨post, hpost, rfl⟩ := Option.map_eq_some_iff.mp hmarked
      simp only [Bool.or_eq_false_iff] at hdeleted
      simpa [ContentDatabase.mark] using hposts id post hpost hdeleted.1 hdeleted.2
    · intro id marked hmarked hdeleted
      obtain ⟨comment, hcomment, rfl⟩ := Option.map_eq_some_iff.mp hmarked
      simp only [Bool.or_eq_false_iff] at hdeleted
      obtain ⟨huser, hforum, hpost⟩ :=
        hcomments id comment hcomment hdeleted.1 hdeleted.2
      refine ⟨by simpa [ContentDatabase.mark] using huser,
        by simpa [ContentDatabase.mark] using hforum, ?_⟩
      intro parent hparent
      obtain ⟨post, hpostEq, rfl⟩ := Option.map_eq_some_iff.mp hparent
      simpa using hpost post hpostEq

section
variable {parts : CascadeParts}

/-- What a downstream event deletes. -/
def downstreamMarks (parts : CascadeParts) (data : DownstreamDeletionData) : Marks :=
  if parts.kills data.orphanTable then
    (orphanMarks data.orphanTable data.foreignKeyColumn data.foreignKey).getD {}
  else {}

/-- The consumer of children deletes them, or nothing is kept. -/
theorem afterDownstream_eq (db : ContentDatabase) (data : DownstreamDeletionData) :
    afterDownstream parts db data = db.mark (downstreamMarks parts data) := by
  have hfill := sqlFormat_isOk parts.orphanTemplate (orphanDeletionArguments
    data.orphanTable.value data.foreignKeyColumn.value data.foreignKey data.deletedAt)
  unfold afterDownstream queueDownstreamDeletionConsumer downstreamSoftDeleteStrongEntity
    downstreamMarks CascadeParts.kills
  cases hformat : sqlFormat parts.orphanTemplate (orphanDeletionArguments
      data.orphanTable.value data.foreignKeyColumn.value data.foreignKey data.deletedAt) with
  | error e =>
      rw [hformat] at hfill
      have hnot : fillable orphanDeletionNames parts.orphanTemplate = false := hfill.symm
      rw [hnot]
      exact (mark_empty db).symm
  | ok statement =>
      rw [hformat] at hfill
      have hyes : fillable orphanDeletionNames parts.orphanTemplate = true := hfill.symm
      rw [hyes]
      cases orphanMarks data.orphanTable data.foreignKeyColumn data.foreignKey with
      -- without such a column the database refuses the statement
      | none => cases parts.counters data.orphanTable <;> exact (mark_empty db).symm
      | some marks =>
          cases parts.counters data.orphanTable with
          -- the announcement of the counters fails, and the deletion is rolled back
          | error e => exact (mark_empty db).symm
          | ok u => rfl

/-- Whatever the order, the pending events delete the same rows. -/
theorem settles_eq {db final : ContentDatabase} {pending : List DownstreamDeletionData}
    (h : Settles parts db pending final) :
    final = db.mark (Marks.unions (pending.map (downstreamMarks parts))) := by
  induction h with
  | done db => exact (mark_empty db).symm
  -- the event that is handled first may stand anywhere among the pending ones
  | next _ ih =>
      rw [ih, afterDownstream_eq, mark_mark, List.map_append, List.map_append, List.map_cons,
        unions_middle]

variable (parts) in
/-- And they can be handled. -/
theorem exists_settles (db : ContentDatabase) (pending : List DownstreamDeletionData) :
    ∃ final, Settles parts db pending final := by
  induction pending generalizing db with
  | nil => exact ⟨db, .done db⟩
  | cons data pending ih =>
      obtain ⟨final, hfinal⟩ := ih (afterDownstream parts db data)
      have hfirst : Settles parts (afterDownstream parts db data) ([] ++ pending) final := hfinal
      exact ⟨final, .next hfirst⟩

section
variable {table : StrongEntity} {bases : List AnonymousDownstreamDeletionData}
  (hmapping : downstreamDeletionMapping table = .ok bases) (id : Int) (deletedAt : String)

include hmapping

/-- The events of one deleted row. -/
theorem downstreamEvents_ok (effects : EventSideEffects) :
    downstreamEvents (.ok effects) table [(id, deletedAt)] =
      .ok (bases.map fun base => ⟨.orphanedCommentDelete, ⟨base, id, deletedAt⟩, effects⟩) := by
  have hok : ∀ payloads : List DownstreamDeletionData,
      payloads.mapM (fun payload => (Except.ok effects : Except Exn EventSideEffects).map
        (DownstreamEvent.mk .orphanedCommentDelete payload)) =
      .ok (payloads.map fun payload => ⟨.orphanedCommentDelete, payload, effects⟩) := by
    intro payloads
    rw [mapM_eq_ok_iff, List.forall₂_map_right_iff]
    exact List.forall₂_same.mpr fun _ _ => rfl
  rw [downstreamEvents, hmapping]
  simp only [List.flatMap_cons, List.flatMap_nil, List.append_nil]
  rw [hok, List.map_map]
  rfl

/-- Without side effects there are none. -/
theorem downstreamEvents_error (hne : bases ≠ []) (e : Exn) :
    downstreamEvents (.error e) table [(id, deletedAt)] = .error e := by
  rw [downstreamEvents, hmapping]
  cases bases with
  | nil => exact absurd rfl hne
  | cons base bases => rfl

end

/-- The statement for one row is composed, or nothing is deleted. -/
theorem softDeleteStrongEntity_cases (template : List Segment) (db : ContentDatabase)
    (table : StrongEntity) (entry : Int × String × Int) :
    fillable strongDeletionNames template = true ∧
        softDeleteStrongEntity template db table "id_" [entry] =
          .ok (db.mark (rowMarks table entry.1)) ∨
      fillable strongDeletionNames template = false ∧
        ∃ e, softDeleteStrongEntity template db table "id_" [entry] = .error e := by
  have hfill : _ = fillable strongDeletionNames template :=
    sqlFormat_isOk template (strongDeletionArguments table.value "id_" [entry])
  unfold softDeleteStrongEntity
  rw [← hfill]
  cases sqlFormat template (strongDeletionArguments table.value "id_" [entry]) with
  | ok statement => exact .inl ⟨rfl, rfl⟩
  | error e => exact .inr ⟨rfl, e, rfl⟩

variable (parts) in
/-- The two outcomes of the deletion of a row that can have children. -/
theorem queueDeletionConsumer_cases (table : StrongEntity)
    {bases : List AnonymousDownstreamDeletionData}
    (hmapping : downstreamDeletionMapping table = .ok bases) (hne : bases ≠ [])
    (id eventId : Int) (db : ContentDatabase) :
    (parts.removes table id = true ∧ ∃ deletedAt,
      queueDeletionConsumer parts table id eventId db =
        .ok (db.mark (rowMarks table id), bases.map fun base => ⟨base, id, deletedAt⟩)) ∨
    (parts.removes table id = false ∧ ∃ e,
      queueDeletionConsumer parts table id eventId db = .error e) := by
  unfold queueDeletionConsumer CascadeParts.removes CascadeParts.starts
  cases parts.batchDedup with
  | error e => exact .inr ⟨rfl, e, rfl⟩
  | ok u =>
      cases parts.deletedAt table id with
      | error e => exact .inr ⟨by simp [Except.isOk, Except.toBool], e, rfl⟩
      | ok deletedAt =>
          rcases softDeleteStrongEntity_cases parts.strongTemplate db table
            (id, deletedAt, eventId) with ⟨hfill, hsoft⟩ | ⟨hfill, e, hsoft⟩
          · cases parts.sideEffects with
            -- the row was deleted, but no event can be built and the deletion is rolled back
            | error e =>
                refine .inr ⟨rfl, e, ?_⟩
                simp only [bind, Except.bind, hsoft, downstreamEvents_error hmapping _ _ hne]
            | ok effects =>
                refine .inl ⟨by simp [hfill, Except.isOk, Except.toBool], deletedAt, ?_⟩
                simp only [bind, Except.bind, hsoft, downstreamEvents_ok hmapping,
                  List.map_map]
                rfl
          · refine .inr ⟨by simp [hfill], e, ?_⟩
            simp only [bind, Except.bind, hsoft]

variable (parts) in
/-- A comment has no entry in the mapping of children. -/
theorem queueDeletionConsumer_comment (id eventId : Int) (db : ContentDatabase) :
    ∃ e, queueDeletionConsumer parts .comment id eventId db = .error e := by
  unfold queueDeletionConsumer
  cases parts.batchDedup with
  | error e => exact ⟨e, rfl⟩
  | ok u =>
      cases parts.deletedAt .comment id with
      | error e => exact ⟨e, rfl⟩
      | ok deletedAt =>
          simp only [bind, Except.bind]
          cases softDeleteStrongEntity parts.strongTemplate db .comment "id_"
              [(id, deletedAt, eventId)] with
          | error e => exact ⟨e, rfl⟩
          | ok db => exact ⟨_, rfl⟩

variable (parts) in
/-- The two outcomes for the event of `delete_user`. -/
theorem userOrphanConsumer_cases (id : Int) (now : String) :
    (parts.starts = true ∧ userOrphanConsumer parts id now =
      .ok [⟨⟨.authorId, .comment⟩, id, now⟩, ⟨⟨.authorId, .post⟩, id, now⟩]) ∨
    (parts.starts = false ∧ ∃ e, userOrphanConsumer parts id now = .error e) := by
  unfold userOrphanConsumer CascadeParts.starts
  cases parts.batchDedup with
  | error e => exact .inr ⟨rfl, e, rfl⟩
  | ok u =>
      cases parts.sideEffects with
      | error e => exact .inr ⟨rfl, e, rfl⟩
      | ok effects => exact .inl ⟨rfl, rfl⟩

/-- What is deleted in the end, whatever the order of the downstream events. -/
theorem startDeletion_settles {db final : ContentDatabase} {eventId : Int} {now : String}
    {d : Deletion} (h : Settles parts (startDeletion parts db eventId now d).1
      (dispatched (startDeletion parts db eventId now d).2) final) :
    final = db.mark (d.reached parts) := by
  rw [settles_eq h]
  cases d with
  | user id =>
      rcases userOrphanConsumer_cases parts id now with
        ⟨hstarts, hok⟩ | ⟨hstarts, e, herror⟩
      · rw [startDeletion, hok, mark_mark]
        congr 1
        ext <;> cases hp : parts.kills .post <;> cases hc : parts.kills .comment <;>
          simp [dispatched, Marks.unions, Marks.union, downstreamMarks, orphanMarks, rowMarks,
            Deletion.reached, hstarts, hp, hc]
      -- the endpoint has deleted the user before its consumer fails
      · rw [startDeletion, herror, mark_mark]
        congr 1
        ext <;> simp [dispatched, Marks.unions, Marks.union, rowMarks, Deletion.reached, hstarts]
  | forum id =>
      rcases queueDeletionConsumer_cases parts .forum rfl (List.cons_ne_nil _ _) id
        eventId db with
        ⟨hremoves, deletedAt, hok⟩ | ⟨hremoves, e, herror⟩
      · rw [startDeletion, hok, afterConsumer, mark_mark]
        congr 1
        ext <;> cases hp : parts.kills .post <;> cases hc : parts.kills .comment <;>
          simp [dispatched, Marks.unions, Marks.union, downstreamMarks, orphanMarks, rowMarks,
            Deletion.reached, hremoves, hp, hc]
      -- nothing is deleted and nothing dispatched
      · rw [startDeletion, herror, afterConsumer]
        congr 1
        ext <;> simp [dispatched, Marks.unions, Deletion.reached, hremoves]
  | post id =>
      rcases queueDeletionConsumer_cases parts .post rfl (List.cons_ne_nil _ _) id
        eventId db with
        ⟨hremoves, deletedAt, hok⟩ | ⟨hremoves, e, herror⟩
      · rw [startDeletion, hok, afterConsumer, mark_mark]
        congr 1
        ext <;> cases hc : parts.kills .comment <;>
          simp [dispatched, Marks.unions, Marks.union, downstreamMarks, orphanMarks, rowMarks,
            Deletion.reached, hremoves, hc]
      · rw [startDeletion, herror, afterConsumer]
        congr 1
        ext <;> simp [dispatched, Marks.unions, Deletion.reached, hremoves]
  | comment id =>
      obtain ⟨e, herror⟩ := queueDeletionConsumer_comment parts id eventId db
      rw [startDeletion, herror, afterConsumer]
      rfl

/-- So a cascade leaves no orphans exactly when the rows that it does not reach are
sheltered. -/
theorem complete_iff_sheltered (db : ContentDatabase) (eventId : Int) (now : String)
    (d : Deletion) :
    (∀ final, Settles parts (startDeletion parts db eventId now d).1
      (dispatched (startDeletion parts db eventId now d).2) final → NoOrphans final) ↔
      Sheltered db (d.reached parts) := by
  rw [← noOrphans_mark_iff]
  constructor
  -- some order exists, and every order ends in the same database
  · intro h
    obtain ⟨final, hfinal⟩ := exists_settles parts
      (startDeletion parts db eventId now d).1
      (dispatched (startDeletion parts db eventId now d).2)
    rw [← startDeletion_settles hfinal]
    exact h final hfinal
  · intro h final hfinal
    rw [startDeletion_settles hfinal]
    exact h

/-- The deletion of a comment always fails. -/
theorem startDeletion_comment (db : ContentDatabase) (eventId : Int) (now : String) (id : Int) :
    (startDeletion parts db eventId now (.comment id)).2 ≠ .ok [] := by
  obtain ⟨e, herror⟩ := queueDeletionConsumer_comment parts id eventId db
  rw [startDeletion, herror, afterConsumer]
  exact fun h => by cases h

end

/-- A cascade is complete exactly when the deletion is not of a comment and no row that
remains is below a deleted or reached one. -/
theorem cascadeComplete_iff (parts : CascadeParts) (db : ContentDatabase) (eventId : Int)
    (now : String) (d : Deletion) :
    CascadeComplete parts db eventId now d ↔
      (∀ id, d ≠ .comment id) ∧ Sheltered db (d.reached parts) := by
  rw [← complete_iff_sheltered db eventId now d]
  constructor
  · rintro ⟨hcomplete, hleaf⟩
    refine ⟨?_, hcomplete⟩
    rintro id rfl
    exact startDeletion_comment db eventId now id (hleaf id rfl)
  · rintro ⟨hcomment, hcomplete⟩
    exact ⟨hcomplete, fun id hd => absurd hd (hcomment id)⟩

/-- The payload of a deletion event. -/
def deletionPayload : StrongEntity → Int → List (String × PyValue)
  | .forum, id => [("forum_id", .int id)]
  | .post, id => [("post_id", .int id)]
  | .comment, id => [("comment_id", .int id)]
  | _, _ => []

/-- `event.payload[identifier_column]` and `event.payload["deleted_at"]`. -/
def readDeletion (identifierColumn : String) (payload : List (String × PyValue)) :
    Except Exn String :=
  match payload.lookup identifierColumn with
  | none => .error (.keyError identifierColumn)
  | some _ =>
      match payload.lookup "deleted_at" with
      | none => .error (.keyError "deleted_at")
      | some (.str deletedAt) => .ok deletedAt
      | some _ => .error .databaseError

/-- The parts as the repository has them.  The number of an event only goes into what is
announced. -/
def deployedParts : CascadeParts where
  batchDedup := (prepareBatchDedupSql "_temp").map fun _ => ()
  deletedAt table id := readDeletion "id_" (deletionPayload table id)
  strongTemplate := strongDeletionSql
  sideEffects := namedSideEffects
  orphanTemplate := killOrphansSql
  counters table := (downstreamCounterDecrements namedSideEffects table 0).map fun _ => ()

/-- None of them works. -/
theorem deployedParts_fail : deployedParts.starts = false ∧
    (∀ table id, deployedParts.removes table id = false) ∧
    ∀ table, deployedParts.kills table = false := by
  refine ⟨?_, fun table id => rfl, fun table => ?_⟩
  · show (((prepareBatchDedupSql "_temp").map fun _ => ()).isOk && _) = false
    rw [prepareBatchDedupSql_error]
    rfl
  have hfill : fillable orphanDeletionNames killOrphansSql = false := by decide
  show (fillable orphanDeletionNames killOrphansSql && _) = false
  rw [hfill, Bool.false_and]

/-- As deployed, a database without orphans stays so unless a user with undeleted posts or
comments is deleted. -/
theorem sheltered_deployedParts_iff {db : ContentDatabase} (h : NoOrphans db) (d : Deletion) :
    Sheltered db (d.reached deployedParts) ↔ ∀ userId, d = .user userId →
      (∀ id post, db.posts id = some post → post.deleted = false → post.authorId ≠ userId) ∧
      ∀ id comment, db.comments id = some comment → comment.deleted = false →
        comment.authorId ≠ userId := by
  obtain ⟨hstarts, hremoves, -⟩ := deployedParts_fail
  cases d with
  | user userId =>
      simp only [Deletion.reached, hstarts, Bool.false_and]
      constructor
      · rintro ⟨hposts, hcomments⟩ _ ⟨⟩
        refine ⟨fun id post hpost hdeleted => ?_, fun id comment hcomment hdeleted => ?_⟩
        · simpa using (hposts id post hpost hdeleted rfl).1.2
        · simpa using (hcomments id comment hcomment hdeleted rfl).1.2
      · intro hnone
        obtain ⟨hposts, hcomments⟩ := hnone userId rfl
        constructor
        · intro id post hpost hdeleted _
          obtain ⟨huser, hforum⟩ := h.posts id post hpost hdeleted
          exact ⟨⟨huser, by simpa using hposts id post hpost hdeleted⟩, hforum, rfl⟩
        · intro id comment hcomment hdeleted _
          obtain ⟨huser, hforum, hpost⟩ := h.comments id comment hcomment hdeleted
          exact ⟨⟨huser, by simpa using hcomments id comment hcomment hdeleted⟩, ⟨hforum, rfl⟩,
            fun post hparent => ⟨hpost post hparent, rfl⟩⟩
  -- nothing is reached, so the database is as it was
  | _ =>
      refine iff_of_true ?_ (fun _ hd => by cases hd)
      rw [← noOrphans_mark_iff]
      simp only [Deletion.reached, hremoves, Bool.false_and]
      rwa [mark_empty]

/-- The parts are mended: whatever is in the mappings is done. -/
structure CascadeParts.Mended (parts : CascadeParts) : Prop where
  starts : parts.starts = true
  removes : ∀ table id, parts.removes table id = true
  kills : ∀ table, parts.kills table = true

section
variable {parts : CascadeParts} (hparts : parts.Mended) {db : ContentDatabase} (h : NoOrphans db)

include hparts h

/-- The comments of a deleted forum are those under its posts. -/
theorem sheltered_forum (forumId : Int) :
    Sheltered db ((Deletion.forum forumId).reached parts) := by
  simp only [Deletion.reached, hparts.removes, hparts.kills, Bool.true_and]
  constructor
  · intro id post hpost hdeleted hreached
    obtain ⟨huser, hforum⟩ := h.posts id post hpost hdeleted
    exact ⟨⟨huser, rfl⟩, hforum, hreached⟩
  · intro id comment hcomment hdeleted hreached
    obtain ⟨huser, hforum, hpost⟩ := h.comments id comment hcomment hdeleted
    refine ⟨⟨huser, rfl⟩, ⟨hforum, hreached⟩, fun post hparent => ⟨hpost post hparent, ?_⟩⟩
    -- the post of the comment is in the same forum
    obtain ⟨parent, hparentEq, hsame⟩ := db.parented id comment hcomment
    rw [hparent] at hparentEq
    cases hparentEq
    rwa [hsame]

theorem sheltered_post (postId : Int) :
    Sheltered db ((Deletion.post postId).reached parts) := by
  simp only [Deletion.reached, hparts.removes, hparts.kills, Bool.true_and]
  constructor
  · intro id post hpost hdeleted hreached
    obtain ⟨huser, hforum⟩ := h.posts id post hpost hdeleted
    exact ⟨⟨huser, rfl⟩, hforum, rfl⟩
  · intro id comment hcomment hdeleted hreached
    obtain ⟨huser, hforum, hpost⟩ := h.comments id comment hcomment hdeleted
    exact ⟨⟨huser, rfl⟩, ⟨hforum, rfl⟩, fun post hparent => ⟨hpost post hparent, hreached⟩⟩

/-- The comments of others under the posts of a deleted user are not reached. -/
theorem sheltered_user_iff (userId : Int) :
    Sheltered db ((Deletion.user userId).reached parts) ↔
      ∀ id comment post, db.comments id = some comment → comment.deleted = false →
        db.posts comment.parentPost = some post → post.authorId = userId →
        comment.authorId = userId := by
  simp only [Deletion.reached, hparts.starts, hparts.kills, Bool.true_and]
  constructor
  · rintro ⟨-, hcomments⟩ id comment post hcomment hdeleted hpost hauthor
    by_contra hother
    obtain ⟨-, -, hparent⟩ := hcomments id comment hcomment hdeleted (by simpa using hother)
    simpa [hauthor] using (hparent post hpost).2
  · intro hown
    constructor
    · intro id post hpost hdeleted hreached
      obtain ⟨huser, hforum⟩ := h.posts id post hpost hdeleted
      exact ⟨⟨huser, hreached⟩, hforum, rfl⟩
    · intro id comment hcomment hdeleted hreached
      obtain ⟨huser, hforum, hpost⟩ := h.comments id comment hcomment hdeleted
      refine ⟨⟨huser, hreached⟩, ⟨hforum, rfl⟩, fun post hparent => ⟨hpost post hparent, ?_⟩⟩
      by_contra hauthor
      have howner := hown id comment post hcomment hdeleted hparent (by simpa using hauthor)
      simp [howner] at hreached

/-- Mended, the deletion of a user would still leave the comments of others under the user's
posts, and nothing else would be left. -/
theorem sheltered_mended_iff (d : Deletion) :
    Sheltered db (d.reached parts) ↔ ∀ userId, d = .user userId →
      ∀ id comment post, db.comments id = some comment → comment.deleted = false →
        db.posts comment.parentPost = some post → post.authorId = userId →
        comment.authorId = userId := by
  cases d with
  | user userId =>
      rw [sheltered_user_iff hparts h userId]
      exact ⟨fun hown _ hd => Deletion.user.inj hd ▸ hown, fun hown => hown userId rfl⟩
  | forum forumId =>
      exact iff_of_true (sheltered_forum hparts h forumId) fun _ hd => by cases hd
  | post postId =>
      exact iff_of_true (sheltered_post hparts h postId) fun _ hd => by cases hd
  | comment commentId =>
      refine iff_of_true ?_ (fun _ hd => by cases hd)
      rw [← noOrphans_mark_iff, Deletion.reached, mark_empty]
      exact h

end

/-- Parts that are mended: the holes of the statements are those that are filled. -/
def mendedParts : CascadeParts where
  batchDedup := .ok ()
  deletedAt _ _ := .ok "2026-01-01"
  strongTemplate := strongDeletionSql.filter fun segment =>
    segment ≠ .hole "deletion_author_column" ∧ segment ≠ .hole "deletion_author_id"
  sideEffects := .ok {}
  orphanTemplate := killOrphansSql.map fun segment =>
    if segment = .hole "parent_fk" then .hole "parent_values" else segment
  counters _ := .ok ()

theorem mendedParts_mended : mendedParts.Mended := by
  refine ⟨rfl, fun table id => ?_, fun table => ?_⟩
  · show fillable strongDeletionNames mendedParts.strongTemplate = true
    decide
  · show (fillable orphanDeletionNames mendedParts.orphanTemplate && true) = true
    decide

/-- A post of user 7 with a comment of user 8. -/
def commentedPost : ContentDatabase where
  userDeleted _ := false
  forumDeleted _ := false
  posts id := if id = 5 then some ⟨7, 1, false⟩ else none
  comments id := if id = 9 then some ⟨8, 5, 1, false⟩ else none
  parented := by
    intro id comment h
    split at h
    · cases h
      exact ⟨_, rfl, rfl⟩
    · cases h

theorem commentedPost_noOrphans : NoOrphans commentedPost := by
  constructor
  · exact fun id post _ _ => ⟨rfl, rfl⟩
  · intro id comment hcomment _
    refine ⟨rfl, rfl, fun post hpost => ?_⟩
    simp only [commentedPost] at hpost
    split at hpost <;> cases hpost
    rfl

/-- The deletion of user 7 leaves the post as deployed and the comment as mended, and the
deletion of the comment fails either way. -/
theorem commentedPost_not_complete :
    ¬ CascadeComplete deployedParts commentedPost 1 "2026-01-01" (.user 7) ∧
      ¬ CascadeComplete mendedParts commentedPost 1 "2026-01-01" (.user 7) ∧
      ¬ CascadeComplete deployedParts commentedPost 1 "2026-01-01" (.comment 9) ∧
      ¬ CascadeComplete mendedParts commentedPost 1 "2026-01-01" (.comment 9) := by
  refine ⟨fun h => ?_, fun h => ?_, fun h => ?_, fun h => ?_⟩
  · have hcomplete := (complete_iff_sheltered _ _ _ _).mp h.complete
    rw [sheltered_deployedParts_iff commentedPost_noOrphans] at hcomplete
    exact (hcomplete 7 rfl).1 5 ⟨7, 1, false⟩ rfl rfl rfl
  · have hcomplete := (complete_iff_sheltered _ _ _ _).mp h.complete
    rw [sheltered_mended_iff mendedParts_mended commentedPost_noOrphans] at hcomplete
    have howner := hcomplete 7 rfl 9 ⟨8, 5, 1, false⟩ ⟨7, 1, false⟩ rfl rfl rfl rfl
    cases howner
  · exact startDeletion_comment _ _ _ 9 (h.leaf 9 rfl)
  · exact startDeletion_comment _ _ _ 9 (h.leaf 9 rfl)

end DatabaseWorkers
end Tenjin
