import Mathlib.Data.List.Dedup
import Tenjin.DatabaseWorkers.Downstream
import Tenjin.ResourceServer.ContributionTallies

/-!
# What the deletion of orphans does to the counters

An event of a downstream deletion deletes the children of one parent.
`dispatch_downstream_counter_decrements` announces the counters to lower, and for each
announcement `emit_downstream_counter_decrement_updates` lowers one field for each value of
a foreign key.

* `total_decrementDeltas` — one field is lowered by the number of the children with its
  foreign key.
* `lowered_disjoint` — no counter that the creation of a child raises is ever lowered: the
  hashes, the prefix of the fields and the columns of the mapping are not those of
  `create_post` and `comment_on_post`.
* `undoesCreation_iff` — so the decrements undo the increments only of no children.
-/

namespace Tenjin
namespace DatabaseWorkers

open Python Foundation ResourceAuxillary ResourceServer

/-- A post or a comment, with the request that created it. -/
inductive Child
  | post (claims : AccessTokenClaims) (forumId : Int) (title body now : String)
  | comment (claims : AccessTokenClaims) (postId parentForum : Int) (body now : String)

/-- The event of the creation. -/
def Child.creation : Child → Event
  | .post claims forumId title body now => createPostEvent claims forumId title body now
  | .comment claims postId parentForum body now =>
      commentOnPostEvent claims postId parentForum body now

/-- The table of the child. -/
def Child.table : Child → StrongEntity
  | .post .. => .post
  | .comment .. => .comment

/-- The foreign keys of the child. -/
def Child.foreignKey : Child → ForeignKeyColumnLiteral → Option Int
  | .post claims .., .authorId => some claims.sid
  | .post _ forumId .., .parentForum => some forumId
  | .comment claims .., .authorId => some claims.sid
  | .comment _ _ parentForum .., .parentForum => some parentForum
  | .comment _ postId .., .parentPost => some postId
  | _, _ => none

/-- A downstream deletion event and the children that it deletes. -/
structure OrphanDeletion where
  eventId : Int
  data : DownstreamDeletionData
  children : List Child
  below : ∀ child ∈ children, child.table = data.orphanTable ∧
    child.foreignKey data.foreignKeyColumn = some data.foreignKey

/-- What `select_decrement_deltas` is to find: the values of the column among the deleted
children, with their numbers. -/
def decrementDeltas (column : ForeignKeyColumnLiteral) (children : List Child) :
    List (String × ℕ) :=
  let keys := children.filterMap fun child => child.foreignKey column
  keys.dedup.map fun key => (toString key, keys.count key)

/-- The counter that a command changes, and by how much. -/
def hincrbyAmount : Command → Option ((String × String) × Int)
  | .hincrby hash field delta => some ((hash, field), delta)
  | _ => none

section
variable (sideEffects : Except Exn EventSideEffects)
  (reached : DownstreamEvent DownstreamCounterDecrementData → Bool)

/-- What the event lowers, as increments.  Only announcements that `reached` accepts arrive
at their consumer and have their rows selected. -/
def lowered (d : OrphanDeletion) : List ((String × String) × Int) :=
  match downstreamCounterDecrements sideEffects d.data.orphanTable d.eventId with
  | .error _ => []
  | .ok events =>
      (events.filter reached).flatMap fun event =>
        (emitDownstreamCounterDecrementUpdates
          (decrementDeltas event.payload.affectedColumnName d.children)
          event.payload.hashmapName event.payload.affectedTableName).filterMap hincrbyAmount

/-- What the creations of the children have raised. -/
def raised (children : List Child) : List ((String × String) × Int) :=
  children.flatMap fun child => counterAmounts child.creation.sideEffects.counterUpdates

/-- Exactly the counters that the creations raised are lowered, and by as much. -/
structure UndoesCreation (d : OrphanDeletion) : Prop where
  pairs : ∀ pair, pair ∈ (lowered sideEffects reached d).map Prod.fst ↔
    pair ∈ (raised d.children).map Prod.fst
  amounts : ∀ pair, total pair (lowered sideEffects reached d) =
    -total pair (raised d.children)

end

/-- The hashes that the decrements are for. -/
def decrementHashes : List String := ["users:posts", "users:comments"]

/-- The hashes of the creations. -/
def creationHashes : List String :=
  ["forums:posts", "users:total_posts", "posts:total_comments", "users:total_comments"]

/-- One field is lowered by the number of the deleted children with its foreign key. -/
theorem total_decrementDeltas (column : ForeignKeyColumnLiteral) (children : List Child)
    (hash : String) (table : StrongEntity) (key : Int) :
    total (hash, deriveCacheKey table.value (toString key))
        ((emitDownstreamCounterDecrementUpdates (decrementDeltas column children) hash
          table).filterMap hincrbyAmount) =
      -((children.filterMap fun child => child.foreignKey column).count key : Int) := by
  have hamounts : (emitDownstreamCounterDecrementUpdates (decrementDeltas column children)
      hash table).filterMap hincrbyAmount =
      (children.filterMap fun child => child.foreignKey column).dedup.map fun key =>
        ((hash, deriveCacheKey table.value (toString key)),
          -((children.filterMap fun child => child.foreignKey column).count key : Int)) := by
    simp [emitDownstreamCounterDecrementUpdates, decrementDeltas, hincrbyAmount,
      List.filterMap_map, Function.comp_def, List.filterMap_eq_map']
  have hinjective : Function.Injective fun key : Int =>
      (hash, deriveCacheKey table.value (toString key)) :=
    fun m n h => toString_inj.mp (deriveCacheKey_inj.mp (Prod.mk.inj h).2)
  -- each value occurs once among the deltas, so one command is for the field
  rw [hamounts, total_map_of_nodup hinjective _ (List.nodup_dedup _) key]
  split
  · rfl
  · rename_i hnot
    rw [List.mem_dedup] at hnot
    simp [List.count_eq_zero_of_not_mem hnot]

/-- Whatever is announced, only two hashes are ever lowered. -/
theorem lowered_hash {sideEffects : Except Exn EventSideEffects}
    {reached : DownstreamEvent DownstreamCounterDecrementData → Bool} {d : OrphanDeletion}
    {pair : String × String} (h : pair ∈ (lowered sideEffects reached d).map Prod.fst) :
    pair.1 ∈ decrementHashes := by
  unfold lowered at h
  cases hevents : downstreamCounterDecrements sideEffects d.data.orphanTable d.eventId with
  | error e => simp [hevents] at h
  | ok events =>
      simp only [hevents, List.mem_map, List.mem_flatMap, List.mem_filter,
        List.mem_filterMap, emitDownstreamCounterDecrementUpdates] at h
      obtain ⟨amount, ⟨event, ⟨hmem, -⟩, command, ⟨delta, -, rfl⟩, hamount⟩, rfl⟩ := h
      cases hamount
      exact (downstreamCounterDecrements_spec hevents event hmem).1

/-- The creations raise four other ones. -/
theorem raised_hash {children : List Child} {pair : String × String}
    (h : pair ∈ (raised children).map Prod.fst) : pair.1 ∈ creationHashes := by
  simp only [raised, counterAmounts, List.mem_map, List.mem_flatMap] at h
  obtain ⟨_, ⟨child, -, update, hupdate, rfl⟩, rfl⟩ := h
  -- two updates for a post and two for a comment
  cases child <;>
    simp only [Child.creation, createPostEvent, commentOnPostEvent, List.mem_cons,
      List.not_mem_nil, or_false] at hupdate
  all_goals
    rcases hupdate with rfl | rfl <;>
    · simp only [counterUpdate]
      decide

/-- No counter that the creation of a child raises is ever lowered. -/
theorem lowered_disjoint {sideEffects : Except Exn EventSideEffects}
    {reached : DownstreamEvent DownstreamCounterDecrementData → Bool} {d : OrphanDeletion}
    {pair : String × String} (hraised : pair ∈ (raised d.children).map Prod.fst) :
    pair ∉ (lowered sideEffects reached d).map Prod.fst := by
  intro hlowered
  have hboth : ∀ hash ∈ creationHashes, hash ∉ decrementHashes := by decide
  exact hboth _ (raised_hash hraised) (lowered_hash hlowered)

/-- The creation of a child raises something. -/
theorem raised_ne_nil {children : List Child} (hne : children ≠ []) :
    ∃ pair, pair ∈ (raised children).map Prod.fst := by
  obtain ⟨child, hchild⟩ := List.exists_mem_of_ne_nil _ hne
  have hupdates : child.creation.sideEffects.counterUpdates ≠ [] := by
    cases child <;> simp [Child.creation, createPostEvent, commentOnPostEvent]
  obtain ⟨update, hupdate⟩ := List.exists_mem_of_ne_nil _ hupdates
  refine ⟨(update.counterGroup, update.cacheKey), ?_⟩
  simp only [raised, counterAmounts, List.mem_map, List.mem_flatMap]
  exact ⟨_, ⟨child, hchild, update, hupdate, rfl⟩, rfl⟩

/-- A deletion without children lowers nothing. -/
theorem lowered_of_no_children (sideEffects : Except Exn EventSideEffects)
    (reached : DownstreamEvent DownstreamCounterDecrementData → Bool) {d : OrphanDeletion}
    (hnil : d.children = []) : lowered sideEffects reached d = [] := by
  unfold lowered
  split
  · rfl
  · simp [hnil, decrementDeltas, emitDownstreamCounterDecrementUpdates]

theorem not_undoesCreation {sideEffects : Except Exn EventSideEffects}
    {reached : DownstreamEvent DownstreamCounterDecrementData → Bool} {d : OrphanDeletion}
    (hne : d.children ≠ []) : ¬ UndoesCreation sideEffects reached d := by
  intro hundoes
  obtain ⟨pair, hpair⟩ := raised_ne_nil hne
  exact lowered_disjoint hpair ((hundoes.pairs pair).mpr hpair)

/-- The decrements undo the creations if and only if the event deletes no child, whatever
the module imports and whichever announcements arrive. -/
theorem undoesCreation_iff (sideEffects : Except Exn EventSideEffects)
    (reached : DownstreamEvent DownstreamCounterDecrementData → Bool) (d : OrphanDeletion) :
    UndoesCreation sideEffects reached d ↔ d.children = [] := by
  constructor
  · intro hundoes
    by_contra hne
    exact not_undoesCreation hne hundoes
  · intro hnil
    have hlowered := lowered_of_no_children sideEffects reached hnil
    constructor <;> intro pair <;> simp [hlowered, hnil, raised]

/-- The comment of user 7 is deleted with its post 5. -/
def orphanedComment : OrphanDeletion where
  eventId := 17000000000000
  data := ⟨⟨.parentPost, .comment⟩, 5, "2025-01-01T00:00:00"⟩
  children := [.comment ⟨7, "mia"⟩ 5 3 "well said" "2024-12-01T00:00:00"]
  below := by
    intro child hchild
    rw [List.mem_singleton.mp hchild]
    exact ⟨rfl, rfl⟩

/-- It stays counted. -/
theorem orphanedComment_stays_counted :
    ¬ UndoesCreation namedSideEffects (fun _ => true) orphanedComment :=
  not_undoesCreation (List.cons_ne_nil _ _)

end DatabaseWorkers
end Tenjin
