import Tenjin.ResourceServer.CacheKeys
import Tenjin.ResourceServer.PostPages

/-!
# The repositories' reads of rows that are deleted softly

The queries of `repositories/posts.py`, `repositories/comment.py` and
`repositories/forum.py` that return posts, comments or forums.  A deletion only sets a flag
in the row, so a query that does not look at the flag returns the row as before.

* `ResourceTables` are the tables; `delete` is what a committed deletion does to them.
* `RepositoryQuery.select` is the statement of a query, `RepositoryQuery.run` makes results
  of the rows.
* `mem_run_iff` — what a query returns.
* `RepositoryQuery.Spares` says when a query returns none of some resources whose deletion
  has been committed (`spares_iff`): only `get_post` always does.
-/

namespace Tenjin
namespace ResourceServer

open Python Foundation ResourceAuxillary

/-- The tables with a `deleted` column whose rows the reads return. -/
inductive ResourceKind
  | post
  | comment
  | forum
  deriving DecidableEq

/-- What results are made of the rows. -/
def ResourceKind.resultType : ResourceKind → ResultType
  | .post => .postResult
  | .comment => .commentResult
  | .forum => .forumResult

/-- A post, a comment or a forum. -/
structure Resource where
  kind : ResourceKind
  id : Int
  deriving DecidableEq

/-- A row of `comments`, as far as the queries read it. -/
structure CommentRow where
  id : Int
  parentPost : Int
  deleted : Bool
  deriving DecidableEq

/-- A row of `forums`. -/
structure ForumRow where
  id : Int
  name : String
  anime : Option Int
  deleted : Bool
  deriving DecidableEq

/-- A row of `forum_subscriptions`. -/
structure SubscriptionRow where
  userId : Int
  forumId : Int
  timeSubscribed : ℕ
  deriving DecidableEq

/-- The tables; the ids are primary keys.  `values` are the attributes of the rows with what
is joined to them. -/
structure ResourceTables where
  posts : PostTable
  comments : List CommentRow
  comments_nodup : (comments.map CommentRow.id).Nodup
  forums : List ForumRow
  forums_nodup : (forums.map ForumRow.id).Nodup
  subscriptions : List SubscriptionRow
  values : Resource → Row

/-- The row is there, with the flag set. -/
def ResourceTables.Deleted (t : ResourceTables) (r : Resource) : Prop :=
  match r.kind with
  | .post => ∃ p ∈ t.posts.rows, p.id = r.id ∧ p.deleted = true
  | .comment => ∃ c ∈ t.comments, c.id = r.id ∧ c.deleted = true
  | .forum => ∃ f ∈ t.forums, f.id = r.id ∧ f.deleted = true

instance (t : ResourceTables) (r : Resource) : Decidable (t.Deleted r) :=
  match r with
  | ⟨.post, id⟩ =>
      inferInstanceAs (Decidable (∃ p ∈ t.posts.rows, p.id = id ∧ p.deleted = true))
  | ⟨.comment, id⟩ =>
      inferInstanceAs (Decidable (∃ c ∈ t.comments, c.id = id ∧ c.deleted = true))
  | ⟨.forum, id⟩ =>
      inferInstanceAs (Decidable (∃ f ∈ t.forums, f.id = id ∧ f.deleted = true))

/-- The flag of the rows of some resources is set. -/
def ResourceTables.delete (t : ResourceTables) (resources : List Resource) :
    ResourceTables where
  posts :=
    { rows := t.posts.rows.map fun p =>
        { p with deleted := p.deleted || decide (⟨.post, p.id⟩ ∈ resources) }
      ids_nodup := by
        rw [List.map_map]
        exact t.posts.ids_nodup }
  comments := t.comments.map fun c =>
    { c with deleted := c.deleted || decide (⟨.comment, c.id⟩ ∈ resources) }
  comments_nodup := by
    rw [List.map_map]
    exact t.comments_nodup
  forums := t.forums.map fun f =>
    { f with deleted := f.deleted || decide (⟨.forum, f.id⟩ ∈ resources) }
  forums_nodup := by
    rw [List.map_map]
    exact t.forums_nodup
  subscriptions := t.subscriptions
  values := t.values

/-- A row to insert. -/
inductive NewRow
  | post (p : PostRow)
  | comment (c : CommentRow)
  | forum (f : ForumRow)

/-- An insertion; an id that is there is refused. -/
def ResourceTables.insert (t : ResourceTables) : NewRow → Option ResourceTables
  | .post p =>
      if h : p.id ∈ t.posts.rows.map PostRow.id then none
      else some { t with
        posts :=
          { rows := p :: t.posts.rows
            ids_nodup := List.nodup_cons.mpr ⟨h, t.posts.ids_nodup⟩ } }
  | .comment c =>
      if h : c.id ∈ t.comments.map CommentRow.id then none
      else some { t with
        comments := c :: t.comments
        comments_nodup := List.nodup_cons.mpr ⟨h, t.comments_nodup⟩ }
  | .forum f =>
      if h : f.id ∈ t.forums.map ForumRow.id then none
      else some { t with
        forums := f :: t.forums
        forums_nodup := List.nodup_cons.mpr ⟨h, t.forums_nodup⟩ }

/-- Another value of a row's attributes. -/
def ResourceTables.amend (t : ResourceTables) (r : Resource) (row : Row) : ResourceTables :=
  { t with values := fun other => if other = r then row else t.values other }

/-- What a query raises. -/
inductive QueryExn
  /-- SQLAlchemy's `MultipleResultsFound`. -/
  | multipleResultsFound
  | raised (e : Exn)

/-- `scalar_one_or_none`. -/
def scalarOneOrNone {α : Type} : List α → Except QueryExn (List α)
  | [] => .ok []
  | [a] => .ok [a]
  | _ => .error .multipleResultsFound

/-- The order of `get_user_forums`. -/
def SortOption.leSubscribed : SortOption → SubscriptionRow → SubscriptionRow → Bool
  | .ascending, a, b => a.timeSubscribed ≤ b.timeSubscribed
  | .descending, a, b => b.timeSubscribed ≤ a.timeSubscribed

/-- Its page. -/
def subscriptionKeyset (settings : PaginationSettings) (sortOption : SortOption) :
    KeysetQuery SubscriptionRow where
  key := SubscriptionRow.forumId
  le := sortOption.leSubscribed
  le_trans := by
    intro a b c hab hbc
    cases sortOption <;>
      simp only [SortOption.leSubscribed, decide_eq_true_eq] at hab hbc ⊢ <;> omega
  le_total := by
    intro a b
    cases sortOption <;>
      simp only [SortOption.leSubscribed, Bool.or_eq_true, decide_eq_true_eq] <;> omega
  limit := settings.paginationSize
  limit_pos := settings.size_ge

/-- The queries, under the names of the repositories' methods; `getPosts` are the two page
queries of `PostQuery`.  A query that is ordered comes with what the database makes of the
order. -/
inductive RepositoryQuery (settings : PaginationSettings)
  | getPost (postId : Int)
  | getPosts (sortOption : SortOption) (db : Arrangement (postKeyset settings sortOption))
      (query : PostQuery) (cursor : Int)
  | getComment (commentId : Int)
  | getPostComments (postId cursor : Int)
  | getForum (forumId : Int)
  | getForumByName (name : String)
  | getForums (cursor : Int) (searchParam : Option String) (parentAnimeId : Option Int)
  | getUserForums (sortOption : SortOption)
      (db : Arrangement (subscriptionKeyset settings sortOption)) (userId cursor : Int)

/-- What the query returns. -/
def RepositoryQuery.kind {settings : PaginationSettings} :
    RepositoryQuery settings → ResourceKind
  | .getPost _ => .post
  | .getPosts _ _ _ _ => .post
  | .getComment _ => .comment
  | .getPostComments _ _ => .comment
  | .getForum _ => .forum
  | .getForumByName _ => .forum
  | .getForums _ _ _ => .forum
  | .getUserForums _ _ _ _ => .forum

section
variable (rt : ResultRuntime) (orderArgument : OrderArgument)
  (ilike : (value pattern : String) → Bool) (settings : PaginationSettings)

/-- The results of the rows, with the resources that they are results of. -/
def constructAll (kind : ResourceKind) (values : Resource → Row) (ids : List Int) :
    Except Exn (List (Resource × Dto)) :=
  ids.mapM fun id =>
    (constructFromOrm rt kind.resultType (values ⟨kind, id⟩)).map (Prod.mk ⟨kind, id⟩)

/-- The `where` clauses of `get_forums`: an empty search text and an anime 0 are none. -/
def forumMatches (searchParam : Option String) (parentAnimeId : Option Int) (f : ForumRow) :
    Bool :=
  (match searchParam with
    | some text => text.isEmpty || ilike f.name ("%" ++ text ++ "%")
    | none => true) &&
  (match parentAnimeId with
    | some animeId => animeId = 0 || f.anime = some animeId
    | none => true)

/-- The rows of `get_user_forums` before they are ordered.  `forum_id` is a foreign key, so
the join loses no row. -/
def userSubscriptions (t : ResourceTables) (userId cursor : Int) : List SubscriptionRow :=
  t.subscriptions.filter fun s => s.userId = userId && cursor < s.forumId

/-- The ids of the rows that the statement of a query returns.  Only `get_post` looks at the
flag; `get_post_comments` and `get_forums` have no limit. -/
def RepositoryQuery.select (t : ResourceTables) :
    RepositoryQuery settings → Except QueryExn (List Int)
  | .getPost postId =>
      .ok (((t.posts.rows.filter fun p => p.id = postId && p.deleted = false).take 1).map
        PostRow.id)
  | .getPosts sortOption db query cursor =>
      ((query.run orderArgument settings sortOption db t.posts cursor).map fun rows =>
        rows.map PostRow.id).mapError .raised
  | .getComment commentId =>
      .ok (((t.comments.filter fun c => c.id = commentId).take 1).map CommentRow.id)
  | .getPostComments postId cursor =>
      .ok ((t.comments.filter fun c => cursor < c.id && c.parentPost = postId).map CommentRow.id)
  | .getForum forumId =>
      scalarOneOrNone ((t.forums.filter fun f => f.id = forumId).map ForumRow.id)
  | .getForumByName name =>
      scalarOneOrNone ((t.forums.filter fun f => f.name = name).map ForumRow.id)
  | .getForums cursor searchParam parentAnimeId =>
      .ok ((t.forums.filter fun f =>
        cursor < f.id && forumMatches ilike searchParam parentAnimeId f).map ForumRow.id)
  | .getUserForums _ db userId cursor =>
      ((orderBy orderArgument).map fun _ =>
        ((db.run (userSubscriptions t userId cursor)).take settings.paginationSize).map
          SubscriptionRow.forumId).mapError .raised

/-- A query of a repository. -/
def RepositoryQuery.run (t : ResourceTables) (query : RepositoryQuery settings) :
    Except QueryExn (List (Resource × Dto)) := do
  let ids ← query.select orderArgument ilike settings t
  (constructAll rt query.kind t.values ids).mapError .raised

/-- The query returns a result of the resource. -/
def RepositoryQuery.Returns (t : ResourceTables) (query : RepositoryQuery settings)
    (r : Resource) : Prop :=
  ∃ results dto, query.run rt orderArgument ilike settings t = .ok results ∧
    (r, dto) ∈ results

/-- The rows that a query looks at hold none of the resources that are gone, or come behind
the page.  Posts and comments can be returned at all only where `super()` works, and pages
of posts and of a user's forums only with an ordering clause. -/
def RepositoryQuery.Spares (t : ResourceTables) (gone : List Resource) :
    RepositoryQuery settings → Prop
  | .getPost _ => True
  | .getPosts _ db query cursor =>
      orderArgument = .clause → rt.slotsSuper = true →
        ∀ p ∈ t.posts.rows, cursor < p.id → query.wanted p = true →
          (⟨.post, p.id⟩ : Resource) ∈ gone →
          settings.paginationSize ≤
            (db.run (t.posts.rows.filter fun p => cursor < p.id && query.wanted p)).idxOf p
  | .getComment commentId =>
      rt.slotsSuper = true → (⟨.comment, commentId⟩ : Resource) ∉ gone
  | .getPostComments postId cursor =>
      rt.slotsSuper = true → ∀ c ∈ t.comments, cursor < c.id → c.parentPost = postId →
        (⟨.comment, c.id⟩ : Resource) ∉ gone
  | .getForum forumId => (⟨.forum, forumId⟩ : Resource) ∉ gone
  | .getForumByName name =>
      ∀ f ∈ t.forums, f.name = name → (⟨.forum, f.id⟩ : Resource) ∈ gone →
        ∃ other ∈ t.forums, other.name = name ∧ other ≠ f
  | .getForums cursor searchParam parentAnimeId =>
      ∀ f ∈ t.forums, cursor < f.id → forumMatches ilike searchParam parentAnimeId f = true →
        (⟨.forum, f.id⟩ : Resource) ∉ gone
  | .getUserForums _ db userId cursor =>
      orderArgument = .clause →
        ∀ s ∈ t.subscriptions, s.userId = userId → cursor < s.forumId →
          (⟨.forum, s.forumId⟩ : Resource) ∈ gone →
          settings.paginationSize ≤ (db.run (userSubscriptions t userId cursor)).idxOf s

end

section
variable {rt : ResultRuntime} {orderArgument : OrderArgument}
  {ilike : (value pattern : String) → Bool} {settings : PaginationSettings}
  {t : ResourceTables} {r : Resource} {id : Int}

/-- A forum can always be made of its row; the other two go through `super()`. -/
theorem constructFromOrm_isOk_iff (kind : ResourceKind) (row : Row) :
    (∃ dto, constructFromOrm rt kind.resultType row = .ok dto) ↔
      kind = .forum ∨ rt.slotsSuper = true := by
  cases kind with
  | forum => exact iff_of_true ⟨_, rfl⟩ (.inl rfl)
  | post | comment =>
      cases hsuper : rt.slotsSuper <;>
        simp [ResourceKind.resultType, constructFromOrm, superMethod, hsuper, bind, Except.bind]

/-- Either all rows are made into results, or none is returned. -/
theorem mem_constructAll_iff {kind : ResourceKind} {values : Resource → Row} {ids : List Int} :
    (∃ results dto, constructAll rt kind values ids = .ok results ∧ (r, dto) ∈ results) ↔
      r.kind = kind ∧ r.id ∈ ids ∧ (kind = .forum ∨ rt.slotsSuper = true) := by
  constructor
  · rintro ⟨results, dto, hall, hmem⟩
    obtain ⟨id, hid, hmade⟩ := exists_of_mem_mapM hall hmem
    cases hdto : constructFromOrm rt kind.resultType (values ⟨kind, id⟩) with
    | error e => simp [hdto, Except.map] at hmade
    | ok made =>
        simp only [hdto, Except.map, Except.ok.injEq, Prod.mk.injEq] at hmade
        obtain ⟨rfl, _⟩ := hmade
        exact ⟨rfl, hid, (constructFromOrm_isOk_iff kind _).mp ⟨made, hdto⟩⟩
  · rintro ⟨rfl, hid, hsuper⟩
    have hmade : ∀ id, ∃ dto,
        constructFromOrm rt r.kind.resultType (values ⟨r.kind, id⟩) = .ok dto :=
      fun id => (constructFromOrm_isOk_iff r.kind _).mpr hsuper
    choose dto hdto using hmade
    refine ⟨ids.map fun id => (⟨r.kind, id⟩, dto id), dto r.id, ?_, ?_⟩
    · refine mapM_eq_ok_iff.mpr ?_
      rw [List.forall₂_map_right_iff]
      refine List.forall₂_same.mpr fun id _ => ?_
      rw [hdto id]
      rfl
    · exact List.mem_map.mpr ⟨r.id, hid, rfl⟩

/-- The statement of the query returns the row with the id. -/
def RepositoryQuery.Selected (orderArgument : OrderArgument)
    (ilike : (value pattern : String) → Bool) (t : ResourceTables)
    (query : RepositoryQuery settings) (id : Int) : Prop :=
  ∃ ids, query.select orderArgument ilike settings t = .ok ids ∧ id ∈ ids

/-- A query returns what its statement does, if results can be made of it. -/
theorem returns_iff {query : RepositoryQuery settings} :
    query.Returns rt orderArgument ilike settings t r ↔
      r.kind = query.kind ∧ query.Selected orderArgument ilike t r.id ∧
        (query.kind = .forum ∨ rt.slotsSuper = true) := by
  unfold RepositoryQuery.Returns RepositoryQuery.Selected RepositoryQuery.run
  cases hselect : query.select orderArgument ilike settings t with
  | error e => simp [bind, Except.bind]
  | ok ids =>
      have hall : (∃ results dto, constructAll rt query.kind t.values ids = .ok results ∧
          (r, dto) ∈ results) ↔ _ := mem_constructAll_iff
      simp only [bind, Except.bind, Except.ok.injEq, exists_eq_left']
      rw [← hall]
      cases constructAll rt query.kind t.values ids <;> simp [Except.mapError]

/-- Rows with one id. -/
theorem mem_first_iff {α : Type} {key : α → Int} {rows : List α} {p : α → Bool} {i : Int}
    (hp : ∀ a ∈ rows, p a = true → key a = i) :
    id ∈ ((rows.filter p).take 1).map key ↔ id = i ∧ ∃ a ∈ rows, p a = true := by
  cases hfound : rows.filter p with
  | nil =>
      have hnone := List.filter_eq_nil_iff.mp hfound
      simp only [List.take_nil, List.map_nil, List.not_mem_nil, false_iff, not_and, not_exists]
      exact fun _ a ha => hnone a ha
  | cons a rest =>
      have ha := List.mem_filter.mp (hfound ▸ List.mem_cons_self ..)
      simp only [List.take_succ_cons, List.take_zero, List.map_cons, List.map_nil,
        List.mem_singleton, hp a ha.1 ha.2]
      exact (and_iff_left ⟨a, ha⟩).symm

/-- A statement that has to return one row at most. -/
theorem mem_scalar_iff {ids : List Int} :
    (∃ found, scalarOneOrNone ids = .ok found ∧ id ∈ found) ↔ ids = [id] := by
  match ids with
  | [] => simp [scalarOneOrNone]
  | [a] => simp [scalarOneOrNone, eq_comm]
  | a :: b :: rest => simp [scalarOneOrNone]

/-- The only row that meets a condition. -/
theorem filter_map_eq_singleton_iff {α : Type} {key : α → Int} {rows : List α} {p : α → Bool}
    (hnodup : (rows.map key).Nodup) :
    (rows.filter p).map key = [id] ↔
      ∃ a ∈ rows, p a = true ∧ key a = id ∧ ∀ b ∈ rows, p b = true → b = a := by
  constructor
  · intro h
    obtain ⟨a, hfound, rfl⟩ := List.map_eq_singleton_iff.mp h
    have ha := List.mem_filter.mp (hfound ▸ List.mem_singleton_self a)
    refine ⟨a, ha.1, ha.2, rfl, fun b hb hpb => ?_⟩
    have hmem : b ∈ rows.filter p := List.mem_filter.mpr ⟨hb, hpb⟩
    exact List.mem_singleton.mp (hfound ▸ hmem)
  · rintro ⟨a, ha, hpa, rfl, honly⟩
    have hrows : (rows.filter p).Nodup := hnodup.of_map.filter _
    have hmem : a ∈ rows.filter p := List.mem_filter.mpr ⟨ha, hpa⟩
    have hsingle : (rows.filter p).Perm [a] := by
      refine (List.perm_ext_iff_of_nodup hrows (List.nodup_singleton a)).mpr fun b => ?_
      rw [List.mem_singleton]
      constructor
      · intro hb
        exact honly b (List.mem_filter.mp hb).1 (List.mem_filter.mp hb).2
      · rintro rfl
        exact hmem
    rw [hsingle.eq_singleton]
    rfl

/-- `get_post` returns no row with the flag. -/
theorem not_selected_getPost {postId : Int} (h : t.Deleted ⟨.post, id⟩) :
    ¬ (.getPost postId : RepositoryQuery settings).Selected orderArgument ilike t
      id := by
  rintro ⟨ids, hids, hid⟩
  obtain ⟨flagged, hflagged, hsame, hflag⟩ := h
  cases hids
  obtain ⟨p, hp, rfl⟩ := List.mem_map.mp hid
  obtain ⟨hrow, hp⟩ := List.mem_filter.mp (List.mem_of_mem_take hp)
  -- the ids are primary keys, so there is one row
  have heq : flagged = p := List.inj_on_of_nodup_map t.posts.ids_nodup hflagged hrow hsame
  simp [← heq, hflag] at hp

theorem selected_getPosts_iff {sortOption : SortOption}
    {db : Arrangement (postKeyset settings sortOption)} {query : PostQuery} {cursor : Int} :
    (RepositoryQuery.getPosts sortOption db query cursor).Selected orderArgument ilike t id ↔
      orderArgument = .clause ∧ ∃ p ∈ t.posts.rows, cursor < p.id ∧ query.wanted p = true ∧
        (db.run (t.posts.rows.filter fun p => cursor < p.id && query.wanted p)).idxOf p <
          settings.paginationSize ∧ p.id = id := by
  cases orderArgument with
  | method =>
      simp [RepositoryQuery.Selected, RepositoryQuery.select, run_method, Except.map,
        Except.mapError]
  | clause =>
      have hrun : query.run .clause settings sortOption db t.posts cursor =
          .ok ((db.run (t.posts.rows.filter fun p => cursor < p.id && query.wanted p)).take
            settings.paginationSize) := by
        cases query <;> rfl
      simp only [RepositoryQuery.Selected, RepositoryQuery.select, hrun, Except.map,
        Except.mapError, Except.ok.injEq, exists_eq_left', List.mem_map, db.mem_take_iff,
        List.mem_filter, Bool.and_eq_true, decide_eq_true_eq, true_and, and_assoc]

theorem selected_getComment_iff {commentId : Int} :
    (.getComment commentId : RepositoryQuery settings).Selected orderArgument ilike t
      id ↔ id = commentId ∧ ∃ c ∈ t.comments, c.id = commentId := by
  have hfirst : id ∈ ((t.comments.filter fun c => c.id = commentId).take 1).map CommentRow.id ↔
      id = commentId ∧ ∃ c ∈ t.comments, decide (c.id = commentId) = true :=
    mem_first_iff fun c _ hc => of_decide_eq_true hc
  simp only [decide_eq_true_eq] at hfirst
  simp only [RepositoryQuery.Selected, RepositoryQuery.select, Except.ok.injEq, exists_eq_left',
    hfirst]

theorem selected_getPostComments_iff {postId cursor : Int} :
    (.getPostComments postId cursor : RepositoryQuery settings).Selected orderArgument
      ilike t id ↔ ∃ c ∈ t.comments, cursor < c.id ∧ c.parentPost = postId ∧ c.id = id := by
  simp only [RepositoryQuery.Selected, RepositoryQuery.select, Except.ok.injEq, exists_eq_left',
    List.mem_map, List.mem_filter, Bool.and_eq_true, decide_eq_true_eq, and_assoc]

theorem selected_getForum_iff {forumId : Int} :
    (.getForum forumId : RepositoryQuery settings).Selected orderArgument ilike t id ↔
      id = forumId ∧ ∃ f ∈ t.forums, f.id = forumId := by
  unfold RepositoryQuery.Selected RepositoryQuery.select
  rw [mem_scalar_iff, filter_map_eq_singleton_iff t.forums_nodup]
  simp only [decide_eq_true_eq]
  constructor
  · rintro ⟨f, hf, rfl, rfl, _⟩
    exact ⟨rfl, f, hf, rfl⟩
  · rintro ⟨rfl, f, hf, rfl⟩
    exact ⟨f, hf, rfl, rfl, fun g hg hsame => List.inj_on_of_nodup_map t.forums_nodup hg hf hsame⟩

theorem selected_getForumByName_iff {name : String} :
    (.getForumByName name : RepositoryQuery settings).Selected orderArgument ilike t
      id ↔ ∃ f ∈ t.forums, f.name = name ∧ f.id = id ∧
        ∀ other ∈ t.forums, other.name = name → other = f := by
  unfold RepositoryQuery.Selected RepositoryQuery.select
  rw [mem_scalar_iff, filter_map_eq_singleton_iff t.forums_nodup]
  simp only [decide_eq_true_eq]

theorem selected_getForums_iff {cursor : Int} {searchParam : Option String}
    {parentAnimeId : Option Int} :
    (.getForums cursor searchParam parentAnimeId : RepositoryQuery settings).Selected
      orderArgument ilike t id ↔ ∃ f ∈ t.forums, cursor < f.id ∧
        forumMatches ilike searchParam parentAnimeId f = true ∧ f.id = id := by
  simp only [RepositoryQuery.Selected, RepositoryQuery.select, Except.ok.injEq, exists_eq_left',
    List.mem_map, List.mem_filter, Bool.and_eq_true, decide_eq_true_eq, and_assoc]

theorem selected_getUserForums_iff {sortOption : SortOption}
    {db : Arrangement (subscriptionKeyset settings sortOption)} {userId cursor : Int} :
    (RepositoryQuery.getUserForums sortOption db userId cursor).Selected orderArgument ilike t
      id ↔ orderArgument = .clause ∧ ∃ s ∈ t.subscriptions, s.userId = userId ∧
        cursor < s.forumId ∧ (db.run (userSubscriptions t userId cursor)).idxOf s <
          settings.paginationSize ∧ s.forumId = id := by
  cases orderArgument with
  | method =>
      simp [RepositoryQuery.Selected, RepositoryQuery.select, orderBy, Except.map,
        Except.mapError]
  | clause =>
      have hrow : ∀ s, s ∈ userSubscriptions t userId cursor ↔
          s ∈ t.subscriptions ∧ s.userId = userId ∧ cursor < s.forumId := by
        simp [userSubscriptions]
      simp only [RepositoryQuery.Selected, RepositoryQuery.select, orderBy, Except.map,
        Except.mapError, Except.ok.injEq, exists_eq_left', List.mem_map, db.mem_take_iff,
        hrow, true_and, and_assoc]

/-- What is deleted stays so. -/
theorem ResourceTables.Deleted.delete (h : t.Deleted r) (resources : List Resource) :
    (t.delete resources).Deleted r := by
  obtain ⟨kind, id⟩ := r
  cases kind with
  | post =>
      obtain ⟨p, hp, rfl, hflag⟩ := h
      exact ⟨_, List.mem_map_of_mem hp, rfl, by rw [hflag, Bool.true_or]⟩
  | comment =>
      obtain ⟨c, hc, rfl, hflag⟩ := h
      exact ⟨_, List.mem_map_of_mem hc, rfl, by rw [hflag, Bool.true_or]⟩
  | forum =>
      obtain ⟨f, hf, rfl, hflag⟩ := h
      exact ⟨_, List.mem_map_of_mem hf, rfl, by rw [hflag, Bool.true_or]⟩

theorem ResourceTables.Deleted.insert {t' : ResourceTables} {row : NewRow} (h : t.Deleted r)
    (hinsert : t.insert row = some t') : t'.Deleted r := by
  obtain ⟨kind, id⟩ := r
  unfold ResourceTables.insert at hinsert
  split at hinsert <;> split at hinsert <;> cases hinsert <;> cases kind
  -- the new row is in front of the others
  all_goals
    first
    | exact h
    | obtain ⟨row, hrow, hflag⟩ := h
      exact ⟨row, List.mem_cons_of_mem _ hrow, hflag⟩

/-- The condition under which a query returns nothing that is gone. -/
theorem spares_iff {gone : List Resource} (hgone : ∀ r ∈ gone, t.Deleted r)
    (query : RepositoryQuery settings) :
    query.Spares rt orderArgument ilike settings t gone ↔
      ∀ r ∈ gone, ¬ query.Returns rt orderArgument ilike settings t r := by
  simp only [returns_iff]
  cases query with
  | getPost postId =>
      refine iff_of_true trivial ?_
      rintro ⟨kind, id⟩ hr ⟨rfl, hselected, _⟩
      exact not_selected_getPost (hgone _ hr) hselected
  | getPosts sortOption db query cursor =>
      simp only [selected_getPosts_iff, RepositoryQuery.Spares, RepositoryQuery.kind]
      constructor
      · rintro h ⟨kind, id⟩ hr ⟨rfl, ⟨horder, p, hp, hcursor, hwanted, hindex, rfl⟩, hsuper⟩
        have hbehind := h horder (hsuper.resolve_left nofun) p hp hcursor hwanted hr
        omega
      · intro h horder hsuper p hp hcursor hwanted hr
        by_contra hindex
        exact h _ hr ⟨rfl, ⟨horder, p, hp, hcursor, hwanted, not_le.mp hindex, rfl⟩, .inr hsuper⟩
  | getComment commentId =>
      simp only [selected_getComment_iff, RepositoryQuery.Spares, RepositoryQuery.kind]
      constructor
      · rintro h ⟨kind, id⟩ hr ⟨rfl, ⟨rfl, _⟩, hsuper⟩
        exact h (hsuper.resolve_left nofun) hr
      · intro h hsuper hr
        -- the row of the comment is still there
        obtain ⟨c, hc, hid, _⟩ := hgone _ hr
        exact h _ hr ⟨rfl, ⟨rfl, c, hc, hid⟩, .inr hsuper⟩
  | getPostComments postId cursor =>
      simp only [selected_getPostComments_iff, RepositoryQuery.Spares, RepositoryQuery.kind]
      constructor
      · rintro h ⟨kind, id⟩ hr ⟨rfl, ⟨c, hc, hcursor, hparent, rfl⟩, hsuper⟩
        exact h (hsuper.resolve_left nofun) c hc hcursor hparent hr
      · intro h hsuper c hc hcursor hparent hr
        exact h _ hr ⟨rfl, ⟨c, hc, hcursor, hparent, rfl⟩, .inr hsuper⟩
  | getForum forumId =>
      simp only [selected_getForum_iff, RepositoryQuery.Spares, RepositoryQuery.kind]
      constructor
      · rintro h ⟨kind, id⟩ hr ⟨rfl, ⟨rfl, _⟩, _⟩
        exact h hr
      · intro h hr
        obtain ⟨f, hf, hid, _⟩ := hgone _ hr
        exact h _ hr ⟨rfl, ⟨rfl, f, hf, hid⟩, .inl trivial⟩
  | getForumByName name =>
      simp only [selected_getForumByName_iff, RepositoryQuery.Spares, RepositoryQuery.kind]
      constructor
      · rintro h ⟨kind, id⟩ hr ⟨rfl, ⟨f, hf, hname, rfl, honly⟩, _⟩
        obtain ⟨other, hother, hsame, hne⟩ := h f hf hname hr
        exact hne (honly other hother hsame)
      · intro h f hf hname hr
        by_contra hnone
        refine h _ hr ⟨rfl, ⟨f, hf, hname, rfl, fun other hother hsame => ?_⟩, .inl trivial⟩
        by_contra hne
        exact hnone ⟨other, hother, hsame, hne⟩
  | getForums cursor searchParam parentAnimeId =>
      simp only [selected_getForums_iff, RepositoryQuery.Spares, RepositoryQuery.kind]
      constructor
      · rintro h ⟨kind, id⟩ hr ⟨rfl, ⟨f, hf, hcursor, hmatches, rfl⟩, _⟩
        exact h f hf hcursor hmatches hr
      · intro h f hf hcursor hmatches hr
        exact h _ hr ⟨rfl, ⟨f, hf, hcursor, hmatches, rfl⟩, .inl trivial⟩
  | getUserForums sortOption db userId cursor =>
      simp only [selected_getUserForums_iff, RepositoryQuery.Spares, RepositoryQuery.kind]
      constructor
      · rintro h ⟨kind, id⟩ hr ⟨rfl, ⟨horder, s, hs, huser, hcursor, hindex, rfl⟩, _⟩
        have hbehind := h horder s hs huser hcursor hr
        omega
      · intro h horder s hs huser hcursor hr
        by_contra hindex
        exact h _ hr ⟨rfl, ⟨horder, s, hs, huser, hcursor, not_le.mp hindex, rfl⟩, .inl trivial⟩

end

end ResourceServer
end Tenjin
