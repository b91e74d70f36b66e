import Tenjin.Auxillary.Base64Url
import Tenjin.Foundation.KeysetWalk

/-!
# Pages of posts

The page queries `get_forum_posts` and `get_user_posts` of `repositories/posts.py`, and the
cursor that the endpoints make of the last returned id.

* `orderBy` is the statement's `order_by`: SQLAlchemy refuses the uncalled method that the
  queries pass, before anything is sent to the database.
* `PostWalkComplete` is the purpose; `postWalks_complete_iff` is the exact condition.
-/

namespace Tenjin
namespace ResourceServer

open Python Foundation Auxillary

/-- A row of `posts`, as far as the page queries read it.  Times count from
`datetime.min`. -/
structure PostRow where
  id : Int
  authorId : Int
  forumId : Int
  timePosted : ℕ
  deleted : Bool
  deriving DecidableEq

/-- The table; `id_` is its primary key. -/
structure PostTable where
  rows : List PostRow
  ids_nodup : (rows.map PostRow.id).Nodup

/-- The settings of the pages, as they are validated. -/
structure PaginationSettings where
  paginationSize : ℕ
  size_ge : 1 ≤ paginationSize
  paginationCursorLength : ℕ
  length_ge : 4 ≤ paginationCursorLength
  length_dvd : 4 ∣ paginationCursorLength

/-- `SortOption`. -/
inductive SortOption
  | ascending
  | descending
  deriving DecidableEq

/-- What is passed to `order_by`: the method `Post.time_posted.desc` or `.asc` itself, as
the code has it, or the clause that calling it gives. -/
inductive OrderArgument
  | method
  | clause
  deriving DecidableEq

/-- `order_by`: a method is an `ArgumentError`. -/
def orderBy : OrderArgument → Except Exn Unit
  | .method => .error .argumentError
  | .clause => .ok ()

/-- The order of the clause. -/
def SortOption.le : SortOption → PostRow → PostRow → Bool
  | .ascending, a, b => a.timePosted ≤ b.timePosted
  | .descending, a, b => b.timePosted ≤ a.timePosted

/-- The part of the two queries that is about pages. -/
def postKeyset (settings : PaginationSettings) (sortOption : SortOption) :
    KeysetQuery PostRow where
  key := PostRow.id
  le := sortOption.le
  le_trans := by
    intro a b c hab hbc
    cases sortOption <;> simp only [SortOption.le, decide_eq_true_eq] at hab hbc ⊢ <;> omega
  le_total := by
    intro a b
    cases sortOption <;> simp only [SortOption.le, Bool.or_eq_true, decide_eq_true_eq] <;> omega
  limit := settings.paginationSize
  limit_pos := settings.size_ge

/-- The two page queries with their own parameters. -/
inductive PostQuery
  | forumPosts (forumId : Int) (datetimeBound : Option ℕ)
  | userPosts (userId : Int)

/-- The condition of the query apart from the cursor. -/
def PostQuery.wanted : PostQuery → PostRow → Bool
  | .forumPosts forumId datetimeBound, p =>
      p.forumId = forumId && datetimeBound.getD 0 < p.timePosted
  | .userPosts userId, p => p.authorId = userId

section
variable (orderArgument : OrderArgument) (settings : PaginationSettings)
  (sortOption : SortOption) (db : Arrangement (postKeyset settings sortOption))
  (table : PostTable)

/-- The common statement: select, filter, order, limit.  The inner join with the authors
loses no row: `author_id` is a foreign key that is never null. -/
def selectPosts (wanted : PostRow → Bool) (cursor : Int) : Except Exn (List PostRow) :=
  match orderBy orderArgument with
  | .error e => .error e
  | .ok _ =>
      .ok ((db.run (table.rows.filter fun p => cursor < p.id && wanted p)).take
        settings.paginationSize)

/-- `PostRepository.get_forum_posts`.  Deleted posts are not filtered out. -/
def getForumPosts (forumId : Int) (datetimeBound : Option ℕ) (cursor : Int) :
    Except Exn (List PostRow) :=
  selectPosts orderArgument settings sortOption db table
    (PostQuery.forumPosts forumId datetimeBound).wanted cursor

/-- `PostRepository.get_user_posts`. -/
def getUserPosts (userId : Int) (cursor : Int) : Except Exn (List PostRow) :=
  selectPosts orderArgument settings sortOption db table (PostQuery.userPosts userId).wanted
    cursor

/-- The page that a request asks for. -/
def PostQuery.run (query : PostQuery) (cursor : Int) : Except Exn (List PostRow) :=
  match query with
  | .forumPosts forumId datetimeBound =>
      getForumPosts orderArgument settings sortOption db table forumId datetimeBound cursor
  | .userPosts userId =>
      getUserPosts orderArgument settings sortOption db table userId cursor

end

/-- `cursor_preprocessor`: a missing or empty cursor is 0. -/
def cursorPreprocessor (rawCursor : Option String) : Except Exn Int :=
  match rawCursor with
  | none => .ok 0
  | some text => if text.isEmpty then .ok 0 else fromBase64url text

/-- The cursor of the next request, made of the last returned id. -/
def nextCursor (settings : PaginationSettings) (lastId : Int) : Except Exn Int :=
  match toBase64url lastId settings.paginationCursorLength with
  | .error e => .error e
  | .ok text => cursorPreprocessor (some text)

/-- The walk from cursor 0 ends and visits every wanted post that is not deleted exactly
once. -/
def PostWalkComplete (orderArgument : OrderArgument) (settings : PaginationSettings)
    (sortOption : SortOption) (db : Arrangement (postKeyset settings sortOption))
    (table : PostTable) (query : PostQuery) : Prop :=
  ∃ visited, walk (query.run orderArgument settings sortOption db table) PostRow.id
      (nextCursor settings) ((table.rows.filter query.wanted).length + 1) 0 = .ok visited ∧
    ∀ p ∈ table.rows, query.wanted p → p.deleted = false → visited.count p = 1

/-- The wanted posts that are not deleted have positive ids; and wherever a walk comes to,
the last row of the page has a greater id than the page's posts that are not deleted and a
smaller one than those left for later, and the id fits into the cursor. -/
def PagesSeparate (settings : PaginationSettings) (sortOption : SortOption)
    (table : PostTable) (query : PostQuery) : Prop :=
  (∀ p ∈ table.rows, query.wanted p → p.deleted = false → 0 < p.id) ∧
  ∀ (db : Arrangement (postKeyset settings sortOption)) (visited : List PostRow)
    (cursor : Int),
    Reached (postKeyset settings sortOption) (table.rows.filter query.wanted) db
      (nextCursor settings) visited cursor →
    BoundarySeparates (postKeyset settings sortOption) (table.rows.filter query.wanted) db
      (nextCursor settings) (fun p => p.deleted = false) cursor

/-- A cursor that is handed over comes back as the id that it was made of. -/
theorem nextCursor_eq {settings : PaginationSettings} {lastId cursor : Int}
    (h : nextCursor settings lastId = .ok cursor) : cursor = lastId := by
  unfold nextCursor at h
  split at h
  · cases h
  · rename_i text htext
    have hback := fromBase64url_toBase64url htext
    simp only [cursorPreprocessor] at h
    split at h
    · rename_i hempty
      -- the empty text is the one of the number 0
      have hzero : fromBase64url "" = .ok 0 := rfl
      rw [String.isEmpty_iff.mp hempty, hzero] at hback
      cases h
      cases hback
      rfl
    · rw [hback] at h
      cases h
      rfl

/-- With a clause, a query answers with the page of the wanted rows. -/
theorem run_clause (settings : PaginationSettings) (sortOption : SortOption)
    (db : Arrangement (postKeyset settings sortOption)) (table : PostTable)
    (query : PostQuery) :
    query.run .clause settings sortOption db table =
      pageQuery (postKeyset settings sortOption) (table.rows.filter query.wanted) db := by
  have hselect : ∀ wanted : PostRow → Bool,
      selectPosts .clause settings sortOption db table wanted =
        pageQuery (postKeyset settings sortOption) (table.rows.filter wanted) db := by
    intro wanted
    ext cursor
    simp only [selectPosts, orderBy, pageQuery, page, beyond, List.filter_filter]
    rfl
  cases query with
  | forumPosts forumId datetimeBound => exact hselect _
  | userPosts userId => exact hselect _

/-- With the method, a query raises. -/
theorem run_method (settings : PaginationSettings) (sortOption : SortOption)
    (db : Arrangement (postKeyset settings sortOption)) (table : PostTable)
    (query : PostQuery) (cursor : Int) :
    query.run .method settings sortOption db table cursor = .error .argumentError := by
  cases query <;> rfl

/-- So no walk gets its first page. -/
theorem not_complete_method (settings : PaginationSettings) (sortOption : SortOption)
    (db : Arrangement (postKeyset settings sortOption)) (table : PostTable)
    (query : PostQuery) :
    ¬ PostWalkComplete .method settings sortOption db table query := by
  rintro ⟨visited, hwalk, _⟩
  simp [walk, run_method] at hwalk

/-- All walks through the posts of a forum or of a user are complete, whatever the database
does with posts of one time, if and only if the query passes an ordering clause and the
pages separate. -/
theorem postWalks_complete_iff (orderArgument : OrderArgument)
    (settings : PaginationSettings) (sortOption : SortOption) (table : PostTable)
    (query : PostQuery) :
    (∀ db, PostWalkComplete orderArgument settings sortOption db table query) ↔
      orderArgument = .clause ∧ PagesSeparate settings sortOption table query := by
  cases orderArgument with
  | method =>
      refine iff_of_false (fun h => ?_) (fun h => by cases h.1)
      exact not_complete_method settings sortOption (.bySort _) table query (h (.bySort _))
  | clause =>
      have hrows : (table.rows.filter query.wanted).Nodup :=
        (table.ids_nodup.of_map).filter _
      have hgeneral : (∀ db, Complete (postKeyset settings sortOption)
          (table.rows.filter query.wanted) db (nextCursor settings)
          (fun p => p.deleted = false)) ↔ _ :=
        complete_iff hrows fun n m h => nextCursor_eq h
      simp only [Complete, List.mem_filter, and_imp] at hgeneral
      simp only [PostWalkComplete, run_clause, PagesSeparate, true_and]
      exact hgeneral

/-- Two posts of user 7, the later one with the greater id. -/
def twoPosts : PostTable where
  rows := [⟨1, 7, 3, 1, false⟩, ⟨2, 7, 3, 2, false⟩]
  ids_nodup := by decide

/-- Pages of one post. -/
def onePostPages : PaginationSettings where
  paginationSize := 1
  size_ge := by decide
  paginationCursorLength := 16
  length_ge := by decide
  length_dvd := by decide

/-- Latest post first, the first page holds the post with the greater id. -/
theorem first_page_twoPosts (db : Arrangement (postKeyset onePostPages .descending)) :
    page (postKeyset onePostPages .descending)
      (twoPosts.rows.filter (PostQuery.userPosts 7).wanted) db 0 = [⟨2, 7, 3, 2, false⟩] := by
  have hbeyond : beyond (postKeyset onePostPages .descending)
      (twoPosts.rows.filter (PostQuery.userPosts 7).wanted) 0 =
      [⟨1, 7, 3, 1, false⟩, ⟨2, 7, 3, 2, false⟩] := by decide
  have hperm := db.perm [⟨1, 7, 3, 1, false⟩, ⟨2, 7, 3, 2, false⟩]
  have hsorted := db.sorted [⟨1, 7, 3, 1, false⟩, ⟨2, 7, 3, 2, false⟩]
  rw [page, hbeyond]
  obtain ⟨first, second, hrun⟩ := List.length_eq_two.mp hperm.length_eq
  rw [hrun] at hperm hsorted ⊢
  have hfirst : first ∈ [(⟨1, 7, 3, 1, false⟩ : PostRow), ⟨2, 7, 3, 2, false⟩] :=
    hperm.subset (by simp)
  have hlater : (⟨2, 7, 3, 2, false⟩ : PostRow) ∈ [first, second] :=
    hperm.symm.subset (by simp)
  rcases List.mem_pair.mp hfirst with rfl | rfl
  · -- the earlier post would stand in front of the later one
    have horder : SortOption.descending.le ⟨1, 7, 3, 1, false⟩ second = true :=
      List.rel_of_pairwise_cons hsorted (by simp)
    rcases List.mem_pair.mp hlater with heq | rfl
    · cases heq
    · cases horder
  · rfl

/-- The walk through these posts does not get a page; and with an ordering clause it gets
the later post first and never the earlier one. -/
theorem twoPosts_not_visited :
    (¬ PostWalkComplete .method onePostPages .descending
      (.bySort (postKeyset onePostPages .descending)) twoPosts (.userPosts 7)) ∧
    ¬ PostWalkComplete .clause onePostPages .descending
      (.bySort (postKeyset onePostPages .descending)) twoPosts (.userPosts 7) := by
  refine ⟨not_complete_method onePostPages .descending (.bySort _) twoPosts (.userPosts 7), ?_⟩
  rintro ⟨visited, hwalk, hcount⟩
  rw [run_clause] at hwalk
  have hcomplete : Complete (postKeyset onePostPages .descending)
      (twoPosts.rows.filter (PostQuery.userPosts 7).wanted) (.bySort _)
      (nextCursor onePostPages) (fun p => p.deleted = false) :=
    ⟨visited, hwalk, fun p hp => hcount p (List.mem_filter.mp hp).1 (List.mem_filter.mp hp).2⟩
  have hpage := first_page_twoPosts (.bySort _)
  have hlast : (page (postKeyset onePostPages .descending)
      (twoPosts.rows.filter (PostQuery.userPosts 7).wanted) (.bySort _) 0).getLast? =
      some ⟨2, 7, 3, 2, false⟩ := by
    rw [hpage]
    rfl
  have hnext : nextCursor onePostPages 2 = .ok 2 := by decide
  have hreached : Reached (postKeyset onePostPages .descending)
      (twoPosts.rows.filter (PostQuery.userPosts 7).wanted) (.bySort _)
      (nextCursor onePostPages) _ 2 := .next .start hlast hnext
  obtain ⟨out, _, _, _, hbehind, hone⟩ :=
    complete_at (fun _ _ h => nextCursor_eq h) hcomplete hreached
  have hmissed : (⟨1, 7, 3, 1, false⟩ : PostRow) ∉ out := by
    intro hmem
    have hcursor := (mem_beyond.mp (hbehind _ hmem)).2
    simp [postKeyset] at hcursor
  have hcount := hone ⟨1, 7, 3, 1, false⟩ (by decide) rfl
  rw [hpage, List.nil_append, List.count_append, List.count_eq_zero_of_not_mem hmissed]
    at hcount
  cases hcount

end ResourceServer
end Tenjin
