import Tenjin.ResourceServer.Endpoints
import Tenjin.ResourceServer.PaginationKeys
import Tenjin.ResourceServer.PostPages

/-!
# The page keys of the paginated endpoints

Each endpoint makes the key of its page of some of its parameters.

* `PageRequest` is a request after its parameters have been preprocessed; `pageKey` is the
  key that the endpoint derives.
* `pageKeys_differ_iff` — under one version, two different requests get different keys
  unless they share a page.
-/

namespace Tenjin
namespace ResourceServer

open Python ResourceAuxillary

/-- `TimeFrameOption`. -/
inductive TimeFrameOption
  | lastHour
  | lastDay
  | lastWeek
  | lastMonth
  | lastYear
  | allTime
  deriving DecidableEq

/-- The value of the time frame. -/
def TimeFrameOption.value : TimeFrameOption → String
  | .lastHour => "last_hour"
  | .lastDay => "last_day"
  | .lastWeek => "last_week"
  | .lastMonth => "last_month"
  | .lastYear => "last_year"
  | .allTime => "all_time"

/-- The value of the sort option. -/
def SortOption.value : SortOption → String
  | .ascending => "asc"
  | .descending => "desc"

/-- `ForumAdmin.__tablename__`. -/
def forumAdminResource : String := "forum_admins"

/-- `PAGINATION_SUB_KEY_SEPERATOR`. -/
def paginationSubKeySeperator : String := "-"

/-- A request to a paginated endpoint, under the endpoint's name, with the parent entity,
the cursor and the options that it is evaluated with.  Genres are given by their ids; a
missing genre filter or search text is `none`. -/
inductive PageRequest
  | getPostComments (postId : Int) (cursor : Int)
  | getForumPosts (forumId : Int) (cursor : Int) (sortOption : SortOption)
      (timeframe : TimeFrameOption)
  | getUserPosts (username : String) (cursor : Int) (sortOption : SortOption)
  | getUserForums (username : String) (cursor : Int) (sortOption : SortOption)
  | getUserAnimes (username : String) (cursor : Int) (sortOption : SortOption)
  | getAnimes (cursor : Int) (genres : Option (List Int)) (searchParam : Option String)
  | getAnimeForums (animeId : Int) (cursor : Int) (searchParam : Option String)
  | getForumAdmins (forumId : Int)
  deriving DecidableEq

/-- The resource name that the endpoint gives to `derive_pagination_key`. -/
def PageRequest.resourceName : PageRequest → String
  | .getPostComments _ _ => commentResource
  | .getForumPosts _ _ _ _ => postResource
  | .getUserPosts _ _ _ => postResource
  | .getUserForums _ _ _ => forumResource
  | .getUserAnimes _ _ _ => animeResource
  | .getAnimes _ _ _ => animeResource
  | .getAnimeForums _ _ _ => forumResource
  | .getForumAdmins forumId => pyJoin nameSeperator [forumAdminResource, toString forumId]

/-- The cursor; the admins of a forum are always asked for from the start. -/
def PageRequest.cursor : PageRequest → Int
  | .getPostComments _ cursor => cursor
  | .getForumPosts _ cursor _ _ => cursor
  | .getUserPosts _ cursor _ => cursor
  | .getUserForums _ cursor _ => cursor
  | .getUserAnimes _ cursor _ => cursor
  | .getAnimes cursor _ _ => cursor
  | .getAnimeForums _ cursor _ => cursor
  | .getForumAdmins _ => 0

/-- The further arguments.  A missing genre filter cannot be iterated over. -/
def PageRequest.args : PageRequest → Except Exn (List String)
  | .getPostComments _ _ => .ok []
  | .getForumPosts forumId _ sortOption timeframe =>
      .ok [forumResource, toString forumId, sortOption.value, timeframe.value]
  | .getUserPosts _ _ sortOption => .ok [sortOption.value]
  | .getUserForums _ _ sortOption => .ok [sortOption.value]
  | .getUserAnimes _ _ sortOption => .ok [sortOption.value]
  | .getAnimes _ none _ => .error .typeError
  | .getAnimes _ (some genres) searchParam =>
      .ok [pyJoin paginationSubKeySeperator (genres.map toString), searchParam.getD ""]
  | .getAnimeForums _ _ searchParam => .ok [searchParam.getD ""]
  | .getForumAdmins _ => .ok []

/-- The key of the page that the endpoint asks the cache for. -/
def PageRequest.pageKey (decodeResponses : Bool) (versions : VersionMap) (r : PageRequest) :
    Except Exn String :=
  r.args >>= derivePaginationKey decodeResponses versions r.resourceName r.cursor

/-- Two requests share a page when they agree in what the endpoint puts into the key: the
parent entity is not part of it, apart from the forum of `getForumPosts` and
`getForumAdmins`; a missing search text is like an empty one; and the forums of an anime
that are searched for a sort option have the key of the forums of a user. -/
def SharesPage : PageRequest → PageRequest → Prop
  | .getPostComments _ cursor, .getPostComments _ cursor' => cursor = cursor'
  | .getForumPosts forumId cursor sortOption timeframe,
      .getForumPosts forumId' cursor' sortOption' timeframe' =>
      cursor = cursor' ∧ forumId = forumId' ∧ sortOption = sortOption' ∧
        timeframe = timeframe'
  | .getUserPosts _ cursor sortOption, .getUserPosts _ cursor' sortOption' =>
      cursor = cursor' ∧ sortOption = sortOption'
  | .getUserForums _ cursor sortOption, .getUserForums _ cursor' sortOption' =>
      cursor = cursor' ∧ sortOption = sortOption'
  | .getUserAnimes _ cursor sortOption, .getUserAnimes _ cursor' sortOption' =>
      cursor = cursor' ∧ sortOption = sortOption'
  | .getAnimes cursor (some genres) searchParam,
      .getAnimes cursor' (some genres') searchParam' =>
      cursor = cursor' ∧ genres = genres' ∧ searchParam.getD "" = searchParam'.getD ""
  | .getAnimeForums _ cursor searchParam, .getAnimeForums _ cursor' searchParam' =>
      cursor = cursor' ∧ searchParam.getD "" = searchParam'.getD ""
  | .getUserForums _ cursor sortOption, .getAnimeForums _ cursor' searchParam =>
      cursor = cursor' ∧ sortOption.value = searchParam.getD ""
  | .getAnimeForums _ cursor searchParam, .getUserForums _ cursor' sortOption =>
      cursor = cursor' ∧ searchParam.getD "" = sortOption.value
  | .getForumAdmins forumId, .getForumAdmins forumId' => forumId = forumId'
  | _, _ => False

theorem pySplit_sortOption (sortOption : SortOption) :
    pySplit ':' sortOption.value = [sortOption.value] := by
  cases sortOption <;> rfl

theorem pySplit_timeframe (timeframe : TimeFrameOption) :
    pySplit ':' timeframe.value = [timeframe.value] := by
  cases timeframe <;> rfl

theorem SortOption.value_inj {a b : SortOption} : a.value = b.value ↔ a = b := by
  cases a <;> cases b <;> decide

theorem TimeFrameOption.value_inj {a b : TimeFrameOption} : a.value = b.value ↔ a = b := by
  cases a <;> cases b <;> decide

/-- There is no colon in the joined ids of genres. -/
theorem pySplit_genres (genres : List Int) :
    pySplit ':' (pyJoin paginationSubKeySeperator (genres.map toString)) =
      [pyJoin paginationSubKeySeperator (genres.map toString)] := by
  apply pySplit_of_not_mem
  induction genres with
  | nil => simp [pyJoin]
  | cons n rest ih =>
      cases rest with
      | nil => simpa [pyJoin] using colon_not_mem_toString n
      | cons m rest =>
          rw [List.map_cons, List.map_cons, pyJoin, String.intercalate_cons_cons,
            String.toList_append, String.toList_append, List.mem_append, List.mem_append]
          rintro ((h | h) | h)
          · exact colon_not_mem_toString n h
          · exact absurd h (by decide)
          · exact ih h

theorem pySplit_forumAdmins (forumId : Int) :
    pySplit ':' (pyJoin nameSeperator [forumAdminResource, toString forumId]) =
      [forumAdminResource, toString forumId] := by
  show pySplit ':' (pyJoin (String.singleton ':') _) = _
  rw [pySplit_pyJoin _ (by simp), List.flatMap_cons, List.flatMap_singleton, pySplit_cursor]
  rfl

/-- The pieces of a request's key behind the version. -/
def PageRequest.pieces : PageRequest → List String
  | .getPostComments _ cursor => ["comments", toString cursor]
  | .getForumPosts forumId cursor sortOption timeframe =>
      ["posts", toString cursor, "forums", toString forumId, sortOption.value,
        timeframe.value]
  | .getUserPosts _ cursor sortOption => ["posts", toString cursor, sortOption.value]
  | .getUserForums _ cursor sortOption => ["forums", toString cursor, sortOption.value]
  | .getUserAnimes _ cursor sortOption => ["animes", toString cursor, sortOption.value]
  | .getAnimes cursor genres searchParam =>
      "animes" :: toString cursor ::
        pyJoin paginationSubKeySeperator ((genres.getD []).map toString) ::
        pySplit ':' (searchParam.getD "")
  | .getAnimeForums _ cursor searchParam =>
      "forums" :: toString cursor :: pySplit ':' (searchParam.getD "")
  | .getForumAdmins forumId => ["forum_admins", toString forumId, "0"]

/-- The other resource names are single pieces. -/
theorem pySplit_resources :
    pySplit ':' commentResource = ["comments"] ∧ pySplit ':' postResource = ["posts"] ∧
    pySplit ':' forumResource = ["forums"] ∧ pySplit ':' animeResource = ["animes"] := by
  decide

theorem pieces_eq {r : PageRequest} {args : List String} (h : r.args = .ok args) :
    pySplit ':' r.resourceName ++ toString r.cursor :: args.flatMap (pySplit ':') =
      r.pieces := by
  obtain ⟨hcomments, hposts, hforums, hanimes⟩ := pySplit_resources
  cases r with
  | getPostComments postId cursor =>
      cases h
      simp only [PageRequest.resourceName, PageRequest.cursor, PageRequest.pieces, hcomments,
        List.flatMap_nil, List.singleton_append]
  | getForumPosts forumId cursor sortOption timeframe =>
      cases h
      simp only [PageRequest.resourceName, PageRequest.cursor, PageRequest.pieces, hposts,
        hforums, pySplit_cursor, pySplit_sortOption, pySplit_timeframe, List.flatMap_cons,
        List.flatMap_nil, List.singleton_append]
  | getUserPosts username cursor sortOption =>
      cases h
      simp only [PageRequest.resourceName, PageRequest.cursor, PageRequest.pieces, hposts,
        pySplit_sortOption, List.flatMap_cons, List.flatMap_nil, List.singleton_append]
  | getUserForums username cursor sortOption =>
      cases h
      simp only [PageRequest.resourceName, PageRequest.cursor, PageRequest.pieces, hforums,
        pySplit_sortOption, List.flatMap_cons, List.flatMap_nil, List.singleton_append]
  | getUserAnimes username cursor sortOption =>
      cases h
      simp only [PageRequest.resourceName, PageRequest.cursor, PageRequest.pieces, hanimes,
        pySplit_sortOption, List.flatMap_cons, List.flatMap_nil, List.singleton_append]
  | getAnimes cursor genres searchParam =>
      cases genres with
      | none => cases h
      | some genres =>
          cases h
          simp only [PageRequest.resourceName, PageRequest.cursor, PageRequest.pieces,
            hanimes, pySplit_genres, List.flatMap_cons, List.flatMap_nil,
            List.singleton_append, List.append_nil, Option.getD_some]
  | getAnimeForums animeId cursor searchParam =>
      cases h
      simp only [PageRequest.resourceName, PageRequest.cursor, PageRequest.pieces, hforums,
        List.flatMap_cons, List.flatMap_nil, List.singleton_append, List.append_nil]
  | getForumAdmins forumId =>
      cases h
      simp only [PageRequest.resourceName, PageRequest.cursor, PageRequest.pieces,
        pySplit_forumAdmins, List.flatMap_nil]
      rfl

/-- The pieces behind the version agree when the requests share a page. -/
theorem pieces_eq_iff {r r' : PageRequest} {args args' : List String}
    (hargs : r.args = .ok args) (hargs' : r'.args = .ok args') :
    r.pieces = r'.pieces ↔ SharesPage r r' := by
  -- a search text is the piece of a sort option only when it is the option itself
  have hsort : ∀ (sortOption : SortOption) (text : String),
      [sortOption.value] = pySplit ':' text ↔ sortOption.value = text := by
    intro sortOption text
    rw [← pySplit_sortOption, pySplit_inj]
  have hsort' : ∀ (sortOption : SortOption) (text : String),
      pySplit ':' text = [sortOption.value] ↔ text = sortOption.value := by
    intro sortOption text
    rw [← pySplit_sortOption, pySplit_inj]
  have hgenres : ∀ genres genres' : List Int,
      pyJoin paginationSubKeySeperator (genres.map toString) =
        pyJoin paginationSubKeySeperator (genres'.map toString) ↔ genres = genres' :=
    fun _ _ => dashJoin_inj
  have hcursor : ∀ m n : Int, m.repr = n.repr ↔ m = n := fun _ _ => toString_inj
  cases r with
  | getAnimes cursor genres searchParam =>
      cases genres with
      | none => cases hargs
      | some genres =>
          cases r' with
          | getAnimes cursor' genres' searchParam' =>
              cases genres' with
              | none => cases hargs'
              | some genres' =>
                  simp [PageRequest.pieces, SharesPage, hcursor, hgenres, pySplit_inj]
          | _ => simp [PageRequest.pieces, SharesPage, pySplit_ne_nil]
  | _ =>
      cases r' <;>
        simp [PageRequest.pieces, SharesPage, hcursor, SortOption.value_inj,
          TimeFrameOption.value_inj, pySplit_ne_nil, hsort, hsort', pySplit_inj]

/-- A key is derived when there is a genre filter where one is needed, and no version is
stored or the client returns strings. -/
theorem pageKey_eq_ok_iff {decodeResponses : Bool} {versions : VersionMap} {r : PageRequest}
    {key : String} :
    r.pageKey decodeResponses versions = .ok key ↔ ∃ args, r.args = .ok args ∧
      paginationKey decodeResponses (versions r.resourceName) r.resourceName r.cursor args =
        .ok key := by
  constructor
  · intro h
    exact except_bind_eq_ok h
  · rintro ⟨args, hargs, hkey⟩
    rw [PageRequest.pageKey, hargs]
    exact hkey

/-- Requests that share a page have both got their arguments. -/
theorem SharesPage.args {r r' : PageRequest} (h : SharesPage r r') :
    (∃ args, r.args = .ok args) ∧ ∃ args', r'.args = .ok args' := by
  cases r with
  | getAnimes cursor genres searchParam =>
      cases genres with
      | none => simp [SharesPage] at h
      | some genres =>
          cases r' with
          | getAnimes cursor' genres' searchParam' =>
              cases genres' with
              | none => simp [SharesPage] at h
              | some genres' => exact ⟨⟨_, rfl⟩, ⟨_, rfl⟩⟩
          | _ => simp [SharesPage] at h
  | _ =>
      refine ⟨⟨_, rfl⟩, ?_⟩
      cases r' with
      | getAnimes cursor genres searchParam => simp [SharesPage] at h
      | _ => exact ⟨_, rfl⟩

/-- Under one version, the keys of two requests are different unless both keys are derived
and the requests share a page. -/
theorem pageKeys_differ_iff (decodeResponses : Bool) (versions versions' : VersionMap)
    (r r' : PageRequest)
    (hversion : versionText (versions r.resourceName) =
      versionText (versions' r'.resourceName)) :
    (∀ key key', r.pageKey decodeResponses versions = .ok key →
      r'.pageKey decodeResponses versions' = .ok key' → key ≠ key') ↔
    ¬ ((decodeResponses = true ∨
        versions r.resourceName = none ∧ versions' r'.resourceName = none) ∧
      SharesPage r r') := by
  constructor
  · rintro hdiffer ⟨hclient, hshares⟩
    obtain ⟨⟨args, hargs⟩, args', hargs'⟩ := hshares.args
    obtain ⟨key, hkey⟩ := exists_paginationKey r.resourceName r.cursor args
      (hclient.imp_right And.left).symm
    obtain ⟨key', hkey'⟩ := exists_paginationKey r'.resourceName r'.cursor args'
      (hclient.imp_right And.right).symm
    have hpieces := (pieces_eq_iff hargs hargs').mpr hshares
    refine hdiffer key key' (pageKey_eq_ok_iff.mpr ⟨args, hargs, hkey⟩)
      (pageKey_eq_ok_iff.mpr ⟨args', hargs', hkey'⟩) ?_
    -- a key is determined by its pieces
    apply pySplit_inj.mp
    rw [pySplit_of_key hkey, pySplit_of_key hkey', pieces_eq hargs, pieces_eq hargs',
      hversion, hpieces]
  · rintro hnot key _ h h' rfl
    obtain ⟨args, hargs, hkey⟩ := pageKey_eq_ok_iff.mp h
    obtain ⟨args', hargs', hkey'⟩ := pageKey_eq_ok_iff.mp h'
    have hsplit := pySplit_of_key hkey
    rw [pySplit_of_key hkey', pieces_eq hargs, pieces_eq hargs'] at hsplit
    have hpieces := (List.cons.inj hsplit).2.symm
    have hclient := (paginationKey_eq_ok_iff.mp hkey).1
    have hclient' := (paginationKey_eq_ok_iff.mp hkey').1
    exact hnot ⟨by tauto, (pieces_eq_iff hargs hargs').mp hpieces⟩

/-- The comments of two posts share their first page, and so do the forums of any user and
the forums of any anime that are searched for the sort option. -/
theorem pageKeys_collide :
    (PageRequest.getPostComments 1 0).pageKey false (fun _ => none) = .ok "0:comments:0" ∧
    (PageRequest.getPostComments 2 0).pageKey false (fun _ => none) = .ok "0:comments:0" ∧
    (PageRequest.getUserForums "mia" 0 .descending).pageKey false (fun _ => none) =
      (PageRequest.getAnimeForums 3 0 (some "desc")).pageKey false (fun _ => none) := by
  decide

/-- Posts of one forum in different time frames have different keys. -/
theorem timeframes_differ :
    (PageRequest.getForumPosts 5 0 .descending .lastDay).pageKey false (fun _ => none) =
      .ok "0:posts:0:forums:5:desc:last_day" ∧
    ∀ key key', (PageRequest.getForumPosts 5 0 .descending .lastDay).pageKey false
        (fun _ => none) = .ok key →
      (PageRequest.getForumPosts 5 0 .descending .lastWeek).pageKey false (fun _ => none) =
        .ok key' → key ≠ key' :=
  ⟨by decide, (pageKeys_differ_iff false (fun _ => none) (fun _ => none)
    (.getForumPosts 5 0 .descending .lastDay) (.getForumPosts 5 0 .descending .lastWeek)
    rfl).mpr (by simp [SharesPage])⟩

end ResourceServer
end Tenjin
