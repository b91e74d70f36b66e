import Mathlib.Data.List.Forall2
import Tenjin.Foundation.Grouping
import Tenjin.ResourceServer.RepositoryReads

/-!
# The lists of animes

`get_animes` and `get_user_animes` of `repositories/anime.py`: the animes, their genres and
their stream links come from three statements, and are put together through dictionaries by
the id of the anime.

* `AnimeTables` are the tables with the constraints of the schema.
* `AnimeRequest.run` is the request as the code answers it.
* `ListsEach` is the purpose: one result for each matching anime, with its own genres and
  stream links.
* `lookup_orderAnimeStreams` and `exists_lookup_orderAnimeGenres` — a dictionary has the rows
  of an anime, and no entry for an anime without rows.
* `listsEach_iff` — when the purpose is met.
-/

namespace Tenjin
namespace ResourceServer

open Python Foundation

/-- A row of `animes`. -/
structure AnimeRow where
  id : Int
  title : String
  members : Int
  synopsis : String
  deriving DecidableEq

/-- A row of `genres`. -/
structure GenreRow where
  id : Int
  name : String
  deriving DecidableEq

/-- A row of `anime_genres`. -/
structure AnimeGenreRow where
  animeId : Int
  genreId : Int
  deriving DecidableEq

/-- A row of `stream_links`. -/
structure StreamLinkRow where
  animeId : Int
  url : String
  website : String
  deriving DecidableEq

/-- A row of `anime_subscriptions`. -/
structure AnimeSubscriptionRow where
  userId : Int
  animeId : Int
  timeSubscribed : ℕ
  deriving DecidableEq

/-- The tables, with their primary keys and the names that are unique. -/
structure AnimeTables where
  animes : List AnimeRow
  animes_nodup : (animes.map AnimeRow.id).Nodup
  titles_nodup : (animes.map AnimeRow.title).Nodup
  genres : List GenreRow
  genres_nodup : (genres.map GenreRow.id).Nodup
  names_nodup : (genres.map GenreRow.name).Nodup
  animeGenres : List AnimeGenreRow
  animeGenres_nodup : animeGenres.Nodup
  streamLinks : List StreamLinkRow
  streamLinks_nodup : (streamLinks.map fun l => (l.animeId, l.url)).Nodup
  subscriptions : List AnimeSubscriptionRow
  subscriptions_nodup : (subscriptions.map fun s => (s.userId, s.animeId)).Nodup

/-- The order of `get_user_animes`. -/
def SortOption.leAnimeSubscribed :
    SortOption → AnimeSubscriptionRow → AnimeSubscriptionRow → Bool
  | .ascending, a, b => a.timeSubscribed ≤ b.timeSubscribed
  | .descending, a, b => b.timeSubscribed ≤ a.timeSubscribed

/-- Its page. -/
def animeSubscriptionKeyset (settings : PaginationSettings) (sortOption : SortOption) :
    KeysetQuery AnimeSubscriptionRow where
  key := AnimeSubscriptionRow.animeId
  le := sortOption.leAnimeSubscribed
  le_trans := by
    intro a b c hab hbc
    cases sortOption <;>
      simp only [SortOption.leAnimeSubscribed, decide_eq_true_eq] at hab hbc ⊢ <;> omega
  le_total := by
    intro a b
    cases sortOption <;>
      simp only [SortOption.leAnimeSubscribed, Bool.or_eq_true, decide_eq_true_eq] <;> omega
  limit := settings.paginationSize
  limit_pos := settings.size_ge

/-- The anime with its genres and links, by the names of the attributes that
`construct_from_orm` sets.  A website that comes twice keeps its last address. -/
def animeAttributes (anime : AnimeRow) (genres : List GenreRow)
    (streamLinks : List StreamLinkRow) : Row
  | "id_" => .value (.int anime.id)
  | "title" => .value (.str anime.title)
  | "members" => .value (.int anime.members)
  | "synopsis" => .value (.str anime.synopsis)
  | "genres" => .value (.list (genres.map fun g => .str g.name))
  | "stream_links" =>
      .value (.dict (dictOf (streamLinks.map fun l => (l.website, .str l.url))))
  | _ => .value .none

/-- `d[anime.id_]`. -/
def ofAnime {β : Type} (d : List (Int × List β)) (animeId : Int) : Except Exn (List β) :=
  match d.lookup animeId with
  | some rows => .ok rows
  | none => .error (.keyError (toString animeId))

/-- `_order_anime_streams`. -/
def orderAnimeStreams (streamLinks : List StreamLinkRow) : List (Int × List StreamLinkRow) :=
  grouped (streamLinks.map fun l => (l.animeId, l))

/-- `_order_anime_genres`. -/
def orderAnimeGenres (genres : List (Int × GenreRow)) : List (Int × List GenreRow) :=
  grouped genres

section
variable (t : AnimeTables)

/-- The statement that joins `anime_genres` with the genres. -/
def AnimeTables.selectGenres (animeIds : List Int) : List (Int × GenreRow) :=
  (t.animeGenres.filter fun r => r.animeId ∈ animeIds).flatMap fun r =>
    (t.genres.filter fun g => r.genreId = g.id).map (Prod.mk r.animeId)

/-- The statement for the stream links. -/
def AnimeTables.selectStreamLinks (animeIds : List Int) : List StreamLinkRow :=
  t.streamLinks.filter fun l => l.animeId ∈ animeIds

/-- `get_animes_details`. -/
def getAnimesDetails (animeIds : List Int) :
    List (Int × List GenreRow) × List (Int × List StreamLinkRow) :=
  (orderAnimeGenres (t.selectGenres animeIds), orderAnimeStreams (t.selectStreamLinks animeIds))

/-- The `where` clauses of `get_animes`; an empty search text is none. -/
def AnimeTables.selectAnimes (ilike : (value pattern : String) → Bool) (cursor : Int)
    (searchParam : Option String) : List AnimeRow :=
  t.animes.filter fun a => cursor < a.id &&
    match searchParam with
    | some text => text.isEmpty || ilike a.title ("%" ++ text ++ "%")
    | none => true

/-- The statement of `get_user_animes`, in the order that the database makes. -/
def AnimeTables.selectUserAnimes {settings : PaginationSettings} {sortOption : SortOption}
    (db : Arrangement (animeSubscriptionKeyset settings sortOption)) (userId cursor : Int) :
    List AnimeRow :=
  ((db.run (t.subscriptions.filter fun s => s.userId = userId && cursor < s.animeId)).flatMap
    fun s => t.animes.filter fun a => a.id = s.animeId).take settings.paginationSize

variable (rt : ResultRuntime)

/-- `AnimeResult.construct_from_orm`. -/
def constructAnime (anime : AnimeRow) (genres : List GenreRow)
    (streamLinks : List StreamLinkRow) : Except Exn Dto :=
  constructFromOrm rt .animeResult (animeAttributes anime genres streamLinks)

/-- The result of an anime, from the two dictionaries. -/
def animeOfDetails (genres : List (Int × List GenreRow))
    (streamLinks : List (Int × List StreamLinkRow)) (anime : AnimeRow) : Except Exn Dto := do
  let genres ← ofAnime genres anime.id
  let streamLinks ← ofAnime streamLinks anime.id
  constructAnime rt anime genres streamLinks

/-- The result of an anime with a genre filter: the requested genres take the place of the
anime's. -/
def animeOfRequest (requested : List GenreRow) (streamLinks : List (Int × List StreamLinkRow))
    (anime : AnimeRow) : Except Exn Dto := do
  let streamLinks ← ofAnime streamLinks anime.id
  constructAnime rt anime requested streamLinks

/-- `get_animes`.  The statement for the animes is the same with and without a genre
filter. -/
def getAnimes (ilike : (value pattern : String) → Bool) (cursor : Int)
    (searchParam : Option String) (genres : Option (List GenreRow)) :
    Except Exn (List Dto) :=
  let animes := t.selectAnimes ilike cursor searchParam
  let animeIds := animes.map AnimeRow.id
  let animeStreamLinks := orderAnimeStreams (t.selectStreamLinks animeIds)
  match genres with
  | some (genre :: genres) =>
      animes.mapM (animeOfRequest rt (genre :: genres) animeStreamLinks)
  | _ =>
      let animeGenres := orderAnimeGenres (t.selectGenres animeIds)
      animes.mapM (animeOfDetails rt animeGenres animeStreamLinks)

/-- `get_user_animes`. -/
def getUserAnimes (orderArgument : OrderArgument) {settings : PaginationSettings}
    {sortOption : SortOption} (db : Arrangement (animeSubscriptionKeyset settings sortOption))
    (userId cursor : Int) : Except Exn (List Dto) := do
  orderBy orderArgument
  let animes := t.selectUserAnimes db userId cursor
  let details := getAnimesDetails t (animes.map AnimeRow.id)
  animes.mapM (animeOfDetails rt details.1 details.2)

end

/-- A request for a list of animes; a query that is ordered comes with what the database
makes of the order. -/
inductive AnimeRequest (settings : PaginationSettings)
  | animes (cursor : Int) (searchParam : Option String) (genres : Option (List GenreRow))
  | userAnimes (sortOption : SortOption)
      (db : Arrangement (animeSubscriptionKeyset settings sortOption)) (userId cursor : Int)

section
variable (t : AnimeTables)

/-- The genres of an anime. -/
def AnimeTables.ownGenres (animeId : Int) : List GenreRow :=
  t.genres.filter fun g => ⟨animeId, g.id⟩ ∈ t.animeGenres

/-- The stream links of an anime. -/
def AnimeTables.ownStreamLinks (animeId : Int) : List StreamLinkRow :=
  t.streamLinks.filter fun l => l.animeId = animeId

/-- A result of an anime, with its own genres and stream links. -/
structure IsResultOf (a : AnimeRow) (dto : Dto) : Prop where
  title : dto.lookup "title" = some (.value (.str a.title))
  members : dto.lookup "members" = some (.value (.int a.members))
  synopsis : dto.lookup "synopsis" = some (.value (.str a.synopsis))
  genres : ∃ names : List String, dto.lookup "genres" = some (.value (.list (names.map .str))) ∧
    names.Perm ((t.ownGenres a.id).map GenreRow.name)
  streamLinks : ∃ items, dto.lookup "stream_links" = some (.value (.dict items)) ∧
    items.Perm ((t.ownStreamLinks a.id).map fun l => (l.website, .str l.url))

/-- The anime has a genre and a stream link, and no website twice. -/
structure HasDetails (a : AnimeRow) : Prop where
  genres : t.ownGenres a.id ≠ []
  streamLinks : t.ownStreamLinks a.id ≠ []
  websites : ((t.ownStreamLinks a.id).map StreamLinkRow.website).Nodup

/-- The anime has just the requested genres, and the same of its stream links. -/
structure HasJust (requested : List GenreRow) (a : AnimeRow) : Prop where
  wanted : ∃ g ∈ requested, (⟨a.id, g.id⟩ : AnimeGenreRow) ∈ t.animeGenres
  genres : (requested.map GenreRow.name).Perm ((t.ownGenres a.id).map GenreRow.name)
  streamLinks : t.ownStreamLinks a.id ≠ []
  websites : ((t.ownStreamLinks a.id).map StreamLinkRow.website).Nodup

variable (rt : ResultRuntime) (orderArgument : OrderArgument)
  (ilike : (value pattern : String) → Bool) {settings : PaginationSettings}

/-- The answer to a request. -/
def AnimeRequest.run : AnimeRequest settings → Except Exn (List Dto)
  | .animes cursor searchParam genres => getAnimes t rt ilike cursor searchParam genres
  | .userAnimes _ db userId cursor => getUserAnimes t rt orderArgument db userId cursor

/-- The animes that match: with a genre filter, those that have one of the genres. -/
def AnimeRequest.matching : AnimeRequest settings → List AnimeRow
  | .animes cursor searchParam genres =>
      (t.selectAnimes ilike cursor searchParam).filter fun a =>
        genres.getD [] = [] ∨
          ∃ g ∈ genres.getD [], (⟨a.id, g.id⟩ : AnimeGenreRow) ∈ t.animeGenres
  | .userAnimes _ db userId cursor => t.selectUserAnimes db userId cursor

/-- One result for each of the animes. -/
def OneEach (animes : List AnimeRow) (answer : Except Exn (List Dto)) : Prop :=
  ∃ results order, answer = .ok results ∧ order.Perm animes ∧
    List.Forall₂ (IsResultOf t) order results

/-- The request is answered, with one result for each anime that matches. -/
def AnimeRequest.ListsEach (request : AnimeRequest settings) : Prop :=
  OneEach t (request.matching t ilike) (request.run t rt orderArgument ilike)

/-- All animes that are selected have details: any, or just those of the filter.  A user's
page also takes an ordering clause. -/
def AnimeRequest.Groups : AnimeRequest settings → Prop
  | .animes cursor searchParam genres => ∀ a ∈ t.selectAnimes ilike cursor searchParam,
      rt.slotsSuper = true ∧
        if genres.getD [] = [] then HasDetails t a else HasJust t (genres.getD []) a
  | .userAnimes _ db userId cursor => orderArgument = .clause ∧
      ∀ a ∈ t.selectUserAnimes db userId cursor, rt.slotsSuper = true ∧ HasDetails t a

end

section
variable {t : AnimeTables} {rt : ResultRuntime} {animeIds : List Int} {a : AnimeRow}

/-- In the dictionary of the stream links, an anime has its own, and none has no entry. -/
theorem lookup_orderAnimeStreams (ha : a.id ∈ animeIds) :
    (orderAnimeStreams (t.selectStreamLinks animeIds)).lookup a.id =
      if t.ownStreamLinks a.id = [] then none else some (t.ownStreamLinks a.id) := by
  have hown : valuesOf ((t.selectStreamLinks animeIds).map fun l => (l.animeId, l)) a.id =
      t.ownStreamLinks a.id := by
    rw [valuesOf_map, AnimeTables.selectStreamLinks, List.filter_filter,
      AnimeTables.ownStreamLinks]
    refine List.filter_congr fun l _ => ?_
    by_cases hl : l.animeId = a.id
    · simp [hl, ha]
    · simp [hl]
  rw [orderAnimeStreams, lookup_grouped, hown]

/-- In the dictionary of the genres likewise. -/
theorem exists_lookup_orderAnimeGenres (t : AnimeTables) (ha : a.id ∈ animeIds) :
    ∃ genres, genres.Perm (t.ownGenres a.id) ∧
      (orderAnimeGenres (t.selectGenres animeIds)).lookup a.id =
        if genres = [] then none else some genres := by
  refine ⟨valuesOf (t.selectGenres animeIds) a.id, ?_, lookup_grouped ..⟩
  have hvalues : valuesOf (t.selectGenres animeIds) a.id =
      (t.animeGenres.filter fun r => r.animeId = a.id).flatMap fun r =>
        t.genres.filter fun g => r.genreId = g.id := by
    rw [AnimeTables.selectGenres, valuesOf_flatMap, List.filter_filter]
    congr 1
    refine List.filter_congr fun r _ => ?_
    by_cases hr : r.animeId = a.id
    · simp [hr, ha]
    · simp [hr]
  rw [hvalues]
  refine (List.perm_ext_iff_of_nodup ?_ ?_).mpr ?_
  · refine List.nodup_flatMap.mpr ⟨fun r _ => (List.Nodup.of_map _ t.genres_nodup).filter _, ?_⟩
    refine List.Pairwise.imp_of_mem ?_ (t.animeGenres_nodup.filter _)
    intro r r' hr hr' hne g hg hg'
    -- a genre that comes with two associations of the anime makes them one
    have hanime := of_decide_eq_true (List.mem_filter.mp hr).2
    have hanime' := of_decide_eq_true (List.mem_filter.mp hr').2
    have hgenre := of_decide_eq_true (List.mem_filter.mp hg).2
    have hgenre' := of_decide_eq_true (List.mem_filter.mp hg').2
    obtain ⟨animeId, genreId⟩ := r
    obtain ⟨animeId', genreId'⟩ := r'
    refine hne ?_
    rw [AnimeGenreRow.mk.injEq]
    exact ⟨hanime.trans hanime'.symm, hgenre.trans hgenre'.symm⟩
  · exact (List.Nodup.of_map _ t.genres_nodup).filter _
  · intro g
    simp only [AnimeTables.ownGenres, List.mem_flatMap, List.mem_filter, decide_eq_true_eq]
    constructor
    · rintro ⟨r, ⟨hr, hanime⟩, hg, hgenre⟩
      refine ⟨hg, ?_⟩
      rw [← hanime, ← hgenre]
      exact hr
    · rintro ⟨hg, hr⟩
      exact ⟨_, ⟨hr, rfl⟩, hg, rfl⟩

/-- `d[anime.id_]` in such a dictionary. -/
theorem ofAnime_eq_ok_iff {β : Type} {d : List (Int × List β)} {animeId : Int}
    {rows found : List β} (hlookup : d.lookup animeId = if rows = [] then none else some rows) :
    ofAnime d animeId = .ok found ↔ rows ≠ [] ∧ found = rows := by
  cases rows with
  | nil => simp [ofAnime, hlookup]
  | cons row rows => simp [ofAnime, hlookup, eq_comm]

/-- The attributes of the result. -/
theorem constructAnime_eq_ok_iff {genres : List GenreRow} {links : List StreamLinkRow}
    {dto : Dto} :
    constructAnime rt a genres links = .ok dto ↔ rt.slotsSuper = true ∧
      dto = [("stream_links",
          .value (.dict (dictOf (links.map fun l => (l.website, .str l.url))))),
        ("genres", .value (.list (genres.map fun g => .str g.name))),
        ("synopsis", .value (.str a.synopsis)), ("members", .value (.int a.members)),
        ("title", .value (.str a.title))] := by
  have hmade : constructAnime rt a genres links = superMethod rt
      (abstractConstructFromOrm .animeResult (animeAttributes a genres links)) >>= fun dto =>
        .ok (("stream_links",
          .value (.dict (dictOf (links.map fun l => (l.website, .str l.url))))) ::
          ("genres", .value (.list (genres.map fun g => .str g.name))) :: dto) := rfl
  have hcolumns : abstractConstructFromOrm .animeResult (animeAttributes a genres links) =
      [("synopsis", .value (.str a.synopsis)), ("members", .value (.int a.members)),
        ("title", .value (.str a.title))] := rfl
  rw [hmade, hcolumns, superMethod]
  cases rt.slotsSuper with
  | false => simp [bind, Except.bind]
  | true => simp [bind, Except.bind, eq_comm]

theorem exists_constructAnime (hsuper : rt.slotsSuper = true) (a : AnimeRow)
    (genres : List GenreRow) (links : List StreamLinkRow) :
    ∃ dto, constructAnime rt a genres links = .ok dto :=
  ⟨_, constructAnime_eq_ok_iff.mpr ⟨hsuper, rfl⟩⟩

/-- Such a result has the genres and links of the anime exactly if all names and addresses
are kept. -/
theorem isResultOf_iff {genres : List GenreRow} {links : List StreamLinkRow} {dto : Dto}
    (hmade : constructAnime rt a genres links = .ok dto)
    (hlinks : links = t.ownStreamLinks a.id) :
    IsResultOf t a dto ↔
      (genres.map GenreRow.name).Perm ((t.ownGenres a.id).map GenreRow.name) ∧
        ((t.ownStreamLinks a.id).map StreamLinkRow.website).Nodup := by
  obtain ⟨_, rfl⟩ := constructAnime_eq_ok_iff.mp hmade
  subst hlinks
  have hkeys : ((t.ownStreamLinks a.id).map fun l => (l.website, PyValue.str l.url)).map
      Prod.fst = (t.ownStreamLinks a.id).map StreamLinkRow.website := by
    rw [List.map_map]
    rfl
  constructor
  · rintro ⟨_, _, _, ⟨names, hnames, hperm⟩, ⟨items, hitems, hkept⟩⟩
    have hlist := PyValue.list.inj (Attr.value.inj (Option.some.inj hnames))
    have hdict := PyValue.dict.inj (Attr.value.inj (Option.some.inj hitems))
    have hstr : Function.Injective PyValue.str := fun _ _ h => PyValue.str.inj h
    have hgenres : genres.map GenreRow.name = names := by
      refine List.map_injective_iff.mpr hstr ?_
      rw [List.map_map]
      exact hlist
    rw [← hdict, dictOf_perm_iff, hkeys] at hkept
    exact ⟨hgenres ▸ hperm, hkept⟩
  · rintro ⟨hperm, hnodup⟩
    refine ⟨rfl, rfl, rfl, ⟨genres.map GenreRow.name, ?_, hperm⟩, ⟨_, rfl, ?_⟩⟩
    · rw [List.map_map]
      rfl
    · exact dictOf_perm_iff.mpr (hkeys ▸ hnodup)

/-- The result of an anime from the two dictionaries is as it should be exactly if the anime
has genres and links. -/
theorem exists_animeOfDetails_iff (ha : a.id ∈ animeIds) :
    (∃ dto, animeOfDetails rt (orderAnimeGenres (t.selectGenres animeIds))
        (orderAnimeStreams (t.selectStreamLinks animeIds)) a = .ok dto ∧ IsResultOf t a dto) ↔
      rt.slotsSuper = true ∧ HasDetails t a := by
  obtain ⟨genres, hperm, hlookup⟩ := exists_lookup_orderAnimeGenres t ha
  have hne : genres ≠ [] ↔ t.ownGenres a.id ≠ [] := by
    rw [ne_eq, ne_eq, ← List.length_eq_zero_iff, hperm.length_eq, List.length_eq_zero_iff]
  constructor
  · rintro ⟨dto, hmade, hresult⟩
    obtain ⟨gs, hgs, hmade⟩ := except_bind_eq_ok hmade
    obtain ⟨links, hlinks, hmade⟩ := except_bind_eq_ok hmade
    obtain ⟨hown, rfl⟩ := (ofAnime_eq_ok_iff (lookup_orderAnimeStreams ha)).mp hlinks
    obtain ⟨hsome, rfl⟩ := (ofAnime_eq_ok_iff hlookup).mp hgs
    exact ⟨(constructAnime_eq_ok_iff.mp hmade).1, hne.mp hsome, hown,
      ((isResultOf_iff hmade rfl).mp hresult).2⟩
  · rintro ⟨hsuper, hdetails⟩
    have hgs := (ofAnime_eq_ok_iff hlookup).mpr ⟨hne.mpr hdetails.genres, rfl⟩
    have hlinks := (ofAnime_eq_ok_iff (lookup_orderAnimeStreams ha)).mpr ⟨hdetails.streamLinks, rfl⟩
    obtain ⟨dto, hmade⟩ := exists_constructAnime hsuper a genres (t.ownStreamLinks a.id)
    refine ⟨dto, ?_, (isResultOf_iff hmade rfl).mpr
      ⟨hperm.map GenreRow.name, hdetails.websites⟩⟩
    simp only [animeOfDetails, hgs, hlinks, bind, Except.bind]
    exact hmade

/-- With a genre filter, its genres have to be those of the anime. -/
theorem exists_animeOfRequest_iff (ha : a.id ∈ animeIds) (requested : List GenreRow) :
    (∃ dto, animeOfRequest rt requested
        (orderAnimeStreams (t.selectStreamLinks animeIds)) a = .ok dto ∧ IsResultOf t a dto) ↔
      rt.slotsSuper = true ∧
        (requested.map GenreRow.name).Perm ((t.ownGenres a.id).map GenreRow.name) ∧
        t.ownStreamLinks a.id ≠ [] ∧
        ((t.ownStreamLinks a.id).map StreamLinkRow.website).Nodup := by
  constructor
  · rintro ⟨dto, hmade, hresult⟩
    obtain ⟨links, hlinks, hmade⟩ := except_bind_eq_ok hmade
    obtain ⟨hown, rfl⟩ := (ofAnime_eq_ok_iff (lookup_orderAnimeStreams ha)).mp hlinks
    obtain ⟨hperm, hnodup⟩ := (isResultOf_iff hmade rfl).mp hresult
    exact ⟨(constructAnime_eq_ok_iff.mp hmade).1, hperm, hown, hnodup⟩
  · rintro ⟨hsuper, hperm, hown, hnodup⟩
    have hlinks := (ofAnime_eq_ok_iff (lookup_orderAnimeStreams ha)).mpr ⟨hown, rfl⟩
    obtain ⟨dto, hmade⟩ := exists_constructAnime hsuper a requested (t.ownStreamLinks a.id)
    refine ⟨dto, ?_, (isResultOf_iff hmade rfl).mpr ⟨hperm, hnodup⟩⟩
    simp only [animeOfRequest, hlinks, bind, Except.bind]
    exact hmade

/-- Titles are unique, so results that are made of some animes are results of just these. -/
theorem order_eq_animes {animes order : List AnimeRow} {results : List Dto}
    {body : AnimeRow → Except Exn Dto}
    (htitle : ∀ a dto, body a = .ok dto → dto.lookup "title" = some (.value (.str a.title)))
    (hanimes : ∀ a ∈ animes, a ∈ t.animes) (horder : ∀ a ∈ order, a ∈ t.animes)
    (hmade : List.Forall₂ (fun a dto => body a = .ok dto) animes results)
    (hresults : List.Forall₂ (IsResultOf t) order results) :
    order = animes ∧ ∀ a ∈ animes, ∃ dto, body a = .ok dto ∧ IsResultOf t a dto := by
  induction hmade generalizing order with
  | nil =>
      cases hresults
      exact ⟨rfl, fun _ h => (by cases h)⟩
  | @cons a dto animes results hdto _ ih =>
      cases hresults with
      | @cons b _ order _ hresult hrest =>
          have hsame : b = a := by
            have hlookup := hresult.title.symm.trans (htitle a dto hdto)
            have heq := PyValue.str.inj (Attr.value.inj (Option.some.inj hlookup))
            exact List.inj_on_of_nodup_map t.titles_nodup (horder b (List.mem_cons_self ..))
              (hanimes a (List.mem_cons_self ..)) heq
          obtain ⟨hrestEq, hall⟩ := ih (fun a h => hanimes a (List.mem_cons_of_mem _ h))
            (fun a h => horder a (List.mem_cons_of_mem _ h)) hrest
          subst hsame
          refine ⟨by rw [hrestEq], fun c hc => ?_⟩
          rcases List.mem_cons.mp hc with rfl | hc
          · exact ⟨dto, hdto, hresult⟩
          · exact hall c hc

/-- One result for each anime that matches: all animes that are selected match, and all
their results are as they should be. -/
theorem oneEach_mapM_iff {animes matching : List AnimeRow} {body : AnimeRow → Except Exn Dto}
    (htitle : ∀ a dto, body a = .ok dto → dto.lookup "title" = some (.value (.str a.title)))
    (hanimes : ∀ a ∈ animes, a ∈ t.animes) (hmatching : ∀ a ∈ matching, a ∈ t.animes) :
    OneEach t matching (animes.mapM body) ↔
      animes.Perm matching ∧ ∀ a ∈ animes, ∃ dto, body a = .ok dto ∧ IsResultOf t a dto := by
  constructor
  · rintro ⟨results, order, hrun, hperm, hresults⟩
    obtain ⟨rfl, hall⟩ := order_eq_animes htitle hanimes
      (fun a ha => hmatching a (hperm.mem_iff.mp ha)) (mapM_eq_ok_iff.mp hrun) hresults
    exact ⟨hperm, hall⟩
  · rintro ⟨hperm, hall⟩
    choose! dto hdto using hall
    refine ⟨animes.map dto, animes, mapM_eq_ok_iff.mpr ?_, hperm, ?_⟩
    · exact List.forall₂_map_right_iff.mpr (List.forall₂_same.mpr fun a ha => (hdto a ha).1)
    · exact List.forall₂_map_right_iff.mpr (List.forall₂_same.mpr fun a ha => (hdto a ha).2)

theorem title_of_animeOfDetails {genres : List (Int × List GenreRow)}
    {streamLinks : List (Int × List StreamLinkRow)} {dto : Dto}
    (h : animeOfDetails rt genres streamLinks a = .ok dto) :
    dto.lookup "title" = some (.value (.str a.title)) := by
  obtain ⟨_, _, h⟩ := except_bind_eq_ok h
  obtain ⟨_, _, h⟩ := except_bind_eq_ok h
  obtain ⟨_, rfl⟩ := constructAnime_eq_ok_iff.mp h
  rfl

theorem title_of_animeOfRequest {requested : List GenreRow}
    {streamLinks : List (Int × List StreamLinkRow)} {dto : Dto}
    (h : animeOfRequest rt requested streamLinks a = .ok dto) :
    dto.lookup "title" = some (.value (.str a.title)) := by
  obtain ⟨_, _, h⟩ := except_bind_eq_ok h
  obtain ⟨_, rfl⟩ := constructAnime_eq_ok_iff.mp h
  rfl

/-- The list of some animes, from the two dictionaries. -/
theorem oneEach_details_iff {animes : List AnimeRow} (hanimes : ∀ a ∈ animes, a ∈ t.animes) :
    OneEach t animes (animes.mapM (animeOfDetails rt
        (orderAnimeGenres (t.selectGenres (animes.map AnimeRow.id)))
        (orderAnimeStreams (t.selectStreamLinks (animes.map AnimeRow.id))))) ↔
      ∀ a ∈ animes, rt.slotsSuper = true ∧ HasDetails t a := by
  rw [oneEach_mapM_iff (fun _ _ => title_of_animeOfDetails) hanimes hanimes]
  constructor
  · rintro ⟨_, hall⟩ a ha
    exact (exists_animeOfDetails_iff (List.mem_map_of_mem ha)).mp (hall a ha)
  · intro hall
    exact ⟨.refl _, fun a ha =>
      (exists_animeOfDetails_iff (List.mem_map_of_mem ha)).mpr (hall a ha)⟩

/-- The list with a genre filter. -/
theorem oneEach_request_iff {animes : List AnimeRow} {requested : List GenreRow}
    (hanimes : ∀ a ∈ animes, a ∈ t.animes) :
    OneEach t (animes.filter fun a =>
        ∃ g ∈ requested, (⟨a.id, g.id⟩ : AnimeGenreRow) ∈ t.animeGenres)
      (animes.mapM (animeOfRequest rt requested
        (orderAnimeStreams (t.selectStreamLinks (animes.map AnimeRow.id))))) ↔
      ∀ a ∈ animes, rt.slotsSuper = true ∧ HasJust t requested a := by
  rw [oneEach_mapM_iff (fun _ _ => title_of_animeOfRequest) hanimes
    fun a ha => hanimes a (List.mem_of_mem_filter ha)]
  constructor
  · rintro ⟨hperm, hall⟩ a ha
    obtain ⟨hsuper, hgenres, hlinks, hwebsites⟩ :=
      (exists_animeOfRequest_iff (List.mem_map_of_mem ha) requested).mp (hall a ha)
    have hwanted := (List.mem_filter.mp (hperm.mem_iff.mp ha)).2
    exact ⟨hsuper, of_decide_eq_true hwanted, hgenres, hlinks, hwebsites⟩
  · intro hall
    constructor
    · rw [List.filter_eq_self.mpr fun a ha => decide_eq_true (hall a ha).2.wanted]
    · intro a ha
      obtain ⟨hsuper, _, hgenres, hlinks, hwebsites⟩ := hall a ha
      exact (exists_animeOfRequest_iff (List.mem_map_of_mem ha) requested).mpr
        ⟨hsuper, hgenres, hlinks, hwebsites⟩

/-- Without a genre filter all animes that are selected match. -/
theorem matching_eq_selectAnimes {settings : PaginationSettings}
    {ilike : (value pattern : String) → Bool} {cursor : Int} {searchParam : Option String}
    {genres : Option (List GenreRow)} (h : genres.getD [] = []) :
    (AnimeRequest.animes cursor searchParam genres : AnimeRequest settings).matching t ilike =
      t.selectAnimes ilike cursor searchParam :=
  List.filter_eq_self.mpr fun _ _ => decide_eq_true (.inl h)

end

/-- For every database content and every request, in whatever order the rows come: the list
has one result for each anime that matches, with its own genres and stream links, exactly if
every anime that is selected has stream links on distinct websites, and has a genre or, with
a filter, just the requested genres; where `super()` works, or nothing is selected; and for a
user's list also the ordering clause is one. -/
theorem listsEach_iff (t : AnimeTables) (rt : ResultRuntime) (orderArgument : OrderArgument)
    (ilike : (value pattern : String) → Bool) {settings : PaginationSettings}
    (request : AnimeRequest settings) :
    request.ListsEach t rt orderArgument ilike ↔ request.Groups t rt orderArgument ilike := by
  cases request with
  | animes cursor searchParam genres =>
      have hselected : ∀ a ∈ t.selectAnimes ilike cursor searchParam, a ∈ t.animes :=
        fun a ha => List.mem_of_mem_filter ha
      match genres with
      | none =>
          rw [AnimeRequest.ListsEach, matching_eq_selectAnimes rfl]
          exact oneEach_details_iff hselected
      | some [] =>
          rw [AnimeRequest.ListsEach, matching_eq_selectAnimes rfl]
          exact oneEach_details_iff hselected
      | some (genre :: genres) =>
          simp only [AnimeRequest.ListsEach, AnimeRequest.matching, AnimeRequest.Groups,
            Option.getD_some, reduceCtorEq, false_or, if_false]
          exact oneEach_request_iff hselected
  | userAnimes sortOption db userId cursor =>
      have hselected : ∀ a ∈ t.selectUserAnimes db userId cursor, a ∈ t.animes := by
        intro a ha
        obtain ⟨s, _, hs⟩ := List.mem_flatMap.mp (List.mem_of_mem_take ha)
        exact List.mem_of_mem_filter hs
      cases orderArgument with
      | method =>
          constructor
          · rintro ⟨results, order, hrun, _⟩
            cases hrun
          · rintro ⟨hclause, _⟩
            cases hclause
      | clause =>
          constructor
          · intro h
            exact ⟨rfl, (oneEach_details_iff hselected).mp h⟩
          · rintro ⟨_, hdetails⟩
            exact (oneEach_details_iff hselected).mpr hdetails

/-- One anime, with a genre, and without stream links. -/
def oneAnime : AnimeTables where
  animes := [⟨1, "Bebop", 0, ""⟩]
  animes_nodup := List.nodup_singleton _
  titles_nodup := List.nodup_singleton _
  genres := [⟨1, "Space"⟩]
  genres_nodup := List.nodup_singleton _
  names_nodup := List.nodup_singleton _
  animeGenres := [⟨1, 1⟩]
  animeGenres_nodup := List.nodup_singleton _
  streamLinks := []
  streamLinks_nodup := List.nodup_nil
  subscriptions := []
  subscriptions_nodup := List.nodup_nil

/-- The list of all animes raises a `KeyError`. -/
theorem unlinkedAnime_not_listed :
    ¬ (AnimeRequest.animes 0 none none : AnimeRequest onePostPages).ListsEach oneAnime
      ⟨true, fun _ => .error .valueError⟩ .method fun _ _ => true := by
  rintro ⟨results, order, hrun, _⟩
  cases hrun

end ResourceServer
end Tenjin
