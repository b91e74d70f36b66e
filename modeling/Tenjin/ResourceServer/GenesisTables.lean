import Tenjin.Foundation.BoundedWindow
import Tenjin.ResourceServer.AnimeLists
import Tenjin.ResourceServer.ForumAdmins

/-!
# The tables that the population script writes

The tables of `genesis.py` with their keys and references, and its `INSERT` statements: a row
that would break one of them is refused with an `IntegrityError`.  What else may be refused
(texts that are too long, checks, other unique columns) is up to the database.

* `GenesisTables` are the tables, and `GenesisTables.rowsOf` the rows of one anime.
* `InsertStatement` are the statements for one anime.
* `RowsAdded` is what they do, one after the other; `RowsAdded.rowsOf_of_ne` — they leave the
  other animes alone.
* `GenesisTables.GenreAmong` are the ids of some genre names; `genreAmong_iff_of_grown` — they
  stay while other genres are added.
-/

namespace Tenjin
namespace ResourceServer

open Python Foundation

/-- A row of `forum_admins`. -/
structure ForumAdminRow where
  forumId : Int
  userId : Int
  role : String
  deriving DecidableEq

/-- The tables of animes with forums and their admins. -/
structure GenesisTables extends AnimeTables where
  forums : List ForumRow
  forums_nodup : (forums.map ForumRow.id).Nodup
  forumAdmins : List ForumAdminRow
  forumAdmins_nodup : (forumAdmins.map fun a => (a.forumId, a.userId)).Nodup
  animeGenres_anime : ∀ r ∈ animeGenres, r.animeId ∈ animes.map AnimeRow.id
  animeGenres_genre : ∀ r ∈ animeGenres, r.genreId ∈ genres.map GenreRow.id
  streamLinks_anime : ∀ l ∈ streamLinks, l.animeId ∈ animes.map AnimeRow.id
  forums_anime : ∀ f ∈ forums, ∀ a, f.anime = some a → a ∈ animes.map AnimeRow.id
  forumAdmins_forum : ∀ a ∈ forumAdmins, a.forumId ∈ forums.map ForumRow.id

section
variable {α β : Type} {f : α → β} {xs : List α} {a : α} {b : β}

/-- A new key. -/
theorem nodup_map_concat (hxs : (xs.map f).Nodup) (ha : f a ∉ xs.map f) :
    ((xs ++ [a]).map f).Nodup := by
  rw [List.map_append]
  exact nodup_append_singleton hxs ha

/-- A key is still there. -/
theorem mem_map_concat (h : b ∈ xs.map f) : b ∈ (xs ++ [a]).map f := by
  rw [List.map_append]
  exact List.mem_append_left _ h

/-- What the old items and the new one have, all items have. -/
theorem forall_mem_concat {p : α → Prop} (hxs : ∀ x ∈ xs, p x) (ha : p a) :
    ∀ x ∈ xs ++ [a], p x := by
  intro x hx
  rcases List.mem_append.mp hx with hx | hx
  · exact hxs x hx
  · exact List.mem_singleton.mp hx ▸ ha

end

/-- `INSERT INTO genres`. -/
def insertGenre (row : GenreRow) (t : GenesisTables) : Except Exn GenesisTables :=
  if h : row.id ∉ t.genres.map GenreRow.id ∧ row.name ∉ t.genres.map GenreRow.name then
    .ok { t with
      genres := t.genres ++ [row]
      genres_nodup := nodup_map_concat t.genres_nodup h.1
      names_nodup := nodup_map_concat t.names_nodup h.2
      animeGenres_genre := fun r hr => mem_map_concat (t.animeGenres_genre r hr) }
  else .error .integrityError

/-- `INSERT INTO animes`. -/
def insertAnime (row : AnimeRow) (t : GenesisTables) : Except Exn GenesisTables :=
  if h : row.id ∉ t.animes.map AnimeRow.id ∧ row.title ∉ t.animes.map AnimeRow.title then
    .ok { t with
      animes := t.animes ++ [row]
      animes_nodup := nodup_map_concat t.animes_nodup h.1
      titles_nodup := nodup_map_concat t.titles_nodup h.2
      animeGenres_anime := fun r hr => mem_map_concat (t.animeGenres_anime r hr)
      streamLinks_anime := fun l hl => mem_map_concat (t.streamLinks_anime l hl)
      forums_anime := fun f hf a ha => mem_map_concat (t.forums_anime f hf a ha) }
  else .error .integrityError

/-- `INSERT INTO stream_links`. -/
def insertStreamLink (row : StreamLinkRow) (t : GenesisTables) : Except Exn GenesisTables :=
  if h : (row.animeId, row.url) ∉ t.streamLinks.map (fun l => (l.animeId, l.url)) ∧
      row.animeId ∈ t.animes.map AnimeRow.id then
    .ok { t with
      streamLinks := t.streamLinks ++ [row]
      streamLinks_nodup := nodup_map_concat t.streamLinks_nodup h.1
      streamLinks_anime := forall_mem_concat t.streamLinks_anime h.2 }
  else .error .integrityError

/-- `INSERT INTO anime_genres`. -/
def insertAnimeGenre (row : AnimeGenreRow) (t : GenesisTables) : Except Exn GenesisTables :=
  if h : row ∉ t.animeGenres ∧ row.animeId ∈ t.animes.map AnimeRow.id ∧
      row.genreId ∈ t.genres.map GenreRow.id then
    .ok { t with
      animeGenres := t.animeGenres ++ [row]
      animeGenres_nodup := nodup_append_singleton t.animeGenres_nodup h.1
      animeGenres_anime := forall_mem_concat t.animeGenres_anime h.2.1
      animeGenres_genre := forall_mem_concat t.animeGenres_genre h.2.2 }
  else .error .integrityError

/-- `INSERT INTO forums`. -/
def insertForum (row : ForumRow) (t : GenesisTables) : Except Exn GenesisTables :=
  if h : row.id ∉ t.forums.map ForumRow.id ∧
      ∀ a, row.anime = some a → a ∈ t.animes.map AnimeRow.id then
    .ok { t with
      forums := t.forums ++ [row]
      forums_nodup := nodup_map_concat t.forums_nodup h.1
      forums_anime := forall_mem_concat t.forums_anime h.2
      forumAdmins_forum := fun a ha => mem_map_concat (t.forumAdmins_forum a ha) }
  else .error .integrityError

/-- `INSERT INTO forum_admins`. -/
def insertForumAdmin (row : ForumAdminRow) (t : GenesisTables) : Except Exn GenesisTables :=
  if h : (row.forumId, row.userId) ∉ t.forumAdmins.map (fun a => (a.forumId, a.userId)) ∧
      row.forumId ∈ t.forums.map ForumRow.id then
    .ok { t with
      forumAdmins := t.forumAdmins ++ [row]
      forumAdmins_nodup := nodup_map_concat t.forumAdmins_nodup h.1
      forumAdmins_forum := forall_mem_concat t.forumAdmins_forum h.2 }
  else .error .integrityError

/-- The statements for one anime. -/
inductive InsertStatement
  | anime (animeId : Int) (title : String) (members : Int) (synopsis : Option String)
  | streamLink (row : StreamLinkRow)
  | animeGenre (row : AnimeGenreRow)
  | forum (row : ForumRow)
  deriving DecidableEq

namespace InsertStatement

/-- The statement, if nothing else is wrong with the row. -/
def run : InsertStatement → GenesisTables → Except Exn GenesisTables
  -- `synopsis` is not nullable
  | .anime _ _ _ none, _ => .error .integrityError
  | .anime animeId title members (some synopsis), t =>
      insertAnime ⟨animeId, title, members, synopsis⟩ t
  | .streamLink row, t => insertStreamLink row t
  | .animeGenre row, t => insertAnimeGenre row t
  | .forum row, t => insertForum row t

/-- The rows of a statement, table by table. -/
def animes : InsertStatement → List AnimeRow
  | .anime animeId title members (some synopsis) => [⟨animeId, title, members, synopsis⟩]
  | _ => []

def streamLinks : InsertStatement → List StreamLinkRow
  | .streamLink row => [row]
  | _ => []

def animeGenres : InsertStatement → List AnimeGenreRow
  | .animeGenre row => [row]
  | _ => []

def forums : InsertStatement → List ForumRow
  | .forum row => [row]
  | _ => []

/-- All rows of the statement are for the anime. -/
def IsFor (animeId : Int) : InsertStatement → Prop
  | .anime id _ _ _ => id = animeId
  | .streamLink row => row.animeId = animeId
  | .animeGenre row => row.animeId = animeId
  | .forum row => row.anime = some animeId

end InsertStatement

/-- The rows of one anime, table by table. -/
structure AnimeRows where
  animes : List AnimeRow
  streamLinks : List StreamLinkRow
  animeGenres : List AnimeGenreRow
  forums : List ForumRow
  deriving DecidableEq

/-- The rows of an anime. -/
def GenesisTables.rowsOf (t : GenesisTables) (animeId : Int) : AnimeRows where
  animes := t.animes.filter fun a => a.id = animeId
  streamLinks := t.streamLinks.filter fun l => l.animeId = animeId
  animeGenres := t.animeGenres.filter fun r => r.animeId = animeId
  forums := t.forums.filter fun f => f.anime = some animeId

/-- The id is that of one of the genres. -/
def GenesisTables.GenreAmong (t : GenesisTables) (names : List String) (genreId : Int) : Prop :=
  ∃ row ∈ t.genres, row.name ∈ names ∧ row.id = genreId

/-- The tables have grown by the rows of some statements. -/
structure RowsAdded (statements : List InsertStatement) (t t' : GenesisTables) : Prop where
  animes : t'.animes = t.animes ++ statements.flatMap InsertStatement.animes
  streamLinks : t'.streamLinks = t.streamLinks ++ statements.flatMap InsertStatement.streamLinks
  animeGenres : t'.animeGenres = t.animeGenres ++ statements.flatMap InsertStatement.animeGenres
  forums : t'.forums = t.forums ++ statements.flatMap InsertStatement.forums
  genres : t'.genres = t.genres

section
variable {t t' t'' : GenesisTables} {animeId : Int}

theorem RowsAdded.nil (t : GenesisTables) : RowsAdded [] t t :=
  ⟨by simp, by simp, by simp, by simp, rfl⟩

theorem RowsAdded.cons {statement : InsertStatement} {statements : List InsertStatement}
    (h : RowsAdded [statement] t t') (h' : RowsAdded statements t' t'') :
    RowsAdded (statement :: statements) t t'' where
  animes := by rw [h'.animes, h.animes]; simp
  streamLinks := by rw [h'.streamLinks, h.streamLinks]; simp
  animeGenres := by rw [h'.animeGenres, h.animeGenres]; simp
  forums := by rw [h'.forums, h.forums]; simp
  genres := h'.genres.trans h.genres

/-- A statement that is executed adds its rows. -/
theorem InsertStatement.rowsAdded {statement : InsertStatement}
    (h : statement.run t = .ok t') : RowsAdded [statement] t t' := by
  cases statement with
  | anime animeId title members synopsis =>
      cases synopsis with
      | none => cases h
      | some synopsis =>
          simp only [InsertStatement.run, insertAnime] at h
          split at h
          · cases h
            constructor <;> simp [animes, streamLinks, animeGenres, forums]
          · cases h
  | streamLink row | animeGenre row | forum row =>
      simp only [InsertStatement.run, insertStreamLink, insertAnimeGenre, insertForum] at h
      split at h
      · cases h
        constructor <;> simp [animes, streamLinks, animeGenres, forums]
      · cases h

/-- The rows of a statement for one anime are none of another one. -/
theorem InsertStatement.rows_of_ne {statement : InsertStatement} (h : statement.IsFor animeId)
    {other : Int} (hne : other ≠ animeId) :
    statement.animes.filter (fun a => a.id = other) = [] ∧
      statement.streamLinks.filter (fun l => l.animeId = other) = [] ∧
      statement.animeGenres.filter (fun r => r.animeId = other) = [] ∧
      statement.forums.filter (fun f => f.anime = some other) = [] := by
  cases statement with
  | anime id title members synopsis =>
      have hid : id = animeId := h
      cases synopsis <;>
        simp [animes, streamLinks, animeGenres, forums, hid, Ne.symm hne]
  | streamLink row | animeGenre row =>
      have hid : row.animeId = animeId := h
      simp [animes, streamLinks, animeGenres, forums, hid, Ne.symm hne]
  | forum row =>
      have hid : row.anime = some animeId := h
      simp [animes, streamLinks, animeGenres, forums, hid, Ne.symm hne]

theorem filter_flatMap_eq_nil {α β : Type} {xs : List α} {f : α → List β} {p : β → Bool}
    (h : ∀ x ∈ xs, (f x).filter p = []) : (xs.flatMap f).filter p = [] := by
  rw [List.filter_flatMap, List.flatMap_eq_nil_iff]
  exact h

/-- Statements for one anime leave the rows of the others alone. -/
theorem RowsAdded.rowsOf_of_ne {statements : List InsertStatement} (h : RowsAdded statements t t')
    (hfor : ∀ statement ∈ statements, statement.IsFor animeId) {other : Int}
    (hne : other ≠ animeId) : t'.rowsOf other = t.rowsOf other := by
  have hrows := fun statement hmem =>
    InsertStatement.rows_of_ne (hfor statement hmem) hne
  simp only [GenesisTables.rowsOf, h.animes, h.streamLinks, h.animeGenres, h.forums,
    List.filter_append]
  rw [filter_flatMap_eq_nil fun statement hmem => (hrows statement hmem).1,
    filter_flatMap_eq_nil fun statement hmem => (hrows statement hmem).2.1,
    filter_flatMap_eq_nil fun statement hmem => (hrows statement hmem).2.2.1,
    filter_flatMap_eq_nil fun statement hmem => (hrows statement hmem).2.2.2]
  simp only [List.append_nil]

/-- An anime is there if it has a row. -/
theorem mem_animes_iff : animeId ∈ t.animes.map AnimeRow.id ↔ (t.rowsOf animeId).animes ≠ [] := by
  rw [List.mem_map, GenesisTables.rowsOf, ne_eq, List.filter_eq_nil_iff]
  push Not
  simp only [decide_eq_true_eq]

theorem mem_animeGenres_iff {genreId : Int} :
    ⟨animeId, genreId⟩ ∈ t.animeGenres ↔ ⟨animeId, genreId⟩ ∈ (t.rowsOf animeId).animeGenres := by
  simp [GenesisTables.rowsOf]

/-- An anime that is not there has no rows in the other tables. -/
theorem animeGenres_of_not_mem (h : animeId ∉ t.animes.map AnimeRow.id) (genreId : Int) :
    ⟨animeId, genreId⟩ ∉ t.animeGenres :=
  fun hmem => h (t.animeGenres_anime _ hmem)

/-- A genre leaves the animes alone. -/
theorem insertGenre_ok {row : GenreRow} (h : insertGenre row t = .ok t') :
    t'.animes = t.animes ∧ (∀ other, t'.rowsOf other = t.rowsOf other) ∧
      t'.genres = t.genres ++ [row] ∧ row.name ∉ t.genres.map GenreRow.name := by
  simp only [insertGenre] at h
  split at h
  · rename_i hnew
    cases h
    exact ⟨rfl, fun _ => rfl, rfl, hnew.2⟩
  · cases h

/-- And so does an admin. -/
theorem insertForumAdmin_ok {row : ForumAdminRow} (h : insertForumAdmin row t = .ok t') :
    t'.animes = t.animes ∧ (∀ other, t'.rowsOf other = t.rowsOf other) ∧
      t'.genres = t.genres := by
  simp only [insertForumAdmin] at h
  split at h
  · cases h
    exact ⟨rfl, fun _ => rfl, rfl⟩
  · cases h

/-- An id that is there stays that of the same genre while others are added. -/
theorem genreAmong_iff_of_mem {names : List String} {genreId : Int}
    (hgrown : ∀ row ∈ t.genres, row ∈ t'.genres)
    (hid : genreId ∈ t.genres.map GenreRow.id) :
    t'.GenreAmong names genreId ↔ t.GenreAmong names genreId := by
  obtain ⟨old, hold, rfl⟩ := List.mem_map.mp hid
  constructor
  · rintro ⟨row, hrow, hname, hsame⟩
    have heq : row = old := List.inj_on_of_nodup_map t'.genres_nodup hrow (hgrown old hold) hsame
    exact ⟨old, hold, heq ▸ hname, rfl⟩
  · rintro ⟨row, hrow, hname, hsame⟩
    exact ⟨row, hgrown row hrow, hname, hsame⟩

/-- The ids of genres that are there stay while others are added. -/
theorem genreAmong_iff_of_grown {names : List String}
    (hgrown : ∀ row ∈ t.genres, row ∈ t'.genres)
    (hpresent : ∀ name ∈ names, name ∈ t.genres.map GenreRow.name) (genreId : Int) :
    t'.GenreAmong names genreId ↔ t.GenreAmong names genreId := by
  constructor
  · rintro ⟨row, hrow, hname, rfl⟩
    obtain ⟨old, hold, hsame⟩ := List.mem_map.mp (hpresent row.name hname)
    -- a genre name has one row
    have heq : old = row := List.inj_on_of_nodup_map t'.names_nodup (hgrown old hold) hrow hsame
    exact ⟨row, heq ▸ hold, hname, rfl⟩
  · rintro ⟨row, hrow, hname, rfl⟩
    exact ⟨row, hgrown row hrow, hname, rfl⟩

end

end ResourceServer
end Tenjin
