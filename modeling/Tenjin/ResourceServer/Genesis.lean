import Tenjin.Foundation.Assoc
import Tenjin.Foundation.Savepoints
import Tenjin.ResourceServer.GenesisTables

/-!
# The population script

`main` of `genesis.py`, from the transaction on in which it asks the API for one anime after
the other.  A step of the run is one round of its loop, or what comes behind the loop.

* `GenesisVisit` is what the API and the database answer in one round.
* `genesisStep` is the script; `GenesisState.database` is what remains in the database.
* `Collects` is what the loop over the genres of a response does, and `GenreInv` what it needs;
  `collectGenres_spec` — it does so as far as it comes.
-/

namespace Tenjin
namespace ResourceServer

open Python Foundation

/-- The arguments of `main`. -/
structure GenesisSettings where
  animeCount : Int
  maxIterations : Option Int
  excludeGenres : List String

/-- `max_iterations`, brought up to the number of animes. -/
def GenesisSettings.iterations (settings : GenesisSettings) : Int :=
  match settings.maxIterations with
  | none => settings.animeCount
  | some n => if n = 0 ∨ n < settings.animeCount then settings.animeCount else n

/-- What the script reads of a response with an anime. -/
structure AnimeData where
  titles : List String
  synopsis : Option String
  streaming : List (String × String)
  genres : List String

/-- A response of the API. -/
inductive ApiResponse
  /-- The request, or reading what comes back, raises. -/
  | unreadable (exn : Exn)
  | isError
  | data (anime : AnimeData)

/-- The genre names of a response. -/
def ApiResponse.genres : ApiResponse → List String
  | .data anime => anime.genres
  | _ => []

/-- The exceptions that the script tells apart while it inserts an anime. -/
inductive InsertFailure
  /-- `ConnectionException` or `ConnectionFailure`. -/
  | connection
  | other (exn : Exn)

/-- The answers in one round: the response, the ids of new genres, which statements are
refused for another reason than a key, and the id of the forum. -/
structure GenesisVisit where
  response : ApiResponse
  newGenre : String → Except Exn Int
  refuses : InsertStatement → Option InsertFailure
  forumId : Int

/-- What the loop over genres changes. -/
structure GenreState where
  session : SqlSession GenesisTables ℕ
  existingGenres : List (String × Int)
  genresToAdd : List Int

/-- How the loop over genres ends. -/
inductive GenreEnd
  | collected
  | excluded
  | raised (exn : Exn)

/-- How a round ends. -/
inductive VisitOutcome
  /-- There is an anime with this id. -/
  | present
  | errorResponse
  | excluded
  | inserted
  | failed
  /-- An exception outside of the `try`. -/
  | interrupted
  deriving DecidableEq

/-- A round that is over. -/
structure VisitRecord where
  animeId : Int
  response : ApiResponse
  outcome : VisitOutcome

/-- Where the script is. -/
inductive GenesisPhase
  | running
  /-- Behind the `break`. -/
  | stopped
  | returned (animesInserted : ℕ)
  /-- `exit(200)`. -/
  | exited
  | raised (exn : Exn)
  /-- There is no savepoint to roll back to, which raises in the `except` block. -/
  | notRolledBack

/-- The variables of `main`, its session, and the rounds so far. -/
structure GenesisState extends GenreState where
  history : List VisitRecord
  latestValidCheckpoint : ℕ
  forumsCreated : List Int
  animesInserted : ℕ
  phase : GenesisPhase

/-- The tables that the script leaves if it goes no further: while the loop goes on those of
its transaction, and else what has been committed. -/
def GenesisState.database (s : GenesisState) : GenesisTables :=
  match s.phase with
  | .running => s.session.working
  | .stopped => s.session.working
  | _ => s.session.committed

/-- The loop has not been left by an exception. -/
def GenesisState.Live (s : GenesisState) : Prop := s.phase = .running ∨ s.phase = .stopped

/-- An exception has left the script. -/
def GenesisState.Left (s : GenesisState) : Prop := s.phase = .exited ∨ ∃ e, s.phase = .raised e

/-- `existing_genres.get(genre)`, where an id of 0 counts as none. -/
def foundGenre (existingGenres : List (String × Int)) (genre : String) : Option Int :=
  match existingGenres.lookup genre with
  | none => none
  | some genreId => if genreId = 0 then none else some genreId

/-- `INSERT INTO genres`, and the commit that follows. -/
def addGenre (newGenre : String → Except Exn Int) (genre : String)
    (session : SqlSession GenesisTables ℕ) : Except Exn (Int × SqlSession GenesisTables ℕ) :=
  match newGenre genre with
  | .error e => .error e
  | .ok genreId =>
      match session.execute Exn.databaseError (insertGenre ⟨genreId, genre⟩) with
      | (.error e, _) => .error e
      | (.ok (), session) => .ok (genreId, session.commit)

/-- The loop over the genres of a response.  An exception leaves the script, and what the
session has not committed is lost. -/
def collectGenres (excludeGenres : List String) (newGenre : String → Except Exn Int) :
    List String → GenreState → GenreEnd × GenreState
  | [], g => (.collected, g)
  | genre :: genres, g =>
      if genre ∈ excludeGenres then (.excluded, g)
      else
        match foundGenre g.existingGenres genre with
        | some genreId =>
            collectGenres excludeGenres newGenre genres
              { g with genresToAdd := g.genresToAdd.insert genreId }
        | none =>
            match addGenre newGenre genre g.session with
            | .error e => (.raised e, g)
            | .ok (genreId, session) =>
                collectGenres excludeGenres newGenre genres
                  { session
                    existingGenres := updateItem genre (fun _ => genreId) g.existingGenres
                    genresToAdd := g.genresToAdd.insert genreId }

/-- The statements of the `try` block. -/
def animeStatements (animeId : Int) (anime : AnimeData) (title : String) (genreIds : List Int)
    (forumId : Int) : List InsertStatement :=
  [.anime animeId title 0 anime.synopsis] ++
    (dictOf anime.streaming).map (fun link => .streamLink ⟨animeId, link.2, link.1⟩) ++
    genreIds.map (fun genreId => .animeGenre ⟨animeId, genreId⟩) ++
    [.forum ⟨forumId, title, some animeId, false⟩]

/-- What the database answers to a statement. -/
def answered (refuses : InsertStatement → Option InsertFailure) (statement : InsertStatement)
    (t : GenesisTables) : Except InsertFailure GenesisTables :=
  match refuses statement with
  | some failure => .error failure
  | none =>
      match statement.run t with
      | .ok t' => .ok t'
      | .error e => .error (.other e)

/-- The loop variable. -/
def GenesisState.animeId (s : GenesisState) : Int := s.history.length + 1

/-- The round is over. -/
def GenesisState.record (s : GenesisState) (response : ApiResponse) (outcome : VisitOutcome) :
    List VisitRecord :=
  s.history ++ [⟨s.animeId, response, outcome⟩]

/-- A round before its `try` block: it may be over, or an anime is to be inserted. -/
inductive Prepared
  | ended (s : GenesisState)
  | ready (anime : AnimeData) (title : String) (g : GenreState)

section
variable (settings : GenesisSettings)

/-- The part of a round that comes before its `try` block. -/
def prepareAnime (s : GenesisState) (v : GenesisVisit) : Prepared :=
  if s.animeId ∈ s.session.working.animes.map AnimeRow.id then
    .ended { s with history := s.record v.response .present }
  else
    match v.response with
    | .unreadable exn =>
        .ended { s with history := s.record v.response .interrupted, phase := .raised exn }
    | .isError => .ended { s with history := s.record v.response .errorResponse }
    | .data anime =>
        match anime.titles with
        | [] =>
            .ended { s with
              history := s.record v.response .interrupted
              phase := .raised .indexError }
        | title :: _ =>
            match collectGenres settings.excludeGenres v.newGenre anime.genres
                s.toGenreState with
            | (.raised exn, g) =>
                .ended { s with
                  toGenreState := g
                  history := s.record v.response .interrupted
                  phase := .raised exn }
            -- `genres_to_add` keeps what it has got by now
            | (.excluded, g) =>
                .ended { s with toGenreState := g, history := s.record v.response .excluded }
            | (.collected, g) => .ready anime title g

/-- The end of the `try` block, behind the statements. -/
def checkpointAnime (s : GenesisState) (v : GenesisVisit) (g : GenreState) : GenesisState where
  history := s.record v.response .inserted
  session := g.session.savepoint (s.latestValidCheckpoint + 1)
  existingGenres := g.existingGenres
  genresToAdd := []
  latestValidCheckpoint := s.latestValidCheckpoint + 1
  forumsCreated := s.forumsCreated.insert v.forumId
  animesInserted := s.animesInserted + 1
  phase := if (s.animesInserted + 1 : Int) = settings.animeCount then .stopped else .running

/-- The `try` block, and its `except` blocks. -/
def insertPrepared (s : GenesisState) (v : GenesisVisit) (anime : AnimeData) (title : String)
    (g : GenreState) : GenesisState :=
  match g.session.executeAll (.other .databaseError)
      ((animeStatements s.animeId anime title g.genresToAdd v.forumId).map
        (answered v.refuses)) with
  | (.ok (), session) => checkpointAnime settings s v { g with session }
  | (.error .connection, session) =>
      { s with
        toGenreState := { g with session }
        history := s.record v.response .failed
        phase := .exited }
  -- `genres_to_add` is not cleared
  | (.error (.other _), session) =>
      match session.rollbackTo s.latestValidCheckpoint with
      | some session =>
          { s with
            toGenreState := { g with session }
            history := s.record v.response .failed }
      | none =>
          { s with
            toGenreState := { g with session }
            history := s.record v.response .failed
            phase := .notRolledBack }

/-- A round of the loop. -/
def visitAnime (s : GenesisState) (v : GenesisVisit) : GenesisState :=
  match prepareAnime settings s v with
  | .ended s' => s'
  | .ready anime title g => insertPrepared settings s v anime title g

/-- The superuser, whose id is 1, becomes the owner of a forum, if the database does not refuse
the row for another reason than a key. -/
def insertOwner (refuses : Int → Option Exn) (forumId : Int) (t : GenesisTables) :
    Except Exn GenesisTables :=
  match refuses forumId with
  | some e => .error e
  | none => insertForumAdmin ⟨forumId, 1, "owner"⟩ t

/-- What comes behind the loop. -/
def finishGenesis (s : GenesisState) (refuses : Int → Option Exn) : GenesisState :=
  let session := s.session.commit
  match session.executeAll Exn.databaseError (s.forumsCreated.map (insertOwner refuses)) with
  | (.error e, session) => { s with session, phase := .raised e }
  | (.ok (), session) => { s with session := session.commit, phase := .returned s.animesInserted }

/-- What may happen. -/
inductive GenesisLabel
  | visit (v : GenesisVisit)
  | finish (refuses : Int → Option Exn)

/-- One step. -/
def genesisStep (s : GenesisState) : GenesisLabel → Option GenesisState
  | .visit v =>
      match s.phase with
      | .running =>
          if (s.history.length : Int) < settings.iterations then some (visitAnime settings s v)
          else none
      | _ => none
  | .finish refuses =>
      match s.phase with
      | .running =>
          if (s.history.length : Int) < settings.iterations then none
          else some (finishGenesis s refuses)
      | .stopped => some (finishGenesis s refuses)
      | _ => none

end

/-- The head of the loop for the first time. -/
def genesisStart (t : GenesisTables) : GenesisState where
  session := (SqlSession.connected t).savepoint 1
  existingGenres := dictOf (t.genres.map fun row => (row.name, row.id))
  genresToAdd := []
  history := []
  latestValidCheckpoint := 1
  forumsCreated := []
  animesInserted := 0
  phase := .running

/-- What holds of the session and the genres while the script goes on. -/
structure GenreInv (g : GenreState) : Prop where
  notFailed : g.session.failed = false
  known : ∀ name genreId, g.existingGenres.lookup name = some genreId ↔
    ⟨genreId, name⟩ ∈ g.session.working.genres
  committed : g.session.committed.genres = g.session.working.genres

/-- What the loop over genres has done when it has passed some of them. -/
structure Collects (names : List String) (g g' : GenreState) : Prop where
  rows : ∀ animeId, g'.session.working.rowsOf animeId = g.session.working.rowsOf animeId
  animes : g'.session.working.animes = g.session.working.animes
  grown : ∀ row ∈ g.session.working.genres, row ∈ g'.session.working.genres
  /-- A genre was missing, and all that was done has been committed with it. -/
  session : g'.session = g.session ∨
    (g'.session.savepoints = [] ∧ g'.session.committed = g'.session.working ∧
      ∃ name ∈ names, name ∉ g.session.working.genres.map GenreRow.name)
  present : ∀ name ∈ names, name ∈ g'.session.working.genres.map GenreRow.name
  collected : ∀ genreId, genreId ∈ g'.genresToAdd ↔
    genreId ∈ g.genresToAdd ∨ g'.session.working.GenreAmong names genreId

section
variable {g g' g'' : GenreState} {names : List String}

theorem Collects.nil (g : GenreState) : Collects [] g g where
  rows := fun _ => rfl
  animes := rfl
  grown := fun _ hrow => hrow
  session := .inl rfl
  present := fun _ hname => by cases hname
  collected := fun genreId => by
    refine ⟨.inl, fun h => h.elim id ?_⟩
    rintro ⟨row, _, hname, _⟩
    cases hname

/-- One genre, and then the others. -/
theorem Collects.cons {name : String} (h : Collects [name] g g') (h' : Collects names g' g'') :
    Collects (name :: names) g g'' where
  rows := fun animeId => (h'.rows animeId).trans (h.rows animeId)
  animes := h'.animes.trans h.animes
  grown := fun row hrow => h'.grown row (h.grown row hrow)
  session := by
    rcases h'.session with hsame | ⟨hsavepoints, hcommitted, other, hother, hmissing⟩
    · rw [hsame]
      refine h.session.imp_right fun ⟨hsavepoints, hcommitted, hmissing⟩ => ?_
      obtain ⟨other, hother, hmissing⟩ := hmissing
      rw [List.mem_singleton.mp hother] at hmissing
      exact ⟨hsavepoints, hcommitted, name, List.mem_cons_self .., hmissing⟩
    · refine .inr ⟨hsavepoints, hcommitted, other, List.mem_cons_of_mem _ hother, fun hmem => ?_⟩
      obtain ⟨row, hrow, hname⟩ := List.mem_map.mp hmem
      exact hmissing (List.mem_map.mpr ⟨row, h.grown row hrow, hname⟩)
  present := by
    intro other hother
    rcases List.mem_cons.mp hother with rfl | hother
    · obtain ⟨row, hrow, hname⟩ := List.mem_map.mp (h.present other (List.mem_singleton_self _))
      exact List.mem_map.mpr ⟨row, h'.grown row hrow, hname⟩
    · exact h'.present other hother
  collected := by
    intro genreId
    have hfirst := genreAmong_iff_of_grown h'.grown h.present genreId
    have hsplit : g''.session.working.GenreAmong (name :: names) genreId ↔
        g''.session.working.GenreAmong [name] genreId ∨
          g''.session.working.GenreAmong names genreId := by
      simp only [GenesisTables.GenreAmong, List.mem_cons, List.not_mem_nil, or_false]
      constructor
      · rintro ⟨row, hrow, hname | hname, hid⟩
        · exact .inl ⟨row, hrow, hname, hid⟩
        · exact .inr ⟨row, hrow, hname, hid⟩
      · rintro (⟨row, hrow, hname, hid⟩ | ⟨row, hrow, hname, hid⟩)
        · exact ⟨row, hrow, .inl hname, hid⟩
        · exact ⟨row, hrow, .inr hname, hid⟩
    rw [h'.collected, h.collected, hsplit, hfirst, or_assoc]

/-- A genre that is in the table. -/
theorem Collects.found (h : GenreInv g) {genre : String} {genreId : Int}
    (hfound : foundGenre g.existingGenres genre = some genreId) :
    Collects [genre] g { g with genresToAdd := g.genresToAdd.insert genreId } := by
  have hlookup : g.existingGenres.lookup genre = some genreId := by
    simp only [foundGenre] at hfound
    split at hfound
    · cases hfound
    · rename_i hlookup
      split at hfound
      · cases hfound
      · rw [hlookup, hfound]
  have hrow := (h.known genre genreId).mp hlookup
  refine ⟨fun _ => rfl, rfl, fun _ hmem => hmem, .inl rfl, fun name hname => ?_,
    fun other => ?_⟩
  · rw [List.mem_singleton.mp hname]
    exact List.mem_map.mpr ⟨_, hrow, rfl⟩
  · rw [List.mem_insert_iff, or_comm]
    refine or_congr_right ⟨?_, ?_⟩
    · rintro rfl
      exact ⟨_, hrow, List.mem_singleton_self _, rfl⟩
    · rintro ⟨row, hmem, hname, rfl⟩
      have hsame : row.name = genre := List.mem_singleton.mp hname
      have hknown := (h.known genre row.id).mpr (hsame ▸ hmem)
      exact Option.some.inj (hknown.symm.trans hlookup)

/-- A new genre is inserted, and everything is committed. -/
theorem addGenre_ok {newGenre : String → Except Exn Int} {genre : String} {genreId : Int}
    {session session' : SqlSession GenesisTables ℕ} (hnotFailed : session.failed = false)
    (h : addGenre newGenre genre session = .ok (genreId, session')) :
    ∃ t, insertGenre ⟨genreId, genre⟩ session.working = .ok t ∧ session' = .connected t := by
  simp only [addGenre] at h
  split at h
  · cases h
  · rename_i answer _
    cases hinsert : insertGenre ⟨answer, genre⟩ session.working with
    | error e =>
        rw [SqlSession.execute_of_error hnotFailed hinsert] at h
        cases h
    | ok t =>
        rw [SqlSession.execute_of_ok hnotFailed hinsert] at h
        cases h
        exact ⟨t, hinsert, SqlSession.commit_of_not_failed hnotFailed⟩

/-- A genre that is missing. -/
theorem Collects.added (h : GenreInv g) {newGenre : String → Except Exn Int} {genre : String}
    {genreId : Int} {session : SqlSession GenesisTables ℕ}
    (hadd : addGenre newGenre genre g.session = .ok (genreId, session)) :
    GenreInv ⟨session, updateItem genre (fun _ => genreId) g.existingGenres,
        g.genresToAdd.insert genreId⟩ ∧
      Collects [genre] g ⟨session, updateItem genre (fun _ => genreId) g.existingGenres,
        g.genresToAdd.insert genreId⟩ := by
  obtain ⟨t, hinsert, rfl⟩ := addGenre_ok h.notFailed hadd
  obtain ⟨hanimes, hrows, hgenres, hnew⟩ := insertGenre_ok hinsert
  have hother : ∀ row ∈ g.session.working.genres, row.name ≠ genre := by
    intro row hrow hname
    exact hnew (List.mem_map.mpr ⟨row, hrow, hname⟩)
  have hmem : ∀ row, row ∈ t.genres ↔ row ∈ g.session.working.genres ∨ row = ⟨genreId, genre⟩ := by
    intro row
    rw [hgenres, List.mem_append, List.mem_singleton]
  have hrow : ⟨genreId, genre⟩ ∈ t.genres := (hmem _).mpr (.inr rfl)
  refine ⟨⟨rfl, fun name id => ?_, rfl⟩, hrows, hanimes, fun row hold => (hmem row).mpr (.inl hold),
    .inr ⟨rfl, rfl, genre, List.mem_singleton_self _, hnew⟩, fun name hname => ?_,
    fun other => ?_⟩
  · show (updateItem genre _ g.existingGenres).lookup name = some id ↔ _ ∈ t.genres
    rw [lookup_updateItem, hmem]
    by_cases hname : name = genre
    · subst hname
      rw [if_pos rfl, Option.some.injEq]
      constructor
      · rintro rfl
        exact .inr rfl
      · rintro (hold | hsame)
        · exact absurd rfl (hother _ hold)
        · exact (GenreRow.mk.inj hsame).1.symm
    · rw [if_neg hname, h.known]
      refine ⟨.inl, fun hrow => hrow.resolve_right fun hsame => hname (GenreRow.mk.inj hsame).2⟩
  · rw [List.mem_singleton.mp hname]
    exact List.mem_map.mpr ⟨_, hrow, rfl⟩
  · show other ∈ g.genresToAdd.insert genreId ↔ _ ∨ t.GenreAmong [genre] other
    rw [List.mem_insert_iff, or_comm]
    refine or_congr_right ⟨?_, ?_⟩
    · rintro rfl
      exact ⟨_, hrow, List.mem_singleton_self _, rfl⟩
    · rintro ⟨row, hold, hname, rfl⟩
      rcases (hmem row).mp hold with hold | rfl
      · exact absurd (List.mem_singleton.mp hname) (hother row hold)
      · rfl

/-- The loop passes some of the genres, and all of them if it comes to its end. -/
theorem collectGenres_spec (excludeGenres : List String) (newGenre : String → Except Exn Int)
    (h : GenreInv g) (names : List String) :
    GenreInv (collectGenres excludeGenres newGenre names g).2 ∧
      ∃ passed, Collects passed g (collectGenres excludeGenres newGenre names g).2 ∧
        ((collectGenres excludeGenres newGenre names g).1 = .collected → passed = names) := by
  induction names generalizing g with
  | nil => exact ⟨h, [], .nil g, fun _ => rfl⟩
  | cons genre names ih =>
      rw [collectGenres]
      split
      · exact ⟨h, [], .nil g, fun hend => by cases hend⟩
      · cases hfound : foundGenre g.existingGenres genre with
        | some genreId =>
            have hfirst := Collects.found h hfound
            obtain ⟨hinv, passed, hrest, hend⟩ :=
              ih (g := { g with genresToAdd := g.genresToAdd.insert genreId })
                ⟨h.notFailed, h.known, h.committed⟩
            exact ⟨hinv, genre :: passed, hfirst.cons hrest, fun h => by rw [hend h]⟩
        | none =>
            cases hadd : addGenre newGenre genre g.session with
            | error e => exact ⟨h, [], .nil g, fun hend => by cases hend⟩
            | ok added =>
                obtain ⟨genreId, session⟩ := added
                obtain ⟨hinvAdded, hfirst⟩ := Collects.added h hadd
                obtain ⟨hinv, passed, hrest, hend⟩ := ih hinvAdded
                exact ⟨hinv, genre :: passed, hfirst.cons hrest, fun h => by rw [hend h]⟩

end

end ResourceServer
end Tenjin
