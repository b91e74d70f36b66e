import Tenjin.Foundation.GuardedRun
import Tenjin.ResourceServer.Genesis

/-!
# The genres of the animes that the population script inserts

* `GenresAttributed` is the purpose: an anime that has been inserted has the genres of its
  response, other animes have got no rows, the number of inserted animes is returned, and an
  insertion that fails is rolled back.
* `GenesisInv` is what holds in every run: whatever is committed, an anime has all of its new
  rows or none.
* `visitAnime_spec` — a round keeps the invariant, and the purpose exactly under a condition;
  `finishGenesis_spec` — what comes behind the loop keeps it.
* `genesis_attributes_iff` — the purpose is met in a run exactly if nothing is left in
  `genres_to_add` that an inserted anime does not have, and the savepoint is still there when
  an insertion fails.
-/

namespace Tenjin
namespace ResourceServer

open Python Foundation

/-- What a database holds for some rounds: an anime that was inserted is linked to exactly the
genres of its response, and every other anime has the rows that it had before. -/
structure Attributed (t₀ : GenesisTables) (history : List VisitRecord) (t : GenesisTables) :
    Prop where
  linked : ∀ r ∈ history, r.outcome = .inserted → r.animeId ∈ t.animes.map AnimeRow.id →
    ∀ genreId, ⟨r.animeId, genreId⟩ ∈ t.animeGenres ↔ t.GenreAmong r.response.genres genreId
  untouched : ∀ animeId, (∀ r ∈ history, r.animeId = animeId → r.outcome ≠ .inserted) →
    t.rowsOf animeId = t₀.rowsOf animeId

/-- The purpose, for a script that was started on some tables. -/
structure GenresAttributed (t₀ : GenesisTables) (s : GenesisState) : Prop where
  attributed : Attributed t₀ s.history s.database
  counted : ∀ n, s.phase = .returned n → s.database.animes.length = t₀.animes.length + n
  rolledBack : s.phase ≠ .notRolledBack

/-- The condition on the tables, the variables and the answers before a round.  Where an anime
is inserted, nothing is left in `genres_to_add` but ids of its own genres.  Where that fails,
there is a savepoint, and none of its genres is missing from the table, so that no commit has
dropped the savepoint. -/
def KeepsGenresApart (settings : GenesisSettings) (s : GenesisState) : GenesisLabel → Prop
  | .finish _ => True
  | .visit v => ∀ anime title g, prepareAnime settings s v = .ready anime title g →
      match ((animeStatements s.animeId anime title g.genresToAdd v.forumId).map
          (answered v.refuses)).foldlM (fun t statement => statement t) g.session.working with
      | .ok _ => ∀ genreId ∈ s.genresToAdd, s.session.working.GenreAmong anime.genres genreId
      | .error .connection => True
      | .error (.other _) =>
          s.session.savepoints.lookup s.latestValidCheckpoint ≠ none ∧
            ∀ genre ∈ anime.genres, genre ∈ s.session.working.genres.map GenreRow.name

/-- What holds at the head of the loop in every run. -/
structure GenesisInv (t₀ : GenesisTables) (s : GenesisState) : Prop where
  genre : GenreInv s.toGenreState
  /-- Nothing has been inserted since the savepoint. -/
  saved : ∀ t, s.session.savepoints.lookup s.latestValidCheckpoint = some t →
    t = s.session.working
  ids : ∀ r ∈ s.history, r.animeId < s.animeId
  new : ∀ r ∈ s.history, r.outcome = .inserted → r.animeId ∉ t₀.animes.map AnimeRow.id
  present : ∀ r ∈ s.history, r.outcome = .inserted →
    ∀ name ∈ r.response.genres, name ∈ s.session.working.genres.map GenreRow.name
  untouched : ∀ animeId, (∀ r ∈ s.history, r.animeId = animeId → r.outcome ≠ .inserted) →
    s.session.working.rowsOf animeId = t₀.rowsOf animeId
  counted : s.session.working.animes.length = t₀.animes.length + s.animesInserted
  pending : ∀ genreId ∈ s.genresToAdd, genreId ∈ s.session.working.genres.map GenreRow.id
  /-- All new rows of an anime are committed, or none. -/
  atomic : ∀ animeId,
    s.session.committed.rowsOf animeId = s.session.working.rowsOf animeId ∨
      s.session.committed.rowsOf animeId = t₀.rowsOf animeId

section
variable {t₀ t t' : GenesisTables} {s : GenesisState} {history : List VisitRecord}

theorem genreAmong_congr (h : t'.genres = t.genres) (names : List String) (genreId : Int) :
    t'.GenreAmong names genreId ↔ t.GenreAmong names genreId := by
  unfold GenesisTables.GenreAmong
  rw [h]

/-- What is attributed stays so in tables where every anime has the rows that it has now, or
those that it had at the start. -/
theorem Attributed.transfer (h : Attributed t₀ history t)
    (hrows : ∀ animeId, t'.rowsOf animeId = t.rowsOf animeId ∨
      t'.rowsOf animeId = t₀.rowsOf animeId)
    (hgenres : ∀ r ∈ history, r.outcome = .inserted → ∀ genreId,
      t'.GenreAmong r.response.genres genreId ↔ t.GenreAmong r.response.genres genreId)
    (hnew : ∀ r ∈ history, r.outcome = .inserted → r.animeId ∉ t₀.animes.map AnimeRow.id) :
    Attributed t₀ history t' where
  linked := by
    intro r hr hinserted hmem genreId
    rcases hrows r.animeId with hsame | hstart
    · rw [mem_animes_iff, hsame, ← mem_animes_iff] at hmem
      rw [mem_animeGenres_iff, hsame, ← mem_animeGenres_iff, hgenres r hr hinserted,
        h.linked r hr hinserted hmem]
    · rw [mem_animes_iff, hstart, ← mem_animes_iff] at hmem
      exact absurd hmem (hnew r hr hinserted)
  untouched := by
    intro animeId hnone
    rcases hrows animeId with hsame | hstart
    · rw [hsame, h.untouched animeId hnone]
    · exact hstart

/-- A round without a new anime. -/
theorem Attributed.record (h : Attributed t₀ s.history t) {response : ApiResponse}
    {outcome : VisitOutcome} (hne : outcome ≠ .inserted) :
    Attributed t₀ (s.record response outcome) t where
  linked := forall_mem_concat h.linked fun hinserted => absurd hinserted hne
  untouched := fun animeId hnone =>
    h.untouched animeId fun r hr => hnone r (List.mem_append_left _ hr)

/-- While the loop goes on, the tables of the transaction count. -/
theorem GenesisState.Live.database (h : s.Live) : s.database = s.session.working := by
  rcases h with hphase | hphase
  all_goals rw [GenesisState.database, hphase]

/-- Behind an exception, what has been committed counts. -/
theorem GenesisState.Left.database (h : s.Left) : s.database = s.session.committed := by
  rcases h with hphase | ⟨e, hphase⟩
  all_goals rw [GenesisState.database, hphase]

/-- Before the number is returned, it is enough that the animes have their genres. -/
theorem genresAttributed_of_not_returned (hphase : s.Live ∨ s.Left)
    (h : Attributed t₀ s.history s.database) : GenresAttributed t₀ s := by
  rcases hphase with (hphase | hphase) | (hphase | ⟨e, hphase⟩)
  all_goals
    refine ⟨h, fun n hreturned => ?_, fun hlost => ?_⟩
    · rw [hphase] at hreturned
      cases hreturned
    · rw [hphase] at hlost
      cases hlost

theorem genresAttributed_of_live (hlive : s.Live)
    (h : Attributed t₀ s.history s.session.working) : GenresAttributed t₀ s :=
  genresAttributed_of_not_returned (.inl hlive) (hlive.database.symm ▸ h)

theorem genresAttributed_of_left (hleft : s.Left)
    (h : Attributed t₀ s.history s.session.committed) : GenresAttributed t₀ s :=
  genresAttributed_of_not_returned (.inr hleft) (hleft.database.symm ▸ h)

theorem GenresAttributed.of_live (h : GenresAttributed t₀ s) (hlive : s.Live) :
    Attributed t₀ s.history s.session.working :=
  hlive.database ▸ h.attributed

theorem genresAttributed_iff_of_live (hlive : s.Live) :
    GenresAttributed t₀ s ↔ Attributed t₀ s.history s.session.working :=
  ⟨fun h => h.of_live hlive, genresAttributed_of_live hlive⟩

/-- What has been committed is attributed too. -/
theorem GenesisInv.committed (h : GenesisInv t₀ s)
    (hworking : Attributed t₀ s.history s.session.working) :
    Attributed t₀ s.history s.session.committed :=
  hworking.transfer h.atomic (fun _ _ _ => genreAmong_congr h.genre.committed _) h.new

/-- The loop over genres keeps the invariant. -/
theorem GenesisInv.collect (h : GenesisInv t₀ s) {names : List String} {g : GenreState}
    (hg : GenreInv g) (hcollects : Collects names s.toGenreState g) :
    GenesisInv t₀ { s with toGenreState := g } where
  genre := hg
  saved := by
    intro t hlookup
    rcases hcollects.session with hsame | ⟨hsavepoints, _⟩
    · have hsaved : s.session.savepoints.lookup s.latestValidCheckpoint = some t := by
        rw [← hsame]
        exact hlookup
      rw [h.saved t hsaved]
      exact congrArg SqlSession.working hsame.symm
    · have hnone : g.session.savepoints.lookup s.latestValidCheckpoint = some t := hlookup
      rw [hsavepoints] at hnone
      cases hnone
  ids := h.ids
  new := h.new
  present := by
    intro r hr hinserted name hname
    obtain ⟨row, hrow, hrowName⟩ := List.mem_map.mp (h.present r hr hinserted name hname)
    exact List.mem_map.mpr ⟨row, hcollects.grown row hrow, hrowName⟩
  untouched := fun animeId hnone => (hcollects.rows animeId).trans (h.untouched animeId hnone)
  counted := by
    show g.session.working.animes.length = _
    rw [hcollects.animes]
    exact h.counted
  pending := by
    intro genreId hmem
    rcases (hcollects.collected genreId).mp hmem with hold | ⟨row, hrow, _, hid⟩
    · obtain ⟨row, hrow, hid⟩ := List.mem_map.mp (h.pending genreId hold)
      exact List.mem_map.mpr ⟨row, hcollects.grown row hrow, hid⟩
    · exact List.mem_map.mpr ⟨row, hrow, hid⟩
  atomic := by
    intro animeId
    rcases hcollects.session with hsame | ⟨_, hcommitted, _⟩
    · show g.session.committed.rowsOf animeId = g.session.working.rowsOf animeId ∨ _
      rw [hsame]
      exact h.atomic animeId
    · exact .inl (congrArg (fun t => t.rowsOf animeId) hcommitted)

/-- And so do new genres. -/
theorem Attributed.collect (hinv : GenesisInv t₀ s) {names : List String} {g : GenreState}
    (hcollects : Collects names s.toGenreState g)
    (h : Attributed t₀ s.history s.session.working) :
    Attributed t₀ s.history g.session.working :=
  h.transfer (fun animeId => .inl (hcollects.rows animeId))
    (fun r hr hinserted => genreAmong_iff_of_grown hcollects.grown (hinv.present r hr hinserted))
    hinv.new

/-- The loop variable has passed the ids of all rounds. -/
theorem record_ids (h : ∀ r ∈ s.history, r.animeId < s.animeId) (response : ApiResponse)
    (outcome : VisitOutcome) :
    ∀ r ∈ s.record response outcome,
      r.animeId < ((s.record response outcome).length : Int) + 1 := by
  have hnext : ((s.record response outcome).length : Int) = s.animeId := by
    simp [GenesisState.animeId, GenesisState.record]
  rw [hnext]
  exact forall_mem_concat (fun r hr => Int.lt_add_one_of_le (Int.le_of_lt (h r hr)))
    (Int.lt_succ _)

/-- A round without a new anime keeps the invariant. -/
theorem GenesisInv.record (h : GenesisInv t₀ s) {response : ApiResponse}
    {outcome : VisitOutcome} (hne : outcome ≠ .inserted) :
    GenesisInv t₀ { s with history := s.record response outcome } where
  genre := h.genre
  saved := h.saved
  ids := record_ids h.ids response outcome
  new := forall_mem_concat h.new fun hinserted => absurd hinserted hne
  present := forall_mem_concat h.present fun hinserted => absurd hinserted hne
  untouched := fun animeId hnone =>
    h.untouched animeId fun r hr => hnone r (List.mem_append_left _ hr)
  counted := h.counted
  pending := h.pending
  atomic := h.atomic

end

section
variable {settings : GenesisSettings} {t₀ t t' : GenesisTables} {s s' : GenesisState}
  {v : GenesisVisit} {anime : AnimeData} {title : String} {g : GenreState}

/-- A round without a new anime after which the script goes on. -/
theorem GenesisInv.goesOn (hinv : GenesisInv t₀ s) (hrunning : s.phase = .running)
    (hworking : Attributed t₀ s.history s.session.working) (response : ApiResponse)
    {outcome : VisitOutcome} (hne : outcome ≠ .inserted) :
    ({ s with history := s.record response outcome }.Live →
        GenesisInv t₀ { s with history := s.record response outcome }) ∧
      GenresAttributed t₀ { s with history := s.record response outcome } :=
  ⟨fun _ => hinv.record hne, genresAttributed_of_live (.inl hrunning) (hworking.record hne)⟩

/-- A round that an exception leaves. -/
theorem GenesisInv.interrupted (hinv : GenesisInv t₀ s)
    (hworking : Attributed t₀ s.history s.session.working) (response : ApiResponse) (exn : Exn) :
    ({ s with history := s.record response .interrupted, phase := .raised exn }.Live →
        GenesisInv t₀ { s with
          history := s.record response .interrupted
          phase := .raised exn }) ∧
      GenresAttributed t₀ { s with
        history := s.record response .interrupted
        phase := .raised exn } := by
  refine ⟨?_, genresAttributed_of_left (.inr ⟨exn, rfl⟩)
    ((hinv.committed hworking).record (by decide))⟩
  rintro (hphase | hphase) <;> cases hphase

/-- A round that is over before its `try` block. -/
theorem prepareAnime_ended (hinv : GenesisInv t₀ s) (hrunning : s.phase = .running)
    (hworking : Attributed t₀ s.history s.session.working)
    (h : prepareAnime settings s v = .ended s') :
    (s'.Live → GenesisInv t₀ s') ∧ GenresAttributed t₀ s' := by
  unfold prepareAnime at h
  split at h
  · cases h
    exact hinv.goesOn hrunning hworking _ (by decide)
  · split at h
    · cases h
      exact hinv.interrupted hworking _ _
    · cases h
      exact hinv.goesOn hrunning hworking _ (by decide)
    · rename_i anime _
      split at h
      · cases h
        exact hinv.interrupted hworking _ _
      · obtain ⟨hg, passed, hcollects, _⟩ :=
          collectGenres_spec settings.excludeGenres v.newGenre hinv.genre anime.genres
        -- what the loop over genres has done by now stays
        have hinvGenres := hinv.collect hg hcollects
        have hgenres := hworking.collect hinv hcollects
        split at h
        · rename_i exn g hend
          rw [hend] at hinvGenres hgenres
          cases h
          exact hinvGenres.interrupted hgenres _ _
        · rename_i g hend
          rw [hend] at hinvGenres hgenres
          cases h
          exact hinvGenres.goesOn hrunning hgenres _ (by decide)
        · cases h

/-- A round that comes to its `try` block. -/
theorem prepareAnime_ready (hg : GenreInv s.toGenreState)
    (h : prepareAnime settings s v = .ready anime title g) :
    s.animeId ∉ s.session.working.animes.map AnimeRow.id ∧ v.response = .data anime ∧
      GenreInv g ∧ Collects anime.genres s.toGenreState g := by
  unfold prepareAnime at h
  split at h
  · cases h
  · rename_i hnew
    split at h
    · cases h
    · cases h
    · rename_i anime' hresponse
      split at h
      · cases h
      · obtain ⟨hinv, passed, hcollects, hpassed⟩ :=
          collectGenres_spec settings.excludeGenres v.newGenre hg anime'.genres
        split at h
        · cases h
        · cases h
        · rename_i g' hend
          rw [hend] at hinv hcollects hpassed
          cases h
          rw [hpassed rfl] at hcollects
          exact ⟨hnew, hresponse, hinv, hcollects⟩

theorem answered_ok {refuses : InsertStatement → Option InsertFailure}
    {statement : InsertStatement} (h : answered refuses statement t = .ok t') :
    statement.run t = .ok t' := by
  unfold answered at h
  split at h
  · cases h
  · split at h
    · rename_i hrun
      cases h
      exact hrun
    · cases h

/-- Statements that are all accepted add their rows. -/
theorem rowsAdded_of_accepted {refuses : InsertStatement → Option InsertFailure}
    {statements : List InsertStatement}
    (h : (statements.map (answered refuses)).foldlM (fun t statement => statement t) t =
      .ok t') : RowsAdded statements t t' := by
  induction statements generalizing t with
  | nil =>
      cases h
      exact .nil _
  | cons statement statements ih =>
      rw [List.map_cons, List.foldlM_cons] at h
      cases hfirst : answered refuses statement t with
      | error e =>
          rw [hfirst] at h
          cases h
      | ok next =>
          rw [hfirst] at h
          exact (InsertStatement.rowsAdded (answered_ok hfirst)).cons (ih h)

/-- The statements are for the anime of the round. -/
theorem animeStatements_isFor {animeId forumId : Int} {genreIds : List Int} :
    ∀ statement ∈ animeStatements animeId anime title genreIds forumId,
      statement.IsFor animeId := by
  intro statement hmem
  simp only [animeStatements, List.mem_append, List.mem_singleton, List.mem_map] at hmem
  rcases hmem with ((rfl | ⟨_, _, rfl⟩) | ⟨_, _, rfl⟩) | rfl
  all_goals exact rfl

/-- They link it to the genre ids. -/
theorem animeStatements_animeGenres (animeId forumId : Int) (genreIds : List Int) :
    (animeStatements animeId anime title genreIds forumId).flatMap InsertStatement.animeGenres =
      genreIds.map (AnimeGenreRow.mk animeId) := by
  have hlinks : (dictOf anime.streaming).flatMap (fun _ => ([] : List AnimeGenreRow)) = [] :=
    List.flatMap_eq_nil_iff.mpr fun _ _ => rfl
  simp only [animeStatements, List.flatMap_append, List.flatMap_map, List.flatMap_singleton,
    InsertStatement.animeGenres, hlinks, List.nil_append, List.append_nil]
  exact List.flatMap_pure_eq_map _ _

/-- If they are accepted, one of them inserts it. -/
theorem animeStatements_animes {refuses : InsertStatement → Option InsertFailure}
    {animeId forumId : Int} {genreIds : List Int}
    (h : ((animeStatements animeId anime title genreIds forumId).map
      (answered refuses)).foldlM (fun t statement => statement t) t = .ok t') :
    ∃ row : AnimeRow, row.id = animeId ∧
      (animeStatements animeId anime title genreIds forumId).flatMap InsertStatement.animes =
        [row] := by
  cases hsynopsis : anime.synopsis with
  | some synopsis =>
      refine ⟨⟨animeId, title, 0, synopsis⟩, rfl, ?_⟩
      simp [animeStatements, InsertStatement.animes, hsynopsis, List.flatMap_map]
  | none =>
      rw [animeStatements, hsynopsis, List.append_assoc, List.append_assoc, List.singleton_append,
        List.map_cons, List.foldlM_cons] at h
      obtain ⟨next, hfirst, _⟩ := except_bind_eq_ok h
      cases answered_ok hfirst

/-- An anime that is not there had no rows at the start. -/
theorem GenesisInv.rowsOf_animeId (h : GenesisInv t₀ s)
    (hnew : s.animeId ∉ s.session.working.animes.map AnimeRow.id) :
    s.session.working.rowsOf s.animeId = t₀.rowsOf s.animeId ∧
      s.animeId ∉ t₀.animes.map AnimeRow.id := by
  have hrows : s.session.working.rowsOf s.animeId = t₀.rowsOf s.animeId := by
    refine h.untouched s.animeId fun r hr hid => ?_
    have hlt := h.ids r hr
    omega
  refine ⟨hrows, ?_⟩
  rw [mem_animes_iff, ← hrows, ← mem_animes_iff]
  exact hnew

/-- The anime of the round is inserted, so another one is not. -/
theorem ne_animeId_of_not_inserted {response : ApiResponse} {animeId : Int}
    (h : ∀ r ∈ s.record response .inserted, r.animeId = animeId → r.outcome ≠ .inserted) :
    animeId ≠ s.animeId := by
  rintro rfl
  exact h _ (List.mem_append_right _ (List.mem_singleton_self _)) rfl rfl

/-- The rows of an anime have been added. -/
theorem GenesisInv.checkpoint (h : GenesisInv t₀ s) {statements : List InsertStatement}
    (hnew : s.animeId ∉ s.session.working.animes.map AnimeRow.id)
    (hpresent : ∀ name ∈ v.response.genres, name ∈ s.session.working.genres.map GenreRow.name)
    (hadded : RowsAdded statements s.session.working t)
    (hfor : ∀ statement ∈ statements, statement.IsFor s.animeId)
    (hone : (statements.flatMap InsertStatement.animes).length = 1) :
    GenesisInv t₀ (checkpointAnime settings s v
      { s.toGenreState with session := { s.session with working := t } }) := by
  obtain ⟨hstart, hnotStarted⟩ := h.rowsOf_animeId hnew
  have hother : ∀ animeId, animeId ≠ s.animeId →
      t.rowsOf animeId = s.session.working.rowsOf animeId :=
    fun animeId hne => hadded.rowsOf_of_ne hfor hne
  constructor
  · refine ⟨h.genre.notFailed, fun name genreId => ?_, h.genre.committed.trans hadded.genres.symm⟩
    show s.existingGenres.lookup name = some genreId ↔ _ ∈ t.genres
    rw [hadded.genres]
    exact h.genre.known name genreId
  · intro saved hlookup
    have hlast := SqlSession.lookup_savepoint (s := { s.session with working := t })
      (s.latestValidCheckpoint + 1)
    exact (Option.some.inj (hlast.symm.trans hlookup)).symm
  · exact record_ids h.ids v.response .inserted
  · exact forall_mem_concat h.new fun _ => hnotStarted
  · show ∀ r ∈ s.record v.response .inserted, r.outcome = .inserted →
      ∀ name ∈ r.response.genres, name ∈ t.genres.map GenreRow.name
    rw [hadded.genres]
    exact forall_mem_concat h.present fun _ => hpresent
  · intro animeId hnone
    have hne := ne_animeId_of_not_inserted hnone
    rw [← h.untouched animeId fun r hr => hnone r (List.mem_append_left _ hr)]
    exact hother animeId hne
  · show t.animes.length = t₀.animes.length + (s.animesInserted + 1)
    rw [hadded.animes, List.length_append, hone, h.counted, Nat.add_assoc]
  · intro genreId hmem
    cases hmem
  · intro animeId
    show s.session.committed.rowsOf animeId = t.rowsOf animeId ∨ _
    by_cases hid : animeId = s.animeId
    · subst hid
      exact .inr ((h.atomic s.animeId).elim (fun hsame => hsame.trans hstart) id)
    · rw [hother animeId hid]
      exact h.atomic animeId

/-- What has been inserted is attributed exactly if the genre ids are those of the response. -/
theorem attributed_insert_iff (h : GenesisInv t₀ s)
    (hworking : Attributed t₀ s.history s.session.working)
    {statements : List InsertStatement} {genreIds : List Int} {response : ApiResponse}
    (hnew : s.animeId ∉ s.session.working.animes.map AnimeRow.id)
    (hadded : RowsAdded statements s.session.working t)
    (hfor : ∀ statement ∈ statements, statement.IsFor s.animeId)
    (hanime : ∃ row : AnimeRow, row.id = s.animeId ∧
      statements.flatMap InsertStatement.animes = [row])
    (hgenres : statements.flatMap InsertStatement.animeGenres =
      genreIds.map (AnimeGenreRow.mk s.animeId)) :
    Attributed t₀ (s.record response .inserted) t ↔
      ∀ genreId, genreId ∈ genreIds ↔
        s.session.working.GenreAmong response.genres genreId := by
  have hlinked : ∀ genreId, ⟨s.animeId, genreId⟩ ∈ t.animeGenres ↔ genreId ∈ genreIds := by
    intro genreId
    have hold := animeGenres_of_not_mem hnew genreId
    rw [hadded.animeGenres, hgenres, List.mem_append, List.mem_map]
    constructor
    · rintro (hmem | ⟨other, hother, hrow⟩)
      · exact absurd hmem hold
      · exact (AnimeGenreRow.mk.inj hrow).2 ▸ hother
    · exact fun hmem => .inr ⟨genreId, hmem, rfl⟩
  have hmem : s.animeId ∈ t.animes.map AnimeRow.id := by
    obtain ⟨row, hid, hrow⟩ := hanime
    rw [hadded.animes, hrow, ← hid]
    exact List.mem_map_of_mem (List.mem_append_right _ (List.mem_singleton_self _))
  constructor
  · intro hattributed genreId
    have hthis := hattributed.linked ⟨s.animeId, response, .inserted⟩
      (List.mem_append_right _ (List.mem_singleton_self _)) rfl hmem genreId
    rw [hlinked, genreAmong_congr hadded.genres] at hthis
    exact hthis
  · intro hown
    have hother : ∀ animeId, animeId ≠ s.animeId →
        t.rowsOf animeId = s.session.working.rowsOf animeId :=
      fun animeId hne => hadded.rowsOf_of_ne hfor hne
    constructor
    · intro r hr hinserted hthere genreId
      rw [genreAmong_congr hadded.genres]
      rcases List.mem_append.mp hr with hr | hr
      · have hrows := hother r.animeId (Int.ne_of_lt (h.ids r hr))
        rw [mem_animes_iff, hrows, ← mem_animes_iff] at hthere
        rw [mem_animeGenres_iff, hrows, ← mem_animeGenres_iff]
        exact hworking.linked r hr hinserted hthere genreId
      · rw [List.mem_singleton.mp hr, hlinked]
        exact hown genreId
    · intro animeId hnone
      have hne := ne_animeId_of_not_inserted hnone
      rw [hother animeId hne]
      exact hworking.untouched animeId fun r hr => hnone r (List.mem_append_left _ hr)

/-- A session that sees the same tables keeps the invariant. -/
theorem GenesisInv.session (h : GenesisInv t₀ s) {session : SqlSession GenesisTables ℕ}
    (hworking : session.working = s.session.working)
    (hcommitted : session.committed = s.session.committed) (hnotFailed : session.failed = false)
    (hsaved : ∀ t, session.savepoints.lookup s.latestValidCheckpoint = some t →
      t = session.working) :
    GenesisInv t₀ { s with toGenreState := { s.toGenreState with session } } where
  genre := by
    refine ⟨hnotFailed, fun name genreId => ?_, ?_⟩
    · show s.existingGenres.lookup name = some genreId ↔ _ ∈ session.working.genres
      rw [hworking]
      exact h.genre.known name genreId
    · show session.committed.genres = session.working.genres
      rw [hworking, hcommitted]
      exact h.genre.committed
  saved := hsaved
  ids := h.ids
  new := h.new
  present := by
    intro r hr hinserted name hname
    show name ∈ session.working.genres.map GenreRow.name
    rw [hworking]
    exact h.present r hr hinserted name hname
  untouched := by
    intro animeId hnone
    show session.working.rowsOf animeId = _
    rw [hworking]
    exact h.untouched animeId hnone
  counted := by
    show session.working.animes.length = _
    rw [hworking]
    exact h.counted
  pending := by
    intro genreId hmem
    show genreId ∈ session.working.genres.map GenreRow.id
    rw [hworking]
    exact h.pending genreId hmem
  atomic := by
    intro animeId
    show session.committed.rowsOf animeId = session.working.rowsOf animeId ∨
      session.committed.rowsOf animeId = _
    rw [hworking, hcommitted]
    exact h.atomic animeId

/-- After the loop over genres there is a savepoint if there was one and no genre was missing. -/
theorem Collects.lookup_ne_none_iff {names : List String} {g g' : GenreState}
    (h : Collects names g g') (checkpoint : ℕ) :
    g'.session.savepoints.lookup checkpoint ≠ none ↔
      g.session.savepoints.lookup checkpoint ≠ none ∧
        ∀ name ∈ names, name ∈ g.session.working.genres.map GenreRow.name := by
  rcases h.session with hsame | ⟨hsavepoints, _, name, hname, hmissing⟩
  · rw [hsame]
    refine ⟨fun hfound => ⟨hfound, fun name hname => ?_⟩, And.left⟩
    rw [← hsame]
    exact h.present name hname
  · rw [hsavepoints]
    exact ⟨fun hfound => absurd rfl hfound, fun hall => absurd (hall.2 name hname) hmissing⟩

/-- The loop goes on, or has come to its `break`. -/
theorem checkpointAnime_live : (checkpointAnime settings s v g).Live := by
  simp only [GenesisState.Live, checkpointAnime]
  split
  · exact .inr rfl
  · exact .inl rfl

/-- An anime that is inserted. -/
theorem insertPrepared_ok (hinv : GenesisInv t₀ s)
    (hworking : Attributed t₀ s.history s.session.working)
    (hready : prepareAnime settings s v = .ready anime title g)
    (hok : ((animeStatements s.animeId anime title g.genresToAdd v.forumId).map
      (answered v.refuses)).foldlM (fun t statement => statement t) g.session.working = .ok t) :
    GenesisInv t₀ (checkpointAnime settings s v
        { g with session := { g.session with working := t } }) ∧
      (GenresAttributed t₀ (checkpointAnime settings s v
          { g with session := { g.session with working := t } }) ↔
        ∀ genreId ∈ s.genresToAdd, s.session.working.GenreAmong anime.genres genreId) := by
  obtain ⟨hnew, hresponse, hg, hcollects⟩ := prepareAnime_ready hinv.genre hready
  have hgenres : v.response.genres = anime.genres := by rw [hresponse]; rfl
  have hinvGenres := hinv.collect hg hcollects
  have hnewGenres : s.animeId ∉ g.session.working.animes.map AnimeRow.id := by
    rw [hcollects.animes]
    exact hnew
  have hadded := rowsAdded_of_accepted hok
  obtain ⟨row, hid, hanimes⟩ := animeStatements_animes hok
  refine ⟨hinvGenres.checkpoint hnewGenres ?_ hadded animeStatements_isFor ?_, ?_⟩
  · rw [hgenres]
    exact hcollects.present
  · rw [hanimes]
    rfl
  · rw [genresAttributed_iff_of_live checkpointAnime_live]
    refine (attributed_insert_iff hinvGenres (hworking.collect hinv hcollects) hnewGenres hadded
      animeStatements_isFor ⟨row, hid, hanimes⟩ (animeStatements_animeGenres _ _ _)).trans ?_
    rw [hgenres]
    constructor
    · intro hall genreId hmem
      rw [← genreAmong_iff_of_mem hcollects.grown (hinv.pending genreId hmem)]
      exact (hall genreId).mp ((hcollects.collected genreId).mpr (.inl hmem))
    · intro hleft genreId
      refine (hcollects.collected genreId).trans ⟨fun hmem => hmem.elim (fun hold => ?_) id, .inr⟩
      rw [genreAmong_iff_of_mem hcollects.grown (hinv.pending genreId hold)]
      exact hleft genreId hold

/-- An insertion that fails is rolled back to the savepoint, if there is one. -/
theorem rolledBack_spec (hinv : GenesisInv t₀ s) (hrunning : s.phase = .running)
    (hworking : Attributed t₀ s.history s.session.working) (response : ApiResponse)
    {session session' : SqlSession GenesisTables ℕ}
    (hcommitted : session.committed = s.session.committed)
    (hsavepoints : session.savepoints = s.session.savepoints)
    (hroll : session.rollbackTo s.latestValidCheckpoint = some session') :
    GenesisInv t₀ { s with
        session := session'
        history := s.record response .failed } ∧
      GenresAttributed t₀ { s with
        session := session'
        history := s.record response .failed } := by
  obtain ⟨hlookup, hlookup', hcommitted', hnotFailed⟩ := SqlSession.rollbackTo_eq_some hroll
  rw [hsavepoints] at hlookup
  have hsame : session'.working = s.session.working := hinv.saved _ hlookup
  have hinvSession := hinv.session hsame (hcommitted'.trans hcommitted) hnotFailed
    fun t hlast => Option.some.inj (hlast.symm.trans hlookup')
  refine ⟨hinvSession.record (by decide), genresAttributed_of_live (.inl hrunning) ?_⟩
  show Attributed t₀ (s.record response .failed) session'.working
  rw [hsame]
  exact hworking.record (by decide)

/-- A round keeps the invariant if the script goes on, and its tables are attributed exactly
under the condition. -/
theorem insertPrepared_spec (hinv : GenesisInv t₀ s) (hrunning : s.phase = .running)
    (hworking : Attributed t₀ s.history s.session.working)
    (hready : prepareAnime settings s v = .ready anime title g) :
    ((insertPrepared settings s v anime title g).Live →
        GenesisInv t₀ (insertPrepared settings s v anime title g)) ∧
      (GenresAttributed t₀ (insertPrepared settings s v anime title g) ↔
        KeepsGenresApart settings s (.visit v)) := by
  obtain ⟨_, _, hg, hcollects⟩ := prepareAnime_ready hinv.genre hready
  have hinvGenres := hinv.collect hg hcollects
  have hattributed : Attributed t₀ s.history g.session.working :=
    hworking.collect hinv hcollects
  have hcondition : KeepsGenresApart settings s (.visit v) ↔
      match ((animeStatements s.animeId anime title g.genresToAdd v.forumId).map
          (answered v.refuses)).foldlM (fun t statement => statement t) g.session.working with
      | .ok _ => ∀ genreId ∈ s.genresToAdd, s.session.working.GenreAmong anime.genres genreId
      | .error .connection => True
      | .error (.other _) =>
          s.session.savepoints.lookup s.latestValidCheckpoint ≠ none ∧
            ∀ genre ∈ anime.genres, genre ∈ s.session.working.genres.map GenreRow.name := by
    constructor
    · exact fun h => h anime title g hready
    · intro h anime' title' g' hready'
      obtain ⟨rfl, rfl, rfl⟩ := Prepared.ready.inj (hready.symm.trans hready')
      exact h
  rw [hcondition]
  rcases SqlSession.executeAll_cases (s := g.session) (.other .databaseError)
    ((animeStatements s.animeId anime title g.genresToAdd v.forumId).map (answered v.refuses))
    hg.notFailed with ⟨t, hfold, hexecuted⟩ | ⟨e, t, hfold, hexecuted⟩
  · obtain ⟨hinvInserted, hiff⟩ := insertPrepared_ok hinv hworking hready hfold
    rw [insertPrepared, hexecuted, hfold]
    exact ⟨fun _ => hinvInserted, hiff⟩
  · rw [insertPrepared, hexecuted, hfold]
    cases e with
    | connection =>
        refine ⟨fun hlive => ?_, iff_of_true (genresAttributed_of_left (.inl rfl) ?_) trivial⟩
        · rcases hlive with hphase | hphase <;> cases hphase
        · exact (hinvGenres.committed hattributed).record (by decide)
    | other exn =>
        simp only []
        rw [← hcollects.lookup_ne_none_iff]
        cases hroll : SqlSession.rollbackTo s.latestValidCheckpoint
            { g.session with working := t, failed := true } with
        | some session =>
            obtain ⟨hinvRolled, hrolled⟩ := rolledBack_spec hinvGenres hrunning hattributed
              v.response rfl rfl hroll
            refine ⟨fun _ => hinvRolled, iff_of_true hrolled ?_⟩
            rw [(SqlSession.rollbackTo_eq_some hroll).1]
            exact Option.some_ne_none _
        | none =>
            refine ⟨fun hlive => ?_, iff_of_false (fun h => h.rolledBack rfl) ?_⟩
            · rcases hlive with hphase | hphase <;> cases hphase
            · exact not_not.mpr (SqlSession.rollbackTo_eq_none_iff.mp hroll)

/-- A round, wherever it ends. -/
theorem visitAnime_spec (hinv : GenesisInv t₀ s) (hrunning : s.phase = .running)
    (hattributed : GenresAttributed t₀ s) :
    ((visitAnime settings s v).Live → GenesisInv t₀ (visitAnime settings s v)) ∧
      (GenresAttributed t₀ (visitAnime settings s v) ↔
        KeepsGenresApart settings s (.visit v)) := by
  have hworking := hattributed.of_live (.inl hrunning)
  cases hprepared : prepareAnime settings s v with
  | ended s' =>
      obtain ⟨hinv', hattributed'⟩ := prepareAnime_ended hinv hrunning hworking hprepared
      rw [visitAnime, hprepared]
      refine ⟨hinv', iff_of_true hattributed' fun anime title g hready => ?_⟩
      rw [hprepared] at hready
      cases hready
  | ready anime title g =>
      rw [visitAnime, hprepared]
      exact insertPrepared_spec hinv hrunning hworking hprepared

/-- The owners of the forums leave the animes alone. -/
theorem insertOwners_ok {refuses : Int → Option Exn} {forumIds : List Int}
    (h : (forumIds.map (insertOwner refuses)).foldlM (fun t statement => statement t) t =
      .ok t') :
    t'.animes = t.animes ∧ (∀ animeId, t'.rowsOf animeId = t.rowsOf animeId) ∧
      t'.genres = t.genres := by
  induction forumIds generalizing t with
  | nil =>
      cases h
      exact ⟨rfl, fun _ => rfl, rfl⟩
  | cons forumId forumIds ih =>
      rw [List.map_cons, List.foldlM_cons] at h
      obtain ⟨next, hfirst, hrest⟩ := except_bind_eq_ok h
      obtain ⟨hanimes, hrows, hgenres⟩ := ih hrest
      cases hrefused : refuses forumId with
      | some e =>
          rw [insertOwner, hrefused] at hfirst
          cases hfirst
      | none =>
          rw [insertOwner, hrefused] at hfirst
          obtain ⟨hanimesFirst, hrowsFirst, hgenresFirst⟩ := insertForumAdmin_ok hfirst
          exact ⟨hanimes.trans hanimesFirst,
            fun animeId => (hrows animeId).trans (hrowsFirst animeId),
            hgenres.trans hgenresFirst⟩

/-- What comes behind the loop commits what the loop has done, and counts it. -/
theorem finishGenesis_spec (hinv : GenesisInv t₀ s)
    (hworking : Attributed t₀ s.history s.session.working) (refuses : Int → Option Exn) :
    ¬ (finishGenesis s refuses).Live ∧ GenresAttributed t₀ (finishGenesis s refuses) := by
  have hcommit := SqlSession.commit_of_not_failed hinv.genre.notFailed
  rcases SqlSession.executeAll_cases (s := s.session.commit) Exn.databaseError
    (s.forumsCreated.map (insertOwner refuses)) (by rw [hcommit]; rfl) with
    ⟨t, hfold, hexecuted⟩ | ⟨e, t, _, hexecuted⟩
  · rw [finishGenesis, hexecuted]
    have hworkingCommit : s.session.commit.working = s.session.working := by
      rw [hcommit]
      rfl
    obtain ⟨hanimes, hrows, hgenres⟩ := insertOwners_ok hfold
    rw [hworkingCommit] at hanimes hrows hgenres
    -- what is left in the database when the number of animes is returned
    have hfinal : ({ s.session.commit with working := t } :
        SqlSession GenesisTables ℕ).commit.committed = t := by
      rw [hcommit]
      rfl
    refine ⟨?_, ?_, fun n hreturned => ?_, ?_⟩
    · rintro (hphase | hphase) <;> cases hphase
    · refine hfinal.symm ▸ ?_
      exact hworking.transfer (fun animeId => .inl (hrows animeId))
        (fun _ _ _ => genreAmong_congr hgenres _) hinv.new
    · cases hreturned
      refine (congrArg (fun t => t.animes.length) hfinal).trans ?_
      exact (congrArg List.length hanimes).trans hinv.counted
    · intro hphase
      cases hphase
  · rw [finishGenesis, hexecuted]
    refine ⟨?_, genresAttributed_of_left (.inr ⟨e, rfl⟩) ?_⟩
    · rintro (hphase | hphase) <;> cases hphase
    · show Attributed t₀ s.history s.session.commit.committed
      rw [hcommit]
      exact hworking

/-- The head of the loop for the first time. -/
theorem genesisStart_spec (t₀ : GenesisTables) :
    GenesisInv t₀ (genesisStart t₀) ∧ GenresAttributed t₀ (genesisStart t₀) := by
  have hkeys : (t₀.genres.map fun row => (row.name, row.id)).map Prod.fst =
      t₀.genres.map GenreRow.name := by
    rw [List.map_map]
    rfl
  have hnodup := hkeys ▸ t₀.names_nodup
  have hnone : ∀ r ∈ (genesisStart t₀).history, False := fun r hr => by cases hr
  refine ⟨⟨⟨rfl, fun name genreId => ?_, rfl⟩, fun saved hlookup => ?_, ?_, ?_, ?_, ?_, rfl,
    fun genreId hmem => ?_, fun _ => .inl rfl⟩, genresAttributed_of_live (.inl rfl) ⟨?_, ?_⟩⟩
  · show (dictOf _).lookup name = some genreId ↔ _ ∈ t₀.genres
    rw [dictOf_eq_self hnodup, lookup_eq_some_iff_mem hnodup, List.mem_map]
    constructor
    · rintro ⟨row, hrow, hpair⟩
      cases hpair
      exact hrow
    · exact fun hrow => ⟨_, hrow, rfl⟩
  · exact (Option.some.inj ((SqlSession.lookup_savepoint 1).symm.trans hlookup)).symm
  · exact fun r hr => (hnone r hr).elim
  · exact fun r hr => (hnone r hr).elim
  · exact fun r hr => (hnone r hr).elim
  · exact fun _ _ => rfl
  · cases hmem
  · exact fun r hr => (hnone r hr).elim
  · exact fun _ _ => rfl

/-- One step. -/
theorem genesisStep_spec {label : GenesisLabel} (hinv : s.Live → GenesisInv t₀ s)
    (hattributed : GenresAttributed t₀ s) (hstep : genesisStep settings s label = some s') :
    (s'.Live → GenesisInv t₀ s') ∧
      (GenresAttributed t₀ s' ↔ KeepsGenresApart settings s label) := by
  cases label with
  | visit v =>
      simp only [genesisStep] at hstep
      split at hstep
      · rename_i hrunning
        split at hstep
        · cases hstep
          exact visitAnime_spec (hinv (.inl hrunning)) hrunning hattributed
        · cases hstep
      · cases hstep
  | finish refuses =>
      have hfinish : s.Live → s' = finishGenesis s refuses → (s'.Live → GenesisInv t₀ s') ∧
          (GenresAttributed t₀ s' ↔ KeepsGenresApart settings s (.finish refuses)) := by
        rintro hlive rfl
        obtain ⟨hended, hattributed'⟩ :=
          finishGenesis_spec (hinv hlive) (hattributed.of_live hlive) refuses
        exact ⟨fun hlive' => absurd hlive' hended, iff_of_true hattributed' trivial⟩
      simp only [genesisStep] at hstep
      split at hstep
      · rename_i hrunning
        split at hstep
        · cases hstep
        · exact hfinish (.inl hrunning) (Option.some.inj hstep).symm
      · rename_i hstopped
        exact hfinish (.inr hstopped) (Option.some.inj hstep).symm
      · cases hstep

/-- In every run of the script, whatever the tables hold and the API and the database answer,
each anime has its own genres in every state if and only if in each round nothing is left for
the wrong anime and there is a savepoint for an insertion that fails. -/
theorem genesis_attributes_iff (settings : GenesisSettings) (t₀ : GenesisTables)
    (labels : List GenesisLabel) :
    Always (genesisStep settings) (GenresAttributed t₀) (genesisStart t₀) labels ↔
      EachStep (genesisStep settings) (KeepsGenresApart settings) (genesisStart t₀) labels := by
  obtain ⟨hinv, hattributed⟩ := genesisStart_spec t₀
  refine always_iff_eachStep (I := fun s => s.Live → GenesisInv t₀ s) ?_ ?_ ?_ labels
    (genesisStart t₀) (fun _ => hinv) hattributed
  · intro s label s' hI hQ hstep
    exact (genesisStep_spec hI hQ hstep).1
  · intro s label s' hI hQ hstep hkeeps
    exact (genesisStep_spec hI hQ hstep).2.mpr hkeeps
  · intro s label s' hI hQ hstep hkeeps hattributed'
    exact hkeeps ((genesisStep_spec hI hQ hstep).2.mp hattributed')

end

/-- Two genres, and no anime yet. -/
def twoGenres : GenesisTables where
  genres := [⟨1, "Action"⟩, ⟨2, "Comedy"⟩]
  animes := []
  animeGenres := []
  streamLinks := []
  subscriptions := []
  forums := []
  forumAdmins := []
  genres_nodup := by decide
  names_nodup := by decide
  animes_nodup := by decide
  titles_nodup := by decide
  animeGenres_nodup := by decide
  streamLinks_nodup := by decide
  subscriptions_nodup := by decide
  forums_nodup := by decide
  forumAdmins_nodup := by decide
  animeGenres_anime := by simp
  animeGenres_genre := by simp
  streamLinks_anime := by simp
  forums_anime := by simp
  forumAdmins_forum := by simp

/-- A round in which nothing is refused. -/
def visitTitled (title : String) (genres : List String) : GenesisVisit where
  response := .data ⟨[title], some "synopsis", [], genres⟩
  newGenre := fun _ => .error .databaseError
  refuses := fun _ => none
  forumId := 1

/-- The genre of an anime that is excluded goes to the next anime. -/
theorem excluded_genre_leaks :
    ¬ Always (genesisStep ⟨1, some 2, ["Hentai"]⟩) (GenresAttributed twoGenres)
      (genesisStart twoGenres)
      [.visit (visitTitled "First" ["Action", "Hentai"]),
        .visit (visitTitled "Second" ["Comedy"])] := by
  intro h
  have hsecond := ((h.2 _ rfl).2 _ rfl).attributed.linked
    ⟨2, (visitTitled "Second" ["Comedy"]).response, .inserted⟩
    (List.mem_append_right _ (List.mem_singleton_self _)) rfl (by decide) 1
  obtain ⟨row, hrow, hname, hid⟩ := hsecond.mp (by decide)
  have hgenres : row ∈ twoGenres.genres := hrow
  simp only [twoGenres, List.mem_cons, List.not_mem_nil, or_false] at hgenres
  rcases hgenres with rfl | rfl
  · exact absurd hname (by decide)
  · exact absurd hid (by decide)

end ResourceServer
end Tenjin
