import Tenjin.ResourceServer.IntentLifecycle
import Tenjin.ResourceServer.PageExpiry
import Tenjin.ResourceServer.RepositoryReads

/-!
# Reads after a deletion

A worker sets the flag of a deleted post, comment or forum, commits, and carries out the
side effects of the event.  From then on nothing should return the resource: not the
queries of the repositories, and not the cache, whatever was cached and promoted before.

* A call of `distributed_get_or_load` is split into its first read, its write as the leader
  and its read as a follower; what it does to times to live comes as a step of its own, at
  whatever time and with whatever it has observed.
* `runOnStore_batch` — the events that the endpoints emit name no cache entry, so their side
  effects leave the cache as it is.
* `Invisible` is the purpose, for one step.  `StaysHidden` is the condition on the state in
  front of a read: `eachStep_invisible_iff`.
* As the results are, no page read and no leader returns a row: `not_returns_leader`,
  `not_returns_page`.
-/

namespace Tenjin
namespace ResourceServer

open Python Foundation ResourceAuxillary

/-- The key that `derive_cache_key` makes for the resource. -/
def Resource.key (r : Resource) : String :=
  match r.kind with
  | .post => (ReadSite.post r.id).key
  | .comment => (ReadSite.comment r.id).key
  | .forum => (ReadSite.forum r.id).key

/-- The event of a deletion as a worker reads it, with the rows that the worker deletes for
it.  It names no cache entry. -/
structure DeletionEvent where
  event : StreamedEvent
  resources : List Resource
  cacheInvalidations_eq : event.sideEffects.cacheInvalidations = []

/-- The event that a guarded endpoint has emitted. -/
def DeletionEvent.ofEndpoint (endpoint : Endpoint) {request : Request} {reads : Reads}
    {guarded : Guarded} {latestIntent : Option String} {stream : StreamName} {event : Event}
    (hprepare : (endpoint.handler request reads).prepare = .ok guarded)
    (hbody : guarded.body latestIntent = .ok (stream, event))
    (eventId : Int) (resources : List Resource) : DeletionEvent where
  event := { toEvent := event, eventId := eventId }
  resources := resources
  cacheInvalidations_eq := emits_cacheInvalidations endpoint hprepare hbody

/-- The event of `delete_forum`, which has no side effects. -/
def DeletionEvent.ofForum (forumId eventId : Int) (resources : List Resource) :
    DeletionEvent where
  event :=
    { name := .forumDelete
      payload := [("forum_id", .int forumId)]
      sideEffects := {}
      eventId := eventId }
  resources := resources
  cacheInvalidations_eq := rfl

/-- What a command of a worker does to the cache.  Counters, intents and streams are under
other keys. -/
def commandOnStore (command : Command) (store : Store) : Store :=
  match command with
  | .delete key => store.put key none
  | .hsetNotFound key => ((PageCommand.hset key [("__NF__", "NF")]).run store).1
  | .expire key seconds => ((PageCommand.expire key (1000 * seconds)).run store).1
  | .setNotFound key seconds =>
      (execute store [.set key notFoundText, .expire key (1000 * seconds)]).1
  | _ => store

/-- The commands of a transaction, one after the other. -/
def runOnStore (log : CommandLog) (store : Store) : Store :=
  log.foldl (fun store entry => commandOnStore entry.2 store) store

/-- The cache, the tables, and the resources whose deletion has been committed with its side
effects emitted. -/
structure ReadState where
  store : Store
  tables : ResourceTables
  gone : List Resource

/-- Before any of the run's deletions. -/
def ReadState.start (store : Store) (tables : ResourceTables) : ReadState :=
  ⟨store, tables, []⟩

/-- What happens. -/
inductive ReadLabel (pagination : PaginationSettings)
  /-- A worker deletes the rows of a batch and commits. -/
  | commit (events : List DeletionEvent)
  /-- It acknowledges the batch and emits the side effects. -/
  | emit (events : List DeletionEvent) (streamName : StreamName) (groupName : String)
  | query (query : RepositoryQuery pagination)
  | fetch (dtype : FetchDtype) (r : Resource)
  /-- A leader; `row` is what its query has found, at whatever time. -/
  | lead (dtype : FetchDtype) (r : Resource) (row : Option Row)
  | follow (dtype : FetchDtype) (r : Resource)
  | readPage (dtype : FetchDtype) (kind : ResourceKind) (pageKey : String)
  | leadPage (kind : ResourceKind) (pageKey : String) (rows : List (Int × Row))
  | followPage (dtype : FetchDtype) (kind : ResourceKind) (pageKey : String)
      (nextCursor : Reply)
  | promote (key : String) (ttl : Int)
  | promotePage (pageKey : String) (pageTtl : Int) (memberKeys : List String)
      (memberTtls : List Int)
  /-- `check_negative_entry`. -/
  | markMissing (dtype : FetchDtype) (key : String)
  | editPost (postId : Int) (post : Dto) (row : Row)
  | insert (row : NewRow)
  | amend (r : Resource) (row : Row)
  | subscribe (subscriptions : List SubscriptionRow)
  /-- What the calls for other resources write, and what is evicted. -/
  | put (key : String) (slot : Option Slot)
  | elapse (ms : ℕ)

section
variable (config : CacheConfig) (pending : String → String → Option Int)

/-- `hset_with_ttl`. -/
def hsetWithTtl (store : Store) (key : String) (items : List (String × String))
    (seconds : ℕ) : Store × Option Exn :=
  execute store [.hset key items, .expire key (1000 * seconds)]

/-- `set_negative_mapping` and `set_negative_string`. -/
def setNegativeEntry (dtype : FetchDtype) (store : Store) (key : String) : Store × Option Exn :=
  match dtype with
  | .mapping => hsetWithTtl store key (sentinelItems config.toPageSettings) config.ttlEphemeral
  | .string => execute store
      [.set key config.nfSentinelKey, .expire key (1000 * config.ttlEphemeral)]

/-- The result of a write. -/
def afterWrite {α : Type} (a : α) : Store × Option Exn → Store × Except Exn α
  | (store, some e) => (store, .error e)
  | (store, none) => (store, .ok a)

/-- A call that is answered by what it reads first; `none` goes on to the election. -/
def fetchAnswer (dtype : FetchDtype) (store : Store) (r : Resource) :
    Option (Except Exn (Option Dto)) :=
  match entryAt store r.key with
  | .error e => some (.error e)
  | .ok entry => cachedResult config.toCacheSettings dtype r.kind.resultType.counterFieldsMap
      (fun name => pending name r.key) r.kind.resultType entry

/-- A follower that finds the lock released. -/
def followAnswer (dtype : FetchDtype) (store : Store) (r : Resource) :
    Option (Except Exn (Option Dto)) :=
  match entryAt store r.key with
  | .error e => some (.error e)
  | .ok entry => followerResult config.toCacheSettings dtype r.kind.resultType.counterFieldsMap
      (fun name => pending name r.key) r.kind.resultType entry

/-- The leader. -/
def leadAnswer (dtype : FetchDtype) (store : Store) (r : Resource) (row : Option Row) :
    Store × Except Exn (Option Dto) :=
  match row with
  | none => afterWrite none (setNegativeEntry config dtype store r.key)
  | some row =>
      match constructFromOrm config.toResultRuntime r.kind.resultType row with
      | .error e => (store, .error e)
      | .ok dto =>
          match storedItems r.kind.resultType dto with
          | .error e => (store, .error e)
          | .ok items => afterWrite (some dto) (hsetWithTtl store r.key items config.ttlStrong)

/-- The leader of a page. -/
def leadPageAnswer (store : Store) (kind : ResourceKind) (pageKey : String)
    (rows : List (Int × Row)) : Store × Except Exn PageAnswer :=
  leaderPage config.millis kind.resultType "id_" store pageKey
    (rows.mapM fun row => constructFromOrm config.toResultRuntime kind.resultType row.2)

/-- The write-through of `edit_post`. -/
def editedStore (store : Store) (postId : Int) (post : Dto) : Store :=
  match storedItems .postResult post with
  | .error _ => store
  | .ok items => (hsetWithTtl store (ReadSite.post postId).key items config.ttlStrong).1

variable {pagination : PaginationSettings}

/-- One step.  A worker emits the side effects of what it has committed. -/
def readStep (s : ReadState) : ReadLabel pagination → Option ReadState
  | .commit events =>
      some { s with tables := s.tables.delete (events.flatMap DeletionEvent.resources) }
  | .emit events streamName groupName =>
      if ∀ r ∈ events.flatMap DeletionEvent.resources, s.tables.Deleted r then
        some { s with
          store := runOnStore (atomicAckAndEmitSideEffects (events.map DeletionEvent.event)
            streamName groupName) s.store
          gone := s.gone ++ events.flatMap DeletionEvent.resources }
      else none
  | .query _ => some s
  | .fetch _ _ => some s
  | .lead dtype r row => some { s with store := (leadAnswer config dtype s.store r row).1 }
  | .follow _ _ => some s
  | .readPage _ _ _ => some s
  | .leadPage kind pageKey rows =>
      some { s with store := (leadPageAnswer config s.store kind pageKey rows).1 }
  | .followPage _ _ _ _ => some s
  | .promote key ttl =>
      some { s with store := ((PageCommand.expire key (config.promoted ttl)).run s.store).1 }
  | .promotePage pageKey pageTtl memberKeys memberTtls =>
      some { s with
        store := (promotePaginatedResult config s.store pageKey pageTtl memberKeys memberTtls).1 }
  | .markMissing dtype key => some { s with store := (setNegativeEntry config dtype s.store key).1 }
  | .editPost postId post row =>
      some { s with
        store := editedStore config s.store postId post
        tables := s.tables.amend ⟨.post, postId⟩ row }
  | .insert row => (s.tables.insert row).map fun tables => { s with tables := tables }
  | .amend r row => some { s with tables := s.tables.amend r row }
  | .subscribe subscriptions =>
      some { s with tables := { s.tables with subscriptions := subscriptions } }
  | .put key slot => some { s with store := s.store.put key slot }
  | .elapse ms => some { s with store := elapse ms s.store }

variable (orderArgument : OrderArgument) (ilike : (value pattern : String) → Bool)

/-- The read hands out a result of the resource; a page does so if the resource is one of
its members and any of its items is a result. -/
def ReadState.Returns (s : ReadState) (r : Resource) : ReadLabel pagination → Prop
  | .query query =>
      query.Returns config.toResultRuntime orderArgument ilike pagination s.tables r
  | .fetch dtype asked =>
      asked = r ∧ ∃ dto, fetchAnswer config pending dtype s.store r = some (.ok (some dto))
  | .lead dtype asked row =>
      asked = r ∧ ∃ dto, (leadAnswer config dtype s.store r row).2 = .ok (some dto)
  | .follow dtype asked =>
      asked = r ∧ ∃ dto, followAnswer config pending dtype s.store r = some (.ok (some dto))
  | .readPage dtype kind pageKey =>
      r.kind = kind ∧ ∃ items answer dto, lrange s.store pageKey = .ok items ∧
        toString r.id ∈ items.dropLast ∧
        cachedPage config.toPageSettings dtype pending kind.resultType s.store pageKey =
          some (.ok answer) ∧ some dto ∈ answer.1
  | .leadPage kind pageKey rows =>
      r.kind = kind ∧ r.id ∈ rows.map Prod.fst ∧ ∃ answer dto,
        (leadPageAnswer config s.store kind pageKey rows).2 = .ok answer ∧ some dto ∈ answer.1
  | .followPage dtype kind pageKey nextCursor =>
      r.kind = kind ∧ ∃ items answer dto, lrange s.store pageKey = .ok items ∧
        toString r.id ∈ items.dropLast ∧
        followerPage config.toPageSettings dtype pending kind.resultType s.store pageKey
          nextCursor = some (.ok answer) ∧ some dto ∈ answer.1
  | _ => False

/-- A read returns nothing that is gone. -/
def Invisible (s : ReadState) (label : ReadLabel pagination) : Prop :=
  ∀ r ∈ s.gone, ¬ s.Returns config pending orderArgument ilike r label

/-- What the client reads under a key; `none` is a miss, or an error. -/
def readMapping (dtype : FetchDtype) (store : Store) (key : String) : Option CacheMapping :=
  match dtype, store key with
  | .mapping, some ⟨.hash items, _⟩ =>
      if items.isEmpty then none else some (hashReply config.decodeResponses items)
  | .string, some ⟨.text text, _⟩ =>
      if text.isEmpty then none else (loadsMapping config.toResultRuntime text).toOption
  | _, _ => none

/-- A result can be made of the mapping: a post goes through `super()`, and its author's
name is looked up. -/
def Revives (kind : ResourceKind) (mapping : CacheMapping) : Prop :=
  kind = .post → config.slotsSuper = true ∧ mapping.contains "author_username" = true

/-- Nothing is stored under the key of a resource that is gone which a result can be made
of; for the first read of a call the sentinel is nothing.  A query spares what is gone. -/
def StaysHidden (s : ReadState) : ReadLabel pagination → Prop
  | .query query =>
      query.Spares config.toResultRuntime orderArgument ilike pagination s.tables s.gone
  | .fetch dtype r =>
      r ∈ s.gone → ∀ mapping, readMapping config dtype s.store r.key = some mapping →
        mapping.isEmpty = true ∨ mapping.contains config.nfSentinelKey = true ∨
          ¬ Revives config r.kind mapping
  | .follow dtype r =>
      r ∈ s.gone → ∀ mapping, readMapping config dtype s.store r.key = some mapping →
        ¬ Revives config r.kind mapping
  | _ => True

end

section
variable {config : CacheConfig} {pending : String → String → Option Int}
  {pagination : PaginationSettings} {orderArgument : OrderArgument}
  {ilike : (value pattern : String) → Bool} {s s' : ReadState} {store : Store} {r : Resource}
  {dtype : FetchDtype} {kind : ResourceKind} {pageKey : String}

/-- The side effects of a batch whose events name no cache entry leave the cache alone. -/
theorem runOnStore_batch {events : List StreamedEvent}
    (hnone : ∀ event ∈ events, event.sideEffects.cacheInvalidations = [])
    (streamName : StreamName) (groupName : String) :
    runOnStore (atomicAckAndEmitSideEffects events streamName groupName) store = store := by
  have hlog : ∀ log : CommandLog, (∀ entry ∈ log, commandOnStore entry.2 store = store) →
      runOnStore log store = store := by
    intro log
    induction log with
    | nil => exact fun _ => rfl
    | cons entry log ih =>
        intro hall
        rw [runOnStore, List.foldl_cons, hall entry (List.mem_cons_self ..)]
        exact ih fun e he => hall e (List.mem_cons_of_mem _ he)
  refine hlog _ fun entry hentry => ?_
  rcases batch_command_cases hnone hentry with ⟨_, h⟩ | ⟨_, _, h⟩ | ⟨_, _, _, h⟩
  all_goals
    rw [h]
    rfl

/-- So what is cached when a deletion is committed is still cached when its side effects
have been emitted. -/
theorem readStep_emit {events : List DeletionEvent} (streamName : StreamName)
    (groupName : String)
    (hcommitted : ∀ r ∈ events.flatMap DeletionEvent.resources, s.tables.Deleted r) :
    readStep config s (.emit events streamName groupName : ReadLabel pagination) =
      some ⟨s.store, s.tables, s.gone ++ events.flatMap DeletionEvent.resources⟩ := by
  have hnone : ∀ event ∈ events.map DeletionEvent.event,
      event.sideEffects.cacheInvalidations = [] := by
    intro event hevent
    obtain ⟨e, _, rfl⟩ := List.mem_map.mp hevent
    exact e.cacheInvalidations_eq
  rw [readStep, if_pos hcommitted, runOnStore_batch hnone]

/-- Where a result is made of a mapping. -/
theorem constructFromCache_isOk_iff (kind : ResourceKind) (mapping : CacheMapping) :
    (∃ dto, constructFromCache config.toResultRuntime kind.resultType mapping = .ok dto) ↔
      Revives config kind mapping := by
  cases kind with
  | comment | forum => exact iff_of_true ⟨_, rfl⟩ nofun
  | post =>
      simp only [Revives, true_implies, ResourceKind.resultType, constructFromCache,
        superMethod, CacheMapping.item, CacheMapping.contains]
      cases hsuper : config.slotsSuper with
      | false => simp [bind, Except.bind]
      | true =>
          cases List.lookup (Reply.str "author_username") mapping <;>
            simp [bind, Except.bind]

/-- The counters have no part in what is read: the results declare no counter fields. -/
theorem primitive_eq_ok_iff {mapping : CacheMapping} (counters : String → Option Int) :
    (∃ entry, entryAt store r.key = .ok entry ∧ primitiveGetFromCache config.toCacheSettings dtype
        r.kind.resultType.counterFieldsMap counters entry = .ok (some mapping)) ↔
      readMapping config dtype store r.key = some mapping := by
  have hcounters : ∀ m : CacheMapping,
      addCounters counters r.kind.resultType.counterFieldsMap m = .ok m := fun _ => rfl
  cases hslot : store r.key with
  | none => cases dtype <;> simp [entryAt, hslot, primitiveGetFromCache, readMapping]
  | some slot =>
      obtain ⟨value, ttl⟩ := slot
      cases value with
      | list items => cases dtype <;> simp [entryAt, hslot, readMapping]
      | hash items =>
          cases dtype with
          | string => simp [entryAt, hslot, primitiveGetFromCache, readMapping]
          | mapping =>
              simp only [entryAt, hslot, Except.ok.injEq, exists_eq_left',
                primitiveGetFromCache, readMapping, hcounters, Except.map]
              split <;> simp
      | text text =>
          cases dtype with
          | mapping => simp [entryAt, hslot, primitiveGetFromCache, readMapping]
          | string =>
              simp only [entryAt, hslot, Except.ok.injEq, exists_eq_left',
                primitiveGetFromCache, readMapping]
              split
              · simp
              · cases loadsMapping config.toResultRuntime text with
                | error e => simp [bind, Except.bind, Except.map, Except.toOption]
                | ok m => simp [bind, Except.bind, Except.map, Except.toOption, hcounters]

theorem map_some_isOk_iff {ε α : Type} {x : Except ε α} :
    (∃ a, x.map some = .ok (some a)) ↔ ∃ a, x = .ok a := by
  cases x <;> simp [Except.map]

/-- A call is answered with a result by what it reads first. -/
theorem cachedResult_some_iff {type : ResultType} {counters : String → Option Int}
    {entry : Option CacheEntry} :
    (∃ dto, cachedResult config.toCacheSettings dtype type.counterFieldsMap counters type entry =
        some (.ok (some dto))) ↔
      ∃ mapping, primitiveGetFromCache config.toCacheSettings dtype type.counterFieldsMap
          counters entry = .ok (some mapping) ∧
        mapping.isEmpty = false ∧ mapping.contains config.nfSentinelKey = false ∧
        ∃ dto, constructFromCache config.toResultRuntime type mapping = .ok dto := by
  simp only [cachedResult, fetchFromCache]
  cases primitiveGetFromCache config.toCacheSettings dtype type.counterFieldsMap counters
      entry with
  | error e => simp
  | ok found =>
      cases found with
      | none => simp
      | some mapping =>
          simp only [Except.ok.injEq, Option.some.injEq, exists_eq_left', foundOutcome]
          cases hsentinel : mapping.contains config.nfSentinelKey with
          | true => cases dtype <;> cases hempty : mapping.isEmpty <;> simp [hsentinel, hempty]
          | false =>
              cases hempty : mapping.isEmpty with
              | true => simp [hempty]
              | false =>
                  simp only [hempty, hsentinel, Bool.false_eq_true, and_false, if_false,
                    Option.some.injEq, map_some_isOk_iff, true_and]

theorem returns_fetch_iff {asked : Resource} :
    s.Returns config pending orderArgument ilike r
        (.fetch dtype asked : ReadLabel pagination) ↔
      asked = r ∧ ∃ mapping, readMapping config dtype s.store asked.key = some mapping ∧
        mapping.isEmpty = false ∧ mapping.contains config.nfSentinelKey = false ∧
        Revives config asked.kind mapping := by
  simp only [ReadState.Returns, fetchAnswer, ← constructFromCache_isOk_iff,
    ← primitive_eq_ok_iff fun name => pending name asked.key]
  refine and_congr_right ?_
  rintro rfl
  cases entryAt s.store asked.key with
  | error e => simp
  | ok entry =>
      simp only [Except.ok.injEq, exists_eq_left']
      exact cachedResult_some_iff

theorem returns_follow_iff {asked : Resource} :
    s.Returns config pending orderArgument ilike r
        (.follow dtype asked : ReadLabel pagination) ↔
      asked = r ∧ ∃ mapping, readMapping config dtype s.store asked.key = some mapping ∧
        Revives config asked.kind mapping := by
  simp only [ReadState.Returns, followAnswer, ← constructFromCache_isOk_iff,
    ← primitive_eq_ok_iff fun name => pending name asked.key]
  refine and_congr_right ?_
  rintro rfl
  cases entryAt s.store asked.key with
  | error e => simp
  | ok entry =>
      simp only [Except.ok.injEq, exists_eq_left', followerResult]
      cases primitiveGetFromCache config.toCacheSettings dtype
          asked.kind.resultType.counterFieldsMap (fun name => pending name asked.key) entry with
      | error e => simp
      | ok found =>
          cases found with
          | none => simp
          | some mapping =>
              simp only [Option.some.injEq, Except.ok.injEq, exists_eq_left', map_some_isOk_iff]

/-- No leader returns a row: the result has no identifier, so it cannot be cached. -/
theorem not_returns_leader {asked : Resource} {row : Option Row} :
    ¬ s.Returns config pending orderArgument ilike r
      (.lead dtype asked row : ReadLabel pagination) := by
  rintro ⟨rfl, dto, hanswer⟩
  unfold leadAnswer at hanswer
  split at hanswer
  · -- the sentinel
    unfold afterWrite at hanswer
    split at hanswer <;> cases hanswer
  · split at hanswer
    · cases hanswer
    · rename_i made hmade
      split at hanswer
      · cases hanswer
      · rename_i items hitems
        obtain ⟨mapping, hrepr, _⟩ := except_bind_eq_ok hitems
        have htype : asked.kind.resultType ≠ .forumAdminResult := by
          cases asked.kind <;> nofun
        exact cacheRepr_of_constructFromOrm hmade htype mapping hrepr

/-- And no page: the leader's members have no identifier, and of a cached page nothing but
missing members comes back. -/
theorem not_returns_page {label : ReadLabel pagination}
    (hlabel : (∃ dtype kind pageKey, label = .readPage dtype kind pageKey) ∨
      (∃ kind pageKey rows, label = .leadPage kind pageKey rows) ∨
      ∃ dtype kind pageKey nextCursor, label = .followPage dtype kind pageKey nextCursor) :
    ¬ s.Returns config pending orderArgument ilike r label := by
  rcases hlabel with ⟨dtype, kind, pageKey, rfl⟩ | ⟨kind, pageKey, rows, rfl⟩ |
    ⟨dtype, kind, pageKey, nextCursor, rfl⟩
  · rintro ⟨_, _, answer, _, _, _, hanswer, _⟩
    exact not_cachedPage answer hanswer
  · rintro ⟨_, _, answer, dto, hanswer, hdto⟩
    unfold leadPageAnswer leaderPage at hanswer
    split at hanswer
    · cases hanswer
    · rename_i results hresults
      have hunmade : ∀ dto ∈ results, dto.getattr "id_" = .error .attributeError := by
        intro dto hdto
        obtain ⟨row, _, hmade⟩ := exists_of_mem_mapM hresults hdto
        exact getattr_id_of_constructFromOrm hmade
      cases results with
      | nil =>
          split at hanswer
          · cases hanswer
          · split at hanswer <;> cases hanswer
            cases hdto
      | cons first rest =>
          -- the first result has no key to be cached under
          have hfirst := hunmade first (List.mem_cons_self ..)
          simp [leaderMembers, resultDict, List.foldlM_cons, hfirst, bind, Except.bind] at hanswer
  · rintro ⟨_, _, answer, dto, _, _, hanswer, hdto⟩
    unfold followerPage at hanswer
    split at hanswer
    · cases hanswer
    · rename_i read hread
      split at hanswer
      · cases hanswer
      · cases hitems : read.entries.mapM (constructEntry config.toPageSettings kind.resultType) with
        | error e => simp [hitems, Except.map] at hanswer
        | ok items =>
            simp only [hitems, Except.map, Option.some.injEq, Except.ok.injEq] at hanswer
            rw [← hanswer] at hdto
            cases item_eq_none hread hitems _ hdto

end

/-- What is gone keeps the flag in its row. -/
def ReadState.GoneDeleted (s : ReadState) : Prop := ∀ r ∈ s.gone, s.tables.Deleted r

section
variable {config : CacheConfig} {pending : String → String → Option Int}
  {pagination : PaginationSettings} {orderArgument : OrderArgument}
  {ilike : (value pattern : String) → Bool} {s s' : ReadState}
  {label : ReadLabel pagination}

/-- No statement of the run takes the flag back. -/
theorem ReadState.GoneDeleted.step (h : s.GoneDeleted)
    (hstep : readStep config s label = some s') : s'.GoneDeleted := by
  cases label with
  | commit events =>
      cases hstep
      exact fun r hr => (h r hr).delete _
  | emit events streamName groupName =>
      simp only [readStep] at hstep
      split at hstep
      · rename_i hcommitted
        cases hstep
        intro r hr
        rcases List.mem_append.mp hr with hr | hr
        · exact h r hr
        · exact hcommitted r hr
      · cases hstep
  | insert row =>
      obtain ⟨tables, hinsert, rfl⟩ := Option.map_eq_some_iff.mp hstep
      exact fun r hr => (h r hr).insert hinsert
  | _ =>
      cases hstep
      exact h

/-- The condition is exact for every step. -/
theorem invisible_iff (h : s.GoneDeleted) :
    Invisible config pending orderArgument ilike s label ↔
      StaysHidden config orderArgument ilike s label := by
  cases label with
  | query query => exact (spares_iff h query).symm
  | fetch dtype asked =>
      simp only [Invisible, returns_fetch_iff, StaysHidden]
      constructor
      · intro hinvisible hgone mapping hmapping
        by_contra hnot
        simp only [not_or, Bool.not_eq_true, not_not] at hnot
        exact hinvisible asked hgone ⟨rfl, mapping, hmapping, hnot⟩
      · rintro hhidden r hgone ⟨rfl, mapping, hmapping, hempty, hsentinel, hrevives⟩
        rcases hhidden hgone mapping hmapping with hnone | hnegative | hdead
        · rw [hempty] at hnone
          cases hnone
        · rw [hsentinel] at hnegative
          cases hnegative
        · exact hdead hrevives
  | follow dtype asked =>
      simp only [Invisible, returns_follow_iff, StaysHidden]
      constructor
      · intro hinvisible hgone mapping hmapping hrevives
        exact hinvisible asked hgone ⟨rfl, mapping, hmapping, hrevives⟩
      · rintro hhidden r hgone ⟨rfl, mapping, hmapping, hrevives⟩
        exact hhidden hgone mapping hmapping hrevives
  | lead dtype asked row => exact iff_of_true (fun _ _ => not_returns_leader) trivial
  | readPage dtype kind pageKey =>
      exact iff_of_true (fun _ _ => not_returns_page (.inl ⟨_, _, _, rfl⟩)) trivial
  | leadPage kind pageKey rows =>
      exact iff_of_true (fun _ _ => not_returns_page (.inr (.inl ⟨_, _, _, rfl⟩))) trivial
  | followPage dtype kind pageKey nextCursor =>
      exact iff_of_true (fun _ _ => not_returns_page (.inr (.inr ⟨_, _, _, _, rfl⟩))) trivial
  | _ => exact iff_of_true (fun _ _ hreturns => hreturns) trivial

end

/-- From any cache and any tables, no read of a run returns a resource whose deletion has
been committed with its side effects emitted, exactly if the run's reads find nothing under
the keys of these resources that a result can be made of, and its queries spare them. -/
theorem eachStep_invisible_iff (config : CacheConfig)
    (pending : String → String → Option Int) (orderArgument : OrderArgument)
    (ilike : (value pattern : String) → Bool) (pagination : PaginationSettings) (store : Store)
    (tables : ResourceTables) (labels : List (ReadLabel pagination)) :
    EachStep (readStep config) (Invisible config pending orderArgument ilike)
        (.start store tables) labels ↔
      EachStep (readStep config) (StaysHidden config orderArgument ilike)
        (.start store tables) labels := by
  have hstart : (ReadState.start store tables).GoneDeleted := by
    intro r hr
    cases hr
  refine eachStep_iff_of_kept (I := ReadState.GoneDeleted) ?_ ?_ labels _ hstart
  · intro s label s' hgone _
    exact invisible_iff hgone
  · intro s label s' hgone hstep _
    exact hgone.step hstep

/-- The forum 3, with nothing in it. -/
def oneForum : ResourceTables where
  posts := ⟨[], by decide⟩
  comments := []
  comments_nodup := by decide
  forums := [⟨3, "anime", none, false⟩]
  forums_nodup := by decide
  subscriptions := []
  values := fun _ name => .value (.str name)

/-- Its deletion. -/
def forumDeletion : DeletionEvent := .ofForum 3 1 [⟨.forum, 3⟩]

/-- Under Python 3.13, with a client as the application makes it. -/
def deployedCache : CacheConfig :=
  { hourCache with slotsSuper := false, decodeResponses := false }

/-- The forum is deleted, the side effects of the event are emitted, and the forum is asked
for. -/
def deletedForumRead : List (ReadLabel onePostPages) :=
  [.commit [forumDeletion], .emit [forumDeletion] .forums "workers", .query (.getForum 3)]

/-- The query returns the deleted forum. -/
theorem deletedForum_returned :
    ¬ EachStep (readStep deployedCache)
      (Invisible deployedCache (fun _ _ => none) .method fun _ _ => false)
      (.start (fun _ => none) oneForum) deletedForumRead := by
  intro hrun
  have hcommitted : ∀ r ∈ [forumDeletion].flatMap DeletionEvent.resources,
      (oneForum.delete ([forumDeletion].flatMap DeletionEvent.resources)).Deleted r := by
    decide
  have hemitted := (hrun _ rfl).2 _ (readStep_emit .forums "workers" hcommitted)
  have hquery := (hemitted.2 _ rfl).1
  refine hquery ⟨.forum, 3⟩ (by decide) (returns_iff.mpr ⟨rfl, ?_, .inl rfl⟩)
  exact selected_getForum_iff.mpr ⟨rfl, ⟨3, "anime", none, true⟩, by decide, rfl⟩

end ResourceServer
end Tenjin
