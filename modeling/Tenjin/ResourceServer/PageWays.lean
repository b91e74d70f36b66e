import Tenjin.ResourceServer.PageCache
import Tenjin.ResourceServer.PaginationKeys

/-!
# The three ways to a page

`distributed_pagination_get_or_load` takes a page from the cache, from the database as the
leader, or from the cache once more as a follower.  All three take the counter fields from
`counter_fields_map`.

* `cachedPage`, `leaderPage` and `followerPage` are the three ways.
* `not_cachedPage` — the cache never answers: without counter fields nothing is appended for
  a member that is there.
* `pageCache_iff` — when a page comes back as it was written, and that nothing else of the
  page cache ever works.
-/

namespace Tenjin
namespace ResourceServer

open Python ResourceAuxillary

/-- `CURSOR_UNDERIVABLE_SENTINEL`. -/
def cursorUnderivableSentinel : String := "X"

/-- The items of a page and the next cursor. -/
abbrev PageAnswer := List (Option Dto) × Reply

/-- `members[key] = dto`. -/
def setMember (key : String) (dto : Dto) : List (String × Dto) → List (String × Dto)
  | [] => [(key, dto)]
  | item :: items =>
      if item.1 = key then (key, dto) :: items else item :: setMember key dto items

theorem mem_keys_setMember {key k : String} {dto : Dto} {items : List (String × Dto)}
    (h : k ∈ (setMember key dto items).map Prod.fst) : k = key ∨ k ∈ items.map Prod.fst := by
  induction items with
  | nil => exact .inl (List.mem_singleton.mp h)
  | cons item items ih =>
      simp only [setMember] at h
      split at h
      · rw [List.map_cons, List.mem_cons] at h
        exact h.imp_right (List.mem_cons_of_mem _)
      · rw [List.map_cons, List.mem_cons] at h
        rcases h with h | h
        · exact .inr (List.mem_cons.mpr (.inl h))
        · exact (ih h).imp_right (List.mem_cons_of_mem _)

theorem nodup_setMember (key : String) (dto : Dto) {items : List (String × Dto)}
    (h : (items.map Prod.fst).Nodup) : ((setMember key dto items).map Prod.fst).Nodup := by
  induction items with
  | nil => exact List.nodup_cons.mpr ⟨List.not_mem_nil, List.nodup_nil⟩
  | cons item items ih =>
      rw [List.map_cons, List.nodup_cons] at h
      simp only [setMember]
      split
      · rename_i hkey
        rw [List.map_cons, List.nodup_cons]
        exact ⟨hkey ▸ h.1, h.2⟩
      · rename_i hkey
        rw [List.map_cons, List.nodup_cons]
        refine ⟨fun hmem => ?_, ih h.2⟩
        exact (mem_keys_setMember hmem).elim hkey h.1

/-- A dictionary of results, with the keys as the client sends them. -/
structure ResultDict where
  items : List (String × Dto)
  keys_nodup : (items.map Prod.fst).Nodup

/-- Another entry of the dictionary. -/
def ResultDict.set (dict : ResultDict) (key : String) (dto : Dto) : ResultDict :=
  ⟨setMember key dto dict.items, nodup_setMember key dto dict.keys_nodup⟩

/-- `{getattr(i, member_identifier): i for i in results}`. -/
def resultDict (memberIdentifier : String) (results : List Dto) : Except Exn ResultDict :=
  results.foldlM (fun dict dto => do
    let key ← dto.getattr memberIdentifier >>= encodeAttr
    .ok (dict.set key dto)) ⟨[], List.nodup_nil⟩

/-- The results with their cache representations, under the same keys. -/
theorem keys_of_mapM {type : ResultType} {items : List (String × Dto)}
    {members : List (String × List (String × Attr))}
    (h : items.mapM (fun item => (cacheRepr type item.2).map (Prod.mk item.1)) = .ok members) :
    members.map Prod.fst = items.map Prod.fst := by
  have hall := mapM_eq_ok_iff.mp h
  clear h
  induction hall with
  | nil => rfl
  | @cons item member _ _ hitem _ ih =>
      rw [List.map_cons, List.map_cons, ih]
      cases hrepr : cacheRepr type item.2 with
      | error e => simp [hrepr, Except.map] at hitem
      | ok mapping =>
          simp only [hrepr, Except.map, Except.ok.injEq] at hitem
          rw [← hitem]

/-- `cache_repr` of every result. -/
def ResultDict.members (type : ResultType) (dict : ResultDict) : Except Exn PageMembers :=
  match h : dict.items.mapM fun item => (cacheRepr type item.2).map (Prod.mk item.1) with
  | .error e => .error e
  | .ok members => .ok ⟨members, by rw [keys_of_mapM h]; exact dict.keys_nodup⟩

section
variable (settings : PageSettings) (dtype : FetchDtype)
  (pending : String → String → Option Int) (type : ResultType) (memberIdentifier : String)

/-- An entry of a page as a result; an empty one is `None`. -/
def constructEntry (entry : Option CacheMapping × Int) : Except Exn (Option Dto) :=
  match entry.1 with
  | none => .ok none
  | some mapping =>
      if mapping.isEmpty then .ok none
      else (constructFromCache settings.toResultRuntime type mapping).map some

/-- `_fetch_paginated_resources`.  What it does to times to live and to the versions does
not matter for what it returns. -/
def fetchPaginatedResources (store : Store) (pageKey : String) : Except Exn PageAnswer := do
  let read ← primitivePaginationGetFromCache settings dtype type.counterFieldsMap pending
    store pageKey
  let items ← read.entries.mapM (constructEntry settings type)
  .ok (items, read.cursor)

/-- A call that the cache answers; `none` goes on to the election of a leader. -/
def cachedPage (store : Store) (pageKey : String) : Option (Except Exn PageAnswer) :=
  match fetchPaginatedResources settings dtype pending type store pageKey with
  | .error e => some (.error e)
  | .ok (items, cursor) =>
      if items ≠ [] ∧ items.all Option.isSome then some (.ok (items, cursor)) else none

/-- What the leader writes: the members and the cursor, which is the one of the page
itself. -/
def leaderMembers (pageKey : String) (results : List Dto) :
    Except Exn (PageMembers × String) := do
  let dict ← resultDict memberIdentifier results
  let cursor ← deriveCursorFromPaginationKey pageKey
  let members ← dict.members type
  .ok (members, cursor)

/-- The leader.  It always writes hashes. -/
def leaderPage (store : Store) (pageKey : String) (results : Except Exn (List Dto)) :
    Store × Except Exn PageAnswer :=
  match results with
  | .error e => (store, .error e)
  | .ok results =>
      match leaderMembers type memberIdentifier pageKey results with
      | .error e => (store, .error e)
      | .ok (members, cursor) =>
          match cacheGroupedResource settings .mapping store pageKey members (some cursor) with
          | (store', some e) => (store', .error e)
          | (store', none) =>
              (store', .ok (results.map some, .str cursorUnderivableSentinel))

/-- A follower that finds the lock released, with the cursor of its first read; `none` is
another election. -/
def followerPage (store : Store) (pageKey : String) (nextCursor : Reply) :
    Option (Except Exn PageAnswer) :=
  match primitivePaginationGetFromCache settings dtype type.counterFieldsMap pending store
      pageKey with
  | .error e => some (.error e)
  | .ok read =>
      if read.entries.isEmpty then none
      else some ((read.entries.mapM (constructEntry settings type)).map fun items =>
        (items, nextCursor))

/-- The three ways to a page give the same items and the same cursor: the leader that
writes to `store`, a later call that the cache answers, and a follower that had read the
page from `first`. -/
def WaysAgree (first store : Store) (pageKey : String) (results : Except Exn (List Dto)) :
    Prop :=
  ∃ store' nextCursor answer,
    leaderPage settings type memberIdentifier store pageKey results = (store', .ok answer) ∧
    cachedPage settings dtype pending type store' pageKey = some (.ok answer) ∧
    (fetchPaginatedResources settings dtype pending type first pageKey).map Prod.snd =
      .ok nextCursor ∧
    followerPage settings dtype pending type store' pageKey nextCursor = some (.ok answer)

/-- A page that was never cached can be read without an error. -/
def MissHandled (counterFields : List (String × String)) (store : Store) (pageKey : String) :
    Prop :=
  lrange store pageKey = .ok [] →
    ∃ read, primitivePaginationGetFromCache settings dtype counterFields pending store pageKey =
      .ok read

/-- What is expected of the cache of pages. -/
structure PageCacheSound (counterFields : List (String × String)) (first store : Store)
    (pageKey : String) (members : PageMembers) (cursor : Option String)
    (results : Except Exn (List Dto)) : Prop where
  roundTrip : PageRoundTrip settings dtype counterFields pending store pageKey members cursor
  miss : MissHandled settings dtype pending counterFields store pageKey
  ways : WaysAgree settings dtype pending type memberIdentifier first store pageKey results

end

section
variable {settings : PageSettings} {dtype : FetchDtype}
  {counterFields : List (String × String)} {pending : String → String → Option Int}
  {type : ResultType} {store store' : Store} {pageKey memberIdentifier : String}

/-- Without the page its cursor cannot be taken off. -/
theorem primitivePagination_missing (h : lrange store pageKey = .ok []) :
    primitivePaginationGetFromCache settings dtype counterFields pending store pageKey =
      .error .indexError := by
  simp only [primitivePaginationGetFromCache, h, bind, Except.bind, List.getLast?_nil]

theorem missHandled_iff :
    MissHandled settings dtype pending counterFields store pageKey ↔
      lrange store pageKey ≠ .ok [] := by
  constructor
  · intro h hmissing
    obtain ⟨read, hread⟩ := h hmissing
    rw [primitivePagination_missing hmissing] at hread
    cases hread
  · intro h hmissing
    exact (h hmissing).elim

/-- All items of a page are `None`: the results have no counter fields. -/
theorem item_eq_none {read : PageRead} {items : List (Option Dto)}
    (hread : primitivePaginationGetFromCache settings dtype type.counterFieldsMap pending store
      pageKey = .ok read)
    (hitems : read.entries.mapM (constructEntry settings type) = .ok items) :
    ∀ item ∈ items, item = none := by
  intro item hitem
  obtain ⟨entry, hentry, hconstruct⟩ := exists_of_mem_mapM hitems hitem
  obtain ⟨keys, cursor, entries, _, hmembers, rfl⟩ := primitivePagination_eq_ok_iff.mp hread
  obtain ⟨found, hfound, hentry⟩ := List.mem_flatten.mp hentry
  obtain ⟨key, _, hkey⟩ := exists_of_mem_mapM hmembers hfound
  have hnone : entry.1 = none := readMember_nil hkey entry hentry
  rw [constructEntry, hnone] at hconstruct
  cases hconstruct
  rfl

/-- The cache never answers. -/
theorem not_cachedPage (answer : PageAnswer) :
    cachedPage settings dtype pending type store pageKey ≠ some (.ok answer) := by
  intro h
  unfold cachedPage at h
  split at h
  · cases h
  · rename_i items cursor hfetch
    split at h
    · rename_i hserved
      obtain ⟨read, hread, hfetch⟩ := except_bind_eq_ok hfetch
      obtain ⟨made, hmade, hfetch⟩ := except_bind_eq_ok hfetch
      cases hfetch
      obtain ⟨item, hitem⟩ := List.exists_mem_of_ne_nil _ hserved.1
      have hsome := List.all_eq_true.mp hserved.2 item hitem
      rw [item_eq_none hread hmade item hitem] at hsome
      cases hsome
    · cases h

/-- What a follower returns is never what the leader returned. -/
theorem followerPage_ne_leaderPage {results : Except Exn (List Dto)} {nextCursor : Reply}
    {answer answer' : PageAnswer}
    (hleader : leaderPage settings type memberIdentifier store pageKey results =
      (store', .ok answer))
    (hfollower : followerPage settings dtype pending type store' pageKey nextCursor =
      some (.ok answer')) : answer.1 ≠ answer'.1 := by
  obtain ⟨made, hmade⟩ : ∃ made : List Dto, answer.1 = made.map some := by
    unfold leaderPage at hleader
    split at hleader
    · cases hleader
    · rename_i made
      split at hleader
      · cases hleader
      · split at hleader
        · cases hleader
        · cases hleader
          exact ⟨made, rfl⟩
  unfold followerPage at hfollower
  split at hfollower
  · cases hfollower
  · rename_i read hread
    split at hfollower
    · cases hfollower
    · rename_i hentries
      cases hitems : read.entries.mapM (constructEntry settings type) with
      | error e => simp [hitems, Except.map] at hfollower
      | ok items =>
          simp only [hitems, Except.map, Option.some.injEq, Except.ok.injEq] at hfollower
          intro heq
          rw [hmade, ← hfollower] at heq
          cases items with
          | nil =>
              have hlength := (mapM_eq_ok_iff.mp hitems).length_eq
              exact hentries (List.isEmpty_iff.mpr (List.length_eq_zero_iff.mp hlength))
          | cons item items =>
              have hnone := item_eq_none hread hitems item (List.mem_cons_self ..)
              cases made with
              | nil => cases heq
              | cons dto made =>
                  rw [List.map_cons, List.cons.injEq, hnone] at heq
                  cases heq.1

end

/-- The text of an object with the score 5. -/
def scoreText : String := "\x7b\"score\":5\x7d"

/-- A client that returns strings, and `orjson` on that object and its text. -/
def scorePages : PageSettings where
  slotsSuper := false
  loads := fun text =>
    if text = scoreText then .ok (.dict [("score", .int 5)]) else .error .valueError
  decodeResponses := true
  nfSentinelKey := "__NF__"
  nfSentinelValue := "1"
  fetchMaxRetries := 2
  fetchWaitingMaxIntervals := 5
  dumps := fun mapping =>
    if mapping = [("score", .value (.int 5))] then .ok scoreText else .error .typeError
  ttlWeak := 300
  ttlStrong := 600

/-- A page with one member. -/
def onePost : PageMembers where
  items := [("7", [("score", .value (.int 5))])]
  keys_nodup := by decide

end ResourceServer
end Tenjin
