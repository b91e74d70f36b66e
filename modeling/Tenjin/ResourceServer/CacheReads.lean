import Tenjin.Python.Separated
import Tenjin.ResourceServer.Results

/-!
# Reading one resource through the cache

`_primitive_get_from_cache`, `_fetch_from_cache` and the three ways in which
`distributed_get_or_load` comes to a result: from the cache, as the leader from the
database, and as a follower.

* `cachedResult`, `leaderResult` and `followerResult` are the three ways.
* `countersServed_iff` — they give the counters with their pending deltas only for a type
  without counters.
-/

namespace Tenjin
namespace ResourceServer

open Python ResourceAuxillary

/-- What the cache manager is configured with.  The application's client returns bytes. -/
structure CacheSettings extends ResultRuntime where
  decodeResponses : Bool
  nfSentinelKey : String
  nfSentinelValue : String
  fetchMaxRetries : ℕ
  fetchWaitingMaxIntervals : ℕ

/-- What Redis holds under the key of a resource. -/
inductive CacheEntry
  | text (s : String)
  | hash (items : List (String × String))
  deriving DecidableEq

/-- The fields of a hash after `HSET` with several fields. -/
def mergeFields (old items : List (String × String)) : List (String × String) :=
  old.filter (fun o => items.lookup o.1 = none) ++ items

/-- `HSET` with several fields. -/
def hset (entry : Option CacheEntry) (items : List (String × String)) :
    Except Exn CacheEntry :=
  match entry with
  | none => .ok (.hash items)
  | some (.hash old) => .ok (.hash (mergeFields old items))
  | some (.text _) => .error (.redisError false)

/-- `fetch_dtype`. -/
inductive FetchDtype
  | mapping
  | string
  deriving DecidableEq

/-- A reply as a value. -/
def Reply.attr : Reply → Attr
  | .bytes s => .value (.bytes s)
  | .str s => .value (.str s)

/-- The reply to `HGETALL`. -/
def hashReply (decodeResponses : Bool) (items : List (String × String)) : CacheMapping :=
  items.map fun item =>
    (clientReply decodeResponses item.1, Reply.attr (clientReply decodeResponses item.2))

/-- `orjson.loads` of a cached text.  The code caches texts of objects, and the sentinel;
another value is an error here. -/
def loadsMapping (rt : ResultRuntime) (text : String) : Except Exn CacheMapping :=
  match rt.loads text with
  | .ok (.dict items) => .ok (items.map fun item => (.str item.1, .value item.2))
  | .ok _ => .error .attributeError
  | .error e => .error e

/-- `mapping[name] = v` for a name that is there. -/
def CacheMapping.assign (mapping : CacheMapping) (name : String) (v : Attr) : CacheMapping :=
  List.map (fun item => if item.1 = .str name then (item.1, v) else item) mapping

/-- `cache_entry[field] += delta`. -/
def addCounter (delta : Int) (mapping : CacheMapping) (field : String) :
    Except Exn CacheMapping := do
  match ← mapping.item field with
  | .value (.int n) => .ok (mapping.assign field (.value (.int (n + delta))))
  | .value (.bool b) =>
      .ok (mapping.assign field (.value (.int ((if b then 1 else 0) + delta))))
  | _ => .error .typeError

/-- The loop over the counter fields; `pending` is the value in each counter hash. -/
def addCounters (pending : String → Option Int) (counterFields : List (String × String))
    (mapping : CacheMapping) : Except Exn CacheMapping :=
  counterFields.foldlM (fun entry field => addCounter ((pending field.2).getD 0) entry field.1)
    mapping

section
variable (settings : CacheSettings) (dtype : FetchDtype)
  (counterFields : List (String × String)) (pending : String → Option Int)

/-- `_primitive_get_from_cache`; `none` is a miss.  The wrong command for what is stored is
refused by Redis. -/
def primitiveGetFromCache (entry : Option CacheEntry) : Except Exn (Option CacheMapping) :=
  match entry, dtype with
  | none, _ => .ok none
  | some (.hash items), .mapping =>
      if items.isEmpty then .ok none
      else (addCounters pending counterFields
        (hashReply settings.decodeResponses items)).map some
  | some (.text s), .string =>
      if s.isEmpty then .ok none
      else (loadsMapping settings.toResultRuntime s >>= addCounters pending counterFields).map
        some
  | some (.hash _), .string => .error (.redisError false)
  | some (.text _), .mapping => .error (.redisError false)

/-- What `_fetch_from_cache` finds. -/
inductive Fetched
  | miss
  /-- The sentinel, which is then written again. -/
  | negative
  | found (mapping : CacheMapping)
  deriving DecidableEq

/-- `_fetch_from_cache` up to its second command, with `check_negative_entry`.  With
strings, a loaded object is never equal to the sentinel. -/
def fetchFromCache (entry : Option CacheEntry) : Except Exn Fetched :=
  match primitiveGetFromCache settings dtype counterFields pending entry with
  | .error e => .error e
  | .ok none => .ok .miss
  | .ok (some mapping) =>
      if dtype = .mapping ∧ mapping.contains settings.nfSentinelKey then .ok .negative
      else .ok (.found mapping)

variable (type : ResultType)

/-- What `distributed_get_or_load` makes of what has been found; `none` goes on to the
election of a leader, also from an empty mapping. -/
def foundOutcome (mapping : CacheMapping) : Option (Except Exn (Option Dto)) :=
  if mapping.isEmpty then none
  else if mapping.contains settings.nfSentinelKey then some (.ok none)
  else some ((constructFromCache settings.toResultRuntime type mapping).map some)

/-- A call that the cache answers. -/
def cachedResult (entry : Option CacheEntry) : Option (Except Exn (Option Dto)) :=
  match fetchFromCache settings dtype counterFields pending entry with
  | .error e => some (.error e)
  | .ok .miss => none
  | .ok .negative => some (.ok none)
  | .ok (.found mapping) => foundOutcome settings type mapping

/-- A follower that finds the lock released; `none` is another election.  It looks for the
sentinel in the pair of the entry and its time to live, where it never is. -/
def followerResult (entry : Option CacheEntry) : Option (Except Exn (Option Dto)) :=
  match primitiveGetFromCache settings dtype counterFields pending entry with
  | .error e => some (.error e)
  | .ok none => none
  | .ok (some mapping) =>
      some ((constructFromCache settings.toResultRuntime type mapping).map some)

end

/-- What the leader writes to the cache for a result. -/
def storedItems (type : ResultType) (dto : Dto) : Except Exn (List (String × String)) :=
  cacheRepr type dto >>= encodeMapping

/-- The leader's result for a row: the object itself, when it has been cached. -/
def leaderResult (settings : CacheSettings) (type : ResultType) (row : Row) :
    Except Exn (Option Dto) := do
  let dto ← constructFromOrm settings.toResultRuntime type row
  let _ ← storedItems type dto
  .ok (some dto)

/-- Where the cache manager takes the counter fields from: the attribute that it reads, as
the code has it, or one that is filled from `COUNTER_FIELDS`. -/
inductive CounterMapSource
  | asRead
  | fromCounterFields
  deriving DecidableEq

/-- The map of the counter fields. -/
def CounterMapSource.map (source : CounterMapSource) (type : ResultType) :
    List (String × String) :=
  match source with
  | .asRead => type.counterFieldsMap
  | .fromCounterFields => counterMap type type.counterFields

/-- A row whose counter columns hold numbers. -/
structure StoredRow (type : ResultType) where
  value : Row
  counter : String → Int
  counter_eq : ∀ f ∈ type.counterFields, value f = .value (.int (counter f))

/-- The counter of a field with its pending delta. -/
def StoredRow.current {type : ResultType} (row : StoredRow type) (pending : String → Option Int)
    (f : String) : Int :=
  row.counter f + (pending (pyJoin nameSeperator [type.resourceName, f])).getD 0

/-- The hash holds the counters of the row. -/
def CachesRow {type : ResultType} (row : StoredRow type) (items : List (String × String)) :
    Prop :=
  ∀ f ∈ type.counterFields, items.lookup f = some (toString (row.counter f))

/-- A result whose field `f` is the number `n`. -/
def ServesCounter (result : Except Exn (Option Dto)) (f : String) (n : Int) : Prop :=
  ∃ dto, result = .ok (some dto) ∧ dto.lookup f = some (.value (.int n))

/-- All three ways give every counter of the type with its pending delta. -/
structure CountersServed (settings : CacheSettings) (source : CounterMapSource)
    (dtype : FetchDtype) (type : ResultType) (row : StoredRow type)
    (pending : String → Option Int) : Prop where
  leader : ∀ f ∈ type.counterFields,
    ServesCounter (leaderResult settings type row.value) f (row.current pending f)
  cached : ∀ items, CachesRow row items → ∀ f ∈ type.counterFields,
    ∃ result, cachedResult settings dtype (source.map type) pending type
        (some (.hash items)) = some result ∧
      ServesCounter result f (row.current pending f)
  follower : ∀ items, CachesRow row items → ∀ f ∈ type.counterFields,
    ∃ result, followerResult settings dtype (source.map type) pending type
        (some (.hash items)) = some result ∧
      ServesCounter result f (row.current pending f)

/-- The values of a hash are never numbers. -/
theorem hashReply_not_int {decodeResponses : Bool} {items : List (String × String)}
    {k : Reply} {v : Attr} (h : (k, v) ∈ hashReply decodeResponses items) :
    ∃ s, v = .value (.str s) ∨ v = .value (.bytes s) := by
  obtain ⟨item, _, hitem⟩ := List.mem_map.mp h
  cases hitem
  cases decodeResponses with
  | true => exact ⟨item.2, .inl rfl⟩
  | false => exact ⟨item.2, .inr rfl⟩

/-- The fields of a hash have no texts as their names when the client returns bytes. -/
theorem lookup_hashReply_bytes (name : String) (items : List (String × String)) :
    List.lookup (.str name) (hashReply false items) = none := by
  induction items with
  | nil => rfl
  | cons item items ih => exact ih

/-- Nothing can be added to the values of a hash. -/
theorem addCounters_hashReply {pending : String → Option Int}
    {counterFields : List (String × String)} {decodeResponses : Bool}
    {items : List (String × String)} {mapping : CacheMapping}
    (h : addCounters pending counterFields (hashReply decodeResponses items) = .ok mapping) :
    counterFields = [] ∧ mapping = hashReply decodeResponses items := by
  cases counterFields with
  | nil =>
      cases h
      exact ⟨rfl, rfl⟩
  | cons field counterFields =>
      obtain ⟨first, hfirst, _⟩ := except_bind_eq_ok h
      obtain ⟨old, hold, hadd⟩ := except_bind_eq_ok hfirst
      have hmem : (Reply.str field.1, old) ∈ hashReply decodeResponses items := by
        unfold CacheMapping.item at hold
        split at hold
        · rename_i v hv
          cases hold
          obtain ⟨front, back, heq, _⟩ := List.lookup_eq_some_iff.mp hv
          rw [heq]
          simp
        · cases hold
      obtain ⟨s, rfl | rfl⟩ := hashReply_not_int hmem
      · cases hadd
      · cases hadd

section
variable {settings : CacheSettings} {dtype : FetchDtype}
  {counterFields : List (String × String)} {pending : String → Option Int}
  {type : ResultType} {items : List (String × String)} {mapping : CacheMapping}
  {result : Except Exn (Option Dto)} {f : String}

/-- A hash is returned as it is, or not at all. -/
theorem primitiveGetFromCache_hash
    (h : primitiveGetFromCache settings dtype counterFields pending (some (.hash items)) =
      .ok (some mapping)) : mapping = hashReply settings.decodeResponses items := by
  cases dtype with
  | string => cases h
  | mapping =>
      simp only [primitiveGetFromCache] at h
      split at h
      · cases h
      · cases hadd : addCounters pending counterFields
            (hashReply settings.decodeResponses items) with
        | error e => simp [hadd, Except.map] at h
        | ok m =>
            simp only [hadd, Except.map, Except.ok.injEq, Option.some.injEq] at h
            rw [← h]
            exact (addCounters_hashReply hadd).2

/-- A result that is made of a hash has no number in a counter field. -/
theorem not_servesCounter_of_hash (hf : f ∈ type.counterFields) (n : Int)
    (hresult : result = (constructFromCache settings.toResultRuntime type
      (hashReply settings.decodeResponses items)).map some) :
    ¬ ServesCounter result f n := by
  rintro ⟨dto, hdto, hv⟩
  cases hcons : constructFromCache settings.toResultRuntime type
      (hashReply settings.decodeResponses items) with
  | error e =>
      rw [hresult, hcons] at hdto
      cases hdto
  | ok made =>
      rw [hresult, hcons] at hdto
      cases hdto
      obtain ⟨s, hs | hs⟩ := hashReply_not_int (counter_of_constructFromCache hcons hf hv)
      · cases hs
      · cases hs

/-- What has been found is what was read. -/
theorem primitive_of_fetched {entry : Option CacheEntry}
    (h : fetchFromCache settings dtype counterFields pending entry = .ok (.found mapping)) :
    primitiveGetFromCache settings dtype counterFields pending entry = .ok (some mapping) := by
  unfold fetchFromCache at h
  split at h
  · cases h
  · cases h
  · rename_i read hread
    split at h
    · cases h
    · cases h
      exact hread

/-- What the cache answers is an error, a missing row or an object made of the entry. -/
theorem cachedResult_cases {entry : Option CacheEntry}
    (h : cachedResult settings dtype counterFields pending type entry = some result) :
    (∃ e, result = .error e) ∨ result = .ok none ∨
    ∃ mapping, primitiveGetFromCache settings dtype counterFields pending entry =
        .ok (some mapping) ∧
      result = (constructFromCache settings.toResultRuntime type mapping).map some := by
  unfold cachedResult at h
  split at h
  · rename_i e _
    exact .inl ⟨e, (Option.some.inj h).symm⟩
  · cases h
  · exact .inr (.inl (Option.some.inj h).symm)
  · rename_i mapping hfetched
    unfold foundOutcome at h
    split at h
    · cases h
    · split at h
      · exact .inr (.inl (Option.some.inj h).symm)
      · exact .inr (.inr ⟨mapping, primitive_of_fetched hfetched, (Option.some.inj h).symm⟩)

/-- The cache serves no counter. -/
theorem not_servesCounter_cached (hf : f ∈ type.counterFields) (n : Int)
    (h : cachedResult settings dtype counterFields pending type (some (.hash items)) =
      some result) : ¬ ServesCounter result f n := by
  rcases cachedResult_cases h with ⟨e, rfl⟩ | rfl | ⟨mapping, hprim, hresult⟩
  · rintro ⟨dto, hdto, _⟩
    cases hdto
  · rintro ⟨dto, hdto, _⟩
    cases hdto
  · rw [primitiveGetFromCache_hash hprim] at hresult
    exact not_servesCounter_of_hash hf n hresult

end

/-- A hash that holds the counters of a row. -/
def counterItems {type : ResultType} (row : StoredRow type) : List (String × String) :=
  type.counterFields.map fun f => (f, toString (row.counter f))

theorem cachesRow_counterItems {type : ResultType} (row : StoredRow type) :
    CachesRow row (counterItems row) := by
  intro f hf
  have hlookup : ∀ names : List String, f ∈ names →
      (names.map fun name => (name, toString (row.counter name))).lookup f =
        some (toString (row.counter f)) := by
    intro names
    induction names with
    | nil => exact fun hmem => by cases hmem
    | cons name names ih =>
        intro hmem
        rw [List.map_cons, List.lookup_cons]
        cases hname : f == name with
        | true => rw [eq_of_beq hname]
        | false =>
            exact ih ((List.mem_cons.mp hmem).resolve_left (by simpa using hname))
  exact hlookup type.counterFields hf

/-- The three ways agree on the counters, with their pending deltas, exactly for the types
that declare none: also when the map of the counter fields is filled. -/
theorem countersServed_iff (settings : CacheSettings) (source : CounterMapSource)
    (dtype : FetchDtype) (type : ResultType) (row : StoredRow type)
    (pending : String → Option Int) :
    CountersServed settings source dtype type row pending ↔ type.counterFields = [] := by
  constructor
  · intro h
    by_contra hne
    obtain ⟨f, hf⟩ := List.exists_mem_of_ne_nil _ hne
    obtain ⟨result, hresult, hserves⟩ :=
      h.cached (counterItems row) (cachesRow_counterItems row) f hf
    exact not_servesCounter_cached hf _ hresult hserves
  · intro hnil
    refine ⟨fun f hf => ?_, fun items _ f hf => ?_, fun items _ f hf => ?_⟩
    all_goals
      rw [hnil] at hf
      cases hf

/-- A user with the aura 5 and a pending delta of 2. -/
def fiveAura : StoredRow .userResult where
  value := fun name => if name ∈ ["aura", "total_posts", "total_comments"] then
    .value (.int 5) else .value (.str name)
  counter := fun _ => 5
  counter_eq := by decide

/-- A client as the application makes it, and `orjson.loads` on texts that are not JSON. -/
def bytesSettings : CacheSettings where
  slotsSuper := false
  loads := fun _ => .error .valueError
  decodeResponses := false
  nfSentinelKey := "__NF__"
  nfSentinelValue := "1"
  fetchMaxRetries := 2
  fetchWaitingMaxIntervals := 5

/-- The cache answers with an object without a single attribute, and the leader fails. -/
theorem aura_not_served :
    ¬ CountersServed bytesSettings .asRead .mapping .userResult fiveAura (fun _ => some 2) ∧
    cachedResult bytesSettings .mapping ResultType.userResult.counterFieldsMap
      (fun _ => some 2) .userResult (some (.hash [("aura", "5")])) = some (.ok (some [])) ∧
    leaderResult bytesSettings .userResult fiveAura.value = .error .attributeError := by
  refine ⟨fun h => ?_, by decide, by decide⟩
  obtain ⟨result, hresult, hserves⟩ :=
    h.cached (counterItems fiveAura) (cachesRow_counterItems fiveAura) "aura" (by decide)
  exact not_servesCounter_cached (by decide) _ hresult hserves

end ResourceServer
end Tenjin
