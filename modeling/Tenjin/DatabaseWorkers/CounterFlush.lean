import Mathlib.Tactic.ByContra
import Tenjin.ResourceAuxillary.Strings

/-!
# Flushing one counter group

`batch_update_counter_group` of `counters.py` with what it calls in
`redis/counters.py`, `redis/declarations.py`, `database/counters.py` and
`utils/strings.py`.

* `CounterStore` is what the deltas can be in: the hashes of the worker's Redis, the
  retry registry, the dead letter queue and the flushed columns.
* `batchUpdateCounterGroup` takes a hash away and should pass its pairs on.
* `KeptOnce` is the purpose: each pair taken ends in exactly one place.  The casting
  of the taken pairs loops over the keys of the dictionary where it means its items,
  so it raises on every hash, and it stands outside the `try`.
-/

namespace Tenjin
namespace DatabaseWorkers

open Python ResourceAuxillary

/-- `INTERNAL_NAME_SEPERATOR`. -/
def internalNameSeperator : String := "-"

/-- `derive_lock_key`. -/
def deriveLockKey (name : String) : String :=
  pyJoin internalNameSeperator ["lock", name]

/-- `generate_retry_batch_name`; `newIdentifier` is what `_generate_batch_identifier`
draws. -/
def generateRetryBatchName (newIdentifier counterName : String) (version : Int)
    (identifier : Option String) : String :=
  let identifier :=
    match identifier with
    | none => newIdentifier
    | some i => if i.isEmpty then newIdentifier else i
  pyJoin internalNameSeperator [counterName, identifier, toString version]

/-- `extract_batch_metadata`.  The separator is split at the batch name, not the
batch name at the separator. -/
def extractBatchMetadata (batch : String) :
    Except Exn (String × Option String × Int) :=
  match splitText internalNameSeperator batch with
  | .error e => .error e
  | .ok [group, identifier, version] =>
      match pyInt version with
      | .error e => .error e
      | .ok v => .ok (group, some identifier, v)
  | .ok split => .ok (split.headD "", none, 0)

/-- A key of the dictionary that `_cache_normalize_raw_counter_data` returns. -/
inductive CounterKey
  | str (s : String)
  | int (n : ℕ)
  deriving DecidableEq

/-- `for k, v in raw_counters`, applied to one key of the dictionary: unpacking a
string gives its characters, unpacking bytes gives their numbers; `int(v)` follows. -/
def unpackCounterKey : Reply → Except Exn (CounterKey × Int)
  | .str s =>
      match s.toList with
      | [k, v] =>
          match pyInt (String.singleton v) with
          | .ok n => .ok (.str (String.singleton k), n)
          | .error e => .error e
      | _ => .error .valueError
  | .bytes s =>
      match s.toUTF8.toList with
      | [k, v] => .ok (.int k.toNat, v.toNat)
      | _ => .error .valueError

/-- Set a key of a dictionary that keeps its insertion order. -/
def dictSet (key : CounterKey) (value : Int) :
    List (CounterKey × Int) → List (CounterKey × Int)
  | [] => [(key, value)]
  | (k, v) :: items =>
      if k = key then (k, value) :: items else (k, v) :: dictSet key value items

/-- The loop of `_cache_normalize_raw_counter_data` over the keys of the dictionary. -/
def cacheNormalizeLoop : List Reply → List (CounterKey × Int) →
    Except Exn (List (CounterKey × Int))
  | [], counters => .ok counters
  | key :: keys, counters =>
      match unpackCounterKey key with
      | .error e => .error e
      | .ok (k, v) => cacheNormalizeLoop keys (dictSet k v counters)

/-- `_cache_normalize_raw_counter_data`. -/
def cacheNormalizeRawCounterData (rawCounters : List (Reply × Reply)) :
    Except Exn (List (CounterKey × Int)) :=
  cacheNormalizeLoop (rawCounters.map Prod.fst) []

/-- `int(k.split(NAME_SEPERATOR)[1])`. -/
def databaseNormalizeKey : CounterKey → Except Exn Int
  | .int _ => .error .attributeError
  | .str s =>
      match (pySplit ':' s)[1]? with
      | none => .error .indexError
      | some identifier => pyInt identifier

/-- `_database_normalize_cache_normalized_counter_data`. -/
def databaseNormalizeCounterData : List (CounterKey × Int) →
    Except Exn (List (Int × Int))
  | [] => .ok []
  | (k, v) :: items =>
      match databaseNormalizeKey k with
      | .error e => .error e
      | .ok id =>
          match databaseNormalizeCounterData items with
          | .error e => .error e
          | .ok rest => .ok ((id, v) :: rest)

/-- A dead counter batch: table, column and the deltas of the rows. -/
structure DeadCounterBatch where
  table : String
  column : String
  counters : List (Int × Int)

/-- A flushed delta: table, column, row and amount. -/
structure FlushedDelta where
  table : String
  column : String
  id : Int
  delta : Int
  deriving DecidableEq

/-- Everything that a counter delta can be in. -/
structure CounterStore where
  locks : List String
  /-- The fields of every hash of the worker's Redis with their values. -/
  hashes : String → List (String × Int)
  retryRegistry : List String
  retryHashes : List (String × List (CounterKey × Int))
  deadLetters : List DeadCounterBatch
  flushed : List FlushedDelta

/-- The settings of a counter worker. -/
structure CounterSettings where
  maxRetries : ℕ
  decodeResponses : Bool

/-- `flush_counter_updates`; `execute` is what the statement and its commit answer. -/
def flushCounterUpdates (store : CounterStore) (counterGroup : String)
    (counters : List (Int × Int)) (execute : Except Exn Unit) :
    Except Exn CounterStore :=
  match (pySplit ':' counterGroup).take 2 with
  | [table, column] =>
      match execute with
      | .ok _ =>
          .ok { store with
            flushed := store.flushed ++
              counters.map (fun (id, delta) => ⟨table, column, id, delta⟩) }
      | .error .operationalError => .error .recoverableDatabaseException
      | .error .internalError => .error .recoverableDatabaseException
      | .error .integrityError => .error .unrecoverableDatabaseException
      | .error .cardinalityViolation => .error .unrecoverableDatabaseException
      | .error .databaseError => .error .unrecoverableDatabaseException
      | .error e => .error e
  | _ => .error .valueError

/-- `declare_counters_event_dead`.  `EventSideEffects` is not imported in its module,
so the event that should be written cannot be made. -/
def declareCountersEventDead (counterGroup : String) (_batch : List (Int × Int)) :
    Except Exn CounterStore :=
  match pySplit ':' counterGroup with
  | [_, _] => .error .nameError
  | _ => .error .valueError

/-- `dispatch_to_retrier`: one transaction that registers the batch and writes it. -/
def dispatchToRetrier (store : CounterStore) (newIdentifier counterGroup : String)
    (counterData : List (CounterKey × Int)) (currentRetryCount : Int)
    (identifier : Option String) : CounterStore :=
  let batchName := generateRetryBatchName newIdentifier counterGroup
    (currentRetryCount + 1) identifier
  { store with
    retryRegistry := store.retryRegistry ++ [batchName]
    retryHashes := store.retryHashes ++ [(batchName, counterData)] }

/-- What `batch_update_counter_group` returns or raises. -/
abbrev CounterResult := Except Exn (Option (List (CounterKey × Int)))

section
variable (cfg : CounterSettings) (newIdentifier : String) (execute : Except Exn Unit)

/-- The part of `batch_update_counter_group` after the casting. -/
def flushNormalizedCounters (store : CounterStore) (batchName : String)
    (counters : List (CounterKey × Int)) (dbNormalizedCounters : List (Int × Int)) :
    CounterResult × CounterStore :=
  let dead :=
    match declareCountersEventDead batchName dbNormalizedCounters with
    | .error e => (.error e, store)
    | .ok store' => (.ok none, store')
  match flushCounterUpdates store batchName dbNormalizedCounters execute with
  | .ok store' => (.ok (some counters), store')
  | .error .recoverableDatabaseException =>
      match extractBatchMetadata batchName with
      | .error e => (.error e, store)
      | .ok (groupName, identifier, groupVersion) =>
          if groupVersion ≥ cfg.maxRetries then dead
          else
            (.ok none, dispatchToRetrier store newIdentifier groupName counters groupVersion
              identifier)
  | .error _ => dead

/-- `batch_update_counter_group`.  The lock that it sets is deleted on every way out of
`locked_operation`, so it leaves no trace in the store. -/
def batchUpdateCounterGroup (store : CounterStore) (batchName : String) :
    CounterResult × CounterStore :=
  let lockName := deriveLockKey batchName
  if lockName ∈ store.locks then (.ok none, store)
  else
    -- HGETALL and DEL in one transaction, under the lock
    let raw := store.hashes batchName
    let taken := { store with
      hashes := (fun name => if name = batchName then [] else store.hashes name) }
    if raw = [] then (.ok none, taken)
    else
      let replies := raw.map fun (field, value) =>
        (clientReply cfg.decodeResponses field, clientReply cfg.decodeResponses (toString value))
      match cacheNormalizeRawCounterData replies with
      | .error e => (.error e, taken)
      | .ok counters =>
          match databaseNormalizeCounterData counters with
          | .error e => (.error e, taken)
          | .ok dbNormalizedCounters =>
              flushNormalizedCounters cfg newIdentifier execute taken batchName counters
                dbNormalizedCounters

end

section
variable (before after : CounterStore) (batchName : String)

/-- The pair was added once to the column of its row and returned as processed. -/
def Flushed (result : CounterResult) (pair : String × Int) : Prop :=
  ∃ table column id counters, (pySplit ':' batchName).take 2 = [table, column] ∧
    databaseNormalizeKey (.str pair.1) = .ok id ∧
    result = .ok (some counters) ∧ (.str pair.1, pair.2) ∈ counters ∧
    after.flushed.count ⟨table, column, id, pair.2⟩ =
      before.flushed.count ⟨table, column, id, pair.2⟩ + 1

/-- The pair is in a retry batch that has been registered. -/
def Retried (pair : String × Int) : Prop :=
  ∃ name counters, after.retryRegistry = before.retryRegistry ++ [name] ∧
    after.retryHashes = before.retryHashes ++ [(name, counters)] ∧
    (.str pair.1, pair.2) ∈ counters

/-- The pair is in a batch that has been added to the dead letter queue. -/
def DeadLettered (pair : String × Int) : Prop :=
  ∃ batch id, after.deadLetters = before.deadLetters ++ [batch] ∧
    databaseNormalizeKey (.str pair.1) = .ok id ∧ (id, pair.2) ∈ batch.counters

/-- The pair is in exactly one of the three places. -/
def KeptOnce (result : CounterResult) (pair : String × Int) : Prop :=
  (Flushed before after batchName result pair ∧ ¬ Retried before after pair ∧
    ¬ DeadLettered before after pair) ∨
  (¬ Flushed before after batchName result pair ∧ Retried before after pair ∧
    ¬ DeadLettered before after pair) ∨
  (¬ Flushed before after batchName result pair ∧ ¬ Retried before after pair ∧
    DeadLettered before after pair)

/-- Every pair that was taken out of the hash is kept exactly once. -/
def NoDeltaLost (result : CounterResult) : Prop :=
  ∀ pair ∈ before.hashes batchName, pair ∉ after.hashes batchName →
    KeptOnce before after batchName result pair

end

/-- A string of one character has no second piece that is a number. -/
theorem databaseNormalizeKey_singleton (c : Char) :
    ∃ e, databaseNormalizeKey (.str (String.singleton c)) = .error e := by
  by_cases hc : c = ':'
  · subst hc
    exact ⟨.valueError, by decide⟩
  · refine ⟨.indexError, ?_⟩
    -- without a separator there is no second piece
    have hsplit : [c].splitOn ':' = [[c]] :=
      List.splitOn_eq_singleton (by simpa using Ne.symm hc)
    simp [databaseNormalizeKey, pySplit, hsplit]

/-- What unpacking a key of the dictionary gives is never the key of a row. -/
theorem unpackCounterKey_not_row {reply : Reply} {k : CounterKey} {v : Int}
    (h : unpackCounterKey reply = .ok (k, v)) :
    ∃ e, databaseNormalizeKey k = .error e := by
  cases reply with
  | bytes s =>
      simp only [unpackCounterKey] at h
      split at h
      · simp only [Except.ok.injEq, Prod.mk.injEq] at h
        rw [← h.1]
        exact ⟨.attributeError, rfl⟩
      · cases h
  | str s =>
      simp only [unpackCounterKey] at h
      split at h
      · split at h
        · simp only [Except.ok.injEq, Prod.mk.injEq] at h
          rw [← h.1]
          exact databaseNormalizeKey_singleton _
        · cases h
      · cases h

/-- Setting a key adds no other key. -/
theorem mem_dictSet {key : CounterKey} {value : Int} {items : List (CounterKey × Int)}
    {item : CounterKey × Int} (h : item ∈ dictSet key value items) :
    item.1 = key ∨ item ∈ items := by
  induction items with
  | nil =>
      rw [List.mem_singleton.mp h]
      exact .inl rfl
  | cons head items ih =>
      obtain ⟨k, v⟩ := head
      simp only [dictSet] at h
      split at h
      · rename_i hk
        rcases List.mem_cons.mp h with rfl | h
        · exact .inl hk
        · exact .inr (List.mem_cons_of_mem _ h)
      · rcases List.mem_cons.mp h with rfl | h
        · exact .inr (List.mem_cons_self ..)
        · rcases ih h with hkey | hmem
          · exact .inl hkey
          · exact .inr (List.mem_cons_of_mem _ hmem)

theorem dictSet_ne_nil (key : CounterKey) (value : Int) (items : List (CounterKey × Int)) :
    dictSet key value items ≠ [] := by
  cases items with
  | nil => simp [dictSet]
  | cons head items =>
      simp only [dictSet]
      split <;> simp

/-- What the first casting returns for a nonempty dictionary is not empty, and none of
its keys is the key of a row. -/
theorem cacheNormalizeLoop_spec {keys : List Reply} {start counters : List (CounterKey × Int)}
    (hstart : ∀ item ∈ start, ∃ e, databaseNormalizeKey item.1 = .error e)
    (hne : keys ≠ [] ∨ start ≠ [])
    (h : cacheNormalizeLoop keys start = .ok counters) :
    counters ≠ [] ∧ ∀ item ∈ counters, ∃ e, databaseNormalizeKey item.1 = .error e := by
  induction keys generalizing start with
  | nil =>
      simp only [cacheNormalizeLoop, Except.ok.injEq] at h
      subst h
      exact ⟨hne.resolve_left (fun hnil => hnil rfl), hstart⟩
  | cons key keys ih =>
      simp only [cacheNormalizeLoop] at h
      split at h
      · cases h
      · rename_i k v hkey
        refine ih (fun item hitem => ?_) (.inr (dictSet_ne_nil k v start)) h
        rcases mem_dictSet hitem with hk | hmem
        · rw [hk]
          exact unpackCounterKey_not_row hkey
        · exact hstart item hmem

/-- The second casting raises on a dictionary whose keys are not those of rows. -/
theorem databaseNormalizeCounterData_error {counters : List (CounterKey × Int)}
    (hne : counters ≠ [])
    (hbad : ∀ item ∈ counters, ∃ e, databaseNormalizeKey item.1 = .error e) :
    ∃ e, databaseNormalizeCounterData counters = .error e := by
  cases counters with
  | nil => exact absurd rfl hne
  | cons item counters =>
      obtain ⟨e, he⟩ := hbad item (List.mem_cons_self ..)
      exact ⟨e, by simp [databaseNormalizeCounterData, he]⟩

/-- One of the two castings raises on every dictionary that is not empty. -/
theorem castings_raise {rawCounters : List (Reply × Reply)} (hne : rawCounters ≠ []) :
    (∃ e, cacheNormalizeRawCounterData rawCounters = .error e) ∨
      ∃ counters e, cacheNormalizeRawCounterData rawCounters = .ok counters ∧
        databaseNormalizeCounterData counters = .error e := by
  cases hcounters : cacheNormalizeRawCounterData rawCounters with
  | error e => exact .inl ⟨e, rfl⟩
  | ok counters =>
      obtain ⟨hcne, hbad⟩ := cacheNormalizeLoop_spec (by simp) (.inl (by simp [hne])) hcounters
      obtain ⟨e, he⟩ := databaseNormalizeCounterData_error hcne hbad
      exact .inr ⟨counters, e, rfl, he⟩

/-- When the lock is free and the hash holds something, the hash is taken away and an
exception is raised, before anything is flushed. -/
theorem batchUpdateCounterGroup_raises {cfg : CounterSettings} {newIdentifier : String}
    {execute : Except Exn Unit} {store : CounterStore} {batchName : String}
    (hfree : deriveLockKey batchName ∉ store.locks) (hne : store.hashes batchName ≠ []) :
    ∃ e, batchUpdateCounterGroup cfg newIdentifier execute store batchName =
      (.error e, { store with
        hashes := fun name => if name = batchName then [] else store.hashes name }) := by
  have hreplies : (store.hashes batchName).map (fun (field, value) =>
      (clientReply cfg.decodeResponses field,
        clientReply cfg.decodeResponses (toString value))) ≠ [] := by
    simpa using hne
  -- the castings stand outside the `try`, so their exception leaves the function
  simp only [batchUpdateCounterGroup, hfree, if_false, hne]
  rcases castings_raise hreplies with ⟨e, he⟩ | ⟨counters, e, hcounters, he⟩
  · exact ⟨e, by rw [he]⟩
  · exact ⟨e, by rw [hcounters]; simp only [he]⟩

/-- A pair that was taken by a call that raised is in none of the three places. -/
theorem not_keptOnce_of_raised {store : CounterStore} {batchName : String} {e : Exn}
    {hashes : String → List (String × Int)} {pair : String × Int} :
    ¬ KeptOnce store { store with hashes := hashes } batchName (.error e) pair := by
  rintro (⟨hflushed, _⟩ | ⟨_, hretried, _⟩ | ⟨_, _, hdead⟩)
  · obtain ⟨_, _, _, _, _, _, hresult, _⟩ := hflushed
    cases hresult
  · obtain ⟨name, _, hregistry, _⟩ := hretried
    simp at hregistry
  · obtain ⟨batch, _, hletters, _⟩ := hdead
    simp at hletters

/-- A call that takes something out of the hash loses all of it. -/
theorem not_noDeltaLost_of_taken {cfg : CounterSettings} {newIdentifier : String}
    {execute : Except Exn Unit} {store : CounterStore} {batchName : String}
    (hfree : deriveLockKey batchName ∉ store.locks) (hne : store.hashes batchName ≠ []) :
    ¬ NoDeltaLost store
      (batchUpdateCounterGroup cfg newIdentifier execute store batchName).2 batchName
      (batchUpdateCounterGroup cfg newIdentifier execute store batchName).1 := by
  intro hkept
  obtain ⟨e, hraise⟩ := batchUpdateCounterGroup_raises hfree hne
  obtain ⟨pair, hpair⟩ := List.exists_mem_of_ne_nil _ hne
  rw [hraise] at hkept
  exact not_keptOnce_of_raised (hkept pair hpair (by simp))

/-- No delta is lost by `batch_update_counter_group` if and only if it takes nothing:
the lock of the group is held by another worker, or the hash is empty. -/
theorem noDeltaLost_iff (cfg : CounterSettings) (newIdentifier : String)
    (execute : Except Exn Unit) (store : CounterStore) (batchName : String) :
    NoDeltaLost store (batchUpdateCounterGroup cfg newIdentifier execute store batchName).2
      batchName (batchUpdateCounterGroup cfg newIdentifier execute store batchName).1 ↔
    deriveLockKey batchName ∈ store.locks ∨ store.hashes batchName = [] := by
  constructor
  · intro hkept
    by_contra hnot
    obtain ⟨hfree, hne⟩ := not_or.mp hnot
    exact not_noDeltaLost_of_taken hfree hne hkept
  · rintro (hheld | hnil) pair hpair hout
    · simp only [batchUpdateCounterGroup, hheld, if_true] at hout
      exact absurd hpair hout
    · rw [hnil] at hpair
      cases hpair

/-- A worker's Redis that holds three new comments of post 5. -/
def commentCounters : CounterStore where
  locks := []
  hashes := fun name => if name = "posts:total_comments" then [("posts:5", 3)] else []
  retryRegistry := []
  retryHashes := []
  deadLetters := []
  flushed := []

/-- The three comments are taken out of Redis and counted nowhere. -/
theorem batchUpdateCounterGroup_loses_delta :
    ¬ NoDeltaLost commentCounters
      (batchUpdateCounterGroup ⟨3, false⟩ "17000000000a1b2c3d" (.ok ()) commentCounters
        "posts:total_comments").2
      "posts:total_comments"
      (batchUpdateCounterGroup ⟨3, false⟩ "17000000000a1b2c3d" (.ok ()) commentCounters
        "posts:total_comments").1 :=
  not_noDeltaLost_of_taken (by simp [commentCounters]) (by simp [commentCounters])

end DatabaseWorkers
end Tenjin
