import Tenjin.DatabaseWorkers.Associations
import Tenjin.DatabaseWorkers.RetryChain
import Tenjin.ResourceAuxillary.EventCodec

/-!
# Dead counter batches

The last record of deltas that have left Redis: `declare_counters_event_dead`
(`declarations.py`) writes a `DeadCounterBatch` (`dead_counter_batch.py`) to the dead letter
stream, and `get_dlq_insertion_parameters` (`dlq_workers.py`) reads it for the database.

* `Mending` says which slips of the writer are taken as mended; `asWritten` is the code.
* `constructFromEventPayload_counters` — the reader returns no batch with counters, because
  the keys of a JSON object are texts.
* `CountersRoundTrip` is the purpose, and `countersRoundTrip_never` says that no batch
  meets it.
-/

namespace Tenjin
namespace DatabaseWorkers

open Python ResourceAuxillary

/-- `DeadCounterBatch` with all its fields, none of which is validated.  The dictionary of the
counters is in insertion order, and the failure time is given by its `isoformat`. -/
structure DeadCounterRecord where
  table : PyValue
  column : PyValue
  counters : List (Int × Int)
  failureTime : String
  deriving DecidableEq

/-- `DeadCounterBatch.construct_from_failed_batch`; `now` is `datetime.now()`. -/
def DeadCounterRecord.constructFromFailedBatch (now table column : String)
    (counters : List (Int × Int)) (failureTime : Option String) : DeadCounterRecord :=
  ⟨.str table, .str column, counters, failureTime.getD now⟩

/-- A value of the dictionary that `__json_repr__` returns. -/
inductive ReprValue
  | value (v : PyValue)
  /-- A dictionary whose keys are integers. -/
  | counters (counters : List (Int × Int))

/-- `DeadCounterBatch.__json_repr__`. -/
def DeadCounterRecord.jsonRepr (b : DeadCounterRecord) : List (String × ReprValue) :=
  [("table", .value b.table), ("column", .value b.column), ("counters", .counters b.counters),
    ("failure_time", .value (.str b.failureTime))]

/-- A value as `orjson.dumps` takes it.  Without `OPT_NON_STR_KEYS` a key that is no `str`
is refused. -/
def ReprValue.strKeyed : ReprValue → Except Exn PyValue
  | .value v => .ok v
  | .counters [] => .ok (.dict [])
  | .counters (_ :: _) => .error .typeError

/-- Which slips of `declare_counters_event_dead` are taken as mended. -/
structure Mending where
  /-- `EventSideEffects` is imported. -/
  imported : Bool
  /-- The retry policy is passed before the coroutine. -/
  policyPassed : Bool
  deriving DecidableEq

/-- The code. -/
def Mending.asWritten : Mending := ⟨false, false⟩

section
variable (dumps : PyValue → Except Exn String)

/-- `cache_repr` of the failure event. -/
def failureEntry (payload : List (String × ReprValue)) : Except Exn StreamEntry := do
  let payload ← payload.mapM fun (field, v) => v.strKeyed.map (field, ·)
  ({ name := .dlqCounter, payload, sideEffects := {} } : Event).cacheRepr dumps

/-- `declare_counters_event_dead`, up to the entry that is added to the stream. -/
def declareDeadCounters (m : Mending) (now counterGroup : String)
    (batch : List (Int × Int)) : Except Exn StreamEntry :=
  match pySplit ':' counterGroup with
  | [table, column] =>
      let dlqCountersBatch := DeadCounterRecord.constructFromFailedBatch now table column batch none
      -- `EventSideEffects()` is evaluated for the event
      if m.imported = false then .error .nameError
      -- the coroutine is taken for the policy, and it has no `MAX_RETRIES`
      else if m.policyPassed = false then .error .attributeError
      else failureEntry dumps dlqCountersBatch.jsonRepr
  | _ => .error .valueError

end

/-- `isinstance(value, int)`, with the integer that the value is; a `bool` is one, too. -/
def asInt : PyValue → Option Int
  | .int i => some i
  | .bool b => some (if b then 1 else 0)
  | _ => none

/-- The loop over the items of the counters. -/
def intCounters : List (PyValue × PyValue) → Except Exn (List (Int × Int))
  | [] => .ok []
  | (k, v) :: items =>
      match asInt k, asInt v with
      | some k, some v => (intCounters items).map ((k, v) :: ·)
      | _, _ => .error .valueError

/-- `payload[field]`. -/
def payloadItem (payload : JsonObject) (field : String) : Except Exn PyValue :=
  match payload.lookup field with
  | some v => .ok v
  | none => .error (.keyError field)

section
variable (conv : Conversions) (loads : String → Option PyValue)

/-- `DeadCounterBatch.construct_from_event_payload`. -/
def DeadCounterRecord.constructFromEventPayload (payload : JsonObject) :
    Except Exn DeadCounterRecord := do
  let table ← payloadItem payload "table"
  let column ← payloadItem payload "column"
  let rawFailureTime ← payloadItem payload "failure_time"
  let failureTime ← conv.fromisoformat rawFailureTime
  let rawCounters ← payloadItem payload "counters"
  match loadsValue loads rawCounters with
  | none => .error .valueError
  | some (.dict items) =>
      let counters ← intCounters (items.map fun (k, v) => (.str k, v))
      return { table, column, counters, failureTime }
  -- only an object has the method `items`
  | some _ => .error .attributeError

/-- `SideEffectType`. -/
inductive SideEffectType
  | cacheInvalidation
  | intentInvalidation
  | counterUpdate
  deriving DecidableEq

/-- The value of the member. -/
def SideEffectType.value : SideEffectType → String
  | .cacheInvalidation => "CACHE_INVALIDATION"
  | .intentInvalidation => "INTENT_INVALIDATION"
  | .counterUpdate => "COUNTER_UPDATE"

/-- The parameters of one insertion. -/
inductive DlqParameters
  | counters (table column : PyValue) (failureTime : String) (pairs : List (Int × Int))
  /-- The ID of the event, the type of the side effect and its `json_repr`, for each. -/
  | sideEffects (rows : List (Int × String × PyValue))
  /-- The ID of the event and its `json_repr`, which is the event's as it stands. -/
  | standard (eventId : Int) (event : StreamedEvent)
  deriving DecidableEq

/-- The pairs of key and delta among the parameters. -/
def DlqParameters.pairs : DlqParameters → Option (List (Int × Int))
  | .counters _ _ _ pairs => some pairs
  | _ => none

/-- The rows of the side effects of an event.  The three representations are the same for
JSON and for the cache. -/
def sideEffectRows (event : StreamedEvent) : List (Int × String × PyValue) :=
  let group (type : SideEffectType) (updates : List PyValue) :=
    updates.map fun update => (event.eventId, type.value, update)
  group .cacheInvalidation (event.sideEffects.cacheInvalidations.map CacheUpdate.cacheRepr) ++
    group .counterUpdate (event.sideEffects.counterUpdates.map CounterUpdate.cacheRepr) ++
    group .intentInvalidation (event.sideEffects.intentUpdates.map IntentUpdate.cacheRepr)

/-- `get_dlq_insertion_parameters`. -/
def getDlqInsertionParameters (event : StreamedEvent) : Except Exn DlqParameters :=
  match event.name with
  | .dlqCounter =>
      (DeadCounterRecord.constructFromEventPayload conv loads event.payload).map fun batch =>
        .counters batch.table batch.column batch.failureTime batch.counters
  | .dlqSideEffects => .ok (.sideEffects (sideEffectRows event))
  | _ => .ok (.standard event.eventId event)

variable (dumps : PyValue → Except Exn String) (intOf : PyValue → Option Int)

/-- The batch of a group is added to the stream, the stored entry is read as an event, its
payload as an equal batch, and the insertion parameters hold the pairs. -/
def CountersRoundTrip (m : Mending) (id : StreamId) (now table column : String)
    (batch : List (Int × Int)) : Prop :=
  ∃ entry fields event params,
    declareDeadCounters dumps m now (deriveHashmapName table column) batch = .ok entry ∧
      storedFields entry = .ok fields ∧
      constructFromStreamRecord id.text (reconstructFromStream intOf loads fields) = .ok event ∧
      DeadCounterRecord.constructFromEventPayload conv loads event.payload =
        .ok (.constructFromFailedBatch now table column batch none) ∧
      getDlqInsertionParameters conv loads event = .ok params ∧ params.pairs = some batch

end

/-- As it stands the writer raises what it raises in a flush. -/
theorem declareDeadCounters_asWritten (dumps : PyValue → Except Exn String)
    (now counterGroup : String) (batch : List (Int × Int)) (e : Exn) :
    declareDeadCounters dumps .asWritten now counterGroup batch = .error e ↔
      declareCountersEventDead counterGroup batch = .error e := by
  unfold declareDeadCounters declareCountersEventDead
  cases pySplit ':' counterGroup with
  | nil => simp
  | cons table rest =>
      match rest with
      | [] | [_] | _ :: _ :: _ => simp [Mending.asWritten]

/-- Counters with a key are not dumped. -/
theorem failureEntry_error (dumps : PyValue → Except Exn String) {b : DeadCounterRecord}
    (hne : b.counters ≠ []) : failureEntry dumps b.jsonRepr = .error .typeError := by
  cases hcounters : b.counters with
  | nil => exact absurd hcounters hne
  | cons counter counters =>
      simp only [failureEntry, DeadCounterRecord.jsonRepr, hcounters, List.mapM_cons]
      rfl

/-- So a batch with counters is not written, whichever of the slips are mended. -/
theorem declareDeadCounters_ne_ok (dumps : PyValue → Except Exn String) (m : Mending)
    (now counterGroup : String) {batch : List (Int × Int)} (hne : batch ≠ [])
    (entry : StreamEntry) : declareDeadCounters dumps m now counterGroup batch ≠ .ok entry := by
  intro hok
  unfold declareDeadCounters at hok
  split at hok
  · rename_i table column _
    have hentry := failureEntry_error dumps
      (b := DeadCounterRecord.constructFromFailedBatch now table column batch none) hne
    simp only [hentry] at hok
    split_ifs at hok
  · cases hok

/-- Nor is a batch without counters, as long as the serialiser refuses bytes: the side
effects of the failure event are bytes. -/
theorem declareDeadCounters_ne_ok_of_rejectsBytes {dumps : PyValue → Except Exn String}
    (hdumps : RejectsBytes dumps) (m : Mending) (now counterGroup : String)
    (batch : List (Int × Int)) (entry : StreamEntry) :
    declareDeadCounters dumps m now counterGroup batch ≠ .ok entry := by
  intro hok
  unfold declareDeadCounters at hok
  split at hok
  · split_ifs at hok
    obtain ⟨payload, -, hentry⟩ := except_bind_eq_ok hok
    exact Event.cacheRepr_ne_ok_of_rejectsBytes hdumps _ entry hentry
  · cases hok

/-- The keys of a JSON object are texts, so the check passes for the empty object only. -/
theorem intCounters_items {items : JsonObject} {counters : List (Int × Int)}
    (h : intCounters (items.map fun (k, v) => (.str k, v)) = .ok counters) : counters = [] := by
  cases items with
  | nil =>
      cases h
      rfl
  | cons item items => cases h

section
variable (conv : Conversions) (loads : String → Option PyValue)

/-- A batch that is read has its counters from a text of an object. -/
theorem constructFromEventPayload_ok {payload : JsonObject} {batch : DeadCounterRecord}
    (h : DeadCounterRecord.constructFromEventPayload conv loads payload = .ok batch) :
    ∃ rawCounters items, payload.lookup "counters" = some rawCounters ∧
      loadsValue loads rawCounters = some (.dict items) ∧
      intCounters (items.map fun (k, v) => (.str k, v)) = .ok batch.counters := by
  obtain ⟨table, -, h⟩ := except_bind_eq_ok h
  obtain ⟨column, -, h⟩ := except_bind_eq_ok h
  obtain ⟨rawFailureTime, -, h⟩ := except_bind_eq_ok h
  obtain ⟨failureTime, -, h⟩ := except_bind_eq_ok h
  obtain ⟨rawCounters, hraw, h⟩ := except_bind_eq_ok h
  have hlookup : payload.lookup "counters" = some rawCounters := by
    unfold payloadItem at hraw
    split at hraw
    · rename_i v hv
      cases hraw
      exact hv
    · cases hraw
  split at h
  · cases h
  · rename_i items hitems
    obtain ⟨counters, hcounters, h⟩ := except_bind_eq_ok h
    cases h
    exact ⟨rawCounters, items, hlookup, hitems, hcounters⟩
  · cases h

/-- Whatever the payload, the batch that is read has no counters. -/
theorem constructFromEventPayload_counters {payload : JsonObject} {batch : DeadCounterRecord}
    (h : DeadCounterRecord.constructFromEventPayload conv loads payload = .ok batch) :
    batch.counters = [] := by
  obtain ⟨rawCounters, items, -, -, hcounters⟩ := constructFromEventPayload_ok conv loads h
  exact intCounters_items hcounters

/-- The parameters of a counter event hold no pair. -/
theorem getDlqInsertionParameters_pairs {event : StreamedEvent} {params : DlqParameters}
    (h : getDlqInsertionParameters conv loads event = .ok params)
    {counters : List (Int × Int)} (hpairs : params.pairs = some counters) : counters = [] := by
  unfold getDlqInsertionParameters at h
  split at h
  · cases hbatch : DeadCounterRecord.constructFromEventPayload conv loads event.payload with
    | error e => simp [hbatch, Except.map] at h
    | ok batch =>
        simp only [hbatch, Except.map, Except.ok.injEq] at h
        subst h
        cases hpairs
        exact constructFromEventPayload_counters conv loads hbatch
  · cases h
    cases hpairs
  · cases h
    cases hpairs

variable (dumps : PyValue → Except Exn String) (intOf : PyValue → Option Int)

/-- No dead counter batch comes back from the stream: the writer raises before it has an
event. -/
theorem countersRoundTrip_never (id : StreamId) (now table column : String)
    (batch : List (Int × Int)) :
    ¬ CountersRoundTrip conv loads dumps intOf .asWritten id now table column batch := by
  rintro ⟨entry, -, -, -, hentry, -⟩
  obtain ⟨e, he⟩ := declareCountersEventDead_error (deriveHashmapName table column) batch
  rw [(declareDeadCounters_asWritten dumps now _ batch e).mpr he] at hentry
  cases hentry

end

/-- Three comments of post 5 do not come back, neither as the writer stands nor with both of
its slips mended. -/
theorem threeComments_not_roundTrip :
    ¬ CountersRoundTrip textConversions emptyTexts orjsonDumps plainInt .asWritten
        ⟨1700000000000, 0⟩ "2026-07-01T12:00:00" "posts" "total_comments" [(5, 3)] ∧
      ¬ CountersRoundTrip textConversions emptyTexts orjsonDumps plainInt ⟨true, true⟩
        ⟨1700000000000, 0⟩ "2026-07-01T12:00:00" "posts" "total_comments" [(5, 3)] := by
  constructor
  · intro h
    obtain ⟨entry, -, -, -, hentry, -⟩ := h
    exact declareDeadCounters_ne_ok orjsonDumps _ _ _ (List.cons_ne_nil _ _) entry hentry
  · intro h
    obtain ⟨entry, -, -, -, hentry, -⟩ := h
    exact declareDeadCounters_ne_ok orjsonDumps _ _ _ (List.cons_ne_nil _ _) entry hentry

end DatabaseWorkers
end Tenjin
