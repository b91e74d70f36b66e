import Tenjin.ResourceAuxillary.StreamIds

/-!
# Events on a stream

How an event is written to a stream entry and read back: `__cache_repr__` against
`Event.reconstruct_from_stream` and `StreamedEvent.construct_from_stream_record`
(`events.py`).  `orjson.loads` of a text is the parameter `loads`, with no result where it
raises `JSONDecodeError`, and `intOf` is what pydantic makes of a value for a field of type
`int`.

* `storedFields` is the entry as Redis stores it: a map of texts.
* `decodeUpdates` rebuilds one tuple of updates, and `reconstructFromStream` the event.
* `RoundTrips` is the purpose, and `never_roundTrips` says that no event meets it.
* `reconstructFromStream_layers` — were the nested lists texts, everything but the resource
  types of the cache updates would come back.
-/

namespace Tenjin
namespace ResourceAuxillary

open Python

/-- The members of `EventName`. -/
def EventName.members : List EventName :=
  [.postCreate, .postSave, .postUnsave, .postReport, .postVote, .postUnvote, .postDelete,
    .animeSub, .animeUnsub, .commentCreate, .commentVote, .commentUnvote, .commentReport,
    .commentDelete, .forumSub, .forumUnsub, .forumDelete, .userCleanup, .malformed,
    .orphanedPostDelete, .orphanedCommentDelete, .downstreamUserPostDecrement,
    .downstreamForumPostDecrement, .downstreamUserCommentDecrement,
    .downstreamPostCommentDecrement, .dlqCounter, .dlqSideEffects, .userDeletionEmail,
    .userRegistrationEmail, .userPasswordRecoveryEmail]

/-- `EventName(value)`. -/
def EventName.ofValue (value : String) : Option EventName :=
  EventName.members.find? (·.value = value)

/-- A value as an `IntentFlag`. -/
def IntentFlag.ofValue (value : String) : Option IntentFlag :=
  [.resourceCreationPendingFlag, .resourceCreationPendingAltFlag,
    .resourceDeletionPendingFlag].find? fun flag : IntentFlag => flag.value = value

/-- A value as the literal of an operation. -/
def CacheOperation.ofValue (value : String) : Option CacheOperation :=
  [.invalidate, .markMissing].find? fun operation : CacheOperation => operation.value = value

/-- The literal of the resource type. -/
def CacheResourceType.value : CacheResourceType → String
  | .string => "string"
  | .mapping => "mapping"

/-- A value as the literal of a resource type. -/
def CacheResourceType.ofValue (value : String) : Option CacheResourceType :=
  [.string, .mapping].find? fun type : CacheResourceType => type.value = value

/-- The items of a JSON object. -/
abbrev JsonObject := List (String × PyValue)

/-- A field of type `str`. -/
def strField (items : JsonObject) (name : String) : Option String :=
  match items.lookup name with
  | some (.str s) => some s
  | _ => none

section
variable (intOf : PyValue → Option Int)

/-- `CounterUpdate(**cu)`; without a result it raises `ValidationError`, a `ValueError`. -/
def CounterUpdate.ofItems (items : JsonObject) : Option CounterUpdate := do
  let counterGroup ← strField items "counter_group"
  let cacheKey ← strField items "cache_key"
  let fieldName ← strField items "field_name"
  let delta ← (items.lookup "delta").bind intOf
  return { counterGroup, cacheKey, fieldName, delta }

/-- `IntentUpdate(**iu)`. -/
def IntentUpdate.ofItems (items : JsonObject) : Option IntentUpdate := do
  let intentName ← strField items "intent_name"
  let intentFlag ← (strField items "intent_flag").bind IntentFlag.ofValue
  let intentId ← strField items "intent_id"
  return { intentName, intentFlag, intentId }

/-- `CacheUpdate(**ci)`; a missing resource type is `"mapping"`. -/
def CacheUpdate.ofItems (items : JsonObject) : Option CacheUpdate := do
  let cacheKey ← strField items "cache_key"
  let operation ← (strField items "operation").bind CacheOperation.ofValue
  let resourceType ←
    -- the field is never written, so it is always the default that is read back
    match items.lookup "resource_type" with
    | none => some .mapping
    | some _ => (strField items "resource_type").bind CacheResourceType.ofValue
  return { cacheKey, operation, resourceType }

/-- The models of the items of a list.  Only an object can stand after `**`. -/
def decodeItems {α : Type} (build : JsonObject → Option α) : List PyValue → Except Exn (List α)
  | [] => .ok []
  | .dict items :: rest =>
      match build items with
      | none => .error .valueError
      | some update => (decodeItems build rest).map (update :: ·)
  | _ :: _ => .error .typeError

/-- `tuple(Update(**u) for u in value)`.  An object is iterated over its keys and a text over
its characters; a number, a truth value and null cannot be iterated. -/
def decodeUpdates {α : Type} (build : JsonObject → Option α) : PyValue → Except Exn (List α)
  | .list items => decodeItems build items
  | .dict [] => .ok []
  | .str s => if s = "" then .ok [] else .error .typeError
  | .bytes s => if s = "" then .ok [] else .error .typeError
  | _ => .error .typeError

variable (loads : String → Option PyValue)

/-- `orjson.loads(value)`: what is neither a text nor bytes is a `JSONDecodeError` too. -/
def loadsValue : PyValue → Option PyValue
  | .str s => loads s
  | .bytes s => loads s
  | _ => none

/-- One tuple of updates out of the side effects; a missing one is `b"[]"`. -/
def nestedUpdates {α : Type} (build : JsonObject → Option α) (sideEffects : JsonObject)
    (field : String) : Except Exn (List α) :=
  -- the value is a text inside the text of the side effects
  match loadsValue loads ((sideEffects.lookup field).getD (.bytes "[]")) with
  | none => .error .valueError
  | some value => decodeUpdates build value

/-- The three tuples.  Only an object has the method `get`. -/
def decodeSideEffects : PyValue → Except Exn EventSideEffects
  | .dict rawSideEffects => do
      let counterUpdates ←
        nestedUpdates loads (CounterUpdate.ofItems intOf) rawSideEffects "counter_updates"
      let intentUpdates ←
        nestedUpdates loads IntentUpdate.ofItems rawSideEffects "intent_updates"
      let cacheInvalidations ←
        nestedUpdates loads CacheUpdate.ofItems rawSideEffects "cache_invalidations"
      return { counterUpdates, intentUpdates, cacheInvalidations }
  | _ => .error .attributeError

/-- The `try` block of `Event.reconstruct_from_stream`.  That the payload is an object is
checked last, by the model. -/
def reconstructBlock (entry : List (String × String)) : Except Exn Event :=
  match entry.lookup "name" with
  | none => .error (.keyError "name")
  | some rawName =>
      match EventName.ofValue rawName with
      | none => .error .valueError
      | some name =>
          match entry.lookup "payload" with
          | none => .error (.keyError "payload")
          | some rawPayload =>
              match loads rawPayload with
              | none => .error .valueError
              | some payload =>
                  match entry.lookup "side_effects" with
                  | none => .error (.keyError "side_effects")
                  | some text =>
                      match loads text with
                      | none => .error .valueError
                      | some rawSideEffects =>
                          match decodeSideEffects intOf loads rawSideEffects with
                          | .error e => .error e
                          | .ok sideEffects =>
                              match payload with
                              | .dict payload => .ok { name, payload, sideEffects }
                              | _ => .error .valueError

/-- `Event.reconstruct_from_stream`: a `KeyError` and a `ValueError` become a `ValueError`. -/
def reconstructFromStream (entry : List (String × String)) : Except Exn Event :=
  match reconstructBlock intOf loads entry with
  | .error (.keyError _) => .error .valueError
  | result => result

end

/-- The text that Redis stores for a value.  What is no text, no bytes and no number is
refused. -/
def storedText : PyValue → Except Exn String
  | .str s => .ok s
  | .bytes s => .ok s
  | .int i => .ok (toString i)
  | .float x => .ok (jsonFloat x)
  | _ => .error (.redisError false)

/-- The fields of an entry as they are stored. -/
def storedFields (entry : StreamEntry) : Except Exn (List (String × String)) :=
  entry.mapM fun (field, value) => (storedText value).map (field, ·)

section
variable (dumps : PyValue → Except Exn String) (loads : String → Option PyValue)
  (intOf : PyValue → Option Int)

/-- The event can be added to a stream, and the stored entry is read as the same event. -/
def RoundTrips (e : Event) : Prop :=
  ∃ entry fields, e.cacheRepr dumps = .ok entry ∧ storedFields entry = .ok fields ∧
    reconstructFromStream intOf loads fields = .ok e

/-- The same for an event with the ID of its entry. -/
def StreamedRoundTrips (id : StreamId) (e : StreamedEvent) : Prop :=
  ∃ entry fields, e.cacheRepr dumps = .ok entry ∧ storedFields entry = .ok fields ∧
    constructFromStreamRecord id.text (reconstructFromStream intOf loads fields) = .ok e

end

/-- No event round-trips, because none has a cache representation: the dictionary of its
side effects, which is to be dumped, is made of bytes objects. -/
theorem never_roundTrips {dumps : PyValue → Except Exn String} (hdumps : RejectsBytes dumps)
    (loads : String → Option PyValue) (intOf : PyValue → Option Int) :
    (∀ e : Event, ¬ RoundTrips dumps loads intOf e) ∧
      ∀ (id : StreamId) (e : StreamedEvent), ¬ StreamedRoundTrips dumps loads intOf id e := by
  constructor
  · rintro e ⟨entry, fields, hentry, -, -⟩
    exact Event.cacheRepr_ne_ok_of_rejectsBytes hdumps e entry hentry
  · rintro id e ⟨entry, fields, hentry, -, -⟩
    exact StreamedEvent.cacheRepr_ne_ok_of_rejectsBytes hdumps e entry hentry

/-- What pydantic makes of an integer, and of nothing else. -/
def plainInt : PyValue → Option Int
  | .int i => some i
  | _ => none

/-- Two JSON texts. -/
def emptyTexts : String → Option PyValue
  | "[]" => some (.list [])
  | "\x7b\x7d" => some (.dict [])
  | _ => none

/-- With the serialiser of the services no event round-trips. -/
theorem orjson_never_roundTrips :
    (∀ e : Event, ¬ RoundTrips orjsonDumps emptyTexts plainInt e) ∧
      ∀ (id : StreamId) (e : StreamedEvent),
        ¬ StreamedRoundTrips orjsonDumps emptyTexts plainInt id e :=
  never_roundTrips orjsonDumps_rejectsBytes emptyTexts plainInt

/-- An event without a payload and side effects. -/
def bareEvent : Event := ⟨.userCleanup, [], {}⟩

/-- It cannot be added to a stream. -/
theorem bareEvent_not_roundTrips :
    bareEvent.cacheRepr orjsonDumps = .error .typeError ∧
      ¬ RoundTrips orjsonDumps emptyTexts plainInt bareEvent := by
  have herror : bareEvent.cacheRepr orjsonDumps = .error .typeError := by decide
  refine ⟨herror, ?_⟩
  rintro ⟨entry, fields, hentry, -, -⟩
  rw [herror] at hentry
  cases hentry

/-- A member is found by its value. -/
theorem EventName.ofValue_value (name : EventName) : EventName.ofValue name.value = some name := by
  cases name <;> rfl

theorem IntentFlag.ofValue_value (flag : IntentFlag) :
    IntentFlag.ofValue flag.value = some flag := by
  cases flag <;> decide

theorem CacheOperation.ofValue_value (operation : CacheOperation) :
    CacheOperation.ofValue operation.value = some operation := by
  cases operation <;> rfl

/-- The update that is read back from what is written of it. -/
def CacheUpdate.asRead (u : CacheUpdate) : CacheUpdate := { u with resourceType := .mapping }

/-- The side effects that are read back. -/
def EventSideEffects.asRead (s : EventSideEffects) : EventSideEffects :=
  { s with cacheInvalidations := s.cacheInvalidations.map CacheUpdate.asRead }

/-- Models that come back from their representations one by one come back from the list. -/
theorem decodeItems_map {α : Type} {build : JsonObject → Option α} {repr : α → PyValue}
    {read : α → α} (h : ∀ a, ∃ items, repr a = .dict items ∧ build items = some (read a))
    (as : List α) : decodeItems build (as.map repr) = .ok (as.map read) := by
  induction as with
  | nil => rfl
  | cons a as ih =>
      obtain ⟨items, hrepr, hbuild⟩ := h a
      simp only [List.map_cons, hrepr, decodeItems, hbuild, ih]
      rfl

/-- The texts of an event, were the nested lists texts: each layer is read as what is
written of the event. -/
structure Layers (loads : String → Option PyValue) (e : Event) where
  payload : String
  sideEffects : String
  counters : String
  intents : String
  caches : String
  loads_payload : loads payload = some (.dict e.payload)
  loads_sideEffects : loads sideEffects = some (.dict [("counter_updates", .str counters),
    ("intent_updates", .str intents), ("cache_invalidations", .str caches)])
  loads_counters : loads counters =
    some (.list (e.sideEffects.counterUpdates.map CounterUpdate.cacheRepr))
  loads_intents : loads intents =
    some (.list (e.sideEffects.intentUpdates.map IntentUpdate.cacheRepr))
  loads_caches : loads caches =
    some (.list (e.sideEffects.cacheInvalidations.map CacheUpdate.cacheRepr))

section
variable {loads : String → Option PyValue} {intOf : PyValue → Option Int} {e : Event}

/-- The entry of the event. -/
def Layers.fields (l : Layers loads e) : List (String × String) :=
  [("name", e.name.value), ("payload", l.payload), ("side_effects", l.sideEffects)]

/-- The event comes back but for the resource types of its cache updates. -/
theorem reconstructFromStream_layers (hint : ∀ n, intOf (.int n) = some n)
    (l : Layers loads e) :
    reconstructFromStream intOf loads l.fields =
      .ok { e with sideEffects := e.sideEffects.asRead } := by
  have hcounters : decodeItems (CounterUpdate.ofItems intOf)
      (e.sideEffects.counterUpdates.map CounterUpdate.cacheRepr) =
      .ok (e.sideEffects.counterUpdates.map id) :=
    decodeItems_map (fun u => ⟨_, rfl, by
      simp [CounterUpdate.ofItems, strField, List.lookup_cons, hint]⟩) _
  have hintents : decodeItems IntentUpdate.ofItems
      (e.sideEffects.intentUpdates.map IntentUpdate.cacheRepr) =
      .ok (e.sideEffects.intentUpdates.map id) :=
    decodeItems_map (fun u => ⟨_, rfl, by
      simp [IntentUpdate.ofItems, strField, List.lookup_cons, IntentFlag.ofValue_value]⟩) _
  have hcaches : decodeItems CacheUpdate.ofItems
      (e.sideEffects.cacheInvalidations.map CacheUpdate.cacheRepr) =
      .ok (e.sideEffects.cacheInvalidations.map CacheUpdate.asRead) :=
    decodeItems_map (fun u => ⟨_, rfl, by
      simp [CacheUpdate.ofItems, strField, List.lookup_cons, CacheOperation.ofValue_value,
        CacheUpdate.asRead]⟩) _
  have hsideEffects : decodeSideEffects intOf loads (.dict [("counter_updates", .str l.counters),
      ("intent_updates", .str l.intents), ("cache_invalidations", .str l.caches)]) =
      .ok e.sideEffects.asRead := by
    have hread : ∀ {α : Type} (build : JsonObject → Option α) (field text : String)
        (items : List PyValue) (us : List α), loads text = some (.list items) →
        ([("counter_updates", PyValue.str l.counters), ("intent_updates", .str l.intents),
          ("cache_invalidations", .str l.caches)]).lookup field = some (.str text) →
        decodeItems build items = .ok us →
        nestedUpdates loads build [("counter_updates", .str l.counters),
          ("intent_updates", .str l.intents), ("cache_invalidations", .str l.caches)] field =
          .ok us := by
      intro α build field text items us hloads hfield hitems
      simp only [nestedUpdates, hfield, Option.getD_some, loadsValue, hloads]
      exact hitems
    rw [decodeSideEffects, hread _ "counter_updates" _ _ _ l.loads_counters rfl hcounters,
      hread _ "intent_updates" _ _ _ l.loads_intents rfl hintents,
      hread _ "cache_invalidations" _ _ _ l.loads_caches rfl hcaches, List.map_id, List.map_id]
    rfl
  have hname : l.fields.lookup "name" = some e.name.value := rfl
  have hpayload : l.fields.lookup "payload" = some l.payload := rfl
  have htext : l.fields.lookup "side_effects" = some l.sideEffects := rfl
  -- no branch of the `try` block raises
  simp only [reconstructFromStream, reconstructBlock, hname, hpayload, htext,
    EventName.ofValue_value, l.loads_payload, l.loads_sideEffects, hsideEffects]

/-- So the event itself comes back exactly when all cached resources are mappings. -/
theorem reconstructFromStream_layers_iff (hint : ∀ n, intOf (.int n) = some n)
    (l : Layers loads e) :
    reconstructFromStream intOf loads l.fields = .ok e ↔
      ∀ u ∈ e.sideEffects.cacheInvalidations, u.resourceType = .mapping := by
  have hasRead : ∀ u : CacheUpdate, u.asRead = u ↔ u.resourceType = .mapping := by
    intro u
    cases u
    simp [CacheUpdate.asRead, eq_comm]
  rw [reconstructFromStream_layers hint l]
  obtain ⟨name, payload, counters, intents, caches⟩ := e
  simp only [EventSideEffects.asRead, Except.ok.injEq, Event.mk.injEq,
    EventSideEffects.mk.injEq, true_and, ← hasRead]
  have hmap : caches.map CacheUpdate.asRead = caches.map id ↔
      ∀ u ∈ caches, u.asRead = id u := List.map_inj_left
  rwa [List.map_id] at hmap

end

/-- User 7 saves a post, and the entry of the post is to be dropped. -/
def postSaveEvent : Event :=
  ⟨.postSave, [("user_id", .int 7)], ⟨[], [], [⟨"posts:5", .invalidate, .string⟩]⟩⟩

/-- One text for every part of that event. -/
def postSaveTexts : String → Option PyValue
  | "payload" => some (.dict [("user_id", .int 7)])
  | "side_effects" => some (.dict [("counter_updates", .str "counters"),
      ("intent_updates", .str "intents"), ("cache_invalidations", .str "caches")])
  | "counters" => some (.list [])
  | "intents" => some (.list [])
  | "caches" => some (.list [CacheUpdate.cacheRepr ⟨"posts:5", .invalidate, .string⟩])
  | _ => none

/-- They are the layers of the event. -/
def postSaveLayers : Layers postSaveTexts postSaveEvent where
  payload := "payload"
  sideEffects := "side_effects"
  counters := "counters"
  intents := "intents"
  caches := "caches"
  loads_payload := rfl
  loads_sideEffects := rfl
  loads_counters := rfl
  loads_intents := rfl
  loads_caches := rfl

/-- Its update is read back as one of a mapping, so the event does not come back. -/
theorem postSave_not_readBack :
    reconstructFromStream plainInt postSaveTexts postSaveLayers.fields ≠ .ok postSaveEvent := by
  intro hread
  have hmapping := (reconstructFromStream_layers_iff (fun _ => rfl) postSaveLayers).mp hread
    ⟨"posts:5", .invalidate, .string⟩ (List.mem_singleton.mpr rfl)
  cases hmapping

end ResourceAuxillary
end Tenjin
