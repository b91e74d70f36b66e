import Tenjin.Python.Orjson
import Tenjin.ResourceAuxillary.Strings

/-!
# Events and their side effects

The models of `events.py`.  `orjson.dumps` is not part of the repository: it is
the parameter `dumps` of the cache representations, a partial function from
values to the bytes of a JSON text.
-/

namespace Tenjin
namespace ResourceAuxillary

open Python

/-- A delta for one field of a counter group. -/
structure CounterUpdate where
  counterGroup : String
  cacheKey : String
  fieldName : String
  delta : Int
  deriving DecidableEq

/-- `CounterUpdate.__cache_repr__`. -/
def CounterUpdate.cacheRepr (u : CounterUpdate) : PyValue :=
  .dict [("counter_group", .str u.counterGroup), ("cache_key", .str u.cacheKey),
    ("field_name", .str u.fieldName), ("delta", .int u.delta)]

/-- A pending intent that the event settles. -/
structure IntentUpdate where
  intentName : String
  intentFlag : IntentFlag
  intentId : String
  deriving DecidableEq

/-- `IntentUpdate.intent_value`: what the intent's key holds while it is pending. -/
def IntentUpdate.intentValue (u : IntentUpdate) : String :=
  pyJoin nameSeperator [u.intentFlag.value, u.intentId]

/-- `IntentUpdate.__cache_repr__`. -/
def IntentUpdate.cacheRepr (u : IntentUpdate) : PyValue :=
  .dict [("intent_name", .str u.intentName), ("intent_flag", .str u.intentFlag.value),
    ("intent_id", .str u.intentId)]

/-- The two operations of a `CacheUpdate`. -/
inductive CacheOperation
  | invalidate
  | markMissing
  deriving DecidableEq

/-- How the cached resource is stored. -/
inductive CacheResourceType
  | string
  | mapping
  deriving DecidableEq

/-- A cache entry to drop or to mark as missing. -/
structure CacheUpdate where
  cacheKey : String
  operation : CacheOperation
  resourceType : CacheResourceType := .mapping
  deriving DecidableEq

/-- The literal of the operation. -/
def CacheOperation.value : CacheOperation → String
  | .invalidate => "invalidate"
  | .markMissing => "mark_missing"

/-- `CacheUpdate.__cache_repr__`; the resource type is not written. -/
def CacheUpdate.cacheRepr (u : CacheUpdate) : PyValue :=
  .dict [("cache_key", .str u.cacheKey), ("operation", .str u.operation.value)]

/-- `EventSideEffects`, with its three empty defaults. -/
structure EventSideEffects where
  counterUpdates : List CounterUpdate := []
  intentUpdates : List IntentUpdate := []
  cacheInvalidations : List CacheUpdate := []
  deriving DecidableEq

/-- `EventSideEffects.__cache_repr__`: each tuple becomes the bytes of a JSON list. -/
def EventSideEffects.cacheRepr (dumps : PyValue → Except Exn String)
    (s : EventSideEffects) : Except Exn PyValue := do
  let counters ← dumps (.list (s.counterUpdates.map CounterUpdate.cacheRepr))
  let intents ← dumps (.list (s.intentUpdates.map IntentUpdate.cacheRepr))
  let caches ← dumps (.list (s.cacheInvalidations.map CacheUpdate.cacheRepr))
  return .dict [("counter_updates", .bytes counters), ("intent_updates", .bytes intents),
    ("cache_invalidations", .bytes caches)]

/-- `Event`. -/
structure Event where
  name : EventName
  payload : List (String × PyValue)
  sideEffects : EventSideEffects
  deriving DecidableEq

/-- The field map of a stream entry. -/
abbrev StreamEntry := List (String × PyValue)

/-- `Event.__cache_repr__`.  The dictionary of the side effects holds bytes when
it is dumped again. -/
def Event.cacheRepr (dumps : PyValue → Except Exn String) (e : Event) :
    Except Exn StreamEntry := do
  let payload ← dumps (.dict e.payload)
  let sideEffects ← e.sideEffects.cacheRepr dumps
  let dumped ← dumps sideEffects
  return [("name", .str e.name.value), ("payload", .bytes payload),
    ("side_effects", .bytes dumped)]

/-- `StreamedEvent`: an event together with the number of its stream entry. -/
structure StreamedEvent extends Event where
  eventId : Int
  deriving DecidableEq

/-- `StreamedEvent.__cache_repr__`. -/
def StreamedEvent.cacheRepr (dumps : PyValue → Except Exn String) (e : StreamedEvent) :
    Except Exn StreamEntry := do
  let entry ← e.toEvent.cacheRepr dumps
  return entry ++ [("event_id", .int e.eventId)]

/-- `event.payload[field]`: a missing field is a `KeyError`. -/
def Event.payloadField (e : Event) (field : String) : Except Exn PyValue :=
  match e.payload.lookup field with
  | some v => .ok v
  | none => .error (.keyError field)

/-- With a serialiser that refuses bytes no event has a cache representation: the
dictionary of the side effects is made of bytes objects. -/
theorem Event.cacheRepr_ne_ok_of_rejectsBytes {dumps : PyValue → Except Exn String}
    (h : RejectsBytes dumps) (e : Event) (entry : StreamEntry) :
    e.cacheRepr dumps ≠ .ok entry := by
  intro hok
  cases hp : dumps (.dict e.payload) with
  | error x => simp [Event.cacheRepr, hp, bind, Except.bind] at hok
  | ok payload =>
      cases hs : e.sideEffects.cacheRepr dumps with
      | error x => simp [Event.cacheRepr, hp, hs, bind, Except.bind] at hok
      | ok sideEffects =>
          have hdump : ∀ text, dumps sideEffects ≠ .ok text := by
            unfold EventSideEffects.cacheRepr at hs
            simp only [bind, Except.bind, pure, Except.pure] at hs
            repeat' split at hs
            all_goals cases hs
            intro text
            exact h _ "counter_updates" _ text (List.mem_cons_self ..)
          cases hd : dumps sideEffects with
          | error x => simp [Event.cacheRepr, hp, hs, hd, bind, Except.bind] at hok
          | ok text => exact hdump text hd

/-- The same for an event that has been streamed. -/
theorem StreamedEvent.cacheRepr_ne_ok_of_rejectsBytes
    {dumps : PyValue → Except Exn String} (h : RejectsBytes dumps) (e : StreamedEvent)
    (entry : StreamEntry) : e.cacheRepr dumps ≠ .ok entry := by
  intro hok
  cases he : e.toEvent.cacheRepr dumps with
  | error x => simp [StreamedEvent.cacheRepr, he, bind, Except.bind] at hok
  | ok base => exact Event.cacheRepr_ne_ok_of_rejectsBytes h e.toEvent base he

end ResourceAuxillary
end Tenjin
