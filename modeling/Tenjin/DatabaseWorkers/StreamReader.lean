import Tenjin.ResourceAuxillary.EventCodec

/-!
# Reading a stream

`stream_reader` of `stream_readers.py`, and what the constructors of `events.py` raise on
any stream record.

* `OnlyValueErrors` is the purpose of the constructors, `Misshapen` the records that fail it:
  their side effects are JSON of another shape, so that `get` is no attribute
  (`AttributeError`) or something cannot be iterated or unpacked (`TypeError`).
* `readEntries` is the loop of the reader: it sorts the entries of a reply into events and
  malformed events.
* `ReaderContains` is the purpose of the reader, and `poison_contained_iff` says when both
  hold.  An empty reply has no first stream, and a client that returns bytes has no text for
  an ID.
-/

namespace Tenjin
namespace DatabaseWorkers

open Python ResourceAuxillary

/-- What a computation raises, if it raises, is among some exceptions. -/
def RaisesIn {α : Type} (P : Exn → Prop) (x : Except Exn α) : Prop := ∀ e, x = .error e → P e

/-- A computation returns or raises `ValueError`. -/
abbrev OnlyValueErrors {α : Type} (x : Except Exn α) : Prop := RaisesIn (· = .valueError) x

/-- A list of objects that the model accepts.  What is empty can stand for it. -/
def ValidUpdates {α : Type} (build : JsonObject → Option α) : PyValue → Prop
  | .list items => ∀ v ∈ items, ∃ fields update, v = .dict fields ∧ build fields = some update
  | .dict items => items = []
  | .str s => s = ""
  | .bytes s => s = ""
  | _ => False

/-- What is not a list of objects, as far as it is read: an item that is no object comes
after valid ones. -/
def MisshapenUpdates {α : Type} (build : JsonObject → Option α) : PyValue → Prop
  | .list items => ∃ front item back, items = front ++ item :: back ∧
      ValidUpdates build (.list front) ∧ ∀ fields, item ≠ .dict fields
  | .dict items => items ≠ []
  | .str s => s ≠ ""
  | .bytes s => s ≠ ""
  | _ => True

section
variable (intOf : PyValue → Option Int) (loads : String → Option PyValue)

/-- A field of the side effects, or the empty list if it is missing, is a JSON text of such
a shape. -/
def FieldHas (shape : PyValue → Prop) (sideEffects : JsonObject) (field : String) : Prop :=
  ∃ value, loadsValue loads ((sideEffects.lookup field).getD (.bytes "[]")) = some value ∧
    shape value

/-- Side effects of another shape: no object, or an object whose first field that is not
valid is misshapen. -/
def MisshapenSideEffects : PyValue → Prop
  | .dict raw =>
      FieldHas loads (MisshapenUpdates (CounterUpdate.ofItems intOf)) raw "counter_updates" ∨
        FieldHas loads (ValidUpdates (CounterUpdate.ofItems intOf)) raw "counter_updates" ∧
        (FieldHas loads (MisshapenUpdates IntentUpdate.ofItems) raw "intent_updates" ∨
          FieldHas loads (ValidUpdates IntentUpdate.ofItems) raw "intent_updates" ∧
          FieldHas loads (MisshapenUpdates CacheUpdate.ofItems) raw "cache_invalidations")
  | _ => True

/-- The three layers of a record: a known name and two JSON texts. -/
def recordLayers (entry : List (String × String)) : Option (EventName × PyValue × PyValue) := do
  let name ← (entry.lookup "name").bind EventName.ofValue
  let payload ← (entry.lookup "payload").bind loads
  let rawSideEffects ← (entry.lookup "side_effects").bind loads
  return (name, payload, rawSideEffects)

/-- A record with its three layers, whose side effects are misshapen. -/
def Misshapen (entry : List (String × String)) : Prop :=
  ∃ name payload raw, recordLayers loads entry = some (name, payload, raw) ∧
    MisshapenSideEffects intOf loads raw

end

/-- An entry of a stream: its ID and a map of texts. -/
structure RawRecord where
  id : StreamId
  fields : List (String × String)

section
variable (intOf : PyValue → Option Int) (loads : String → Option PyValue)

/-- `StreamedEvent.construct_from_stream_record` for the texts of an entry. -/
def constructRecord (r : RawRecord) : Except Exn StreamedEvent :=
  constructFromStreamRecord r.id.text (reconstructFromStream intOf loads r.fields)

/-- The same for what the client returns.  The ID as bytes has no `replace` of texts. -/
def constructReply (decodeResponses : Bool) (r : RawRecord) : Except Exn StreamedEvent :=
  if decodeResponses then constructRecord intOf loads r else .error .typeError

/-- The event of a malformed entry. -/
def malformedEvent (r : RawRecord) : StreamedEvent where
  name := .malformed
  payload := r.fields.map fun (key, value) => (key, .str value)
  sideEffects := {}
  eventId := r.id.number

variable (decodeResponses : Bool)

/-- The loop of `stream_reader`: the events it returns, or the exception that leaves it, and
what it has put on the dead letter queue. -/
def readEntries : List RawRecord → Except Exn (List StreamedEvent) × List StreamedEvent
  | [] => (.ok [], [])
  | r :: rest =>
      match constructReply intOf loads decodeResponses r with
      | .ok event =>
          let (events, dead) := readEntries rest
          (events.map (event :: ·), dead)
      -- the malformed entry is stored as it came; a failure of this is not caught
      | .error .valueError =>
          match safeConstructFromMalformedStream r.id.text
              (r.fields.map fun (key, value) => (key, .str value)) with
          | .error e => (.error e, [])
          | .ok malformed =>
              let (events, dead) := readEntries rest
              (events, malformed :: dead)
      -- nothing but a `ValueError` is caught, so the rest of the reply is not read
      | .error e => (.error e, [])

/-- `stream_reader` on the reply of `XREADGROUP`: a list of streams with their entries,
which is empty when the block has timed out. -/
def streamReader : List (String × List RawRecord) →
    Except Exn (List StreamedEvent) × List StreamedEvent
  | [] => (.error .indexError, [])
  | (_, entries) :: _ =>
      if entries.length = 0 then (.ok [], []) else readEntries intOf loads decodeResponses entries

/-- The entries of the stream that is read. -/
def replyEntries : List (String × List RawRecord) → List RawRecord
  | [] => []
  | (_, entries) :: _ => entries

/-- The event of an entry, if it is well formed. -/
def wellFormedEvent (r : RawRecord) : Option StreamedEvent :=
  (constructRecord intOf loads r).toOption

/-- The well-formed entries are returned in their order, and the malformed ones are on the
dead letter queue, each once. -/
structure ReaderContains (reply : List (String × List RawRecord)) : Prop where
  returned : (streamReader intOf loads decodeResponses reply).1 =
    .ok ((replyEntries reply).filterMap (wellFormedEvent intOf loads))
  dead : (streamReader intOf loads decodeResponses reply).2 =
    ((replyEntries reply).filter fun r => (wellFormedEvent intOf loads r).isNone).map
      malformedEvent

end

theorem raisesIn_ok {α : Type} {P : Exn → Prop} (a : α) : RaisesIn P (.ok a : Except Exn α) := by
  intro e h
  cases h

theorem raisesIn_error {α : Type} {P : Exn → Prop} {e : Exn} :
    RaisesIn P (.error e : Except Exn α) ↔ P e := by
  constructor
  · intro h
    exact h e rfl
  · intro h e' he'
    cases he'
    exact h

theorem onlyValueErrors_error {α : Type} {e : Exn} :
    OnlyValueErrors (.error e : Except Exn α) ↔ e = .valueError :=
  raisesIn_error

/-- Two computations one after the other. -/
theorem raisesIn_bind {α β : Type} {P : Exn → Prop} {x : Except Exn α} {f : α → Except Exn β} :
    RaisesIn P (x >>= f) ↔ RaisesIn P x ∧ ∀ a, x = .ok a → RaisesIn P (f a) := by
  cases x with
  | error e =>
      have hstop : (Except.error e >>= f) = (.error e : Except Exn β) := rfl
      rw [hstop, raisesIn_error, raisesIn_error]
      simp
  | ok a =>
      have hgo : (Except.ok a >>= f) = f a := rfl
      rw [hgo, and_iff_right (raisesIn_ok a)]
      simp

section
variable {α : Type} {build : JsonObject → Option α}

/-- The models of a list raise nothing else exactly when no item that is reached is
anything but an object. -/
theorem decodeItems_onlyValueErrors_iff (items : List PyValue) :
    OnlyValueErrors (decodeItems build items) ↔ ¬ MisshapenUpdates build (.list items) := by
  induction items with
  | nil =>
      refine iff_of_true (raisesIn_ok []) ?_
      rintro ⟨front, item, back, heq, -⟩
      cases front <;> cases heq
  | cons v rest ih =>
      by_cases hobject : ∃ fields, v = .dict fields
      · obtain ⟨fields, rfl⟩ := hobject
        rw [decodeItems]
        cases hbuild : build fields with
        -- an object that is not valid ends the list before any later item is looked at
        | none =>
            refine iff_of_true (fun e he => ?_) ?_
            · cases he
              rfl
            · rintro ⟨front, item, back, heq, hfront, hitem⟩
              cases front with
              | nil => exact hitem fields (List.cons.inj heq).1.symm
              | cons first front =>
                  obtain ⟨rfl, -⟩ := List.cons.inj heq
                  obtain ⟨fields', update, hfields, hupdate⟩ :=
                    hfront _ (List.mem_cons_self ..)
                  cases hfields
                  rw [hbuild] at hupdate
                  cases hupdate
        -- a valid object: the items after it decide
        | some update =>
            have hmap : OnlyValueErrors ((decodeItems build rest).map (update :: ·)) ↔
                OnlyValueErrors (decodeItems build rest) := by
              cases decodeItems build rest <;> simp [RaisesIn, Except.map]
            rw [hmap, ih, not_iff_not]
            constructor
            · rintro ⟨front, item, back, rfl, hfront, hitem⟩
              exact ⟨.dict fields :: front, item, back, rfl,
                List.forall_mem_cons.mpr ⟨⟨fields, update, rfl, hbuild⟩, hfront⟩, hitem⟩
            · rintro ⟨front, item, back, heq, hfront, hitem⟩
              cases front with
              | nil => exact absurd (List.cons.inj heq).1.symm (hitem fields)
              | cons first front =>
                  obtain ⟨-, rfl⟩ := List.cons.inj heq
                  exact ⟨front, item, back, rfl,
                    fun v hv => hfront v (List.mem_cons_of_mem _ hv), hitem⟩
      -- the first item that is no object, with nothing in front of it
      · have hraise : decodeItems build (v :: rest) = .error .typeError := by
          cases v with
          | dict fields => exact absurd ⟨fields, rfl⟩ hobject
          | _ => rfl
        refine iff_of_false (fun h => ?_) (not_not_intro ?_)
        · have hvalue := h _ hraise
          cases hvalue
        · exact ⟨[], v, rest, rfl, List.forall_mem_nil _, fun fields hv => hobject ⟨fields, hv⟩⟩

/-- They are all read exactly when the list is valid. -/
theorem decodeItems_ok_iff (items : List PyValue) :
    (∃ updates, decodeItems build items = .ok updates) ↔ ValidUpdates build (.list items) := by
  induction items with
  | nil => exact iff_of_true ⟨[], rfl⟩ (List.forall_mem_nil _)
  | cons v rest ih =>
      refine Iff.trans ?_ List.forall_mem_cons.symm
      refine Iff.trans ?_ (and_congr_right' ih)
      cases v with
      | dict fields =>
          rw [decodeItems]
          cases hbuild : build fields with
          | none => simp [hbuild]
          | some update => cases decodeItems build rest <;> simp [hbuild, Except.map]
      | _ =>
          refine iff_of_false ?_ ?_
          · rintro ⟨updates, hupdates⟩
            cases hupdates
          · rintro ⟨⟨fields, update, hfields, -⟩, -⟩
            cases hfields

/-- What is no list can be iterated only if it is empty. -/
theorem decodeUpdates_cases (build : JsonObject → Option α) (value : PyValue) :
    (∃ items, value = .list items) ∨
      (decodeUpdates build value = .ok [] ∧ ValidUpdates build value ∧
        ¬ MisshapenUpdates build value) ∨
      (decodeUpdates build value = .error .typeError ∧ ¬ ValidUpdates build value ∧
        MisshapenUpdates build value) := by
  cases value with
  | list items => exact .inl ⟨items, rfl⟩
  | dict items =>
      cases items with
      | nil => exact .inr (.inl ⟨rfl, rfl, not_not_intro rfl⟩)
      | cons item items =>
          exact .inr (.inr ⟨rfl, List.cons_ne_nil _ _, List.cons_ne_nil _ _⟩)
  | str s =>
      by_cases hs : s = ""
      · exact .inr (.inl ⟨if_pos hs, hs, not_not_intro hs⟩)
      · exact .inr (.inr ⟨if_neg hs, hs, hs⟩)
  | bytes s =>
      by_cases hs : s = ""
      · exact .inr (.inl ⟨if_pos hs, hs, not_not_intro hs⟩)
      · exact .inr (.inr ⟨if_neg hs, hs, hs⟩)
  | _ => exact .inr (.inr ⟨rfl, id, trivial⟩)

theorem decodeUpdates_ok_iff (value : PyValue) :
    (∃ updates, decodeUpdates build value = .ok updates) ↔ ValidUpdates build value := by
  rcases decodeUpdates_cases build value with
    ⟨items, rfl⟩ | ⟨hread, hvalid, -⟩ | ⟨hraise, hinvalid, -⟩
  · exact decodeItems_ok_iff items
  · exact iff_of_true ⟨[], hread⟩ hvalid
  · refine iff_of_false ?_ hinvalid
    rintro ⟨updates, hupdates⟩
    rw [hraise] at hupdates
    cases hupdates

theorem decodeUpdates_onlyValueErrors_iff (value : PyValue) :
    OnlyValueErrors (decodeUpdates build value) ↔ ¬ MisshapenUpdates build value := by
  rcases decodeUpdates_cases build value with
    ⟨items, rfl⟩ | ⟨hread, -, hshape⟩ | ⟨hraise, -, hshape⟩
  · exact decodeItems_onlyValueErrors_iff items
  · rw [hread]
    exact iff_of_true (raisesIn_ok []) hshape
  · rw [hraise, onlyValueErrors_error]
    exact iff_of_false (by decide) (not_not_intro hshape)

/-- One field of the side effects. -/
theorem nestedUpdates_ok_iff (loads : String → Option PyValue) (sideEffects : JsonObject)
    (field : String) :
    (∃ updates, nestedUpdates loads build sideEffects field = .ok updates) ↔
      FieldHas loads (ValidUpdates build) sideEffects field := by
  unfold nestedUpdates FieldHas
  cases hvalue : loadsValue loads ((sideEffects.lookup field).getD (.bytes "[]")) with
  | none => simp
  | some value => simpa using decodeUpdates_ok_iff value

theorem nestedUpdates_onlyValueErrors_iff (loads : String → Option PyValue)
    (sideEffects : JsonObject) (field : String) :
    OnlyValueErrors (nestedUpdates loads build sideEffects field) ↔
      ¬ FieldHas loads (MisshapenUpdates build) sideEffects field := by
  unfold nestedUpdates FieldHas
  cases hvalue : loadsValue loads ((sideEffects.lookup field).getD (.bytes "[]")) with
  | none =>
      refine iff_of_true (fun e he => ?_) ?_
      · cases he
        rfl
      · rintro ⟨value, hsome, -⟩
        cases hsome
  | some value =>
      rw [decodeUpdates_onlyValueErrors_iff]
      simp

end

section
variable {intOf : PyValue → Option Int} {loads : String → Option PyValue}

/-- The side effects. -/
theorem decodeSideEffects_onlyValueErrors_iff (raw : PyValue) :
    OnlyValueErrors (decodeSideEffects intOf loads raw) ↔
      ¬ MisshapenSideEffects intOf loads raw := by
  cases raw with
  | dict raw =>
      have hreturn : ∀ s : EventSideEffects,
          OnlyValueErrors (pure s : Except Exn EventSideEffects) := raisesIn_ok
      simp only [decodeSideEffects, raisesIn_bind, nestedUpdates_onlyValueErrors_iff,
        MisshapenSideEffects, ← nestedUpdates_ok_iff, hreturn, not_or, not_and,
        forall_exists_index, implies_true, and_true]
  | _ =>
      refine iff_of_false (fun h => ?_) (not_not_intro trivial)
      cases h _ rfl

/-- What can be raised on the way. -/
def DecodingError (e : Exn) : Prop := e = .valueError ∨ e = .typeError ∨ e = .attributeError

theorem decodeItems_raisesIn {α : Type} {build : JsonObject → Option α} (items : List PyValue) :
    RaisesIn DecodingError (decodeItems build items) := by
  induction items with
  | nil => exact raisesIn_ok []
  | cons v rest ih =>
      cases v with
      | dict fields =>
          rw [decodeItems]
          split
          · exact raisesIn_error.mpr (.inl rfl)
          · cases hrest : decodeItems build rest with
            | ok updates => exact raisesIn_ok _
            | error e => exact raisesIn_error.mpr (ih e hrest)
      | _ => exact raisesIn_error.mpr (.inr (.inl rfl))

theorem nestedUpdates_raisesIn {α : Type} {build : JsonObject → Option α}
    (sideEffects : JsonObject) (field : String) :
    RaisesIn DecodingError (nestedUpdates loads build sideEffects field) := by
  unfold nestedUpdates
  split
  · exact raisesIn_error.mpr (.inl rfl)
  · rename_i value hvalue
    rcases decodeUpdates_cases build value with ⟨items, rfl⟩ | ⟨hread, -⟩ | ⟨hraise, -⟩
    · exact decodeItems_raisesIn items
    · rw [hread]
      exact raisesIn_ok []
    · rw [hraise]
      exact raisesIn_error.mpr (.inr (.inl rfl))

theorem decodeSideEffects_raisesIn (raw : PyValue) :
    RaisesIn DecodingError (decodeSideEffects intOf loads raw) := by
  cases raw with
  | dict raw =>
      simp only [decodeSideEffects, raisesIn_bind]
      exact ⟨nestedUpdates_raisesIn _ _, fun _ _ => ⟨nestedUpdates_raisesIn _ _,
        fun _ _ => ⟨nestedUpdates_raisesIn _ _, fun _ _ => raisesIn_ok _⟩⟩⟩
  | _ => exact raisesIn_error.mpr (.inr (.inr rfl))

/-- A record without its three layers is refused with a `ValueError`. -/
theorem reconstructFromStream_of_no_layers {entry : List (String × String)}
    (h : recordLayers loads entry = none) :
    reconstructFromStream intOf loads entry = .error .valueError := by
  unfold recordLayers at h
  unfold reconstructFromStream reconstructBlock
  cases hname : entry.lookup "name" with
  | none => rfl
  | some rawName =>
      cases hmember : EventName.ofValue rawName with
      | none => simp [hmember]
      | some name =>
          cases hpayload : entry.lookup "payload" with
          | none => simp [hmember]
          | some rawPayload =>
              cases hloaded : loads rawPayload with
              | none => simp [hmember, hloaded]
              | some payload =>
                  cases htext : entry.lookup "side_effects" with
                  | none => simp [hmember, hloaded]
                  | some text =>
                      cases hraw : loads text with
                      | none => simp [hmember, hloaded, hraw]
                      | some raw =>
                          simp [hname, hmember, hpayload, hloaded, htext, hraw] at h

/-- With the three layers the side effects decide, and then the shape of the payload. -/
theorem reconstructFromStream_of_layers {entry : List (String × String)} {name : EventName}
    {payload raw : PyValue} :
    recordLayers loads entry = some (name, payload, raw) →
    reconstructFromStream intOf loads entry =
      match decodeSideEffects intOf loads raw with
      | .error e => .error e
      | .ok sideEffects =>
          match payload with
          | .dict payload => .ok { name, payload, sideEffects }
          | _ => .error .valueError := by
  intro h
  simp only [recordLayers, Option.bind_eq_bind, Option.bind_eq_some_iff] at h
  obtain ⟨member, ⟨rawName, hname, hmember⟩, loaded, ⟨rawPayload, hpayload, hloaded⟩,
    rawSideEffects, ⟨text, htext, hraw⟩, heq⟩ := h
  cases heq
  simp only [reconstructFromStream, reconstructBlock, hname, hmember, hpayload, hloaded, htext,
    hraw]
  cases hdecode : decodeSideEffects intOf loads raw with
  | ok sideEffects => cases payload <;> rfl
  | error e =>
      -- none of the errors of the side effects is a `KeyError`
      rcases decodeSideEffects_raisesIn raw e hdecode with rfl | rfl | rfl <;> rfl

/-- `reconstruct_from_stream` raises nothing but `ValueError` exactly on records that are
not misshapen. -/
theorem reconstructFromStream_onlyValueErrors_iff (entry : List (String × String)) :
    OnlyValueErrors (reconstructFromStream intOf loads entry) ↔
      ¬ Misshapen intOf loads entry := by
  cases hlayers : recordLayers loads entry with
  | none =>
      rw [reconstructFromStream_of_no_layers hlayers]
      refine iff_of_true (raisesIn_error.mpr rfl) ?_
      rintro ⟨name, payload, raw, hsome, -⟩
      rw [hlayers] at hsome
      cases hsome
  | some layers =>
      obtain ⟨name, payload, raw⟩ := layers
      have hmisshapen : Misshapen intOf loads entry ↔ MisshapenSideEffects intOf loads raw := by
        constructor
        · rintro ⟨name', payload', raw', hsome, hraw⟩
          rw [hlayers] at hsome
          cases hsome
          exact hraw
        · intro hraw
          exact ⟨name, payload, raw, hlayers, hraw⟩
      rw [hmisshapen, ← decodeSideEffects_onlyValueErrors_iff,
        reconstructFromStream_of_layers hlayers]
      cases decodeSideEffects intOf loads raw with
      | error e => exact onlyValueErrors_error.trans onlyValueErrors_error.symm
      | ok sideEffects =>
          refine iff_of_true ?_ (raisesIn_ok sideEffects)
          cases payload with
          | dict payload => exact raisesIn_ok _
          | _ => exact raisesIn_error.mpr rfl

/-- The ID of an entry is always read, so the fields decide. -/
theorem constructRecord_eq (r : RawRecord) :
    constructRecord intOf loads r =
      (reconstructFromStream intOf loads r.fields).map fun event =>
        { event with eventId := r.id.number } := by
  unfold constructRecord constructFromStreamRecord
  rw [deriveEventId_text]
  cases reconstructFromStream intOf loads r.fields <;> rfl

theorem constructRecord_onlyValueErrors_iff (r : RawRecord) :
    OnlyValueErrors (constructRecord intOf loads r) ↔ ¬ Misshapen intOf loads r.fields := by
  rw [← reconstructFromStream_onlyValueErrors_iff, constructRecord_eq]
  cases reconstructFromStream intOf loads r.fields with
  -- the ID changes the event that is returned, and no exception
  | ok event => exact iff_of_true (raisesIn_ok _) (raisesIn_ok _)
  | error e => exact onlyValueErrors_error.trans onlyValueErrors_error.symm

/-- What is well formed is returned. -/
theorem wellFormedEvent_of_ok {r : RawRecord} {event : StreamedEvent}
    (h : constructRecord intOf loads r = .ok event) :
    wellFormedEvent intOf loads r = some event := by
  rw [wellFormedEvent, h]
  rfl

theorem wellFormedEvent_of_error {r : RawRecord} {e : Exn}
    (h : constructRecord intOf loads r = .error e) : wellFormedEvent intOf loads r = none := by
  rw [wellFormedEvent, h]
  rfl

/-- The event of a malformed entry can be built: its ID is read and every map of texts is a
payload. -/
theorem safeConstruct_malformedEvent (r : RawRecord) :
    safeConstructFromMalformedStream r.id.text
      (r.fields.map fun (key, value) => (key, .str value)) = .ok (malformedEvent r) := by
  unfold safeConstructFromMalformedStream
  rw [deriveEventId_text]
  rfl

/-- One entry that is not misshapen, by its two fates. -/
theorem readEntries_cons (r : RawRecord) (rest : List RawRecord)
    (h : ¬ Misshapen intOf loads r.fields) :
    readEntries intOf loads true (r :: rest) =
      match wellFormedEvent intOf loads r with
      | some event =>
          ((readEntries intOf loads true rest).1.map (event :: ·),
            (readEntries intOf loads true rest).2)
      | none =>
          ((readEntries intOf loads true rest).1,
            malformedEvent r :: (readEntries intOf loads true rest).2) := by
  have honly := (constructRecord_onlyValueErrors_iff r).mpr h
  rw [readEntries, constructReply, if_pos rfl]
  cases hconstruct : constructRecord intOf loads r with
  | ok event => rw [wellFormedEvent_of_ok hconstruct]
  | error e =>
      have hvalue : e = .valueError := honly e hconstruct
      subst hvalue
      rw [wellFormedEvent_of_error hconstruct, safeConstruct_malformedEvent]

/-- A misshapen entry ends the reader. -/
theorem readEntries_cons_of_misshapen (r : RawRecord) (rest : List RawRecord)
    (h : Misshapen intOf loads r.fields) :
    ∃ e, readEntries intOf loads true (r :: rest) = (.error e, []) := by
  have honly : ¬ OnlyValueErrors (constructRecord intOf loads r) :=
    fun hall => (constructRecord_onlyValueErrors_iff r).mp hall h
  rw [readEntries, constructReply, if_pos rfl]
  cases hconstruct : constructRecord intOf loads r with
  | ok event =>
      rw [hconstruct] at honly
      exact absurd (raisesIn_ok event) honly
  | error e =>
      rw [hconstruct, onlyValueErrors_error] at honly
      refine ⟨e, ?_⟩
      cases e with
      | valueError => exact absurd rfl honly
      | _ => rfl

/-- The loop returns exactly when no entry is misshapen, by induction over the entries. -/
theorem readEntries_ok_iff (entries : List RawRecord) :
    (∃ events, (readEntries intOf loads true entries).1 = .ok events) ↔
      ∀ r ∈ entries, ¬ Misshapen intOf loads r.fields := by
  induction entries with
  | nil => exact iff_of_true ⟨[], rfl⟩ (by simp)
  | cons r rest ih =>
      rw [List.forall_mem_cons]
      by_cases hr : Misshapen intOf loads r.fields
      -- what comes after the misshapen entry does not matter
      · obtain ⟨e, hraise⟩ := readEntries_cons_of_misshapen r rest hr
        refine iff_of_false ?_ (fun h => h.1 hr)
        rintro ⟨events, hevents⟩
        rw [hraise] at hevents
        cases hevents
      · rw [and_iff_right hr, ← ih, readEntries_cons r rest hr]
        cases wellFormedEvent intOf loads r with
        | none => exact Iff.rfl
        | some event =>
            cases (readEntries intOf loads true rest).1 with
            | ok events => exact iff_of_true ⟨_, rfl⟩ ⟨_, rfl⟩
            | error e => simp [Except.map]

/-- And then it has sorted the entries. -/
theorem readEntries_eq {entries : List RawRecord}
    (h : ∀ r ∈ entries, ¬ Misshapen intOf loads r.fields) :
    readEntries intOf loads true entries =
      (.ok (entries.filterMap (wellFormedEvent intOf loads)),
        (entries.filter fun r => (wellFormedEvent intOf loads r).isNone).map
          malformedEvent) := by
  induction entries with
  | nil => rfl
  | cons r rest ih =>
      rw [List.forall_mem_cons] at h
      rw [readEntries_cons r rest h.1, ih h.2]
      cases hform : wellFormedEvent intOf loads r with
      | none =>
          rw [List.filterMap_cons_none hform, List.filter_cons_of_pos (by simp [hform])]
          rfl
      | some event =>
          rw [List.filterMap_cons_some hform, List.filter_cons_of_neg (by simp [hform])]
          rfl

/-- A reply with a stream is read by the loop. -/
theorem streamReader_cons (decodeResponses : Bool) (stream : String) (entries : List RawRecord)
    (rest : List (String × List RawRecord)) :
    streamReader intOf loads decodeResponses ((stream, entries) :: rest) =
      readEntries intOf loads decodeResponses entries := by
  cases entries <;> rfl

/-- The reader contains the entries of a reply exactly when the reply has a stream, the
client returns texts if there is an entry, and no entry is misshapen. -/
theorem readerContains_iff (decodeResponses : Bool) (reply : List (String × List RawRecord)) :
    ReaderContains intOf loads decodeResponses reply ↔
      reply ≠ [] ∧ (replyEntries reply = [] ∨ decodeResponses = true) ∧
        ∀ r ∈ replyEntries reply, ¬ Misshapen intOf loads r.fields := by
  cases reply with
  | nil =>
      refine iff_of_false ?_ (fun h => h.1 rfl)
      rintro ⟨hreturned, -⟩
      cases hreturned
  | cons stream rest =>
      obtain ⟨stream, entries⟩ := stream
      rw [and_iff_right (List.cons_ne_nil _ _), replyEntries]
      constructor
      · rintro ⟨hreturned, -⟩
        rw [streamReader_cons, replyEntries] at hreturned
        cases decodeResponses with
        | true => exact ⟨.inr rfl, (readEntries_ok_iff entries).mp ⟨_, hreturned⟩⟩
        | false =>
            cases entries with
            | nil => exact ⟨.inl rfl, by simp⟩
            -- the first ID is not a text
            | cons r rest => cases hreturned
      · rintro ⟨htexts, hshape⟩
        rcases htexts with rfl | rfl
        · exact ⟨rfl, rfl⟩
        · have heq := readEntries_eq hshape
          rw [← streamReader_cons true stream entries rest] at heq
          exact ⟨congrArg Prod.fst heq, congrArg Prod.snd heq⟩

end

/-- Poison messages are contained, by the records and by the reader, exactly where the
shape of the side effects and of the reply allows it. -/
theorem poison_contained_iff (intOf : PyValue → Option Int) (loads : String → Option PyValue) :
    (∀ r : RawRecord, OnlyValueErrors (constructRecord intOf loads r) ↔
      ¬ Misshapen intOf loads r.fields) ∧
    ∀ (decodeResponses : Bool) (reply : List (String × List RawRecord)),
      ReaderContains intOf loads decodeResponses reply ↔
        reply ≠ [] ∧ (replyEntries reply = [] ∨ decodeResponses = true) ∧
          ∀ r ∈ replyEntries reply, ¬ Misshapen intOf loads r.fields :=
  ⟨constructRecord_onlyValueErrors_iff, readerContains_iff⟩

/-- A record whose side effects are a list. -/
def poisonRecord : RawRecord :=
  ⟨⟨1, 0⟩, [("name", "USER_CLEANUP"), ("payload", "\x7b\x7d"), ("side_effects", "[]")]⟩

/-- It leaves both the constructor and the reader with an `AttributeError`, and so does an
empty reply with an `IndexError`. -/
theorem poisonRecord_not_contained :
    constructRecord plainInt emptyTexts poisonRecord = .error .attributeError ∧
      ¬ OnlyValueErrors (constructRecord plainInt emptyTexts poisonRecord) ∧
      ¬ ReaderContains plainInt emptyTexts true [("USERS", [poisonRecord])] ∧
      (streamReader plainInt emptyTexts true []).1 = .error .indexError ∧
      ¬ ReaderContains plainInt emptyTexts true [] := by
  have hraise : constructRecord plainInt emptyTexts poisonRecord = .error .attributeError := by
    rw [constructRecord_eq]
    rfl
  have honly : ¬ OnlyValueErrors (constructRecord plainInt emptyTexts poisonRecord) := by
    rw [hraise, onlyValueErrors_error]
    decide
  have hmisshapen : Misshapen plainInt emptyTexts poisonRecord.fields := by
    rwa [constructRecord_onlyValueErrors_iff, not_not] at honly
  refine ⟨hraise, honly, ?_, rfl, ?_⟩
  · rw [readerContains_iff]
    rintro ⟨-, -, hshape⟩
    exact hshape poisonRecord (List.mem_singleton_self _) hmisshapen
  · rw [readerContains_iff]
    exact fun h => h.1 rfl

end DatabaseWorkers
end Tenjin
