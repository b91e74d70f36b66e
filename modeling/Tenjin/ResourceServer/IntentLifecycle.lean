import Mathlib.Data.List.Induction
import Tenjin.Foundation.GuardedRun
import Tenjin.Python.Separated
import Tenjin.ResourceAuxillary.PostProcessing
import Tenjin.ResourceServer.DuplicateSuppression

/-!
# The life of an intent

An emission of `emit_user_event` stores its intents, and the worker that commits the event
deletes them with the script of `lua.py`, which compares the stored value first.

* The state is the server's Redis together with the stream entries that were committed.
  A commit is one transaction for a batch of entries, in any order and as often as it is
  retried.
* `latestEmission` is the last entry with an intent under a key, and its value.
* With fresh intent ids the key holds the latest value exactly until its entry is
  committed (`always_intentAgrees`): values with different ids differ
  (`intentValue_inj`).
-/

namespace Tenjin
namespace ResourceServer

open Python Foundation ResourceAuxillary

/-- `orjson.dumps(NF_MAPPING)`. -/
def notFoundText : String := "\x7b\"__NF__\":\"NF\"\x7d"

/-- What a command of a worker does to the texts of Redis: the conditional delete compares
the value first. -/
def commandOnTexts (command : Command) (texts : String → Option String) :
    String → Option String :=
  match command with
  | .evalDeleteIntent key value => fun k =>
      if k = key ∧ texts k = some value then none else texts k
  | .delete key => fun k => if k = key then none else texts k
  | .setNotFound key _ => fun k => if k = key then some notFoundText else texts k
  | _ => texts

/-- The commands of a transaction, one after the other. -/
def runCommands (log : CommandLog) (texts : String → Option String) : String → Option String :=
  log.foldl (fun texts entry => commandOnTexts entry.2 texts) texts

/-- An event as the endpoints emit it: it names no cache entry. -/
structure UserEvent where
  event : Event
  cacheInvalidations_eq : event.sideEffects.cacheInvalidations = []

/-- The server's Redis and the positions of the committed stream entries. -/
structure IntentState where
  server : ServerState
  committed : List ℕ

/-- The entry at a position, as a worker reads it. -/
def IntentState.streamed (s : IntentState) (position : ℕ) : Option StreamedEvent :=
  s.server.streams[position]?.map fun entry => { toEvent := entry.2, eventId := position }

/-- The operations on an intent: emissions and commits. -/
inductive IntentLabel
  | emit (stream : StreamName) (event : UserEvent)
  | commit (positions : List ℕ) (streamName : StreamName) (groupName : String)

/-- The server after a batch was committed. -/
def commitBatch (events : List StreamedEvent) (streamName : StreamName) (groupName : String)
    (server : ServerState) : ServerState :=
  { server with
    intents := runCommands (atomicAckAndEmitSideEffects events streamName groupName)
      server.intents
    counters := server.counters ++ events.flatMap fun e => e.sideEffects.counterUpdates }

/-- One operation.  A worker commits entries that are in the streams. -/
def intentStep (s : IntentState) : IntentLabel → Option IntentState
  | .emit stream event => some { s with server := executeEmission s.server stream event.event }
  | .commit positions streamName groupName =>
      if ∀ p ∈ positions, p < s.server.streams.length then
        some ⟨commitBatch (positions.filterMap s.streamed) streamName groupName s.server,
          s.committed ++ positions⟩
      else none

/-- The intents of an event under a key. -/
def keyUpdates (key : String) (event : Event) : List IntentUpdate :=
  event.sideEffects.intentUpdates.filter fun u => u.intentName = key

/-- The intent value that an emission leaves under a key: the last one that it writes. -/
def emittedValue (key : String) (event : Event) : Option String :=
  (keyUpdates key event).getLast?.map IntentUpdate.intentValue

/-- The position and the value of the latest entry with an intent under the key. -/
def latestEmission (key : String) (streams : List (StreamName × Event)) :
    Option (ℕ × String) :=
  streams.zipIdx.foldl (fun latest entry =>
    match emittedValue key entry.1.2 with
    | none => latest
    | some value => some (entry.2, value)) none

/-- The key holds the value of the latest emission exactly if that is not committed, and
nothing otherwise. -/
def IntentAgrees (key : String) (s : IntentState) : Prop :=
  s.server.intents key =
    match latestEmission key s.server.streams with
    | none => none
    | some (position, value) => if position ∈ s.committed then none else some value

/-- A commit of other entries than the latest emission leaves the key alone. -/
def OlderCommitsSpare (key : String) (s : IntentState) : Prop :=
  ∀ positions streamName groupName s',
    intentStep s (.commit positions streamName groupName) = some s' →
    (∀ position value, latestEmission key s.server.streams = some (position, value) →
      position ∉ positions) →
    s'.server.intents key = s.server.intents key

/-- The intent ids of an emission are fresh among those under the key. -/
def FreshIds (key : String) (s : IntentState) : IntentLabel → Prop
  | .emit _ event => ∀ entry ∈ s.server.streams, ∀ u ∈ keyUpdates key entry.2,
      ∀ u' ∈ keyUpdates key event.event, u.intentId ≠ u'.intentId
  | .commit .. => True

section Values

/-- The pieces of a flag. -/
theorem pySplit_intentFlag (flag : IntentFlag) :
    pySplit ':' flag.value = ["FLAG",
      match flag with
      | .resourceCreationPendingFlag => "C"
      | .resourceCreationPendingAltFlag => "CA"
      | .resourceDeletionPendingFlag => "D"] := by
  cases flag <;> decide

theorem pySplit_intentValue (u : IntentUpdate) :
    pySplit ':' u.intentValue = pySplit ':' u.intentFlag.value ++ pySplit ':' u.intentId := by
  have hpieces := pySplit_pyJoin ':' (List.cons_ne_nil u.intentFlag.value [u.intentId])
  rw [List.flatMap_cons, List.flatMap_singleton] at hpieces
  exact hpieces

/-- Equal intent values have the same flag and the same id: no flag is another one with a
continuation. -/
theorem intentValue_inj {u u' : IntentUpdate} (h : u.intentValue = u'.intentValue) :
    u.intentFlag = u'.intentFlag ∧ u.intentId = u'.intentId := by
  have hpieces := congrArg (pySplit ':') h
  rw [pySplit_intentValue, pySplit_intentValue, pySplit_intentFlag, pySplit_intentFlag] at hpieces
  simp only [List.cons_append, List.nil_append, List.cons.injEq, true_and] at hpieces
  refine ⟨?_, pySplit_inj.mp hpieces.2⟩
  revert hpieces
  cases u.intentFlag <;> cases u'.intentFlag <;> simp

end Values

section Commands

/-- A command leaves a key alone, except for conditional deletes of it. -/
def SparesKey (key : String) : Command → Prop
  | .delete k => k ≠ key
  | .setNotFound k _ => k ≠ key
  | _ => True

/-- What a command that spares a key does to it. -/
theorem commandOnTexts_at {key : String} {command : Command} (hspares : SparesKey key command)
    (texts : String → Option String) :
    commandOnTexts command texts key =
      if ∃ value, texts key = some value ∧ command = .evalDeleteIntent key value then none
      else texts key := by
  cases command with
  | evalDeleteIntent k value =>
      by_cases hmatch : key = k ∧ texts key = some value
      · obtain ⟨rfl, hvalue⟩ := hmatch
        rw [if_pos ⟨value, hvalue, rfl⟩]
        simp [commandOnTexts, hvalue]
      · have hnone : ¬ ∃ v, texts key = some v ∧
            Command.evalDeleteIntent k value = .evalDeleteIntent key v := by
          rintro ⟨v, hv, heq⟩
          cases heq
          exact hmatch ⟨rfl, hv⟩
        rw [if_neg hnone]
        simp only [commandOnTexts, hmatch, if_false]
  | delete k =>
      have hne : ¬ key = k := fun h => hspares h.symm
      simp [commandOnTexts, hne]
  | setNotFound k seconds =>
      have hne : ¬ key = k := fun h => hspares h.symm
      simp [commandOnTexts, hne]
  | _ => simp [commandOnTexts]

/-- What a transaction that spares a key does to it: its text is gone exactly if one of the
conditional deletes names it. -/
theorem runCommands_at {key : String} {log : CommandLog}
    (hspares : ∀ entry ∈ log, SparesKey key entry.2) (texts : String → Option String) :
    runCommands log texts key =
      if ∃ value, texts key = some value ∧
          ∃ entry ∈ log, entry.2 = .evalDeleteIntent key value then none
      else texts key := by
  induction log generalizing texts with
  | nil => simp [runCommands]
  | cons entry log ih =>
      have hrest := ih (fun e he => hspares e (List.mem_cons_of_mem _ he))
        (commandOnTexts entry.2 texts)
      have hfirst := commandOnTexts_at (hspares entry (List.mem_cons_self ..)) texts
      show runCommands log (commandOnTexts entry.2 texts) key = _
      by_cases hdeleted : ∃ value, texts key = some value ∧
          entry.2 = .evalDeleteIntent key value
      · -- deleted by this command, and nothing brings it back
        rw [if_pos hdeleted] at hfirst
        obtain ⟨value, hvalue, hcommand⟩ := hdeleted
        rw [hrest, hfirst, ite_self]
        exact (if_pos ⟨value, hvalue, entry, List.mem_cons_self .., hcommand⟩).symm
      · rw [if_neg hdeleted] at hfirst
        rw [hrest, hfirst]
        apply if_congr _ rfl rfl
        constructor
        · rintro ⟨value, hvalue, e, he, hcommand⟩
          exact ⟨value, hvalue, e, List.mem_cons_of_mem _ he, hcommand⟩
        · rintro ⟨value, hvalue, e, he, hcommand⟩
          rcases List.mem_cons.mp he with rfl | he
          · exact absurd ⟨value, hvalue, hcommand⟩ hdeleted
          · exact ⟨value, hvalue, e, he, hcommand⟩

/-- The transaction of a batch whose events name no cache entry acknowledges, deletes
intents and counts. -/
theorem batch_command_cases {events : List StreamedEvent}
    (hnone : ∀ event ∈ events, event.sideEffects.cacheInvalidations = [])
    {streamName : StreamName} {groupName : String} {entry : Int × Command}
    (hentry : entry ∈ atomicAckAndEmitSideEffects events streamName groupName) :
    (∃ id, entry.2 = .xack streamName groupName id) ∨
      (∃ key value, entry.2 = .evalDeleteIntent key value) ∨
      ∃ group key delta, entry.2 = .hincrby group key delta := by
  simp only [atomicAckAndEmitSideEffects, acknowledgeEvent, emitFrom, List.mem_append,
    List.mem_flatMap, List.mem_map] at hentry
  rcases hentry with ((⟨e, _, c, hc, rfl⟩ | ⟨e, _, c, hc, rfl⟩) | ⟨e, _, c, hc, rfl⟩) |
    ⟨e, he, c, hc, rfl⟩
  · exact .inl ⟨e.eventId, List.mem_singleton.mp hc⟩
  · obtain ⟨u, _, rfl⟩ := List.mem_map.mp hc
    exact .inr (.inl ⟨_, _, rfl⟩)
  · obtain ⟨u, _, rfl⟩ := List.mem_map.mp hc
    exact .inr (.inr ⟨_, _, _, rfl⟩)
  · rw [cacheInvalidationSideEffects, hnone e he] at hc
    cases hc

/-- So it spares every key. -/
theorem sparesKey_of_batch {key : String} {events : List StreamedEvent}
    (hnone : ∀ event ∈ events, event.sideEffects.cacheInvalidations = [])
    (streamName : StreamName) (groupName : String) :
    ∀ entry ∈ atomicAckAndEmitSideEffects events streamName groupName,
      SparesKey key entry.2 := by
  intro entry hentry
  rcases batch_command_cases hnone hentry with ⟨_, h⟩ | ⟨_, _, h⟩ | ⟨_, _, _, h⟩
  all_goals
    rw [h]
    trivial

/-- The conditional deletes of a batch are those of the intents of its events. -/
theorem mem_deletes_of_batch {key value : String} {events : List StreamedEvent}
    (hnone : ∀ event ∈ events, event.sideEffects.cacheInvalidations = [])
    (streamName : StreamName) (groupName : String) :
    (∃ entry ∈ atomicAckAndEmitSideEffects events streamName groupName,
      entry.2 = .evalDeleteIntent key value) ↔
    ∃ event ∈ events, ∃ u ∈ keyUpdates key event.toEvent, u.intentValue = value := by
  constructor
  · rintro ⟨entry, hentry, hcommand⟩
    simp only [atomicAckAndEmitSideEffects, acknowledgeEvent, emitFrom, List.mem_append,
      List.mem_flatMap, List.mem_map] at hentry
    rcases hentry with ((⟨e, _, c, hc, rfl⟩ | ⟨e, he, c, hc, rfl⟩) | ⟨e, _, c, hc, rfl⟩) |
      ⟨e, he, c, hc, rfl⟩
    · rw [List.mem_singleton] at hc
      rw [hc] at hcommand
      cases hcommand
    · obtain ⟨u, hu, rfl⟩ := List.mem_map.mp hc
      cases hcommand
      refine ⟨e, he, u, ?_, rfl⟩
      rw [keyUpdates, List.mem_filter]
      exact ⟨hu, by simp⟩
    · obtain ⟨u, _, rfl⟩ := List.mem_map.mp hc
      cases hcommand
    · rw [cacheInvalidationSideEffects, hnone e he] at hc
      cases hc
  · rintro ⟨event, hevent, u, hu, rfl⟩
    rw [keyUpdates, List.mem_filter] at hu
    have hname : u.intentName = key := by simpa using hu.2
    refine ⟨(event.eventId, .evalDeleteIntent u.intentName u.intentValue), ?_, by rw [hname]⟩
    simp only [atomicAckAndEmitSideEffects, List.mem_append]
    refine .inl (.inl (.inr ?_))
    rw [emitFrom, List.mem_flatMap]
    exact ⟨event, hevent, List.mem_map_of_mem (List.mem_map_of_mem hu.1)⟩

end Commands

section Emissions

/-- The intents of an emission at a key: the last one under the key is stored. -/
theorem executeEmission_intents (key : String) (s : ServerState) (stream : StreamName)
    (event : Event) :
    (executeEmission s stream event).intents key =
      match emittedValue key event with
      | none => s.intents key
      | some value => some value := by
  have hfold : ∀ (us : List IntentUpdate) (s : ServerState),
      (us.foldl (fun s u => s.setIntent u.intentName u.intentValue) s).intents key =
        match ((us.filter fun u => u.intentName = key).getLast?).map IntentUpdate.intentValue with
        | none => s.intents key
        | some value => some value := by
    intro us
    induction us using List.reverseRecOn with
    | nil =>
        intro s
        rfl
    | append_singleton us u ih =>
        intro s
        rw [List.foldl_append, List.filter_append]
        by_cases hname : u.intentName = key
        · simp [ServerState.setIntent, hname]
        · have hkey : ¬ key = u.intentName := fun h => hname h.symm
          have hother : [u].filter (fun u => u.intentName = key) = [] := by simp [hname]
          rw [hother, List.append_nil, ← ih s]
          simp only [List.foldl_cons, List.foldl_nil, ServerState.setIntent, hkey, if_false]
  exact hfold event.sideEffects.intentUpdates _

/-- Appending an entry makes it the latest emission if it has an intent under the key. -/
theorem latestEmission_append (key : String) (streams : List (StreamName × Event))
    (entry : StreamName × Event) :
    latestEmission key (streams ++ [entry]) =
      match emittedValue key entry.2 with
      | none => latestEmission key streams
      | some value => some (streams.length, value) := by
  simp [latestEmission, List.zipIdx_append, List.foldl_append]

/-- The latest emission is an entry of the streams that has the value. -/
theorem latestEmission_mem {key : String} {streams : List (StreamName × Event)}
    {position : ℕ} {value : String}
    (h : latestEmission key streams = some (position, value)) :
    ∃ entry, streams[position]? = some entry ∧ emittedValue key entry.2 = some value := by
  induction streams using List.reverseRecOn with
  | nil => cases h
  | append_singleton streams entry ih =>
      rw [latestEmission_append] at h
      cases hvalue : emittedValue key entry.2 with
      | none =>
          rw [hvalue] at h
          obtain ⟨found, hfound, hfoundValue⟩ := ih h
          refine ⟨found, ?_, hfoundValue⟩
          rw [List.getElem?_append_left (List.getElem?_eq_some_iff.mp hfound).1]
          exact hfound
      | some v =>
          rw [hvalue] at h
          cases h
          exact ⟨entry, by simp, hvalue⟩

end Emissions

section Runs

variable {key : String}

/-- What holds between an intent key and the streams in every state of a run. -/
structure IntentInv (key : String) (s : IntentState) : Prop where
  agrees : IntentAgrees key s
  committed_lt : ∀ p ∈ s.committed, p < s.server.streams.length
  distinct : s.server.streams.Pairwise fun a b => ∀ u ∈ keyUpdates key a.2,
    ∀ u' ∈ keyUpdates key b.2, u.intentId ≠ u'.intentId
  noCacheUpdates : ∀ entry ∈ s.server.streams, entry.2.sideEffects.cacheInvalidations = []

theorem mem_of_emittedValue {event : Event} {value : String}
    (h : emittedValue key event = some value) :
    ∃ u ∈ keyUpdates key event, u.intentValue = value := by
  obtain ⟨u, hu, hvalue⟩ := Option.map_eq_some_iff.mp h
  exact ⟨u, List.mem_of_getLast? hu, hvalue⟩

/-- Entries with equal intent values under the key are the same entry. -/
theorem IntentInv.position_eq {s : IntentState} (h : IntentInv key s) {p q : ℕ}
    {entry entry' : StreamName × Event} (hp : s.server.streams[p]? = some entry)
    (hq : s.server.streams[q]? = some entry') {u u' : IntentUpdate}
    (hu : u ∈ keyUpdates key entry.2) (hu' : u' ∈ keyUpdates key entry'.2)
    (hvalue : u.intentValue = u'.intentValue) : p = q := by
  obtain ⟨hplt, hpget⟩ := List.getElem?_eq_some_iff.mp hp
  obtain ⟨hqlt, hqget⟩ := List.getElem?_eq_some_iff.mp hq
  have hids := List.pairwise_iff_getElem.mp h.distinct
  have hsame := (intentValue_inj hvalue).2
  rcases Nat.lt_trichotomy p q with hlt | heq | hgt
  · exact absurd hsame (hids p q hplt hqlt hlt u (hpget ▸ hu) u' (hqget ▸ hu'))
  · exact heq
  · exact absurd hsame.symm (hids q p hqlt hplt hgt u' (hqget ▸ hu') u (hpget ▸ hu))

/-- The events of a batch are entries of the streams. -/
theorem mem_streamed {s : IntentState} {positions : List ℕ} {event : StreamedEvent} :
    event ∈ positions.filterMap s.streamed ↔
      ∃ p ∈ positions, ∃ entry, s.server.streams[p]? = some entry ∧
        event = { toEvent := entry.2, eventId := p } := by
  rw [List.mem_filterMap]
  constructor
  · rintro ⟨p, hp, hevent⟩
    obtain ⟨entry, hentry, rfl⟩ := Option.map_eq_some_iff.mp hevent
    exact ⟨p, hp, entry, hentry, rfl⟩
  · rintro ⟨p, hp, entry, hentry, rfl⟩
    exact ⟨p, hp, by simp [IntentState.streamed, hentry]⟩

/-- A commit takes the key away exactly if the latest emission is among its entries. -/
theorem commitBatch_intents {s : IntentState} (h : IntentInv key s) (positions : List ℕ)
    (streamName : StreamName) (groupName : String) :
    (commitBatch (positions.filterMap s.streamed) streamName groupName s.server).intents key =
      match latestEmission key s.server.streams with
      | none => s.server.intents key
      | some (position, _) => if position ∈ positions then none else s.server.intents key := by
  have hnone : ∀ event ∈ positions.filterMap s.streamed,
      event.sideEffects.cacheInvalidations = [] := by
    intro event hevent
    obtain ⟨p, _, entry, hentry, rfl⟩ := mem_streamed.mp hevent
    exact h.noCacheUpdates entry (List.mem_of_getElem? hentry)
  have hagrees := h.agrees
  unfold IntentAgrees at hagrees
  show runCommands _ s.server.intents key = _
  rw [runCommands_at (sparesKey_of_batch hnone streamName groupName)]
  cases hlatest : latestEmission key s.server.streams with
  | none =>
      rw [hlatest] at hagrees
      rw [hagrees]
      simp
  | some latest =>
      obtain ⟨position, value⟩ := latest
      obtain ⟨entry, hentry, hvalue⟩ := latestEmission_mem hlatest
      obtain ⟨u, hu, huValue⟩ := mem_of_emittedValue hvalue
      rw [hlatest] at hagrees
      dsimp only at hagrees ⊢
      by_cases hcommitted : position ∈ s.committed
      · -- the key is absent already
        rw [if_pos hcommitted] at hagrees
        rw [hagrees]
        simp
      · rw [if_neg hcommitted] at hagrees
        rw [hagrees]
        apply if_congr _ rfl rfl
        constructor
        · rintro ⟨v, hv, hdelete⟩
          cases hv
          obtain ⟨event, hevent, u', hu', hu'Value⟩ :=
            (mem_deletes_of_batch hnone streamName groupName).mp hdelete
          obtain ⟨q, hq, entry', hentry', rfl⟩ := mem_streamed.mp hevent
          have heq : position = q :=
            h.position_eq hentry hentry' hu hu' (huValue.trans hu'Value.symm)
          exact heq ▸ hq
        · intro hposition
          refine ⟨value, rfl, (mem_deletes_of_batch hnone streamName groupName).mpr
            ⟨_, mem_streamed.mpr ⟨position, hposition, entry, hentry, rfl⟩, u, hu, huValue⟩⟩

/-- An emission with fresh ids keeps the invariant: its own value is now the latest. -/
theorem IntentInv.emit {s : IntentState} (h : IntentInv key s) {stream : StreamName}
    {event : UserEvent} (hfresh : FreshIds key s (.emit stream event)) :
    IntentInv key { s with server := executeEmission s.server stream event.event } := by
  have hstreams := executeEmission_streams s.server stream event.event
  refine ⟨?_, ?_, ?_, ?_⟩
  · unfold IntentAgrees
    dsimp only
    rw [hstreams, executeEmission_intents, latestEmission_append]
    cases emittedValue key event.event with
    | none => exact h.agrees
    | some value =>
        have hnew : s.server.streams.length ∉ s.committed :=
          fun hmem => absurd (h.committed_lt _ hmem) (Nat.lt_irrefl _)
        dsimp only
        rw [if_neg hnew]
  · intro p hp
    rw [hstreams, List.length_append]
    exact Nat.lt_add_right _ (h.committed_lt p hp)
  · rw [hstreams, List.pairwise_append]
    refine ⟨h.distinct, List.pairwise_singleton _ _, fun entry hentry other hother => ?_⟩
    rw [List.mem_singleton] at hother
    subst hother
    exact hfresh entry hentry
  · intro entry hentry
    rw [hstreams] at hentry
    rcases List.mem_append.mp hentry with hentry | hentry
    · exact h.noCacheUpdates entry hentry
    · rw [List.mem_singleton] at hentry
      subst hentry
      exact event.cacheInvalidations_eq

/-- A commit keeps the invariant. -/
theorem IntentInv.commit {s : IntentState} (h : IntentInv key s) {positions : List ℕ}
    (hin : ∀ p ∈ positions, p < s.server.streams.length) (streamName : StreamName)
    (groupName : String) :
    IntentInv key ⟨commitBatch (positions.filterMap s.streamed) streamName groupName s.server,
      s.committed ++ positions⟩ := by
  refine ⟨?_, ?_, h.distinct, h.noCacheUpdates⟩
  · have hagrees := h.agrees
    unfold IntentAgrees at hagrees ⊢
    dsimp only
    rw [commitBatch_intents h]
    show _ = match latestEmission key s.server.streams with
      | none => none
      | some (position, value) =>
          if position ∈ s.committed ++ positions then none else some value
    cases hlatest : latestEmission key s.server.streams with
    | none =>
        rw [hlatest] at hagrees
        exact hagrees
    | some latest =>
        obtain ⟨position, value⟩ := latest
        rw [hlatest] at hagrees
        dsimp only at hagrees ⊢
        rw [hagrees]
        by_cases hnow : position ∈ positions
        · rw [if_pos hnow, if_pos (List.mem_append.mpr (.inr hnow))]
        · rw [if_neg hnow]
          apply if_congr _ rfl rfl
          rw [List.mem_append]
          exact ⟨.inl, fun hmem => hmem.resolve_right hnow⟩
  · intro p hp
    rcases List.mem_append.mp hp with hp | hp
    · exact h.committed_lt p hp
    · exact hin p hp

/-- What one operation preserves. -/
theorem IntentInv.step {s s' : IntentState} {label : IntentLabel} (h : IntentInv key s)
    (hstep : intentStep s label = some s') (hfresh : FreshIds key s label) :
    IntentInv key s' := by
  cases label with
  | emit stream event =>
      cases hstep
      exact h.emit hfresh
  | commit positions streamName groupName =>
      simp only [intentStep] at hstep
      split at hstep
      · rename_i hin
        cases hstep
        exact h.commit hin streamName groupName
      · cases hstep

/-- Commits of older entries leave the key alone. -/
theorem IntentInv.olderCommitsSpare {s : IntentState} (h : IntentInv key s) :
    OlderCommitsSpare key s := by
  intro positions streamName groupName s' hstep holder
  simp only [intentStep] at hstep
  split at hstep
  · cases hstep
    rw [commitBatch_intents h]
    cases hlatest : latestEmission key s.server.streams with
    | none => rfl
    | some latest =>
        obtain ⟨position, value⟩ := latest
        exact if_neg (holder position value hlatest)
  · cases hstep

/-- In every run of emissions with fresh intent ids and of commits, from a state without
the key: the key holds the value of the latest emission until its entry is committed, and
commits of older entries never touch it. -/
theorem always_intentAgrees (key : String) (server : ServerState)
    (habsent : server.intents key = none) (hnew : server.streams = [])
    (labels : List IntentLabel)
    (hfresh : EachStep intentStep (FreshIds key) ⟨server, []⟩ labels) :
    Always intentStep (fun s => IntentAgrees key s ∧ OlderCommitsSpare key s)
      ⟨server, []⟩ labels := by
  have hstart : IntentInv key ⟨server, []⟩ := by
    refine ⟨?_, fun p hp => ?_, ?_, ?_⟩
    · unfold IntentAgrees
      rw [hnew]
      exact habsent
    · cases hp
    · rw [hnew]
      exact .nil
    · rw [hnew]
      intro entry hentry
      cases hentry
  have hall : Always intentStep (IntentInv key) ⟨server, []⟩ labels :=
    always_of_eachStep (fun _ _ _ _ _ _ => trivial)
      (fun s label s' _ h hstep hlabel => h.step hstep hlabel) labels _ trivial hstart hfresh
  exact hall.imp fun s h => ⟨h.agrees, h.olderCommitsSpare⟩

/-- A save or an unsave of a post by one user. -/
def toggleEvent (flag : IntentFlag) (intentId : String) : UserEvent where
  event :=
    { name := .postSave
      payload := []
      sideEffects := { intentUpdates := [⟨"posts:SAVE:1:2", flag, intentId⟩] } }
  cacheInvalidations_eq := rfl

/-- A save and an unsave, of which the first is committed late and twice. -/
theorem always_intentAgrees_toggle :
    Always intentStep
      (fun s => IntentAgrees "posts:SAVE:1:2" s ∧ OlderCommitsSpare "posts:SAVE:1:2" s)
      ⟨⟨[], fun _ => none, [], []⟩, []⟩
      [.emit .posts (toggleEvent .resourceCreationPendingFlag "a"),
        .emit .posts (toggleEvent .resourceDeletionPendingFlag "b"),
        .commit [0] .posts "inserters", .commit [0] .posts "inserters"] := by
  apply always_intentAgrees "posts:SAVE:1:2" ⟨[], fun _ => none, [], []⟩ rfl rfl
  intro s hs
  cases hs
  refine ⟨?_, fun s hs => ?_⟩
  · intro entry hentry
    cases hentry
  · cases hs
    refine ⟨?_, fun s _ => ⟨trivial, fun s _ => ⟨trivial, trivial⟩⟩⟩
    show ∀ entry ∈ [(StreamName.posts, (toggleEvent .resourceCreationPendingFlag "a").event)],
      ∀ u ∈ keyUpdates "posts:SAVE:1:2" entry.2, ∀ u' ∈ keyUpdates "posts:SAVE:1:2"
        (toggleEvent .resourceDeletionPendingFlag "b").event, u.intentId ≠ u'.intentId
    decide

end Runs

/-- The events of the guarded endpoints name no cache entry. -/
theorem emits_cacheInvalidations (endpoint : Endpoint) {r : Request} {v : Reads}
    {guarded : Guarded} {latestIntent : Option String} {stream : StreamName} {event : Event}
    (hprepare : (endpoint.handler r v).prepare = .ok guarded)
    (hbody : guarded.body latestIntent = .ok (stream, event)) :
    event.sideEffects.cacheInvalidations = [] := by
  obtain ⟨name, payload, counters, flag, rfl⟩ := emits_userEvent endpoint hprepare hbody
  rfl

end ResourceServer
end Tenjin
