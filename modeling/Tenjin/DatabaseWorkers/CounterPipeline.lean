import Tenjin.DatabaseWorkers.CounterFlush
import Tenjin.Foundation.GuardedRun
import Tenjin.Foundation.Tally
import Tenjin.ResourceAuxillary.PostProcessing
import Tenjin.ResourceServer.Endpoints

/-!
# The way of a counter delta

The four steps that move a delta from an endpoint to its column: `emit_user_event`,
`_emit_counter_side_effects`, `batch_update_counter_group` and
`reflect_processed_counters`, with the two Redis stores as families of tallies.

* `conditionalCounterDecrement` is the settling script.  It adds the processed amount
  where it should subtract it, and it compares the reply of `HGET` with `nil`, which a
  missing field does not give.
* `Casting` says how the flush reads the dictionary that `HGETALL` returns: over its keys,
  as the code does and then raises, or over its items, as the step is meant.
* `Conserved` is the purpose: every column has received all of the deltas and nothing is
  pending.
* `conserved_when_settled_iff` — with either casting this holds exactly as long as the
  deltas of every counter cancel out.
-/

namespace Tenjin
namespace DatabaseWorkers

open Python Foundation ResourceAuxillary ResourceServer

/-- The counter hashes of one Redis: by counter group, then by resource key. -/
abbrev CounterHashes := Tallies String String

/-- The counter that an update is for, and by how much it changes it. -/
def counterAmount (u : CounterUpdate) : (String × String) × Int :=
  ((u.counterGroup, u.cacheKey), u.delta)

/-- The deltas of an event. -/
def eventAmounts (event : StreamedEvent) : List ((String × String) × Int) :=
  event.sideEffects.counterUpdates.map counterAmount

/-- What a command does to the counter hashes. -/
def runCounterCommand (hashes : CounterHashes) : Command → CounterHashes
  | .hincrby group key delta => hashes.incr group key delta
  | _ => hashes

/-- A value in a Redis script. -/
inductive LuaValue
  | nil
  | boolean (b : Bool)
  | string (s : String)
  deriving DecidableEq

/-- `redis.call("HGET", ..)`: a missing field is `false`, not `nil`. -/
def luaHget (hash : Tally String) (field : String) : LuaValue :=
  match hash.get? field with
  | none => .boolean false
  | some n => .string (toString n)

/-- `CONDITIONAL_COUNTER_DECREMENT_TEMPLATE`. -/
def conditionalCounterDecrement (hash : Tally String) (field : String) (amount : Int) :
    Bool × Tally String :=
  if luaHget hash field ≠ .nil then (true, hash.incr field amount) else (false, hash)

/-- `reflect_processed_counters`: the script for every item, in one transaction. -/
def reflectProcessedCounters (server : CounterHashes) (counterGroup : String)
    (counters : List (String × Int)) : CounterHashes :=
  counters.foldl (fun server (k, v) => Function.update server counterGroup
    (conditionalCounterDecrement (server counterGroup) k v).2) server

/-- How the flush reads the dictionary of the hash. -/
inductive Casting
  /-- `for k, v in raw_counters`, which the code has. -/
  | keys (decodeResponses : Bool)
  /-- `for k, v in raw_counters.items()`: the whole group is added to the columns. -/
  | items

/-- The text of a key when it is sent back to Redis. -/
def CounterKey.text : CounterKey → String
  | .str s => s
  | .int n => toString n

/-- What the castings of the flush make of the taken hash: the amounts that are added to
the columns and returned. -/
def castTakenCounters : Casting → List (String × Int) → Except Exn (List (String × Int))
  | .items, entries => .ok entries
  | .keys decodeResponses, entries =>
      match cacheNormalizeRawCounterData (entries.map fun (field, value) =>
        (clientReply decodeResponses field, clientReply decodeResponses (toString value))) with
      | .error e => .error e
      | .ok counters =>
          match databaseNormalizeCounterData counters with
          | .error e => .error e
          | .ok _ => .ok (counters.map fun (k, v) => (k.text, v))

/-- Everything that a delta passes through. -/
structure PipelineState where
  /-- The pending hashes of the server's Redis. -/
  server : CounterHashes
  /-- The events that no worker has committed. -/
  uncommitted : List StreamedEvent
  /-- The hashes of the worker's Redis. -/
  worker : CounterHashes
  /-- The columns, by counter group and resource key. -/
  columns : String → String → Int
  /-- What has been flushed and not been reflected. -/
  processed : List (String × List (String × Int))
  /-- The deltas of all events so far; no step reads them. -/
  emitted : List ((String × String) × Int)

/-- Empty stores in front of a database. -/
def PipelineState.start (columns : String → String → Int) : PipelineState :=
  ⟨Tallies.empty, [], Tallies.empty, columns, [], []⟩

/-- A step of the pipeline.  The numbers choose among what is waiting. -/
inductive PipelineAction
  | emit (event : StreamedEvent)
  | commit (n : ℕ)
  | flush (counterGroup : String)
  | reflect (n : ℕ)

/-- The counter updates of `emit_user_event`; the event joins its stream. -/
def PipelineState.emit (st : PipelineState) (event : StreamedEvent) : PipelineState :=
  { st with
    server := st.server.addAll (eventAmounts event)
    uncommitted := st.uncommitted ++ [event]
    emitted := st.emitted ++ eventAmounts event }

/-- A worker commits one event. -/
def PipelineState.commit (st : PipelineState) (n : ℕ) (event : StreamedEvent) :
    PipelineState :=
  { st with
    uncommitted := st.uncommitted.eraseIdx n
    worker := (counterSideEffects event).foldl runCounterCommand st.worker }

/-- `batch_update_counter_group` on a group whose lock is free and with a database that
answers: an exception of the castings comes after the hash has been deleted. -/
def PipelineState.flush (casting : Casting) (st : PipelineState) (counterGroup : String) :
    PipelineState :=
  let raw := (st.worker counterGroup).entries
  let taken := { st with worker := st.worker.take counterGroup }
  if raw = [] then taken
  else
    match castTakenCounters casting raw with
    | .error _ => taken
    | .ok counters =>
        { taken with
          columns := fun g k =>
            st.columns g k + total (g, k) (Tallies.amountsOf counterGroup counters)
          processed := st.processed ++ [(counterGroup, counters)] }

/-- A processed group is reflected. -/
def PipelineState.reflect (st : PipelineState) (n : ℕ) (counterGroup : String)
    (counters : List (String × Int)) : PipelineState :=
  { st with
    server := reflectProcessedCounters st.server counterGroup counters
    processed := st.processed.eraseIdx n }

/-- One step. -/
def pipelineStep (casting : Casting) (st : PipelineState) :
    PipelineAction → Option PipelineState
  | .emit event => some (st.emit event)
  | .commit n =>
      match st.uncommitted[n]? with
      | none => none
      | some event => some (st.commit n event)
  | .flush counterGroup => some (st.flush casting counterGroup)
  | .reflect n =>
      match st.processed[n]? with
      | none => none
      | some (counterGroup, counters) => some (st.reflect n counterGroup counters)

/-- Every emitted event has been committed, flushed and reflected. -/
def PipelineState.Settled (st : PipelineState) : Prop :=
  st.uncommitted = [] ∧ (∀ g, (st.worker g).entries = []) ∧ st.processed = []

/-- Every column has received all of its deltas and nothing is pending for it. -/
def PipelineState.Conserved (initial : String → String → Int) (st : PipelineState) : Prop :=
  ∀ g k, st.columns g k = initial g k + total (g, k) st.emitted ∧ st.server.value g k = 0

/-- The step, if it is one of settling, creates no field on the server. -/
def SettlesHeldFields (casting : Casting) (st : PipelineState) (action : PipelineAction) :
    Prop :=
  ∀ n, action = .reflect n → ∀ st', pipelineStep casting st action = some st' →
    ∀ g k, ¬ st.server.Has g k → ¬ st'.server.Has g k

/-- The deltas that wait for a commit. -/
def PipelineState.uncommittedAmounts (st : PipelineState) : List ((String × String) × Int) :=
  st.uncommitted.flatMap eventAmounts

/-- The amounts that wait for their reflection. -/
def PipelineState.processedAmounts (st : PipelineState) : List ((String × String) × Int) :=
  st.processed.flatMap fun (g, counters) => Tallies.amountsOf g counters

/-- The pending hashes of the server after the commands it has executed. -/
def pendingHashes (s : ServerState) : CounterHashes :=
  Tallies.empty.addAll (s.counters.map counterAmount)

/-- The transaction of `emit_user_event` adds the deltas of its event to the pending hashes. -/
theorem pendingHashes_executeEmission (s : ServerState) (stream : StreamName)
    (event : StreamedEvent) :
    pendingHashes (executeEmission s stream event.toEvent) =
      (pendingHashes s).addAll (eventAmounts event) := by
  unfold pendingHashes
  rw [executeEmission_counters, List.map_append, Tallies.addAll_append]
  rfl

/-- Committing an event adds its deltas. -/
theorem runCounterCommands_counterSideEffects (hashes : CounterHashes)
    (event : StreamedEvent) :
    (counterSideEffects event).foldl runCounterCommand hashes =
      hashes.addAll (eventAmounts event) := by
  simp [counterSideEffects, eventAmounts, Tallies.addAll, List.foldl_map, runCounterCommand,
    counterAmount]

/-- `HGET` never answers `nil`. -/
theorem luaHget_ne_nil (hash : Tally String) (field : String) : luaHget hash field ≠ .nil := by
  unfold luaHget
  split <;> simp

/-- The script always adds the amount. -/
theorem conditionalCounterDecrement_eq (hash : Tally String) (field : String) (amount : Int) :
    conditionalCounterDecrement hash field amount = (true, hash.incr field amount) :=
  if_pos (luaHget_ne_nil hash field)

/-- Reflecting adds the processed amounts once more. -/
theorem reflectProcessedCounters_eq (server : CounterHashes) (counterGroup : String)
    (counters : List (String × Int)) :
    reflectProcessedCounters server counterGroup counters =
      server.addAll (Tallies.amountsOf counterGroup counters) := by
  simp [reflectProcessedCounters, conditionalCounterDecrement_eq, Tallies.addAll,
    Tallies.amountsOf, List.foldl_map, Tallies.incr]

/-- With the casting of the code the flush of a group raises. -/
theorem castTakenCounters_keys (decodeResponses : Bool) {entries : List (String × Int)}
    (hne : entries ≠ []) :
    ∃ e, castTakenCounters (.keys decodeResponses) entries = .error e := by
  have hreplies : entries.map (fun (field, value) =>
      (clientReply decodeResponses field, clientReply decodeResponses (toString value))) ≠ [] := by
    simpa using hne
  simp only [castTakenCounters]
  rcases castings_raise hreplies with ⟨e, he⟩ | ⟨counters, e, hcounters, he⟩
  · exact ⟨e, by rw [he]⟩
  · exact ⟨e, by rw [hcounters]; simp only [he]⟩

/-- So it takes the group and does nothing else. -/
theorem PipelineState.flush_keys (st : PipelineState) (decodeResponses : Bool)
    (counterGroup : String) :
    st.flush (.keys decodeResponses) counterGroup =
      { st with worker := st.worker.take counterGroup } := by
  unfold PipelineState.flush
  by_cases hraw : (st.worker counterGroup).entries = []
  · simp [hraw]
  · obtain ⟨e, he⟩ := castTakenCounters_keys decodeResponses hraw
    simp [hraw, he]

/-- `batch_update_counter_group` leaves the same hashes and returns no counters. -/
theorem batchUpdateCounterGroup_flush_keys {cfg : CounterSettings} {newIdentifier : String}
    {execute : Except Exn Unit} {store : CounterStore} {counterGroup : String}
    (st : PipelineState) (hfree : deriveLockKey counterGroup ∉ store.locks)
    (hhashes : store.hashes = fun name => (st.worker name).entries) :
    (batchUpdateCounterGroup cfg newIdentifier execute store counterGroup).2.hashes =
        (fun name =>
          ((st.flush (.keys cfg.decodeResponses) counterGroup).worker name).entries) ∧
      ∀ counters, (batchUpdateCounterGroup cfg newIdentifier execute store counterGroup).1 ≠
        .ok (some counters) := by
  have hworker : (fun name => if name = counterGroup then [] else store.hashes name) =
      fun name => ((st.flush (.keys cfg.decodeResponses) counterGroup).worker name).entries := by
    ext1 name
    rw [PipelineState.flush_keys, hhashes]
    by_cases hname : name = counterGroup
    · subst hname
      simp [Tallies.take, Tally.empty]
    · simp [Tallies.take, hname]
  rw [← hworker]
  by_cases hraw : store.hashes counterGroup = []
  · simp [batchUpdateCounterGroup, hfree, hraw]
  · obtain ⟨e, he⟩ := batchUpdateCounterGroup_raises hfree hraw
    rw [he]
    exact ⟨rfl, fun counters hok => by cases hok⟩

/-- Over the items the whole group is added to the columns and waits for its reflection. -/
theorem PipelineState.flush_items_amounts (st : PipelineState) (counterGroup g k : String) :
    (st.flush .items counterGroup).columns g k =
        st.columns g k +
          total (g, k) (Tallies.amountsOf counterGroup (st.worker counterGroup).entries) ∧
      (st.flush .items counterGroup).processedAmounts =
        st.processedAmounts ++
          Tallies.amountsOf counterGroup (st.worker counterGroup).entries := by
  by_cases hraw : (st.worker counterGroup).entries = []
  · simp [PipelineState.flush, PipelineState.processedAmounts, hraw, Tallies.amountsOf]
  · simp [PipelineState.flush, PipelineState.processedAmounts, hraw, castTakenCounters]

/-- What a flush leaves as it is. -/
theorem PipelineState.flush_frame (casting : Casting) (st : PipelineState)
    (counterGroup : String) :
    (st.flush casting counterGroup).server = st.server ∧
      (st.flush casting counterGroup).uncommitted = st.uncommitted ∧
      (st.flush casting counterGroup).worker = st.worker.take counterGroup ∧
      (st.flush casting counterGroup).emitted = st.emitted := by
  unfold PipelineState.flush
  by_cases hraw : (st.worker counterGroup).entries = []
  · simp [hraw]
  · simp only [hraw, if_false]
    split <;> simp

/-- Taking an element out of a list takes its amounts out of the flattened list. -/
theorem total_flatMap_eraseIdx {β : Type*} {f : β → List ((String × String) × Int)}
    {l : List β} {n : ℕ} {x : β} (hx : l[n]? = some x) (c : String × String) :
    total c (l.flatMap f) = total c (f x) + total c ((l.eraseIdx n).flatMap f) := by
  obtain ⟨hn, hget⟩ := List.getElem?_eq_some_iff.mp hx
  have hperm : (x :: l.eraseIdx n).Perm l := hget ▸ List.getElem_cons_eraseIdx_perm hn
  rw [← total_append, ← List.flatMap_cons]
  exact total_perm (hperm.flatMap_right f).symm

/-- Where the deltas of a counter are, for either casting. -/
def PipelineState.Accounted (initial : String → String → Int) (st : PipelineState) :
    Casting → Prop
  | .items => ∀ g k, total (g, k) st.emitted =
      total (g, k) st.uncommittedAmounts + st.worker.value g k +
        (st.columns g k - initial g k)
  | .keys _ => st.columns = initial ∧ st.processed = []

/-- What the server holds as pending: everything emitted and, since reflecting adds, once
more everything that has been reflected. -/
def PipelineState.PendingTwice (initial : String → String → Int) (st : PipelineState) : Prop :=
  ∀ g k, st.server.value g k + total (g, k) st.processedAmounts =
    total (g, k) st.emitted + (st.columns g k - initial g k)

/-- The server holds every field that is on its way. -/
structure PipelineState.FieldsHeld (st : PipelineState) : Prop where
  uncommitted : ∀ g k, (g, k) ∈ st.uncommittedAmounts.map Prod.fst → st.server.Has g k
  worker : ∀ g k, st.worker.Has g k → st.server.Has g k
  processed : ∀ g k, (g, k) ∈ st.processedAmounts.map Prod.fst → st.server.Has g k

/-- The invariant of the pipeline. -/
structure PipelineInv (casting : Casting) (initial : String → String → Int)
    (st : PipelineState) : Prop where
  pendingTwice : st.PendingTwice initial
  accounted : st.Accounted initial casting
  fieldsHeld : st.FieldsHeld

section
variable {casting : Casting} {initial : String → String → Int} {st : PipelineState}

theorem pipelineInv_start : PipelineInv casting initial (PipelineState.start initial) where
  pendingTwice := by
    intro g k
    simp [PipelineState.start, PipelineState.processedAmounts]
  accounted := by
    cases casting with
    | items =>
        intro g k
        simp [PipelineState.start, PipelineState.uncommittedAmounts]
    | keys decodeResponses => exact ⟨rfl, rfl⟩
  fieldsHeld := by
    constructor <;> intro g k h
    · simp [PipelineState.start, PipelineState.uncommittedAmounts] at h
    · exact absurd h (Tallies.not_has_empty g k)
    · simp [PipelineState.start, PipelineState.processedAmounts] at h

theorem PipelineInv.emit (h : PipelineInv casting initial st) (event : StreamedEvent) :
    PipelineInv casting initial (st.emit event) where
  pendingTwice := by
    intro g k
    have hold := h.pendingTwice g k
    have hserver : (st.emit event).server.value g k =
        st.server.value g k + total (g, k) (eventAmounts event) :=
      Tallies.value_addAll ..
    have hemitted : total (g, k) (st.emit event).emitted =
        total (g, k) st.emitted + total (g, k) (eventAmounts event) :=
      total_append ..
    have hprocessed : (st.emit event).processedAmounts = st.processedAmounts := rfl
    have hcolumns : (st.emit event).columns = st.columns := rfl
    rw [hserver, hemitted, hprocessed, hcolumns]
    omega
  accounted := by
    cases casting with
    | items =>
        intro g k
        have hold := h.accounted g k
        have hemitted : total (g, k) (st.emit event).emitted =
            total (g, k) st.emitted + total (g, k) (eventAmounts event) :=
          total_append ..
        have hwaiting : total (g, k) (st.emit event).uncommittedAmounts =
            total (g, k) st.uncommittedAmounts + total (g, k) (eventAmounts event) := by
          simp [PipelineState.emit, PipelineState.uncommittedAmounts, total_append]
        have hworker : (st.emit event).worker = st.worker := rfl
        have hcolumns : (st.emit event).columns = st.columns := rfl
        rw [hemitted, hwaiting, hworker, hcolumns]
        omega
    | keys decodeResponses => exact h.accounted
  fieldsHeld := by
    have hserver : ∀ g k, (st.emit event).server.Has g k ↔
        st.server.Has g k ∨ (g, k) ∈ (eventAmounts event).map Prod.fst := fun g k =>
      Tallies.has_addAll_iff ..
    constructor <;> intro g k hk <;> rw [hserver]
    · have hsplit : (st.emit event).uncommittedAmounts =
          st.uncommittedAmounts ++ eventAmounts event := by
        simp [PipelineState.emit, PipelineState.uncommittedAmounts]
      rw [hsplit, List.map_append, List.mem_append] at hk
      exact hk.imp_left (h.fieldsHeld.uncommitted g k)
    · exact .inl (h.fieldsHeld.worker g k hk)
    · exact .inl (h.fieldsHeld.processed g k hk)

/-- The fields that a list element brings along are fields of the flattened list. -/
theorem mem_fields_of_getElem? {β : Type*} {f : β → List ((String × String) × Int)}
    {l : List β} {n : ℕ} {x : β} (hx : l[n]? = some x) {c : String × String}
    (hc : c ∈ (f x).map Prod.fst) : c ∈ (l.flatMap f).map Prod.fst := by
  rw [List.map_flatMap, List.mem_flatMap]
  exact ⟨x, List.mem_of_getElem? hx, hc⟩

/-- What is left of a list brings no new fields along. -/
theorem mem_fields_of_eraseIdx {β : Type*} {f : β → List ((String × String) × Int)}
    {l : List β} {n : ℕ} {c : String × String}
    (hc : c ∈ ((l.eraseIdx n).flatMap f).map Prod.fst) :
    c ∈ (l.flatMap f).map Prod.fst := by
  rw [List.map_flatMap, List.mem_flatMap] at hc ⊢
  obtain ⟨x, hx, hmem⟩ := hc
  exact ⟨x, List.mem_of_mem_eraseIdx hx, hmem⟩

theorem PipelineInv.commit (h : PipelineInv casting initial st) {n : ℕ}
    {event : StreamedEvent} (hn : st.uncommitted[n]? = some event) :
    PipelineInv casting initial (st.commit n event) where
  pendingTwice := h.pendingTwice
  accounted := by
    cases casting with
    | items =>
        intro g k
        have hold := h.accounted g k
        have hwaiting : total (g, k) st.uncommittedAmounts =
            total (g, k) (eventAmounts event) +
              total (g, k) (st.commit n event).uncommittedAmounts :=
          total_flatMap_eraseIdx hn (g, k)
        have hworker : (st.commit n event).worker.value g k =
            st.worker.value g k + total (g, k) (eventAmounts event) := by
          simp only [PipelineState.commit, runCounterCommands_counterSideEffects,
            Tallies.value_addAll]
        have hemitted : (st.commit n event).emitted = st.emitted := rfl
        have hcolumns : (st.commit n event).columns = st.columns := rfl
        rw [hemitted, hworker, hcolumns]
        omega
    | keys decodeResponses => exact h.accounted
  fieldsHeld := by
    constructor <;> intro g k hk
    · exact h.fieldsHeld.uncommitted g k (mem_fields_of_eraseIdx hk)
    · simp only [PipelineState.commit, runCounterCommands_counterSideEffects,
        Tallies.has_addAll_iff] at hk
      rcases hk with hheld | hnew
      · exact h.fieldsHeld.worker g k hheld
      · exact h.fieldsHeld.uncommitted g k (mem_fields_of_getElem? hn hnew)
    · exact h.fieldsHeld.processed g k hk

theorem PipelineInv.flush (h : PipelineInv casting initial st) (counterGroup : String) :
    PipelineInv casting initial (st.flush casting counterGroup) := by
  cases casting with
  | keys decodeResponses =>
      rw [PipelineState.flush_keys]
      refine ⟨h.pendingTwice, h.accounted, h.fieldsHeld.uncommitted, ?_,
        h.fieldsHeld.processed⟩
      intro g k hk
      exact h.fieldsHeld.worker g k (Tallies.has_of_has_take hk)
  | items =>
      -- the amounts move from the worker to the columns and to the processed ones
      obtain ⟨hserver, huncommitted, hworker, hemitted⟩ :=
        PipelineState.flush_frame .items st counterGroup
      have hamounts := PipelineState.flush_items_amounts st counterGroup
      refine ⟨?_, ?_, ?_⟩
      · intro g k
        obtain ⟨hcolumns, hprocessed⟩ := hamounts g k
        have hold := h.pendingTwice g k
        rw [hserver, hemitted, hcolumns, hprocessed, total_append]
        omega
      · intro g k
        obtain ⟨hcolumns, -⟩ := hamounts g k
        have hold := h.accounted g k
        have htake := Tallies.value_take st.worker counterGroup g k
        have hwaiting : (st.flush .items counterGroup).uncommittedAmounts =
            st.uncommittedAmounts := by
          simp only [PipelineState.uncommittedAmounts, huncommitted]
        rw [hemitted, hcolumns, hwaiting, hworker]
        omega
      · constructor <;> intro g k hk <;> rw [hserver]
        · simp only [PipelineState.uncommittedAmounts, huncommitted] at hk
          exact h.fieldsHeld.uncommitted g k hk
        · rw [hworker] at hk
          exact h.fieldsHeld.worker g k (Tallies.has_of_has_take hk)
        · rw [(hamounts g k).2, List.map_append, List.mem_append] at hk
          rcases hk with hold | htaken
          · exact h.fieldsHeld.processed g k hold
          · obtain ⟨rfl, hentry⟩ := Tallies.mem_amountsOf.mp htaken
            apply h.fieldsHeld.worker g k
            exact (Tally.get?_ne_none_iff _ _).mpr hentry

theorem PipelineInv.reflect (h : PipelineInv casting initial st) {n : ℕ}
    {counterGroup : String} {counters : List (String × Int)}
    (hn : st.processed[n]? = some (counterGroup, counters)) :
    PipelineInv casting initial (st.reflect n counterGroup counters) where
  pendingTwice := by
    intro g k
    have hold := h.pendingTwice g k
    have hwaiting : total (g, k) st.processedAmounts =
        total (g, k) (Tallies.amountsOf counterGroup counters) +
          total (g, k) (st.reflect n counterGroup counters).processedAmounts :=
      total_flatMap_eraseIdx hn (g, k)
    -- what leaves the list of processed amounts is added to the server once more
    have hserver : (st.reflect n counterGroup counters).server.value g k =
        st.server.value g k + total (g, k) (Tallies.amountsOf counterGroup counters) := by
      simp only [PipelineState.reflect, reflectProcessedCounters_eq, Tallies.value_addAll]
    have hemitted : (st.reflect n counterGroup counters).emitted = st.emitted := rfl
    have hcolumns : (st.reflect n counterGroup counters).columns = st.columns := rfl
    rw [hserver, hemitted, hcolumns]
    omega
  accounted := by
    cases casting with
    | items => exact h.accounted
    | keys decodeResponses =>
        -- nothing has been processed, so there is nothing to reflect
        rw [h.accounted.2] at hn
        cases hn
  fieldsHeld := by
    have hserver : ∀ g k, st.server.Has g k →
        (st.reflect n counterGroup counters).server.Has g k := by
      intro g k hheld
      simp only [PipelineState.reflect, reflectProcessedCounters_eq, Tallies.has_addAll_iff]
      exact .inl hheld
    constructor <;> intro g k hk <;> apply hserver
    · exact h.fieldsHeld.uncommitted g k hk
    · exact h.fieldsHeld.worker g k hk
    · exact h.fieldsHeld.processed g k (mem_fields_of_eraseIdx hk)

/-- Every step keeps the invariant. -/
theorem PipelineInv.step {action : PipelineAction} {st' : PipelineState}
    (h : PipelineInv casting initial st) (hstep : pipelineStep casting st action = some st') :
    PipelineInv casting initial st' := by
  cases action with
  | emit event =>
      cases hstep
      exact h.emit event
  | commit n =>
      simp only [pipelineStep] at hstep
      split at hstep
      · cases hstep
      · rename_i event hn
        cases hstep
        exact h.commit hn
  | flush counterGroup =>
      cases hstep
      exact h.flush counterGroup
  | reflect n =>
      simp only [pipelineStep] at hstep
      split at hstep
      · cases hstep
      · rename_i counterGroup counters hn
        cases hstep
        exact h.reflect hn

/-- In a settled state everything has arrived if and only if nothing was to arrive. -/
theorem PipelineInv.conserved_iff (h : PipelineInv casting initial st) (hsettled : st.Settled) :
    st.Conserved initial ↔ ∀ g k, total (g, k) st.emitted = 0 := by
  obtain ⟨huncommitted, hworker, hprocessed⟩ := hsettled
  have hpending : ∀ g k, st.server.value g k =
      total (g, k) st.emitted + (st.columns g k - initial g k) := by
    intro g k
    have hold := h.pendingTwice g k
    simpa [PipelineState.processedAmounts, hprocessed] using hold
  cases casting with
  | items =>
      -- all deltas are in the columns, so the server holds them twice
      have hcolumns : ∀ g k, total (g, k) st.emitted = st.columns g k - initial g k := by
        intro g k
        have hold := h.accounted g k
        simpa [PipelineState.uncommittedAmounts, huncommitted, Tallies.value, Tally.value,
          hworker] using hold
      constructor
      · intro hconserved g k
        have h1 := hpending g k
        have h2 := hcolumns g k
        have h3 := (hconserved g k).2
        omega
      · intro hzero g k
        have h1 := hpending g k
        have h2 := hcolumns g k
        have h3 := hzero g k
        constructor <;> omega
  | keys decodeResponses =>
      -- all deltas were lost, and the server still holds them
      have hcolumns : st.columns = initial := h.accounted.1
      constructor
      · intro hconserved g k
        have h1 := (hconserved g k).1
        rw [hcolumns] at h1
        omega
      · intro hzero g k
        have h1 := hpending g k
        have h2 := hzero g k
        rw [hcolumns] at h1 ⊢
        constructor <;> omega

/-- Settling creates no field, because the server holds what has been processed. -/
theorem PipelineInv.settlesHeldFields (h : PipelineInv casting initial st)
    (action : PipelineAction) : SettlesHeldFields casting st action := by
  rintro n rfl st' hstep g k hnot hheld
  simp only [pipelineStep] at hstep
  split at hstep
  · cases hstep
  · rename_i counterGroup counters hn
    cases hstep
    simp only [PipelineState.reflect, reflectProcessedCounters_eq, Tallies.has_addAll_iff]
      at hheld
    rcases hheld with hold | hnew
    · exact hnot hold
    · have hfield : (g, k) ∈ st.processedAmounts.map Prod.fst :=
        mem_fields_of_getElem? hn hnew
      exact hnot (h.fieldsHeld.processed g k hfield)

end

/-- The script creates the field whenever it is missing. -/
theorem conditionalCounterDecrement_creates_iff (hash : Tally String) (field : String)
    (amount : Int) :
    (hash.get? field = none → (conditionalCounterDecrement hash field amount).2.get? field = none) ↔
      hash.get? field ≠ none := by
  have hheld : (conditionalCounterDecrement hash field amount).2.get? field ≠ none := by
    rw [conditionalCounterDecrement_eq]
    exact (Tally.get?_incr_ne_none_iff ..).mpr (.inl rfl)
  constructor
  · intro hkeeps hnone
    exact hheld (hkeeps hnone)
  · intro hne hnone
    exact absurd hnone hne

/-- With either casting a run conserves all counters, and settles held fields only, if and
only if the deltas of every counter add up to zero whenever everything is settled.  The
script itself creates the field that it settles unless the server holds it. -/
theorem conserved_when_settled_iff (casting : Casting) (initial : String → String → Int)
    (actions : List PipelineAction) (hash : Tally String) (field : String) (amount : Int) :
    (Always (pipelineStep casting) (fun st => st.Settled → st.Conserved initial)
          (PipelineState.start initial) actions ∧
        EachStep (pipelineStep casting) (SettlesHeldFields casting)
          (PipelineState.start initial) actions ↔
      Always (pipelineStep casting) (fun st => st.Settled → ∀ g k, total (g, k) st.emitted = 0)
        (PipelineState.start initial) actions) ∧
    ((hash.get? field = none →
        (conditionalCounterDecrement hash field amount).2.get? field = none) ↔
      hash.get? field ≠ none) := by
  refine ⟨?_, conditionalCounterDecrement_creates_iff hash field amount⟩
  have hinv : Always (pipelineStep casting) (PipelineInv casting initial)
      (PipelineState.start initial) actions :=
    always_of_preserved (fun _ _ _ h hstep => h.step hstep) actions _ pipelineInv_start
  have hfields : EachStep (pipelineStep casting) (SettlesHeldFields casting)
      (PipelineState.start initial) actions :=
    eachStep_of_always (fun _ action h => h.settlesHeldFields action) hinv
  rw [and_iff_left hfields]
  exact always_congr (fun _ h => forall_congr' fun hsettled => h.conserved_iff hsettled) hinv

/-- The event of a deleted post of forum 3. -/
def postDeleted : StreamedEvent where
  name := .postDelete
  payload := [("post_id", .int 5)]
  sideEffects := { counterUpdates := [⟨"forums:posts", "forums:3", "posts", -1⟩] }
  eventId := 1

/-- The only group that the worker then holds is the one that is flushed. -/
theorem postDeleted_flushed (g : String) :
    (((counterSideEffects postDeleted).foldl runCounterCommand Tallies.empty).take
      "forums:posts" g).entries = [] := by
  by_cases hg : g = "forums:posts"
  · subst hg
    simp [Tallies.take, Tally.empty]
  · simp [counterSideEffects, postDeleted, runCounterCommand, Tallies.take, Tallies.incr, hg,
      Tallies.empty, Tally.empty]

/-- Over the items the forum's count goes down by one and the server holds minus two; with
the code's casting the count stays and the server holds minus one. -/
theorem deletion_not_conserved :
    ¬ Always (pipelineStep .items) (fun st => st.Settled → st.Conserved fun _ _ => 10)
        (PipelineState.start fun _ _ => 10)
        [.emit postDeleted, .commit 0, .flush "forums:posts", .reflect 0] ∧
      ¬ Always (pipelineStep (.keys false)) (fun st => st.Settled → st.Conserved fun _ _ => 10)
        (PipelineState.start fun _ _ => 10)
        [.emit postDeleted, .commit 0, .flush "forums:posts"] := by
  constructor <;> intro hall
  · have hlast := hall.last rfl ⟨rfl, postDeleted_flushed, rfl⟩
    have hpending := (hlast "forums:posts" "forums:3").2
    revert hpending
    decide
  · have hlast := hall.last rfl
    simp only [PipelineState.flush_keys] at hlast
    have hcolumn := (hlast ⟨rfl, postDeleted_flushed, rfl⟩ "forums:posts" "forums:3").1
    revert hcolumn
    decide

end DatabaseWorkers
end Tenjin
