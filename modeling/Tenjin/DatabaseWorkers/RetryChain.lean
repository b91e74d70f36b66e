import Tenjin.DatabaseWorkers.CounterPipeline
import Tenjin.Python.Separated

/-!
# The retry chain of a counter batch

A counter group whose flush fails for a moment is written to a retry batch, whose name is to
carry the group and the number of retries (`utils/strings.py`).  The retry worker takes the
name from its registry and flushes the batch in the same way.

* `extractBatchMetadata_eq` — every name is read as that of the group `-` without retries:
  the separator is split at the name.
* `RegistryReading` says what the retry worker makes of the reply of `BLPOP`: the name of the
  batch, or the whole pair, as in the code, on which it raises.
* `BoundedChain` is the purpose, and `boundedChain_iff` says that only a flush that succeeds
  at once meets it.
-/

namespace Tenjin
namespace DatabaseWorkers

open Python ResourceAuxillary

/-- A counter group: a table and one of its columns. -/
structure CounterGroup where
  table : String
  column : String
  table_plain : ':' ∉ table.toList
  column_plain : ':' ∉ column.toList

/-- The name of the group. -/
def CounterGroup.name (g : CounterGroup) : String := deriveHashmapName g.table g.column

/-- `_generate_batch_identifier`: a time and random bytes. -/
def generateBatchIdentifier (timestamp : ℕ) (randomBytes : List ℕ) : String :=
  digitsText timestamp ++ String.ofList (randomBytes.flatMap hexDigits)

/-- What the casting makes of the pairs of a hash. -/
def castCounters : Casting → List (String × Int) → Except Exn (List (CounterKey × Int))
  | .items, entries => .ok (entries.map fun (field, value) => (.str field, value))
  | .keys decodeResponses, entries =>
      cacheNormalizeRawCounterData (entries.map fun (field, value) =>
        (clientReply decodeResponses field, clientReply decodeResponses (toString value)))

section
variable (casting : Casting) (cfg : CounterSettings)

/-- `batch_update_counter_group` with either casting. -/
def updateCounterGroup (newIdentifier : String) (execute : Except Exn Unit)
    (store : CounterStore) (batchName : String) : CounterResult × CounterStore :=
  let lockName := deriveLockKey batchName
  if lockName ∈ store.locks then (.ok none, store)
  else
    let raw := store.hashes batchName
    let taken := { store with
      hashes := (fun name => if name = batchName then [] else store.hashes name) }
    if raw = [] then (.ok none, taken)
    else
      match castCounters casting raw with
      -- the group has been taken out of Redis by now
      | .error e => (.error e, taken)
      | .ok counters =>
          match databaseNormalizeCounterData counters with
          | .error e => (.error e, taken)
          | .ok dbNormalizedCounters =>
              flushNormalizedCounters cfg newIdentifier execute taken batchName counters
                dbNormalizedCounters

/-- The casting of the code gives the function of the code. -/
theorem updateCounterGroup_keys (newIdentifier : String) (execute : Except Exn Unit)
    (store : CounterStore) (batchName : String) :
    updateCounterGroup (.keys cfg.decodeResponses) cfg newIdentifier execute store batchName =
      batchUpdateCounterGroup cfg newIdentifier execute store batchName :=
  rfl

/-- The table and the column that `flush_counter_updates` reads off the name of a batch. -/
def flushTarget (batchName : String) : Option (String × String) :=
  match (pySplit ':' batchName).take 2 with
  | [table, column] => some (table, column)
  | _ => none

/-- The calls of `flush_counter_updates` in one call of `batch_update_counter_group`, each
with its target. -/
def flushCalls (store : CounterStore) (batchName : String) :
    List (Option (String × String)) :=
  if deriveLockKey batchName ∈ store.locks then []
  else
    let raw := store.hashes batchName
    if raw = [] then []
    else
      match castCounters casting raw with
      | .error _ => []
      | .ok counters =>
          match databaseNormalizeCounterData counters with
          | .error _ => []
          | .ok _ => [flushTarget batchName]

end

/-- What the retry worker makes of the reply of `BLPOP`. -/
inductive RegistryReading
  /-- The code: the pair of the registry and the name is taken for the name, and the lock
  key cannot be derived from it. -/
  | reply
  /-- The name is taken out of the pair. -/
  | name

/-- The next retry batch, if the retry worker gets that far.  The batch is a hash of the
same store. -/
def nextRetryBatch (reading : RegistryReading) (store : CounterStore) :
    Option String × CounterStore :=
  match store.retryRegistry with
  | [] => (none, store)
  | batchName :: rest =>
      match reading with
      | .reply => (none, { store with retryRegistry := rest })
      | .name =>
          let counters := (store.retryHashes.lookup batchName).getD []
          (some batchName, { store with
            retryRegistry := rest
            hashes := fun name =>
              if name = batchName then counters.map fun (key, value) => (key.text, value)
              else store.hashes name })

/-- The stores, the calls of `flush_counter_updates` so far, and the batch that is next. -/
structure ChainState where
  store : CounterStore
  attempts : List (Option (String × String))
  pending : Option String

/-- A worker's Redis that holds one group. -/
def groupStore (g : CounterGroup) (entries : List (String × Int)) : CounterStore where
  locks := []
  hashes := fun name => if name = g.name then entries else []
  retryRegistry := []
  retryHashes := []
  deadLetters := []
  flushed := []

section
variable (casting : Casting) (reading : RegistryReading) (cfg : CounterSettings)
  (identifiers : ℕ → ℕ × List ℕ) (outcomes : ℕ → Except Exn Unit)

/-- One hop: the batch is updated, and its retry batch, if there is one, is next.  The
flush outcomes are numbered by the attempts. -/
def chainStep (st : ChainState) : ChainState :=
  match st.pending with
  | none => st
  | some batchName =>
      let n := st.attempts.length
      let attempts := st.attempts ++ flushCalls casting st.store batchName
      match updateCounterGroup casting cfg
          (generateBatchIdentifier (identifiers n).1 (identifiers n).2) (outcomes n) st.store
          batchName with
      -- the worker has raised, and no batch is next
      | (.error _, store) => ⟨store, attempts, none⟩
      | (.ok _, store) =>
          ⟨(nextRetryBatch reading store).2, attempts, (nextRetryBatch reading store).1⟩

/-- The chain of a group after some hops. -/
def chainAfter (g : CounterGroup) (entries : List (String × Int)) (n : ℕ) : ChainState :=
  (chainStep casting reading cfg identifiers outcomes)^[n]
    ⟨groupStore g entries, [], some g.name⟩

/-- Each delta is in the column of its row or in the dead letter queue. -/
def SettledIn (g : CounterGroup) (entries : List (String × Int)) (store : CounterStore) :
    Prop :=
  ∀ entry ∈ entries, ∃ id, databaseNormalizeKey (.str entry.1) = .ok id ∧
    (⟨g.table, g.column, id, entry.2⟩ ∈ store.flushed ∨
      ∃ batch ∈ store.deadLetters, batch.table = g.table ∧ batch.column = g.column ∧
        (id, entry.2) ∈ batch.counters)

/-- The chain makes few attempts, all of them for its own table and column, and ends with
its deltas settled. -/
structure BoundedChain (g : CounterGroup) (entries : List (String × Int)) : Prop where
  bounded : ∀ n, (chainAfter casting reading cfg identifiers outcomes g entries n).attempts.length
    ≤ cfg.maxRetries + 1
  on_target : ∀ n,
    ∀ target ∈ (chainAfter casting reading cfg identifiers outcomes g entries n).attempts,
      target = some (g.table, g.column)
  settles : ∃ n,
    (chainAfter casting reading cfg identifiers outcomes g entries n).pending = none ∧
      SettledIn g entries
        (chainAfter casting reading cfg identifiers outcomes g entries n).store

end

/-- The flush of the group itself goes through: over the items of the hash, to rows that
have a number, and with a database that accepts it. -/
def FlushesAtOnce (casting : Casting) (outcomes : ℕ → Except Exn Unit)
    (entries : List (String × Int)) : Prop :=
  casting = .items ∧ (∀ entry ∈ entries, ∃ id, databaseNormalizeKey (.str entry.1) = .ok id) ∧
    outcomes 0 = .ok ()

theorem CounterGroup.pySplit_name (g : CounterGroup) :
    pySplit ':' g.name = [g.table, g.column] := by
  have hparts := pySplit_pyJoin ':' (List.cons_ne_nil g.table [g.column])
  rw [CounterGroup.name, deriveHashmapName, nameSeperator,
    show (":" : String) = String.singleton ':' from rfl, hparts]
  simp [pySplit_of_not_mem g.table_plain, pySplit_of_not_mem g.column_plain]

theorem CounterGroup.flushTarget_name (g : CounterGroup) :
    flushTarget g.name = some (g.table, g.column) := by
  simp [flushTarget, g.pySplit_name]

/-- No text but the separator begins with it and ends there: split at a name, it stays
whole. -/
theorem splitText_internalNameSeperator {batch : String} (hempty : batch ≠ "")
    (hdash : batch ≠ "-") :
    splitText internalNameSeperator batch = .ok ["-"] := by
  have hnot : batch.isEmpty = false := by
    rw [Bool.eq_false_iff]
    intro h
    exact hempty (String.isEmpty_iff.mp h)
  -- a name that occurs in the separator would have to be the separator
  have hprefix : batch.toList.isPrefixOf ['-'] = false := by
    rw [Bool.eq_false_iff]
    intro h
    rcases List.prefix_cons_iff.mp (List.isPrefixOf_iff_prefix.mp h) with hnil | ⟨rest, hrest, hp⟩
    · exact hempty (String.toList_inj.mp hnil)
    · rw [List.prefix_nil.mp hp] at hrest
      exact hdash (String.toList_inj.mp hrest)
  have hlist : internalNameSeperator.toList = ['-'] := rfl
  simp only [splitText, hnot, hlist, splitTextLoop, hprefix]
  rfl

/-- So every name is read as that of the group `-` without retries. -/
theorem extractBatchMetadata_eq {batch : String} (hempty : batch ≠ "") (hdash : batch ≠ "-") :
    extractBatchMetadata batch = .ok ("-", none, 0) := by
  simp [extractBatchMetadata, splitText_internalNameSeperator hempty hdash]

theorem colon_ne_digitChar : ∀ n : ℕ, ':' ≠ Nat.digitChar n
  | 0 | 1 | 2 | 3 | 4 | 5 | 6 | 7 | 8 | 9 | 10 | 11 | 12 | 13 | 14 | 15 | _ + 16 => by
      simp [Nat.digitChar]

/-- Split at the separator, the name of a retry batch would give back what it was made of. -/
theorem pySplit_generateRetryBatchName {newIdentifier counterName identifier : String}
    (hcounter : '-' ∉ counterName.toList) (hidentifier : '-' ∉ identifier.toList)
    (hne : identifier ≠ "") (version : ℕ) :
    pySplit '-' (generateRetryBatchName newIdentifier counterName version (some identifier)) =
      [counterName, identifier, digitsText version] := by
  have hchosen : identifier.isEmpty = false := by
    rw [Bool.eq_false_iff]
    exact fun h => hne (String.isEmpty_iff.mp h)
  have hparts := pySplit_pyJoin '-'
    (List.cons_ne_nil counterName [identifier, toString (version : Int)])
  simp only [generateRetryBatchName, hchosen, internalNameSeperator]
  rw [show ("-" : String) = String.singleton '-' from rfl, if_neg Bool.false_ne_true, hparts]
  simp only [List.flatMap_cons, List.flatMap_nil, pySplit_of_not_mem hcounter,
    pySplit_of_not_mem hidentifier, pySplit_dash_toString]
  simp

/-- A dead batch is never declared. -/
theorem declareCountersEventDead_error (batchName : String) (counters : List (Int × Int)) :
    ∃ e, declareCountersEventDead batchName counters = .error e := by
  unfold declareCountersEventDead
  split
  · exact ⟨_, rfl⟩
  · exact ⟨_, rfl⟩

/-- The casting over the items keeps the pairs. -/
theorem castCounters_items (entries : List (String × Int)) :
    castCounters .items entries =
      .ok (entries.map fun (field, value) => (.str field, value)) := rfl

/-- The casting of the code lets no group through. -/
theorem castCounters_keys (decodeResponses : Bool) {entries : List (String × Int)}
    (hne : entries ≠ []) {counters : List (CounterKey × Int)}
    (h : castCounters (.keys decodeResponses) entries = .ok counters) :
    ∃ e, databaseNormalizeCounterData counters = .error e := by
  have hreplies : entries.map (fun (field, value) =>
      (clientReply decodeResponses field, clientReply decodeResponses (toString value))) ≠ [] := by
    simpa using hne
  rcases castings_raise hreplies with ⟨e, he⟩ | ⟨counters', e, hcounters, he⟩
  · rw [castCounters, he] at h
    cases h
  · rw [castCounters, hcounters] at h
    cases h
    exact ⟨e, he⟩

/-- The second casting goes through exactly when every field has the number of a row. -/
theorem databaseNormalizeCounterData_items (entries : List (String × Int)) :
    (∃ rows, databaseNormalizeCounterData
        (entries.map fun (field, value) => (.str field, value)) = .ok rows) ↔
      ∀ entry ∈ entries, ∃ id, databaseNormalizeKey (.str entry.1) = .ok id := by
  induction entries with
  | nil => simp [databaseNormalizeCounterData]
  | cons entry entries ih =>
      obtain ⟨field, value⟩ := entry
      rw [List.forall_mem_cons, ← ih]
      simp only [List.map_cons, databaseNormalizeCounterData]
      cases databaseNormalizeKey (.str field) with
      | error e => simp
      | ok id =>
          cases databaseNormalizeCounterData
            (entries.map fun (field, value) => (.str field, value)) <;> simp

/-- The rows of the second casting are those of the fields. -/
theorem mem_databaseNormalizeCounterData {entries : List (String × Int)}
    {rows : List (Int × Int)}
    (h : databaseNormalizeCounterData
      (entries.map fun (field, value) => (.str field, value)) = .ok rows) :
    ∀ entry ∈ entries, ∃ id, databaseNormalizeKey (.str entry.1) = .ok id ∧
      (id, entry.2) ∈ rows := by
  induction entries generalizing rows with
  | nil => simp
  | cons entry entries ih =>
      obtain ⟨field, value⟩ := entry
      simp only [List.map_cons, databaseNormalizeCounterData] at h
      cases hkey : databaseNormalizeKey (.str field) with
      | error e => simp [hkey] at h
      | ok id =>
          cases hrest : databaseNormalizeCounterData
              (entries.map fun (field, value) => (.str field, value)) with
          | error e => simp [hkey, hrest] at h
          | ok rest =>
              simp only [hkey, hrest, Except.ok.injEq] at h
              subst h
              rw [List.forall_mem_cons]
              refine ⟨⟨id, hkey, List.mem_cons_self ..⟩, fun entry hentry => ?_⟩
              obtain ⟨id', hid', hmem⟩ := ih hrest entry hentry
              exact ⟨id', hid', List.mem_cons_of_mem _ hmem⟩

section
variable (casting : Casting) (reading : RegistryReading) (cfg : CounterSettings)
  (identifiers : ℕ → ℕ × List ℕ) (outcomes : ℕ → Except Exn Unit) (g : CounterGroup)
  (entries : List (String × Int))

/-- What the flush of a batch leaves when the database does not accept it: nothing is
flushed or dead, and a batch is registered only after a recoverable error. -/
theorem flushNormalizedCounters_refused {execute : Except Exn Unit}
    (hexecute : execute ≠ .ok ()) (newIdentifier : String) (store : CounterStore)
    (counters : List (CounterKey × Int)) (rows : List (Int × Int)) :
    (∃ e, flushNormalizedCounters cfg newIdentifier execute store g.name counters rows =
        (.error e, store)) ∨
      flushNormalizedCounters cfg newIdentifier execute store g.name counters rows =
        (.ok none, dispatchToRetrier store newIdentifier "-" counters 0 none) := by
  have hname : g.name ≠ "" ∧ g.name ≠ "-" := by
    have htwo : (pySplit ':' g.name).length = 2 := by
      rw [g.pySplit_name]
      rfl
    constructor <;> intro h
    all_goals
      rw [h] at htwo
      exact absurd htwo (by decide)
  obtain ⟨e, hdead⟩ := declareCountersEventDead_error g.name rows
  have htaken : (pySplit ':' g.name).take 2 = [g.table, g.column] := by simp [g.pySplit_name]
  cases execute with
  | ok a => exact absurd rfl hexecute
  | error x =>
      have hflush : ∃ y, flushCounterUpdates store g.name rows (.error x) = .error y := by
        unfold flushCounterUpdates
        rw [htaken]
        cases x <;> exact ⟨_, rfl⟩
      obtain ⟨y, hy⟩ := hflush
      unfold flushNormalizedCounters
      rw [hy, extractBatchMetadata_eq hname.1 hname.2, hdead]
      -- whichever exception it is: a dead batch raises, and a retry is of the group `-`
      cases y
      all_goals try exact .inl ⟨e, rfl⟩
      dsimp only
      split
      · exact .inl ⟨e, rfl⟩
      · exact .inr rfl

/-- The calls of a hop are added to the attempts, whatever comes of them. -/
theorem chainStep_attempts {st : ChainState} {batchName : String}
    (hpending : st.pending = some batchName) :
    (chainStep casting reading cfg identifiers outcomes st).attempts =
      st.attempts ++ flushCalls casting st.store batchName := by
  unfold chainStep
  rw [hpending]
  dsimp only
  split <;> rfl

/-- A chain that has ended stays as it is. -/
theorem chainAfter_of_ended
    (hended : (chainAfter casting reading cfg identifiers outcomes g entries 1).pending = none)
    (n : ℕ) :
    chainAfter casting reading cfg identifiers outcomes g entries (n + 1) =
      chainAfter casting reading cfg identifiers outcomes g entries 1 := by
  induction n with
  | zero => rfl
  | succ n ih =>
      rw [chainAfter, Function.iterate_succ_apply', ← chainAfter, ih, chainStep, hended]

/-- Deltas that are nowhere when the chain ends are lost. -/
theorem not_boundedChain_of_lost (hne : entries ≠ [])
    (hended : (chainAfter casting reading cfg identifiers outcomes g entries 1).pending = none)
    (hflushed : (chainAfter casting reading cfg identifiers outcomes g entries 1).store.flushed
      = [])
    (hdead : (chainAfter casting reading cfg identifiers outcomes g entries 1).store.deadLetters
      = []) :
    ¬ BoundedChain casting reading cfg identifiers outcomes g entries := by
  intro hchain
  obtain ⟨n, hpending, hsettled⟩ := hchain.settles
  obtain ⟨entry, hentry⟩ := List.exists_mem_of_ne_nil _ hne
  cases n with
  | zero => cases hpending
  | succ n =>
      rw [chainAfter_of_ended casting reading cfg identifiers outcomes g entries hended]
        at hsettled
      obtain ⟨id, -, hin | ⟨batch, hbatch, -⟩⟩ := hsettled entry hentry
      · rw [hflushed] at hin
        cases hin
      · rw [hdead] at hbatch
        cases hbatch

/-- The first hop of a group that is not flushed at once: either the chain ends with
nothing flushed or dead, or the next batch has the name of a retry of the group `-`. -/
theorem first_hop (hne : entries ≠ []) (hrefused : ¬ FlushesAtOnce casting outcomes entries) :
    ((chainAfter casting reading cfg identifiers outcomes g entries 1).pending = none ∧
      (chainAfter casting reading cfg identifiers outcomes g entries 1).store.flushed = [] ∧
      (chainAfter casting reading cfg identifiers outcomes g entries 1).store.deadLetters
        = []) ∨
    casting = .items ∧
      (∃ rows, databaseNormalizeCounterData
        (entries.map fun (field, value) => (.str field, value)) = .ok rows) ∧
      (chainAfter casting reading cfg identifiers outcomes g entries 1).store.locks = [] ∧
      ∃ timestamp randomBytes,
        (chainAfter casting reading cfg identifiers outcomes g entries 1).pending =
          some (generateRetryBatchName (generateBatchIdentifier timestamp randomBytes) "-"
            (0 + 1) none) ∧
        (chainAfter casting reading cfg identifiers outcomes g entries 1).store.hashes
          (generateRetryBatchName (generateBatchIdentifier timestamp randomBytes) "-"
            (0 + 1) none) = entries := by
  have hfirst : chainAfter casting reading cfg identifiers outcomes g entries 1 =
      chainStep casting reading cfg identifiers outcomes
        ⟨groupStore g entries, [], some g.name⟩ := rfl
  have hfree : deriveLockKey g.name ∉ (groupStore g entries).locks := List.not_mem_nil
  have hraw : (groupStore g entries).hashes g.name = entries := if_pos rfl
  simp only [hfirst, chainStep, updateCounterGroup, hfree, hraw, hne, if_false]
  cases hcast : castCounters casting entries with
  | error e => exact .inl ⟨rfl, rfl, rfl⟩
  | ok counters =>
      cases hrows : databaseNormalizeCounterData counters with
      | error e => simp [hrows, groupStore]
      | ok rows =>
          simp only [hrows]
          -- only the items get through both castings
          cases casting with
          | keys decodeResponses =>
              obtain ⟨e, he⟩ := castCounters_keys decodeResponses hne hcast
              rw [he] at hrows
              cases hrows
          | items =>
              rw [castCounters_items] at hcast
              cases hcast
              have hnumbers := (databaseNormalizeCounterData_items entries).mp ⟨rows, hrows⟩
              have hexecute : outcomes 0 ≠ .ok () := fun h => hrefused ⟨rfl, hnumbers, h⟩
              rcases flushNormalizedCounters_refused cfg g hexecute
                (generateBatchIdentifier (identifiers 0).1 (identifiers 0).2)
                { groupStore g entries with
                  hashes := fun name => if name = g.name then []
                    else (groupStore g entries).hashes name }
                (entries.map fun (field, value) => (.str field, value)) rows
                with ⟨e, hflush⟩ | hflush
              · rw [List.length_nil, hflush]
                exact .inl ⟨rfl, rfl, rfl⟩
              · rw [List.length_nil, hflush]
                cases reading with
                -- the worker has taken the reply for a name and raised
                | reply => exact .inl ⟨rfl, rfl, rfl⟩
                | name =>
                    refine .inr ⟨rfl, ⟨rows, hrows⟩, rfl, _, _, rfl, ?_⟩
                    simp [nextRetryBatch, dispatchToRetrier, groupStore, CounterKey.text,
                      Function.comp_def]

/-- The name of a retry batch has no table and column in it. -/
theorem flushTarget_retryBatchName (timestamp : ℕ) (randomBytes : List ℕ) :
    flushTarget (generateRetryBatchName (generateBatchIdentifier timestamp randomBytes) "-"
      (0 + 1) none) = none := by
  have hplain : ':' ∉ (generateRetryBatchName
      (generateBatchIdentifier timestamp randomBytes) "-" (0 + 1) none).toList := by
    have hhex : ∀ n : ℕ, ':' ∉ hexDigits n := by
      intro n
      simp [hexDigits, colon_ne_digitChar]
    have hdigits : ':' ∉ (digitsText timestamp).toList := by
      simpa [digitsText] using not_mem_toDigits rfl timestamp
    have hone : ':' ∉ (Int.repr 1).toList := colon_not_mem_toString 1
    simp [generateRetryBatchName, generateBatchIdentifier, pyJoin, internalNameSeperator,
      hhex, hdigits, hone]
  rw [flushTarget, pySplit_of_not_mem hplain]
  rfl

/-- A group that is not flushed at once is not settled, or its retry is flushed elsewhere. -/
theorem not_boundedChain (hne : entries ≠ [])
    (hrefused : ¬ FlushesAtOnce casting outcomes entries) :
    ¬ BoundedChain casting reading cfg identifiers outcomes g entries := by
  rcases first_hop casting reading cfg identifiers outcomes g entries hne hrefused
    with ⟨hended, hflushed, hdead⟩ |
      ⟨rfl, ⟨rows, hrows⟩, hlocks, timestamp, randomBytes, hpending, hhash⟩
  · exact not_boundedChain_of_lost casting reading cfg identifiers outcomes g entries hne hended
      hflushed hdead
  · intro hchain
    -- the second hop flushes a batch whose name has no target
    have hcalls := chainStep_attempts .items reading cfg identifiers outcomes hpending
    have hfree : ∀ name, name ∉
        (chainAfter .items reading cfg identifiers outcomes g entries 1).store.locks := by
      simp [hlocks]
    simp only [flushCalls, hfree, if_false, hhash, hne, castCounters_items, hrows,
      flushTarget_retryBatchName] at hcalls
    have hsecond : none ∈
        (chainAfter .items reading cfg identifiers outcomes g entries 2).attempts := by
      rw [chainAfter, Function.iterate_succ_apply', ← chainAfter, hcalls]
      exact List.mem_append_right _ (List.mem_singleton_self _)
    cases hchain.on_target 2 none hsecond

/-- A chain that ends after its first hop is judged there. -/
theorem boundedChain_of_first
    (hended : (chainAfter casting reading cfg identifiers outcomes g entries 1).pending = none)
    (hbounded : (chainAfter casting reading cfg identifiers outcomes g entries 1).attempts.length
      ≤ cfg.maxRetries + 1)
    (htarget : ∀ target ∈
      (chainAfter casting reading cfg identifiers outcomes g entries 1).attempts,
      target = some (g.table, g.column))
    (hsettled : SettledIn g entries
      (chainAfter casting reading cfg identifiers outcomes g entries 1).store) :
    BoundedChain casting reading cfg identifiers outcomes g entries := by
  refine ⟨fun n => ?_, fun n => ?_, 1, hended, hsettled⟩
  · cases n with
    | zero => exact Nat.zero_le _
    | succ n =>
        rwa [chainAfter_of_ended casting reading cfg identifiers outcomes g entries hended]
  · cases n with
    | zero => exact fun target htarget => absurd htarget List.not_mem_nil
    | succ n =>
        rwa [chainAfter_of_ended casting reading cfg identifiers outcomes g entries hended]

/-- The first hop of a group that is flushed at once. -/
theorem first_hop_flushed (hne : entries ≠ []) {rows : List (Int × Int)}
    (hrows : databaseNormalizeCounterData
      (entries.map fun (field, value) => (.str field, value)) = .ok rows)
    (hexecute : outcomes 0 = .ok ()) :
    (chainAfter .items reading cfg identifiers outcomes g entries 1).pending = none ∧
      (chainAfter .items reading cfg identifiers outcomes g entries 1).attempts =
        [some (g.table, g.column)] ∧
      (chainAfter .items reading cfg identifiers outcomes g entries 1).store.flushed =
        rows.map fun (id, delta) => ⟨g.table, g.column, id, delta⟩ := by
  have hfirst : chainAfter .items reading cfg identifiers outcomes g entries 1 =
      chainStep .items reading cfg identifiers outcomes
        ⟨groupStore g entries, [], some g.name⟩ := rfl
  have hfree : deriveLockKey g.name ∉ (groupStore g entries).locks := List.not_mem_nil
  have hraw : (groupStore g entries).hashes g.name = entries := if_pos rfl
  have htaken : (pySplit ':' g.name).take 2 = [g.table, g.column] := by simp [g.pySplit_name]
  -- the hop is computed: no lock, a group that is there, and a database that accepts it
  simp only [hfirst, chainStep, updateCounterGroup, flushCalls, hfree, hraw, hne, if_false,
    castCounters_items, hrows, flushNormalizedCounters, flushCounterUpdates, htaken,
    List.length_nil, hexecute, CounterGroup.flushTarget_name]
  exact ⟨rfl, rfl, rfl⟩

/-- A group without deltas ends at once. -/
theorem first_hop_empty :
    (chainAfter casting reading cfg identifiers outcomes g [] 1).pending = none ∧
      (chainAfter casting reading cfg identifiers outcomes g [] 1).attempts = [] := by
  have hfirst : chainAfter casting reading cfg identifiers outcomes g [] 1 =
      chainStep casting reading cfg identifiers outcomes
        ⟨groupStore g [], [], some g.name⟩ := rfl
  have hfree : deriveLockKey g.name ∉ (groupStore g []).locks := List.not_mem_nil
  have hraw : (groupStore g []).hashes g.name = [] := if_pos rfl
  simp only [hfirst, chainStep, updateCounterGroup, flushCalls, hfree, hraw, if_false, if_true]
  exact ⟨rfl, rfl⟩

/-- The chain of a counter group is bounded, keeps its target and settles its deltas if and
only if there are none, or the first flush succeeds. -/
theorem boundedChain_iff :
    BoundedChain casting reading cfg identifiers outcomes g entries ↔
      entries = [] ∨ FlushesAtOnce casting outcomes entries := by
  constructor
  · intro hchain
    by_contra hnot
    obtain ⟨hne, hrefused⟩ := not_or.mp hnot
    exact not_boundedChain casting reading cfg identifiers outcomes g entries hne hrefused hchain
  · intro hcondition
    by_cases hne : entries = []
    · subst hne
      obtain ⟨hended, hnone⟩ := first_hop_empty casting reading cfg identifiers outcomes g
      refine boundedChain_of_first casting reading cfg identifiers outcomes g [] hended ?_ ?_ ?_
      · simp [hnone]
      · simp [hnone]
      · exact fun entry hentry => absurd hentry List.not_mem_nil
    · obtain ⟨rfl, hnumbers, hexecute⟩ := hcondition.resolve_left hne
      obtain ⟨rows, hrows⟩ := (databaseNormalizeCounterData_items entries).mpr hnumbers
      obtain ⟨hended, hattempts, hflushed⟩ :=
        first_hop_flushed reading cfg identifiers outcomes g entries hne hrows hexecute
      refine boundedChain_of_first .items reading cfg identifiers outcomes g entries hended
        ?_ ?_ ?_
      · simp [hattempts]
      · simp [hattempts]
      · intro entry hentry
        obtain ⟨id, hid, hrow⟩ := mem_databaseNormalizeCounterData hrows entry hentry
        refine ⟨id, hid, .inl ?_⟩
        rw [hflushed]
        exact List.mem_map_of_mem hrow

end

/-- The comments of a post. -/
def postComments : CounterGroup := ⟨"posts", "total_comments", by decide, by decide⟩

/-- The connection to the database is lost at the first flush. -/
def lostConnection : ℕ → Except Exn Unit :=
  fun n => if n = 0 then .error .operationalError else .ok ()

/-- Three comments of post 5 are counted nowhere: by the code, and also if the flush read the
items of the hash and the retry worker the name of the batch. -/
theorem lostConnection_not_bounded :
    ¬ BoundedChain (.keys false) .reply ⟨3, false⟩ (fun _ => (1700000000, [10, 27, 60, 61]))
        lostConnection postComments [("posts:5", 3)] ∧
      ¬ BoundedChain .items .name ⟨3, false⟩ (fun _ => (1700000000, [10, 27, 60, 61]))
        lostConnection postComments [("posts:5", 3)] := by
  constructor <;> refine not_boundedChain _ _ _ _ _ _ _ (List.cons_ne_nil _ _) ?_
  · rintro ⟨hitems, -, -⟩
    cases hitems
  · rintro ⟨-, -, hexecute⟩
    cases hexecute

end DatabaseWorkers
end Tenjin
