import Mathlib.Data.List.Forall2
import Tenjin.Foundation.Slices
import Tenjin.ResourceServer.CacheReads

/-!
# Caching a page and reading it back

`cache_grouped_resource` writes the keys of a page's members and a cursor to one list, and
each member under its own key.  `_primitive_pagination_get_from_cache` reads all of it in
one pipeline and takes the flat reply apart.

* `Store` and `PageCommand.run` are Redis as far as the two functions use it.
* `primitivePagination_eq_ok_iff` — a read takes the flat reply apart member by member.
* `execute_page` — what a page of texts leaves in Redis.
* `PageRoundTrip` says that a page comes back as it was written, `PageComesBack` when it
  does: `pageComesBack_of_roundTrip` and `roundTrip_of_pageComesBack`.
-/

namespace Tenjin
namespace ResourceServer

open Python Foundation

/-- What Redis holds under a key. -/
inductive RedisValue
  | text (s : String)
  | hash (items : List (String × String))
  | list (items : List String)

/-- A value with the time to live that has been set, if any. -/
structure Slot where
  value : RedisValue
  ttl : Option ℕ

/-- The keys of the database. -/
abbrev Store := String → Option Slot

/-- Another slot under one key. -/
def Store.put (store : Store) (key : String) (slot : Option Slot) : Store :=
  fun k => if k = key then slot else store k

/-- The commands of `cache_grouped_resource`. -/
inductive PageCommand
  | expire (key : String) (seconds : ℕ)
  | rpush (key value : String)
  | hset (key : String) (items : List (String × String))
  | set (key text : String)

/-- A command for another type of value. -/
def wrongType : Exn := .redisError false

/-- One command.  A time to live of 0 deletes the key. -/
def PageCommand.run (store : Store) : PageCommand → Store × Option Exn
  | .expire key seconds =>
      match store key with
      | none => (store, none)
      | some slot =>
          (store.put key (if seconds = 0 then none else some ⟨slot.value, some seconds⟩), none)
  | .rpush key value =>
      match store key with
      | none => (store.put key (some ⟨.list [value], none⟩), none)
      | some ⟨.list items, ttl⟩ => (store.put key (some ⟨.list (items ++ [value]), ttl⟩), none)
      | some _ => (store, some wrongType)
  | .hset key items =>
      match store key with
      | none => (store.put key (some ⟨.hash items, none⟩), none)
      | some ⟨.hash old, ttl⟩ => (store.put key (some ⟨.hash (mergeFields old items), ttl⟩), none)
      | some _ => (store, some wrongType)
  | .set key text => (store.put key (some ⟨.text text, none⟩), none)

/-- A transaction: every command is run, and the first error is raised. -/
def execute (store : Store) : List PageCommand → Store × Option Exn
  | [] => (store, none)
  | command :: commands =>
      let (store', e) := command.run store
      let (store'', e') := execute store' commands
      (store'', e <|> e')

/-- The settings that matter for pages. -/
structure PageSettings extends CacheSettings where
  dumps : List (String × Attr) → Except Exn String
  ttlWeak : ℕ
  ttlStrong : ℕ

/-- The members of a page: the keys of a `Mapping` with the cache representations. -/
structure PageMembers where
  items : List (String × List (String × Attr))
  keys_nodup : (items.map Prod.fst).Nodup

section
variable (settings : PageSettings) (dtype : FetchDtype)

/-- The command that writes a member. -/
def memberCommand (key : String) (mapping : List (String × Attr)) : Except Exn PageCommand :=
  match dtype with
  | .mapping => (encodeMapping mapping).map (.hset key)
  | .string => (settings.dumps mapping).map (.set key)

/-- The commands for the members, in order. -/
def memberCommands (pageKey : String) :
    List (String × List (String × Attr)) → Except Exn (List PageCommand)
  | [] => .ok []
  | member :: members => do
      let command ← memberCommand settings dtype member.1 member.2
      let commands ← memberCommands pageKey members
      .ok (.rpush pageKey member.1 :: command :: .expire member.1 settings.ttlStrong ::
        commands)

/-- `cache_grouped_resource`.  A member without a representation leaves the pipeline
unsent. -/
def cacheGroupedResource (store : Store) (pageKey : String) (members : PageMembers)
    (cursor : Option String) : Store × Option Exn :=
  match memberCommands settings dtype pageKey members.items with
  | .error e => (store, some e)
  | .ok commands =>
      execute store (.expire pageKey settings.ttlWeak ::
        (commands ++ [.rpush pageKey (cursor.getD "")]))

variable (counterFields : List (String × String)) (pending : String → String → Option Int)

/-- One reply in the pipeline. -/
inductive PipeReply
  | mapping (m : CacheMapping)
  | text (s : Option String)
  | ttl (seconds : Int)
  | counter (value : Option Int)

/-- `LRANGE key 0 -1`. -/
def lrange (store : Store) (key : String) : Except Exn (List String) :=
  match store key with
  | none => .ok []
  | some ⟨.list items, _⟩ => .ok items
  | some _ => .error wrongType

/-- `TTL key`, when no time has passed. -/
def ttlReply (store : Store) (key : String) : Int :=
  match store key with
  | none => -2
  | some slot => (slot.ttl.map Int.ofNat).getD (-1)

/-- `HGETALL key` or `GET key`. -/
def memberReply (store : Store) (key : String) : Except Exn PipeReply :=
  match dtype, store key with
  | .mapping, none => .ok (.mapping [])
  | .mapping, some ⟨.hash items, _⟩ => .ok (.mapping (hashReply settings.decodeResponses items))
  | .string, none => .ok (.text none)
  | .string, some ⟨.text s, _⟩ => .ok (.text (some s))
  | _, _ => .error wrongType

/-- The replies for one member, with the values of its counter hashes. -/
def memberReplies (store : Store) (key : String) : Except Exn (List PipeReply) := do
  let entry ← memberReply settings dtype store key
  .ok (entry :: .ttl (ttlReply store key) ::
    counterFields.map fun field => .counter (pending field.2 key))

/-- `int(member_counters[idx] or 0)`. -/
def PipeReply.delta : PipeReply → Int
  | .counter (some n) => n
  | _ => 0

/-- The end of the loop's body: the counters are added one by one, and the entry is
appended once for each of them. -/
def countedEntry (m : CacheMapping) (seconds : Int) (counters : List PipeReply) :
    Except Exn (List (Option CacheMapping × Int)) := do
  let m ← (counterFields.zip counters).foldlM
    (fun entry field => addCounter field.2.delta entry field.1.1) m
  .ok (List.replicate counterFields.length (some m, seconds))

/-- The body of the loop, for one slice of the results. -/
def sliceEntries : List PipeReply → Except Exn (List (Option CacheMapping × Int))
  | .mapping m :: .ttl seconds :: counters =>
      if m = [(.str settings.nfSentinelKey, .value (.str settings.nfSentinelValue))] ∨
        seconds = -2 then .ok [(none, seconds)]
      else countedEntry counterFields m seconds counters
  | .text s :: .ttl seconds :: counters =>
      if seconds = -2 then .ok [(none, seconds)]
      else
        match s with
        | none => .error .valueError
        | some text => do
            let m ← loadsMapping settings.toResultRuntime text
            countedEntry counterFields m seconds counters
  | _ => .error .valueError

/-- What a read of a page returns. -/
structure PageRead where
  ttl : Int
  keys : List Reply
  entries : List (Option CacheMapping × Int)
  cursor : Reply
  deriving DecidableEq

/-- `_primitive_pagination_get_from_cache`. -/
def primitivePaginationGetFromCache (store : Store) (pageKey : String) :
    Except Exn PageRead := do
  let items ← lrange store pageKey
  match items.getLast? with
  | none => .error .indexError
  | some cursor =>
      let replies ← items.dropLast.mapM (memberReplies settings dtype counterFields pending store)
      let entries ← (slices (2 + counterFields.length) replies.flatten).mapM
        (sliceEntries settings counterFields)
      .ok ⟨ttlReply store pageKey, items.dropLast.map (clientReply settings.decodeResponses),
        entries.flatten, clientReply settings.decodeResponses cursor⟩

/-- The stored value of a member plus its pending counters. -/
def expectedEntry (member : String × List (String × Attr)) : Except Exn CacheMapping := do
  let m ←
    match dtype with
    | .mapping => (encodeMapping member.2).map (hashReply settings.decodeResponses)
    | .string => settings.dumps member.2 >>= loadsMapping settings.toResultRuntime
  addCounters (fun name => pending name member.1) counterFields m

/-- A page that has been written comes back: the keys of the members in order, one entry
for each of them, and the cursor. -/
def PageRoundTrip (store : Store) (pageKey : String) (members : PageMembers)
    (cursor : Option String) : Prop :=
  ∃ store' read expected,
    cacheGroupedResource settings dtype store pageKey members cursor = (store', none) ∧
    primitivePaginationGetFromCache settings dtype counterFields pending store' pageKey =
      .ok read ∧
    members.items.mapM (expectedEntry settings dtype counterFields pending) = .ok expected ∧
    read.keys = members.items.map (fun member => .str member.1) ∧
    read.entries.map Prod.fst = expected.map some ∧
    read.cursor = .str (cursor.getD "")

/-- The client returns strings, and nothing is stored under the page's key.  And the page
is empty, or its members are texts that hold the single counter field as a number; they
outlive the write, and none of them has the key of the page. -/
def PageComesBack (store : Store) (pageKey : String) (members : PageMembers) : Prop :=
  settings.decodeResponses = true ∧
  lrange (PageCommand.run store (.expire pageKey settings.ttlWeak)).1 pageKey = .ok [] ∧
  (members.items = [] ∨
    dtype = .string ∧ counterFields.length = 1 ∧ 0 < settings.ttlStrong ∧
    pageKey ∉ members.items.map Prod.fst ∧
    ∃ expected,
      members.items.mapM (expectedEntry settings dtype counterFields pending) = .ok expected)

end

section
variable {settings : PageSettings} {dtype : FetchDtype}
  {counterFields : List (String × String)} {pending : String → String → Option Int}
  {store store' : Store} {pageKey key : String}

/-- What the read returns for one member. -/
def readMember (settings : PageSettings) (dtype : FetchDtype)
    (counterFields : List (String × String)) (pending : String → String → Option Int)
    (store : Store) (key : String) : Except Exn (List (Option CacheMapping × Int)) :=
  memberReplies settings dtype counterFields pending store key >>=
    sliceEntries settings counterFields

/-- All members have the same number of replies. -/
theorem memberReplies_length {replies : List PipeReply}
    (h : memberReplies settings dtype counterFields pending store key = .ok replies) :
    replies.length = 2 + counterFields.length := by
  obtain ⟨entry, _, h⟩ := except_bind_eq_ok h
  cases h
  simp only [List.length_cons, List.length_map]
  omega

/-- So the slices of the flat reply are the replies for the members. -/
theorem slices_replies {keys : List String} {replies : List (List PipeReply)}
    (h : keys.mapM (memberReplies settings dtype counterFields pending store) = .ok replies) :
    slices (2 + counterFields.length) replies.flatten = replies := by
  have hlength : ∀ r ∈ replies, r.length = 2 + counterFields.length := by
    intro r hr
    obtain ⟨k, _, hk⟩ := exists_of_mem_mapM h hr
    exact memberReplies_length hk
  have hslices := slices_flatMap (f := id) (by omega) hlength
  rw [List.flatMap_id, List.map_id] at hslices
  exact hslices

/-- A read of a page, member by member. -/
theorem primitivePagination_eq_ok_iff {read : PageRead} :
    primitivePaginationGetFromCache settings dtype counterFields pending store pageKey =
        .ok read ↔
      ∃ keys cursor entries, lrange store pageKey = .ok (keys ++ [cursor]) ∧
        keys.mapM (readMember settings dtype counterFields pending store) = .ok entries ∧
        read = ⟨ttlReply store pageKey, keys.map (clientReply settings.decodeResponses),
          entries.flatten, clientReply settings.decodeResponses cursor⟩ := by
  constructor
  · intro h
    obtain ⟨items, hitems, h⟩ := except_bind_eq_ok h
    cases hlast : items.getLast? with
    | none =>
        rw [hlast] at h
        cases h
    | some cursor =>
        rw [hlast] at h
        obtain ⟨replies, hreplies, h⟩ := except_bind_eq_ok h
        obtain ⟨entries, hentries, h⟩ := except_bind_eq_ok h
        cases h
        rw [slices_replies hreplies] at hentries
        refine ⟨items.dropLast, cursor, entries, ?_, ?_, rfl⟩
        · rw [hitems, List.dropLast_append_getLast? cursor hlast]
        · exact mapM_bind_eq_ok_iff.mpr ⟨replies, hreplies, hentries⟩
  · rintro ⟨keys, cursor, entries, hitems, hentries, rfl⟩
    obtain ⟨replies, hreplies, hentries⟩ := mapM_bind_eq_ok_iff.mp hentries
    simp only [primitivePaginationGetFromCache, hitems, bind, Except.bind,
      List.getLast?_concat, List.dropLast_concat, hreplies, slices_replies hreplies,
      hentries]

/-- The counters of a member, taken from the positions in its slice. -/
theorem countedEntry_eq (m : CacheMapping) (seconds : Int) (key : String) :
    countedEntry counterFields m seconds
        (counterFields.map fun field => .counter (pending field.2 key)) =
      (addCounters (fun name => pending name key) counterFields m).map fun m =>
        List.replicate counterFields.length (some m, seconds) := by
  have hdelta : ∀ value : Option Int, (PipeReply.counter value).delta = value.getD 0 := by
    intro value
    cases value <;> rfl
  have hzip : counterFields.zip
      (counterFields.map fun field => PipeReply.counter (pending field.2 key)) =
      counterFields.map fun field => (field, .counter (pending field.2 key)) := by
    induction counterFields with
    | nil => rfl
    | cons field counterFields ih => rw [List.map_cons, List.zip_cons_cons, ih, List.map_cons]
  rw [countedEntry, hzip, List.foldlM_map, addCounters]
  simp only [hdelta]
  cases List.foldlM (fun entry field => addCounter ((pending field.2 key).getD 0) entry field.1)
    m counterFields <;> rfl

/-- Without counter fields nothing is appended for a member that is there. -/
theorem readMember_nil {entries : List (Option CacheMapping × Int)}
    (h : readMember settings dtype [] pending store key = .ok entries) :
    ∀ entry ∈ entries, entry.1 = none := by
  obtain ⟨replies, hreplies, h⟩ := except_bind_eq_ok h
  obtain ⟨first, _, hreplies⟩ := except_bind_eq_ok hreplies
  cases hreplies
  intro entry hentry
  cases first with
  | mapping m =>
      simp only [sliceEntries] at h
      split at h
      · cases h
        rw [List.mem_singleton.mp hentry]
      · cases h
        cases hentry
  | text s =>
      simp only [sliceEntries] at h
      split at h
      · cases h
        rw [List.mem_singleton.mp hentry]
      · split at h
        · cases h
        · obtain ⟨m, _, h⟩ := except_bind_eq_ok h
          cases h
          cases hentry
  | ttl seconds => cases h
  | counter value => cases h

/-- A member that is not there. -/
theorem readMember_missing (h : store key = none) :
    readMember settings dtype counterFields pending store key = .ok [(none, -2)] := by
  cases dtype with
  | mapping =>
      simp [readMember, memberReplies, memberReply, ttlReply, h, bind, Except.bind, sliceEntries]
  | string =>
      simp [readMember, memberReplies, memberReply, ttlReply, h, bind, Except.bind, sliceEntries]

/-- A member that is a text. -/
theorem readMember_text {text : String} {seconds : ℕ}
    (h : store key = some ⟨.text text, some seconds⟩) :
    readMember settings .string counterFields pending store key =
      (loadsMapping settings.toResultRuntime text >>=
        addCounters (fun name => pending name key) counterFields).map fun m =>
          List.replicate counterFields.length (some m, (seconds : Int)) := by
  have hreplies : memberReplies settings .string counterFields pending store key =
      .ok (.text (some text) :: .ttl seconds ::
        counterFields.map fun field => .counter (pending field.2 key)) := by
    simp [memberReplies, memberReply, ttlReply, h, bind, Except.bind]
  have hthere : ¬ (seconds : Int) = -2 := by omega
  rw [readMember, hreplies]
  simp only [bind, Except.bind, sliceEntries, hthere, if_false]
  cases loadsMapping settings.toResultRuntime text with
  | error e => rfl
  | ok m => exact countedEntry_eq m seconds key

/-- A command that succeeds leaves the errors to the others. -/
theorem execute_cons {command : PageCommand} (h : command.run store = (store', none))
    (commands : List PageCommand) :
    execute store (command :: commands) = execute store' commands := by
  simp [execute, h]

/-- A transaction without an error has no error in its first command. -/
theorem run_of_execute {command : PageCommand} {commands : List PageCommand}
    (h : execute store (command :: commands) = (store', none)) :
    ∃ first, command.run store = (first, none) ∧ execute first commands = (store', none) := by
  cases hrun : command.run store with
  | mk first e =>
      cases e with
      | none => exact ⟨first, rfl, (execute_cons hrun commands).symm.trans h⟩
      | some e => simp [execute, hrun] at h

theorem lrange_put_self (slot : Slot) :
    lrange (store.put key (some slot)) key =
      match slot.value with
      | .list items => .ok items
      | _ => .error wrongType := by
  obtain ⟨value, ttl⟩ := slot
  cases value <;> simp [lrange, Store.put]

/-- A value is pushed to the end of a list. -/
theorem run_rpush {items : List String} (h : lrange store key = .ok items) (value : String) :
    ∃ store', (PageCommand.rpush key value).run store = (store', none) ∧
      lrange store' key = .ok (items ++ [value]) ∧ ∀ k, k ≠ key → store' k = store k := by
  unfold lrange at h
  split at h
  · rename_i hnone
    cases h
    exact ⟨store.put key (some ⟨.list [value], none⟩), by simp [PageCommand.run, hnone],
      lrange_put_self _, fun k hk => by simp [Store.put, hk]⟩
  · rename_i list ttl hlist
    cases h
    exact ⟨store.put key (some ⟨.list (items ++ [value]), ttl⟩),
      by simp [PageCommand.run, hlist], lrange_put_self _,
      fun k hk => by simp [Store.put, hk]⟩
  · cases h

/-- And to nothing else. -/
theorem lrange_of_run_rpush {value : String}
    (h : (PageCommand.rpush key value).run store = (store', none)) :
    ∃ items, lrange store key = .ok items := by
  unfold lrange
  split
  · exact ⟨_, rfl⟩
  · exact ⟨_, rfl⟩
  · rename_i slot hlist hslot
    obtain ⟨held, ttl⟩ := slot
    cases held with
    | list items => exact (hlist items ttl rfl).elim
    | text s => simp [PageCommand.run, hslot] at h
    | hash items => simp [PageCommand.run, hslot] at h

/-- What is there of a text when its time to live has been set. -/
def memberSlot (seconds : ℕ) (text : String) : Option Slot :=
  if seconds = 0 then none else some ⟨.text text, some seconds⟩

/-- The two commands that write a member as a text. -/
theorem execute_member (text : String) (seconds : ℕ) (commands : List PageCommand) :
    execute store (.set key text :: .expire key seconds :: commands) =
      execute (store.put key (memberSlot seconds text)) commands := by
  have hset : (PageCommand.set key text).run store =
      (store.put key (some ⟨.text text, none⟩), none) := rfl
  have hexpire : (PageCommand.expire key seconds).run
      (store.put key (some ⟨.text text, none⟩)) =
      (store.put key (memberSlot seconds text), none) := by
    have hput : (store.put key (some ⟨.text text, none⟩)) key = some ⟨.text text, none⟩ := by
      simp [Store.put]
    simp only [PageCommand.run, hput, memberSlot, Prod.mk.injEq, and_true]
    ext k
    simp only [Store.put]
    split <;> rfl
  rw [execute_cons hset, execute_cons hexpire]

/-- The commands for the first member. -/
theorem memberCommands_cons {member : String × List (String × Attr)}
    {members : List (String × List (String × Attr))} {commands : List PageCommand}
    (h : memberCommands settings .string pageKey (member :: members) = .ok commands) :
    ∃ text rest, settings.dumps member.2 = .ok text ∧
      memberCommands settings .string pageKey members = .ok rest ∧
      commands = .rpush pageKey member.1 :: .set member.1 text ::
        .expire member.1 settings.ttlStrong :: rest := by
  obtain ⟨command, hcommand, h⟩ := except_bind_eq_ok h
  obtain ⟨rest, hrest, h⟩ := except_bind_eq_ok h
  cases h
  cases hdumps : settings.dumps member.2 with
  | error e => simp [memberCommand, hdumps, Except.map] at hcommand
  | ok text =>
      simp only [memberCommand, hdumps, Except.map, Except.ok.injEq] at hcommand
      exact ⟨text, rest, rfl, hrest, hcommand ▸ rfl⟩

/-- The members are pushed to the page and written, one after the other, when none of them
has the key of the page. -/
theorem execute_memberCommands {members : List (String × List (String × Attr))}
    {commands : List PageCommand} {items : List String}
    (h : memberCommands settings .string pageKey members = .ok commands)
    (hpage : lrange store pageKey = .ok items)
    (hown : pageKey ∉ members.map Prod.fst) (hnodup : (members.map Prod.fst).Nodup) :
    ∃ store', (∀ rest, execute store (commands ++ rest) = execute store' rest) ∧
      lrange store' pageKey = .ok (items ++ members.map Prod.fst) ∧
      (∀ member ∈ members, ∃ text, settings.dumps member.2 = .ok text ∧
        store' member.1 = memberSlot settings.ttlStrong text) ∧
      ∀ k, k ≠ pageKey → k ∉ members.map Prod.fst → store' k = store k := by
  induction members generalizing commands items store with
  | nil =>
      cases h
      exact ⟨store, fun _ => rfl, by simpa using hpage, fun member hmem => (by cases hmem),
        fun _ _ _ => rfl⟩
  | cons member members ih =>
      obtain ⟨text, rest, hdumps, hrest, rfl⟩ := memberCommands_cons h
      rw [List.map_cons, List.mem_cons, not_or] at hown
      rw [List.map_cons, List.nodup_cons] at hnodup
      obtain ⟨pushed, hpush, hpushed, hother⟩ := run_rpush hpage member.1
      have hwritten : lrange (pushed.put member.1 (memberSlot settings.ttlStrong text))
          pageKey = .ok (items ++ [member.1]) := by
        rw [← hpushed]
        simp [lrange, Store.put, hown.1]
      obtain ⟨store', hexec, hlist, hmembers, hframe⟩ :=
        ih hrest hwritten hown.2 hnodup.2
      refine ⟨store', fun later => ?_, ?_, ?_, ?_⟩
      · rw [List.cons_append, execute_cons hpush, List.cons_append, List.cons_append,
          execute_member]
        exact hexec later
      · rw [hlist, List.map_cons, List.append_assoc, List.singleton_append]
      · intro m hm
        rcases List.mem_cons.mp hm with rfl | hm
        · refine ⟨text, hdumps, ?_⟩
          rw [hframe m.1 (fun heq => hown.1 heq.symm) hnodup.1]
          simp [Store.put]
        · exact hmembers m hm
      · intro k hpageKey hk
        rw [List.map_cons, List.mem_cons, not_or] at hk
        rw [hframe k hpageKey hk.2, ← hother k hpageKey]
        simp [Store.put, hk.1]

/-- The next command for the page is always a push. -/
theorem exists_next_push {members : List (String × List (String × Attr))}
    {commands : List PageCommand}
    (h : memberCommands settings .string pageKey members = .ok commands) (cursor : String) :
    ∃ value later, commands ++ [.rpush pageKey cursor] = .rpush pageKey value :: later := by
  cases members with
  | nil =>
      cases h
      exact ⟨cursor, [], rfl⟩
  | cons member members =>
      obtain ⟨text, rest, _, _, rfl⟩ := memberCommands_cons h
      exact ⟨member.1, _, rfl⟩

/-- A member with the key of the page takes the place of the list: what comes back is
shorter. -/
theorem execute_own_member {members : List (String × List (String × Attr))}
    {commands : List PageCommand} {cursor : String}
    (h : memberCommands settings .string pageKey members = .ok commands)
    (hexec : execute store (commands ++ [.rpush pageKey cursor]) = (store', none))
    (hown : pageKey ∈ members.map Prod.fst) (hnodup : (members.map Prod.fst).Nodup) :
    ∃ items, lrange store' pageKey = .ok items ∧ items.length ≤ members.length := by
  induction members generalizing commands store with
  | nil => cases hown
  | cons member members ih =>
      obtain ⟨text, rest, hdumps, hrest, rfl⟩ := memberCommands_cons h
      rw [List.map_cons, List.nodup_cons] at hnodup
      rw [List.cons_append] at hexec
      obtain ⟨pushed, hpush, hexec⟩ := run_of_execute hexec
      rw [List.cons_append, List.cons_append, execute_member] at hexec
      by_cases hkey : member.1 = pageKey
      · obtain ⟨value, later, hnext⟩ := exists_next_push hrest cursor
        have hfirst := hexec
        rw [hnext] at hfirst
        obtain ⟨next, hrun, _⟩ := run_of_execute hfirst
        obtain ⟨items, hitems⟩ := lrange_of_run_rpush hrun
        -- so the text has expired at once
        have hempty : items = [] := by
          unfold memberSlot at hitems
          split at hitems
          · simpa [lrange, Store.put, hkey, eq_comm] using hitems
          · rw [hkey, lrange_put_self] at hitems
            cases hitems
        rw [hempty] at hitems
        obtain ⟨last, hexec', hlist, _, _⟩ := execute_memberCommands hrest hitems
          (hkey ▸ hnodup.1) hnodup.2
        rw [hexec'] at hexec
        obtain ⟨ended, hcursor, hended, _⟩ := run_rpush hlist cursor
        rw [execute_cons hcursor] at hexec
        cases hexec
        refine ⟨_, hended, ?_⟩
        simp
      · have hlater : pageKey ∈ members.map Prod.fst :=
          (List.mem_cons.mp hown).resolve_left (fun heq => hkey heq.symm)
        obtain ⟨items, hitems, hlength⟩ := ih hrest hexec hlater hnodup.2
        exact ⟨items, hitems, Nat.le_succ_of_le hlength⟩

/-- What has been written without an error: the commands, after the expiry of the page. -/
theorem cacheGroupedResource_eq {members : PageMembers} {cursor : Option String}
    (h : cacheGroupedResource settings dtype store pageKey members cursor = (store', none)) :
    ∃ commands, memberCommands settings dtype pageKey members.items = .ok commands ∧
      execute (PageCommand.run store (.expire pageKey settings.ttlWeak)).1
        (commands ++ [.rpush pageKey (cursor.getD "")]) = (store', none) := by
  unfold cacheGroupedResource at h
  split at h
  · cases h
  · rename_i commands hcommands
    obtain ⟨first, hfirst, hexec⟩ := run_of_execute h
    rw [hfirst]
    exact ⟨commands, hcommands, hexec⟩

/-- Entries that are all missing are not those of any member. -/
theorem expected_eq_nil {entries : List (Option CacheMapping × Int)}
    {expected : List CacheMapping} (hnone : ∀ entry ∈ entries, entry.1 = none)
    (h : entries.map Prod.fst = expected.map some) : expected = [] := by
  cases expected with
  | nil => rfl
  | cons m expected =>
      cases entries with
      | nil => cases h
      | cons entry entries =>
          have hentry := hnone entry (List.mem_cons_self ..)
          rw [List.map_cons, List.map_cons, List.cons.injEq, hentry] at h
          cases h.1

/-- A page of texts, none of them under its own key, is written behind what was there. -/
theorem execute_page {members : PageMembers} {commands : List PageCommand}
    {items : List String} (h : memberCommands settings .string pageKey members.items =
      .ok commands) (hpage : lrange store pageKey = .ok items)
    (hown : pageKey ∉ members.items.map Prod.fst) (cursor : String) :
    ∃ store', execute store (commands ++ [.rpush pageKey cursor]) = (store', none) ∧
      lrange store' pageKey = .ok (items ++ members.items.map Prod.fst ++ [cursor]) ∧
      ∀ member ∈ members.items, ∃ text, settings.dumps member.2 = .ok text ∧
        store' member.1 = memberSlot settings.ttlStrong text := by
  obtain ⟨written, hexec, hlist, hmembers, _⟩ :=
    execute_memberCommands h hpage hown members.keys_nodup
  obtain ⟨store', hpush, hpushed, hframe⟩ := run_rpush hlist cursor
  refine ⟨store', ?_, hpushed, fun member hmem => ?_⟩
  · rw [hexec, execute_cons hpush]
    rfl
  · obtain ⟨text, hdumps, hslot⟩ := hmembers member hmem
    have hother : member.1 ≠ pageKey := fun heq =>
      hown (heq ▸ List.mem_map_of_mem hmem)
    exact ⟨text, hdumps, (hframe member.1 hother).trans hslot⟩

/-- What is read of the members that have been written as texts. -/
theorem readMembers_written {members : List (String × List (String × Attr))}
    {expected : List CacheMapping} (httl : 0 < settings.ttlStrong)
    (hmembers : ∀ member ∈ members, ∃ text, settings.dumps member.2 = .ok text ∧
      store member.1 = memberSlot settings.ttlStrong text)
    (hexpected : members.mapM (expectedEntry settings .string counterFields pending) =
      .ok expected) :
    (members.map Prod.fst).mapM (readMember settings .string counterFields pending store) =
      .ok (expected.map fun m =>
        List.replicate counterFields.length (some m, (settings.ttlStrong : Int))) := by
  rw [List.mapM_map]
  refine mapM_of_map hexpected fun member hmem => ?_
  obtain ⟨text, hdumps, hslot⟩ := hmembers member hmem
  rw [memberSlot, if_neg (by omega)] at hslot
  show readMember settings .string counterFields pending store member.1 = _
  rw [readMember_text hslot, expectedEntry, hdumps]
  rfl

/-- The entries of a page are not all missing, when there are members. -/
theorem exists_entry {members : List (String × List (String × Attr))}
    {keys : List String} {entries : List (List (Option CacheMapping × Int))}
    {expected : List CacheMapping} (hne : members ≠ [])
    (hexpected : members.mapM (expectedEntry settings dtype counterFields pending) =
      .ok expected)
    (hread : keys.mapM (readMember settings dtype counterFields pending store) = .ok entries)
    (hentries : entries.flatten.map Prod.fst = expected.map some) :
    ∃ key ∈ keys, ∃ read, readMember settings dtype counterFields pending store key =
      .ok read ∧ ∃ entry ∈ read, entry.1 ≠ none := by
  by_contra hno
  push Not at hno
  have hnil : expected = [] := by
    refine expected_eq_nil (fun entry hentry => ?_) hentries
    obtain ⟨read, hmem, hentry⟩ := List.mem_flatten.mp hentry
    obtain ⟨key, hkey, hread⟩ := exists_of_mem_mapM hread hmem
    exact hno key hkey read hread entry hentry
  have hlength := (mapM_eq_ok_iff.mp hexpected).length_eq
  rw [hnil] at hlength
  exact hne (List.length_eq_zero_iff.mp hlength)

/-- Only texts have a counter added. -/
theorem dtype_eq_string {members : List (String × List (String × Attr))}
    {expected : List CacheMapping} (hne : members ≠ []) (hfields : counterFields ≠ [])
    (hexpected : members.mapM (expectedEntry settings dtype counterFields pending) =
      .ok expected) : dtype = .string := by
  cases dtype with
  | string => rfl
  | mapping =>
      cases members with
      | nil => exact (hne rfl).elim
      | cons member members =>
          cases mapM_eq_ok_iff.mp hexpected with
          | cons hfirst _ =>
              obtain ⟨m, hm, hadd⟩ := except_bind_eq_ok hfirst
              cases hencode : encodeMapping member.2 with
              | error e => simp [hencode, Except.map] at hm
              | ok items =>
                  simp only [hencode, Except.map, Except.ok.injEq] at hm
                  rw [← hm] at hadd
                  exact (hfields (addCounters_hashReply hadd).1).elim

/-- The client returns strings when the cursor is one, and then the keys are those that are
stored. -/
theorem keys_of_replies {members keys : List String} {last cursor : String}
    (hcursor : clientReply settings.decodeResponses last = .str cursor)
    (hkeys : keys.map (clientReply settings.decodeResponses) = members.map Reply.str) :
    settings.decodeResponses = true ∧ keys = members := by
  cases hdecode : settings.decodeResponses with
  | false =>
      rw [hdecode] at hcursor
      cases hcursor
  | true =>
      have hinj : Function.Injective Reply.str := fun a b hab => by
        cases hab
        rfl
      rw [hdecode] at hkeys
      exact ⟨rfl, List.map_injective_iff.mpr hinj hkeys⟩

/-- A page that holds nothing but a cursor that has been pushed was empty. -/
theorem fresh_of_cursor {cursor last : String}
    (hexec : execute store [.rpush pageKey cursor] = (store', none))
    (hlist : lrange store' pageKey = .ok [last]) : lrange store pageKey = .ok [] := by
  obtain ⟨pushed, hpush, hdone⟩ := run_of_execute hexec
  cases hdone
  obtain ⟨items, hitems⟩ := lrange_of_run_rpush hpush
  obtain ⟨store'', hpush', hpushed, _⟩ := run_rpush hitems cursor
  rw [hpush] at hpush'
  cases hpush'
  rw [hlist, Except.ok.injEq] at hpushed
  have hlength := congrArg List.length hpushed
  simp only [List.length_append, List.length_singleton] at hlength
  have hempty : items = [] := List.length_eq_zero_iff.mp (by omega)
  rw [hitems, hempty]

/-- A page that holds as many keys as have been pushed was empty, and no member has taken
its place. -/
theorem fresh_of_members {members : PageMembers} {commands : List PageCommand}
    {list : List String} {cursor : String}
    (hcommands : memberCommands settings .string pageKey members.items = .ok commands)
    (hexec : execute store (commands ++ [.rpush pageKey cursor]) = (store', none))
    (hlist : lrange store' pageKey = .ok list) (hlength : list.length = members.items.length + 1) :
    lrange store pageKey = .ok [] ∧ pageKey ∉ members.items.map Prod.fst ∧
      ∀ member ∈ members.items, ∃ text, settings.dumps member.2 = .ok text ∧
        store' member.1 = memberSlot settings.ttlStrong text := by
  have hown : pageKey ∉ members.items.map Prod.fst := by
    intro hmem
    obtain ⟨items, hitems, hshort⟩ :=
      execute_own_member hcommands hexec hmem members.keys_nodup
    rw [hlist, Except.ok.injEq] at hitems
    rw [← hitems] at hshort
    omega
  obtain ⟨value, later, hnext⟩ := exists_next_push hcommands cursor
  have hfirst := hexec
  rw [hnext] at hfirst
  obtain ⟨pushed, hpush, _⟩ := run_of_execute hfirst
  obtain ⟨items, hitems⟩ := lrange_of_run_rpush hpush
  obtain ⟨written, hwritten, hpage, hslots⟩ := execute_page hcommands hitems hown cursor
  rw [hexec] at hwritten
  cases hwritten
  have hempty : items = [] := by
    rw [hlist, Except.ok.injEq] at hpage
    rw [hpage, List.length_append, List.length_append, List.length_map,
      List.length_singleton] at hlength
    exact List.length_eq_zero_iff.mp (by omega)
  exact ⟨hempty ▸ hitems, hown, hslots⟩

/-- Entries that are copies of the expected ones, as many as there are counter fields, are
the expected ones when there is one such field. -/
theorem copies_eq_one {n : ℕ} {seconds : Int} {expected : List CacheMapping}
    (hne : expected ≠ [])
    (h : (expected.map fun m => List.replicate n (some m, seconds)).flatten.map Prod.fst =
      expected.map some) : n = 1 := by
  have hcount := congrArg List.length h
  rw [List.length_map, List.length_map, ← List.flatMap_def,
    length_flatMap_blocks fun _ _ => List.length_replicate] at hcount
  have hpos : 0 < expected.length := List.length_pos_iff.mpr hne
  exact Nat.eq_of_mul_eq_mul_left hpos (by omega)

/-- A page that comes back was not there before, and its members are as the condition
says. -/
theorem pageComesBack_of_roundTrip {members : PageMembers} {cursor : Option String}
    (h : PageRoundTrip settings dtype counterFields pending store pageKey members cursor) :
    PageComesBack settings dtype counterFields pending store pageKey members := by
  obtain ⟨store', read, expected, hwrite, hread, hexpected, hkeys, hentries, hcursor⟩ := h
  obtain ⟨commands, hcommands, hexec⟩ := cacheGroupedResource_eq hwrite
  obtain ⟨keys, last, entries, hlist, hmembers, rfl⟩ :=
    primitivePagination_eq_ok_iff.mp hread
  simp only at hkeys hentries hcursor
  rw [← Function.comp_def Reply.str Prod.fst, ← List.map_map] at hkeys
  obtain ⟨hdecode, rfl⟩ := keys_of_replies hcursor hkeys
  by_cases hnil : members.items = []
  · rw [hnil] at hcommands hlist
    cases hcommands
    exact ⟨hdecode, fresh_of_cursor hexec hlist, .inl hnil⟩
  · obtain ⟨key, hkey, found, hfound, entry, hentry, hsome⟩ :=
      exists_entry hnil hexpected hmembers hentries
    have hfields : counterFields ≠ [] := by
      rintro rfl
      exact hsome (readMember_nil hfound entry hentry)
    obtain rfl := dtype_eq_string hnil hfields hexpected
    obtain ⟨hfresh, hown, hslots⟩ := fresh_of_members hcommands hexec hlist (by simp)
    have httl : 0 < settings.ttlStrong := by
      -- otherwise the members have expired with the write
      rw [Nat.pos_iff_ne_zero]
      intro hzero
      obtain ⟨member, hmem, rfl⟩ := List.mem_map.mp hkey
      obtain ⟨text, _, hslot⟩ := hslots member hmem
      rw [memberSlot, if_pos hzero] at hslot
      rw [readMember_missing hslot] at hfound
      cases hfound
      exact hsome (by rw [List.mem_singleton.mp hentry])
    have hne : expected ≠ [] := by
      rintro rfl
      exact hnil (List.length_eq_zero_iff.mp (mapM_eq_ok_iff.mp hexpected).length_eq)
    rw [readMembers_written httl hslots hexpected] at hmembers
    cases hmembers
    exact ⟨hdecode, hfresh,
      .inr ⟨rfl, copies_eq_one hne hentries, httl, hown, expected, hexpected⟩⟩

/-- Members that are texts with their counters can be written. -/
theorem exists_memberCommands {members : List (String × List (String × Attr))}
    {expected : List CacheMapping}
    (h : members.mapM (expectedEntry settings .string counterFields pending) = .ok expected) :
    ∃ commands, memberCommands settings .string pageKey members = .ok commands := by
  have hall := mapM_eq_ok_iff.mp h
  clear h
  induction hall with
  | nil => exact ⟨[], rfl⟩
  | cons hfirst _ ih =>
      obtain ⟨m, hm, _⟩ := except_bind_eq_ok hfirst
      obtain ⟨text, hdumps, _⟩ := except_bind_eq_ok hm
      obtain ⟨commands, hcommands⟩ := ih
      simp only [memberCommands, memberCommand, hdumps, hcommands, Except.map, bind,
        Except.bind]
      exact ⟨_, rfl⟩

/-- A page whose commands succeed is written. -/
theorem cacheGroupedResource_of_commands {members : PageMembers} {cursor : Option String}
    {commands : List PageCommand}
    (hcommands : memberCommands settings dtype pageKey members.items = .ok commands)
    (hexec : execute (PageCommand.run store (.expire pageKey settings.ttlWeak)).1
      (commands ++ [.rpush pageKey (cursor.getD "")]) = (store', none)) :
    cacheGroupedResource settings dtype store pageKey members cursor = (store', none) := by
  have hexpire : (PageCommand.expire pageKey settings.ttlWeak).run store =
      ((PageCommand.run store (.expire pageKey settings.ttlWeak)).1, none) := by
    simp only [PageCommand.run]
    split <;> rfl
  rw [cacheGroupedResource, hcommands]
  show execute store _ = _
  rw [execute_cons hexpire, hexec]

/-- A page that was not there before comes back, when its members are as the condition
says. -/
theorem roundTrip_of_pageComesBack {members : PageMembers}
    (h : PageComesBack settings dtype counterFields pending store pageKey members)
    (cursor : Option String) :
    PageRoundTrip settings dtype counterFields pending store pageKey members cursor := by
  obtain ⟨hdecode, hfresh, hmembers⟩ := h
  have hreply : clientReply settings.decodeResponses = Reply.str := by
    rw [hdecode]
    rfl
  rcases hmembers with hnil | ⟨rfl, hone, httl, hown, expected, hexpected⟩
  · obtain ⟨store', hpush, hlist, _⟩ := run_rpush hfresh (cursor.getD "")
    have hcommands : memberCommands settings dtype pageKey members.items = .ok [] := by
      rw [hnil]
      rfl
    have hexec : execute (PageCommand.run store (.expire pageKey settings.ttlWeak)).1
        ([] ++ [.rpush pageKey (cursor.getD "")]) = (store', none) := by
      rw [List.nil_append, execute_cons hpush]
      rfl
    refine ⟨store', ⟨ttlReply store' pageKey, [], [], .str (cursor.getD "")⟩, [],
      cacheGroupedResource_of_commands hcommands hexec, ?_, ?_, ?_, rfl, rfl⟩
    · refine primitivePagination_eq_ok_iff.mpr ⟨[], cursor.getD "", [], hlist, rfl, ?_⟩
      rw [hreply]
      rfl
    · rw [hnil]
      rfl
    · rw [hnil]
      rfl
  · obtain ⟨commands, hcommands⟩ := exists_memberCommands hexpected
    obtain ⟨store', hexec, hlist, hslots⟩ :=
      execute_page hcommands hfresh hown (cursor.getD "")
    have hread := readMembers_written httl hslots hexpected
    rw [List.nil_append] at hlist
    refine ⟨store', _, expected, cacheGroupedResource_of_commands hcommands hexec,
      primitivePagination_eq_ok_iff.mpr ⟨_, _, _, hlist, hread, rfl⟩, hexpected, ?_, ?_, ?_⟩
    · show (members.items.map Prod.fst).map _ = _
      rw [hreply, List.map_map]
      rfl
    · show List.map Prod.fst (List.flatten _) = _
      simp only [hone, List.replicate_one]
      rw [← List.flatMap_def, ← List.map_eq_flatMap, List.map_map]
      rfl
    · rw [hreply]

end

end ResourceServer
end Tenjin
