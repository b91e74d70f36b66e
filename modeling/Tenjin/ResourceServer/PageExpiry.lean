import Tenjin.Foundation.GuardedRun
import Tenjin.ResourceServer.PageWays

/-!
# The expiry of pages and of their members

`cache_grouped_resource` and `_promote_paginated_result` over time.  A page should expire
within `TTL_CAP`, and none of its members before it.

* Times to live are counted in milliseconds here: `CacheConfig.millis` are the settings of
  the page commands in that unit.
* A promotion carries whatever has been observed of a page and its members, at whatever
  time.
* `always_ttlInvariant` — a run keeps the invariant when all of its steps meet
  `StepKeeps`.
* `freshPage_not_timely` — a page that is written for the first time never expires, because
  its expiry is set before it is there.
-/

namespace Tenjin
namespace ResourceServer

open Python Foundation

/-- `CacheConfig`, as far as times to live go, with what `validate_ttl_times` accepts. -/
structure CacheConfig extends PageSettings where
  ttlCap : ℕ
  ttlStrongest : ℕ
  ttlEphemeral : ℕ
  ttlPromotion : ℕ
  ttlTimes_sorted : [ttlCap, ttlStrongest, ttlStrong, ttlWeak, ttlEphemeral, ttlPromotion].mergeSort
      (fun a b => b ≤ a) = [ttlCap, ttlStrongest, ttlStrong, ttlWeak, ttlEphemeral, ttlPromotion]

/-- The settings of the page commands in milliseconds. -/
def CacheConfig.millis (config : CacheConfig) : PageSettings :=
  { config.toPageSettings with
    ttlWeak := 1000 * config.ttlWeak
    ttlStrong := 1000 * config.ttlStrong }

/-- `min(TTL_CAP, ttl + TTL_PROMOTION)`, in milliseconds.  An expiry that is not positive
deletes the key. -/
def CacheConfig.promoted (config : CacheConfig) (ttl : Int) : ℕ :=
  1000 * (min (config.ttlCap : Int) (ttl + config.ttlPromotion)).toNat

/-- The expiries of the members.  A member without an observed time to live is out of
range. -/
def expireMembers (config : CacheConfig) : List String → List Int → Except Exn (List PageCommand)
  | [], _ => .ok []
  | _ :: _, [] => .error .indexError
  | key :: keys, ttl :: ttls => do
      let commands ← expireMembers config keys ttls
      .ok (.expire key (config.promoted ttl) :: commands)

/-- `_promote_paginated_result`. -/
def promotePaginatedResult (config : CacheConfig) (store : Store) (pageKey : String)
    (pageTtl : Int) (memberKeys : List String) (memberTtls : List Int) : Store × Option Exn :=
  match expireMembers config memberKeys memberTtls with
  | .error e => (store, some e)
  | .ok commands => execute store (.expire pageKey (config.promoted pageTtl) :: commands)

/-- The keys after some time has passed. -/
def elapse (ms : ℕ) (store : Store) : Store := fun key =>
  match store key with
  | some ⟨value, some ttl⟩ => if ttl < ms then none else some ⟨value, some (ttl - ms)⟩
  | slot => slot

/-- What can happen to the pages. -/
inductive CacheLabel
  | write (dtype : FetchDtype) (pageKey : String) (members : PageMembers)
      (cursor : Option String)
  | promote (pageKey : String) (pageTtl : Int) (memberKeys : List String)
      (memberTtls : List Int)
  | elapse (ms : ℕ)

/-- A write, a promotion, or time that passes. -/
def cacheStep (config : CacheConfig) (store : Store) : CacheLabel → Option Store
  | .write dtype pageKey members cursor =>
      some (cacheGroupedResource config.millis dtype store pageKey members cursor).1
  | .promote pageKey pageTtl memberKeys memberTtls =>
      some (promotePaginatedResult config store pageKey pageTtl memberKeys memberTtls).1
  | .elapse ms => some (elapse ms store)

/-- The key is there, for at least as long. -/
def Outlives (store : Store) (key : String) (ms : ℕ) : Prop :=
  ∃ slot, store key = some slot ∧ ∀ ttl, slot.ttl = some ttl → ms ≤ ttl

/-- Every page has an expiry of at most `TTL_CAP`, and its members outlive it. -/
def TtlInvariant (config : CacheConfig) (store : Store) : Prop :=
  ∀ pageKey items ttl, store pageKey = some ⟨.list items, ttl⟩ →
    ∃ ms, ttl = some ms ∧ ms ≤ 1000 * config.ttlCap ∧
      ∀ member ∈ items.dropLast, Outlives store member ms

/-- No key is the key of a page and of a member. -/
def Apart (store : Store) (pageKey : String) (memberKeys : List String) : Prop :=
  pageKey ∉ memberKeys ∧ ∀ other items ttl, store other = some ⟨.list items, ttl⟩ →
    other ∉ memberKeys ∧ pageKey ∉ items.dropLast

/-- The page is there, and what it holds is written again or outlives `TTL_WEAK`.  No other
page that holds one of the members lives longer than `TTL_STRONG`. -/
structure WriteKeeps (config : CacheConfig) (store : Store) (pageKey : String)
    (memberKeys : List String) : Prop where
  apart : Apart store pageKey memberKeys
  weak_pos : 0 < config.ttlWeak
  page : ∃ items ttl, store pageKey = some ⟨.list items, ttl⟩ ∧
    ∀ item ∈ items, item ∈ memberKeys ∨ Outlives store item (1000 * config.ttlWeak)
  others : ∀ other items ms, other ≠ pageKey → store other = some ⟨.list items, some ms⟩ →
    ∀ key ∈ memberKeys, key ∈ items.dropLast → ms ≤ 1000 * config.ttlStrong

/-- The observed times to live are those of the members of the page, in their order, and
none is below that of the page; what else the page holds outlives it.  No other page that
holds one of the members lives longer than the member will. -/
structure PromotionKeeps (config : CacheConfig) (store : Store) (pageKey : String)
    (pageTtl : Int) (memberKeys : List String) (memberTtls : List Int) : Prop where
  apart : Apart store pageKey memberKeys
  promoted_pos : 0 < config.promoted pageTtl
  ordered : ∀ observed ∈ memberKeys.zip memberTtls, pageTtl ≤ observed.2
  page : ∀ items ttl, store pageKey = some ⟨.list items, ttl⟩ →
    ∀ item ∈ items.dropLast,
      item ∈ memberKeys ∨ Outlives store item (config.promoted pageTtl)
  others : ∀ other items ms, other ≠ pageKey → store other = some ⟨.list items, some ms⟩ →
    ∀ observed ∈ memberKeys.zip memberTtls, observed.1 ∈ items.dropLast →
      ms ≤ config.promoted observed.2

/-- The condition on a step: a pipeline that is left unsent changes nothing. -/
def StepKeeps (config : CacheConfig) (store : Store) : CacheLabel → Prop
  | .write dtype pageKey members _ =>
      (∃ e, memberCommands config.millis dtype pageKey members.items = .error e) ∨
        WriteKeeps config store pageKey (members.items.map Prod.fst)
  | .promote pageKey pageTtl memberKeys memberTtls =>
      memberTtls.length < memberKeys.length ∨
        PromotionKeeps config store pageKey pageTtl memberKeys memberTtls
  | .elapse _ => True

section
variable {config : CacheConfig} {store store' : Store} {dtype : FetchDtype}
  {pageKey key : String}

/-- The accepted times to live are in descending order. -/
theorem CacheConfig.descending (config : CacheConfig) :
    [config.ttlCap, config.ttlStrongest, config.ttlStrong, config.ttlWeak, config.ttlEphemeral,
      config.ttlPromotion].Pairwise (· ≥ ·) := by
  let le : ℕ → ℕ → Bool := fun a b => decide (b ≤ a)
  have htrans : ∀ a b c : ℕ, le a b → le b c → le a c := by
    simp only [le, decide_eq_true_eq]
    omega
  have htotal : ∀ a b : ℕ, le a b || le b a := by
    simp only [le, Bool.or_eq_true, decide_eq_true_eq]
    omega
  have hsorted := List.pairwise_mergeSort htrans htotal
    [config.ttlCap, config.ttlStrongest, config.ttlStrong, config.ttlWeak, config.ttlEphemeral,
      config.ttlPromotion]
  rw [config.ttlTimes_sorted] at hsorted
  exact hsorted.imp fun h => of_decide_eq_true h

theorem CacheConfig.weak_le_strong (config : CacheConfig) : config.ttlWeak ≤ config.ttlStrong := by
  have h := config.descending
  simp at h
  omega

theorem CacheConfig.strong_le_cap (config : CacheConfig) : config.ttlStrong ≤ config.ttlCap := by
  have h := config.descending
  simp at h
  omega

/-- A promotion never goes beyond the cap. -/
theorem CacheConfig.promoted_le (config : CacheConfig) (ttl : Int) :
    config.promoted ttl ≤ 1000 * config.ttlCap := by
  unfold CacheConfig.promoted
  omega

/-- What had the longer time to live has it after the promotion. -/
theorem CacheConfig.promoted_mono (config : CacheConfig) {ttl ttl' : Int} (h : ttl ≤ ttl') :
    config.promoted ttl ≤ config.promoted ttl' := by
  unfold CacheConfig.promoted
  omega

theorem Outlives.congr {ms : ℕ} (h : Outlives store key ms) (heq : store' key = store key) :
    Outlives store' key ms := by
  obtain ⟨slot, hslot, httl⟩ := h
  exact ⟨slot, heq.trans hslot, httl⟩

/-- A key with that time to live. -/
theorem outlives_of_slot {value : RedisValue} {ms ttl : ℕ}
    (h : store key = some ⟨value, some ttl⟩) (hle : ms ≤ ttl) : Outlives store key ms := by
  refine ⟨_, h, ?_⟩
  rintro _ ⟨⟩
  exact hle

/-- Time that passes keeps the invariant. -/
theorem TtlInvariant.elapse (h : TtlInvariant config store) (ms : ℕ) :
    TtlInvariant config (elapse ms store) := by
  intro pageKey items ttl hpage
  unfold ResourceServer.elapse at hpage
  split at hpage
  · rename_i value held hslot
    split at hpage
    · cases hpage
    · rename_i hleft
      cases hpage
      obtain ⟨_, heq, hcap, hmembers⟩ := h pageKey items _ hslot
      cases heq
      refine ⟨held - ms, rfl, by omega, ?_⟩
      intro member hmember
      obtain ⟨⟨value, memberTtl⟩, hmember, houtlives⟩ := hmembers member hmember
      cases memberTtl with
      | none => exact ⟨⟨value, none⟩, by simp [ResourceServer.elapse, hmember], nofun⟩
      | some t =>
          have hlonger : held ≤ t := houtlives t rfl
          have hthere : ¬ t < ms := by omega
          have hslot' : ResourceServer.elapse ms store member = some ⟨value, some (t - ms)⟩ := by
            simp [ResourceServer.elapse, hmember, hthere]
          exact outlives_of_slot hslot' (by omega)
  · rename_i slot hslot
    obtain ⟨held, heq, _⟩ := h pageKey items ttl hpage
    rw [heq] at hpage
    exact absurd hpage (hslot _ _)

/-- The first command of a transaction, whatever comes of it. -/
theorem execute_fst_cons (command : PageCommand) (commands : List PageCommand) :
    (execute store (command :: commands)).1 = (execute (command.run store).1 commands).1 :=
  rfl

theorem execute_fst_append (commands later : List PageCommand) :
    (execute store (commands ++ later)).1 = (execute (execute store commands).1 later).1 := by
  induction commands generalizing store with
  | nil => rfl
  | cons command commands ih =>
      rw [List.cons_append, execute_fst_cons, execute_fst_cons, ih]

/-- No page is stored under the key. -/
def NoPage (store : Store) (key : String) : Prop :=
  ∀ items ttl, store key ≠ some ⟨.list items, ttl⟩

theorem run_rpush_page {items : List String} {ttl : Option ℕ}
    (h : store key = some ⟨.list items, ttl⟩) (value : String) :
    ((PageCommand.rpush key value).run store).1 =
      store.put key (some ⟨.list (items ++ [value]), ttl⟩) := by
  simp [PageCommand.run, h]

theorem run_expire {value : RedisValue} {ttl : Option ℕ} {ms : ℕ} (hms : 0 < ms)
    (h : store key = some ⟨value, ttl⟩) :
    ((PageCommand.expire key ms).run store).1 = store.put key (some ⟨value, some ms⟩) := by
  have hne : ms ≠ 0 := by omega
  simp [PageCommand.run, h, hne]

/-- The command that writes a member leaves a value under its key that is no page. -/
theorem run_memberCommand {settings : PageSettings} {mapping : List (String × Attr)}
    {command : PageCommand} (h : memberCommand settings dtype key mapping = .ok command)
    (hkey : NoPage store key) :
    (∃ value ttl, (command.run store).1 key = some ⟨value, ttl⟩ ∧ ∀ items, value ≠ .list items) ∧
      ∀ k, k ≠ key → (command.run store).1 k = store k := by
  cases dtype with
  | mapping =>
      cases hitems : encodeMapping mapping with
      | error e => simp [memberCommand, hitems, Except.map] at h
      | ok items =>
          simp only [memberCommand, hitems, Except.map, Except.ok.injEq] at h
          rw [← h]
          cases hslot : store key with
          | none => simp +contextual [PageCommand.run, hslot, Store.put]
          | some slot =>
              obtain ⟨value, ttl⟩ := slot
              cases value with
              | list held => exact absurd hslot (hkey held ttl)
              | hash held => simp +contextual [PageCommand.run, hslot, Store.put]
              | text held => simp [PageCommand.run, hslot]
  | string =>
      cases htext : settings.dumps mapping with
      | error e => simp [memberCommand, htext, Except.map] at h
      | ok text =>
          simp only [memberCommand, htext, Except.map, Except.ok.injEq] at h
          rw [← h]
          simp +contextual [PageCommand.run, Store.put]

/-- The commands for the members: the page grows by their keys, each of them has an expiry,
and nothing else changes. -/
theorem execute_members {settings : PageSettings}
    {members : List (String × List (String × Attr))} {commands : List PageCommand}
    {items : List String} {ttl : Option ℕ}
    (h : memberCommands settings dtype pageKey members = .ok commands)
    (hstrong : 0 < settings.ttlStrong) (hpage : store pageKey = some ⟨.list items, ttl⟩)
    (hown : pageKey ∉ members.map Prod.fst)
    (hapart : ∀ key ∈ members.map Prod.fst, NoPage store key) :
    (execute store commands).1 pageKey = some ⟨.list (items ++ members.map Prod.fst), ttl⟩ ∧
      (∀ key ∈ members.map Prod.fst, ∃ value, (∀ list, value ≠ .list list) ∧
        (execute store commands).1 key = some ⟨value, some settings.ttlStrong⟩) ∧
      ∀ k, k ≠ pageKey → k ∉ members.map Prod.fst → (execute store commands).1 k = store k := by
  induction members generalizing store items commands with
  | nil =>
      cases h
      refine ⟨?_, fun key hkey => (by cases hkey), fun _ _ _ => rfl⟩
      rw [List.map_nil, List.append_nil]
      exact hpage
  | cons member members ih =>
      obtain ⟨command, hcommand, h⟩ := except_bind_eq_ok h
      obtain ⟨rest, hrest, h⟩ := except_bind_eq_ok h
      cases h
      rw [List.map_cons, List.mem_cons, not_or] at hown
      simp only [execute_fst_cons, run_rpush_page hpage]
      -- the page has grown by the key of the member
      generalize hpushed : store.put pageKey (some ⟨.list (items ++ [member.1]), ttl⟩) = pushed
      have hgrown : pushed pageKey = some ⟨.list (items ++ [member.1]), ttl⟩ := by
        simp [← hpushed, Store.put]
      have hsame : ∀ k, k ≠ pageKey → pushed k = store k := by
        intro k hk
        simp [← hpushed, Store.put, hk]
      have hfree : NoPage pushed member.1 := by
        intro list held
        rw [hsame member.1 fun heq => hown.1 heq.symm]
        exact hapart member.1 (List.mem_cons_self ..) list held
      -- the member has been written, and its expiry set
      obtain ⟨⟨value, held, hvalue, hnolist⟩, hframe⟩ := run_memberCommand hcommand hfree
      rw [run_expire hstrong hvalue]
      generalize hwritten : ((command.run pushed).1.put member.1
        (some ⟨value, some settings.ttlStrong⟩)) = written
      have hmember : written member.1 = some ⟨value, some settings.ttlStrong⟩ := by
        simp [← hwritten, Store.put]
      have hothers : ∀ k, k ≠ member.1 → written k = pushed k := by
        intro k hk
        rw [← hframe k hk]
        simp [← hwritten, Store.put, hk]
      have hlist : written pageKey = some ⟨.list (items ++ [member.1]), ttl⟩ := by
        rw [hothers pageKey hown.1, hgrown]
      have hfreeRest : ∀ key ∈ members.map Prod.fst, NoPage written key := by
        intro key hkey list heldTtl hslot
        by_cases heq : key = member.1
        · rw [heq, hmember] at hslot
          cases hslot
          exact hnolist list rfl
        · have hne : key ≠ pageKey := fun hp => hown.2 (hp ▸ hkey)
          rw [hothers key heq, hsame key hne] at hslot
          exact hapart key (List.mem_cons_of_mem _ hkey) list heldTtl hslot
      obtain ⟨hpage', hmembers', hframe'⟩ := ih hrest hlist hown.2 hfreeRest
      refine ⟨?_, ?_, ?_⟩
      · rw [hpage', List.map_cons, List.append_assoc, List.singleton_append]
      · intro key hkey
        by_cases hlater : key ∈ members.map Prod.fst
        · exact hmembers' key hlater
        · rcases List.mem_cons.mp hkey with rfl | hkey
          · refine ⟨value, hnolist, ?_⟩
            rw [hframe' member.1 (fun heq => hown.1 heq.symm) hlater, hmember]
          · exact absurd hkey hlater
      · intro k hk hkey
        rw [List.map_cons, List.mem_cons, not_or] at hkey
        rw [hframe' k hk hkey.2, hothers k hkey.1, hsame k hk]

/-- A write of a page that is there. -/
theorem write_spec {members : PageMembers} {commands : List PageCommand} {items : List String}
    {ttl : Option ℕ} (cursor : Option String)
    (h : memberCommands config.millis dtype pageKey members.items = .ok commands)
    (hweak : 0 < config.ttlWeak) (hpage : store pageKey = some ⟨.list items, ttl⟩)
    (hapart : Apart store pageKey (members.items.map Prod.fst))
    (hstore' : store' =
      (cacheGroupedResource config.millis dtype store pageKey members cursor).1) :
    store' pageKey = some ⟨.list (items ++ members.items.map Prod.fst ++ [cursor.getD ""]),
        some (1000 * config.ttlWeak)⟩ ∧
      (∀ key ∈ members.items.map Prod.fst, ∃ value, (∀ list, value ≠ .list list) ∧
        store' key = some ⟨value, some (1000 * config.ttlStrong)⟩) ∧
      ∀ k, k ≠ pageKey → k ∉ members.items.map Prod.fst → store' k = store k := by
  have hweak' : 0 < config.millis.ttlWeak := by
    show 0 < 1000 * config.ttlWeak
    omega
  have hstrong : 0 < config.millis.ttlStrong := by
    have hle := config.weak_le_strong
    show 0 < 1000 * config.ttlStrong
    omega
  rw [cacheGroupedResource, h] at hstore'
  simp only [execute_fst_cons, run_expire hweak' hpage, execute_fst_append] at hstore'
  generalize hexpired :
    store.put pageKey (some ⟨.list items, some config.millis.ttlWeak⟩) = expired at hstore'
  have hpageExpired : expired pageKey = some ⟨.list items, some config.millis.ttlWeak⟩ := by
    simp [← hexpired, Store.put]
  have hsame : ∀ k, k ≠ pageKey → expired k = store k := by
    intro k hk
    simp [← hexpired, Store.put, hk]
  have hfree : ∀ key ∈ members.items.map Prod.fst, NoPage expired key := by
    intro key hkey list held hslot
    have hne : key ≠ pageKey := fun heq => hapart.1 (heq ▸ hkey)
    rw [hsame key hne] at hslot
    exact (hapart.2 key list held hslot).1 hkey
  obtain ⟨hlist, hmembers, hframe⟩ :=
    execute_members h hstrong hpageExpired hapart.1 hfree
  rw [run_rpush_page hlist] at hstore'
  change store' = Store.put _ _ _ at hstore'
  rw [hstore']
  refine ⟨by simp [Store.put]; rfl, ?_, ?_⟩
  · intro key hkey
    have hne : key ≠ pageKey := fun heq => hapart.1 (heq ▸ hkey)
    obtain ⟨value, hvalue, hslot⟩ := hmembers key hkey
    refine ⟨value, hvalue, ?_⟩
    simp only [Store.put, if_neg hne]
    exact hslot
  · intro k hk hkey
    simp only [Store.put, if_neg hk]
    rw [hframe k hk hkey, hsame k hk]

/-- A write that meets its condition keeps the invariant. -/
theorem TtlInvariant.write {members : PageMembers} {commands : List PageCommand}
    (hI : TtlInvariant config store) (cursor : Option String)
    (h : memberCommands config.millis dtype pageKey members.items = .ok commands)
    (hkeeps : WriteKeeps config store pageKey (members.items.map Prod.fst)) :
    TtlInvariant config
      (cacheGroupedResource config.millis dtype store pageKey members cursor).1 := by
  obtain ⟨items, pageTtl, hpage, hitems⟩ := hkeeps.page
  obtain ⟨hlist, hmembers, hframe⟩ :=
    write_spec cursor h hkeeps.weak_pos hpage hkeeps.apart rfl
  generalize (cacheGroupedResource config.millis dtype store pageKey members cursor).1 = store'
    at hlist hmembers hframe ⊢
  have hweak := config.weak_le_strong
  have hcap := config.strong_le_cap
  intro other held ttl hother
  by_cases hown : other = pageKey
  · -- The page itself: what it holds is written again, or outlives `TTL_WEAK`.
    rw [hown, hlist] at hother
    cases hother
    refine ⟨_, rfl, by omega, ?_⟩
    intro member hmember
    rw [List.dropLast_concat, List.mem_append] at hmember
    by_cases hkey : member ∈ members.items.map Prod.fst
    · obtain ⟨value, _, hslot⟩ := hmembers member hkey
      exact outlives_of_slot hslot (by omega)
    · have hold : member ∈ items := hmember.resolve_right hkey
      have houtlives := (hitems member hold).resolve_left hkey
      by_cases hself : member = pageKey
      · rw [hself]
        exact outlives_of_slot hlist (Nat.le_refl _)
      · exact houtlives.congr (hframe member hself hkey)
  · by_cases hkey : other ∈ members.items.map Prod.fst
    · obtain ⟨value, hvalue, hslot⟩ := hmembers other hkey
      rw [hslot] at hother
      cases hother
      exact absurd rfl (hvalue held)
    · -- Another page: only its members may have been written.
      rw [hframe other hown hkey] at hother
      obtain ⟨ms, rfl, hms, houtlives⟩ := hI other held ttl hother
      refine ⟨ms, rfl, hms, ?_⟩
      intro member hmember
      by_cases hwritten : member ∈ members.items.map Prod.fst
      · obtain ⟨value, _, hslot⟩ := hmembers member hwritten
        exact outlives_of_slot hslot
          (hkeeps.others other held ms hown hother member hwritten hmember)
      · have hne : member ≠ pageKey := by
          rintro rfl
          exact (hkeeps.apart.2 other held _ hother).2 hmember
        exact (houtlives member hmember).congr (hframe member hne hwritten)

/-- The expiries of the members are those of the observed times to live. -/
theorem expireMembers_eq_ok {memberKeys : List String} {memberTtls : List Int}
    {commands : List PageCommand} (h : expireMembers config memberKeys memberTtls = .ok commands) :
    commands = ((memberKeys.zip memberTtls).map fun observed =>
        .expire observed.1 (config.promoted observed.2)) ∧
      memberKeys.length ≤ memberTtls.length := by
  induction memberKeys generalizing memberTtls commands with
  | nil =>
      cases h
      exact ⟨rfl, Nat.zero_le _⟩
  | cons key keys ih =>
      cases memberTtls with
      | nil => cases h
      | cons ttl ttls =>
          obtain ⟨rest, hrest, h⟩ := except_bind_eq_ok h
          cases h
          obtain ⟨rfl, hlength⟩ := ih hrest
          exact ⟨rfl, Nat.succ_le_succ hlength⟩

/-- Observed times to live for all members are enough. -/
theorem exists_expireMembers (config : CacheConfig) {memberKeys : List String}
    {memberTtls : List Int} (h : memberKeys.length ≤ memberTtls.length) :
    ∃ commands, expireMembers config memberKeys memberTtls = .ok commands := by
  induction memberKeys generalizing memberTtls with
  | nil => exact ⟨[], rfl⟩
  | cons key keys ih =>
      cases memberTtls with
      | nil => cases h
      | cons ttl ttls =>
          obtain ⟨commands, hcommands⟩ := ih (Nat.le_of_succ_le_succ h)
          refine ⟨.expire key (config.promoted ttl) :: commands, ?_⟩
          rw [expireMembers, hcommands]
          rfl

/-- Observed times to live for fewer members are out of range. -/
theorem expireMembers_eq_error (config : CacheConfig) {memberKeys : List String}
    {memberTtls : List Int}
    (h : memberTtls.length < memberKeys.length) :
    ∃ e, expireMembers config memberKeys memberTtls = .error e := by
  cases hexpire : expireMembers config memberKeys memberTtls with
  | error e => exact ⟨e, rfl⟩
  | ok commands =>
      have hlength := (expireMembers_eq_ok hexpire).2
      omega

/-- A positive expiry changes the time to live of its key, if that is there. -/
theorem run_expire_apply {ms : ℕ} (hms : 0 < ms) (store : Store) (key k : String) :
    ((PageCommand.expire key ms).run store).1 k =
      if k = key then (store k).map fun slot => ⟨slot.value, some ms⟩ else store k := by
  have hne : ms ≠ 0 := by omega
  by_cases hk : k = key
  · subst hk
    cases hslot : store k <;> simp [PageCommand.run, hslot, hne, Store.put]
  · cases hslot : store key <;> simp [PageCommand.run, hslot, hne, Store.put, hk]

/-- The command for an expiry. -/
def expiryCommand (expiry : String × ℕ) : PageCommand := .expire expiry.1 expiry.2

theorem execute_expiries_other {expiries : List (String × ℕ)}
    (hpos : ∀ expiry ∈ expiries, 0 < expiry.2) (hkey : key ∉ expiries.map Prod.fst) :
    (execute store (expiries.map expiryCommand)).1 key = store key := by
  induction expiries generalizing store with
  | nil => rfl
  | cons expiry expiries ih =>
      rw [List.map_cons, List.mem_cons, not_or] at hkey
      rw [List.map_cons, execute_fst_cons,
        ih (fun e he => hpos e (List.mem_cons_of_mem _ he)) hkey.2, expiryCommand,
        run_expire_apply (hpos expiry (List.mem_cons_self ..)), if_neg hkey.1]

theorem execute_expiries_none {expiries : List (String × ℕ)}
    (hpos : ∀ expiry ∈ expiries, 0 < expiry.2) (hkey : store key = none) :
    (execute store (expiries.map expiryCommand)).1 key = none := by
  induction expiries generalizing store with
  | nil => exact hkey
  | cons expiry expiries ih =>
      rw [List.map_cons, execute_fst_cons]
      apply ih fun e he => hpos e (List.mem_cons_of_mem _ he)
      rw [expiryCommand, run_expire_apply (hpos expiry (List.mem_cons_self ..)), hkey]
      split <;> rfl

/-- A key that is there keeps its value, and has one of the expiries that it has been
given. -/
theorem execute_expiries_self {expiries : List (String × ℕ)} {value : RedisValue}
    {ttl : Option ℕ} (hpos : ∀ expiry ∈ expiries, 0 < expiry.2)
    (hslot : store key = some ⟨value, ttl⟩) (hkey : key ∈ expiries.map Prod.fst) :
    ∃ ms, (key, ms) ∈ expiries ∧
      (execute store (expiries.map expiryCommand)).1 key = some ⟨value, some ms⟩ := by
  induction expiries generalizing store ttl with
  | nil => cases hkey
  | cons expiry expiries ih =>
      have hfirst := run_expire_apply (hpos expiry (List.mem_cons_self ..)) store expiry.1 key
      have hrest : ∀ e ∈ expiries, 0 < e.2 := fun e he => hpos e (List.mem_cons_of_mem _ he)
      rw [List.map_cons, execute_fst_cons]
      by_cases hlater : key ∈ expiries.map Prod.fst
      · -- A later expiry of the key counts.
        have hthere : ∃ held, ((expiryCommand expiry).run store).1 key = some ⟨value, held⟩ := by
          rw [expiryCommand, hfirst, hslot]
          split
          · exact ⟨_, rfl⟩
          · exact ⟨_, rfl⟩
        obtain ⟨held, hthere⟩ := hthere
        obtain ⟨ms, hms, hexec⟩ := ih hrest hthere hlater
        exact ⟨ms, List.mem_cons_of_mem _ hms, hexec⟩
      · rcases List.mem_cons.mp hkey with rfl | hkey
        · refine ⟨expiry.2, List.mem_cons_self .., ?_⟩
          rw [execute_expiries_other hrest hlater, expiryCommand, hfirst, if_pos rfl, hslot]
          rfl
        · exact absurd hkey hlater

/-- The expiries that a promotion sets. -/
def promotionExpiries (config : CacheConfig) (pageKey : String) (pageTtl : Int)
    (memberKeys : List String) (memberTtls : List Int) : List (String × ℕ) :=
  (pageKey, config.promoted pageTtl) ::
    (memberKeys.zip memberTtls).map fun observed => (observed.1, config.promoted observed.2)

/-- All of a promotion is a list of expiries. -/
theorem promote_eq_expiries {memberKeys : List String} {memberTtls : List Int} (pageTtl : Int)
    (hlength : memberKeys.length ≤ memberTtls.length) :
    (promotePaginatedResult config store pageKey pageTtl memberKeys memberTtls).1 =
      (execute store ((promotionExpiries config pageKey pageTtl memberKeys memberTtls).map
        expiryCommand)).1 := by
  obtain ⟨commands, hexpire⟩ := exists_expireMembers config hlength
  have hcommands := (expireMembers_eq_ok hexpire).1
  rw [promotePaginatedResult, hexpire, hcommands, promotionExpiries, List.map_cons, List.map_map]
  rfl

theorem promotionExpiries_keys (config : CacheConfig) (pageKey : String) {memberKeys : List String}
    {memberTtls : List Int} (pageTtl : Int) (hlength : memberKeys.length ≤ memberTtls.length) :
    (promotionExpiries config pageKey pageTtl memberKeys memberTtls).map Prod.fst =
      pageKey :: memberKeys := by
  rw [promotionExpiries, List.map_cons, List.map_map]
  exact congrArg (pageKey :: ·) (List.map_fst_zip hlength)

/-- Times to live that are observed to be longer than that of the page are promoted to
positive ones. -/
theorem promotionExpiries_pos (pageKey : String) {pageTtl : Int} {memberKeys : List String}
    {memberTtls : List Int} (hpromoted : 0 < config.promoted pageTtl)
    (hordered : ∀ observed ∈ memberKeys.zip memberTtls, pageTtl ≤ observed.2) :
    ∀ expiry ∈ promotionExpiries config pageKey pageTtl memberKeys memberTtls, 0 < expiry.2 := by
  intro expiry hexpiry
  rcases List.mem_cons.mp hexpiry with rfl | hexpiry
  · exact hpromoted
  · obtain ⟨observed, hobserved, rfl⟩ := List.mem_map.mp hexpiry
    exact Nat.lt_of_lt_of_le hpromoted (config.promoted_mono (hordered observed hobserved))

/-- An expiry of the page is its promoted one, where the page is not a member. -/
theorem promotionExpiries_page {pageTtl : Int} {memberKeys : List String}
    {memberTtls : List Int} {ms : ℕ} (hown : pageKey ∉ memberKeys)
    (h : (pageKey, ms) ∈ promotionExpiries config pageKey pageTtl memberKeys memberTtls) :
    ms = config.promoted pageTtl := by
  rcases List.mem_cons.mp h with h | h
  · exact (Prod.mk.inj h).2
  · obtain ⟨observed, hobserved, heq⟩ := List.mem_map.mp h
    cases heq
    exact absurd (List.of_mem_zip hobserved).1 hown

/-- An expiry of a member is one of those observed for it, promoted. -/
theorem promotionExpiries_member {pageTtl : Int} {memberKeys : List String}
    {memberTtls : List Int} {ms : ℕ} (hne : key ≠ pageKey)
    (h : (key, ms) ∈ promotionExpiries config pageKey pageTtl memberKeys memberTtls) :
    ∃ observed ∈ memberKeys.zip memberTtls, observed.1 = key ∧
      ms = config.promoted observed.2 := by
  rcases List.mem_cons.mp h with h | h
  · exact absurd (Prod.mk.inj h).1 hne
  · obtain ⟨observed, hobserved, heq⟩ := List.mem_map.mp h
    cases heq
    exact ⟨observed, hobserved, rfl, rfl⟩

/-- A promotion gives the page and the members that are there their promoted times to live,
and changes nothing else. -/
theorem promote_spec {pageTtl : Int} {memberKeys : List String} {memberTtls : List Int}
    (hown : pageKey ∉ memberKeys) (hpromoted : 0 < config.promoted pageTtl)
    (hordered : ∀ observed ∈ memberKeys.zip memberTtls, pageTtl ≤ observed.2)
    (hlength : memberKeys.length ≤ memberTtls.length)
    (hstore' : store' =
      (promotePaginatedResult config store pageKey pageTtl memberKeys memberTtls).1) :
    (∀ k, store k = none → store' k = none) ∧
      (∀ value ttl, store pageKey = some ⟨value, ttl⟩ →
        store' pageKey = some ⟨value, some (config.promoted pageTtl)⟩) ∧
      (∀ key ∈ memberKeys, ∀ value ttl, store key = some ⟨value, ttl⟩ →
        ∃ observed ∈ memberKeys.zip memberTtls, observed.1 = key ∧
          store' key = some ⟨value, some (config.promoted observed.2)⟩) ∧
      ∀ k, k ≠ pageKey → k ∉ memberKeys → store' k = store k := by
  have hkeys := promotionExpiries_keys config pageKey pageTtl hlength
  have hpos := promotionExpiries_pos pageKey hpromoted hordered
  rw [hstore', promote_eq_expiries pageTtl hlength]
  refine ⟨fun k => execute_expiries_none hpos, ?_, ?_, ?_⟩
  · intro value ttl hslot
    obtain ⟨ms, hms, hexec⟩ := execute_expiries_self hpos hslot (hkeys ▸ List.mem_cons_self ..)
    rw [hexec, promotionExpiries_page hown hms]
  · intro key hkey value ttl hslot
    obtain ⟨ms, hms, hexec⟩ :=
      execute_expiries_self hpos hslot (hkeys ▸ List.mem_cons_of_mem _ hkey)
    obtain ⟨observed, hobserved, hsame, rfl⟩ :=
      promotionExpiries_member (ne_of_mem_of_not_mem hkey hown) hms
    exact ⟨observed, hobserved, hsame, hexec⟩
  · intro k hk hkey
    apply execute_expiries_other hpos
    rw [hkeys, List.mem_cons, not_or]
    exact ⟨hk, hkey⟩

/-- A promotion that meets its condition keeps the invariant. -/
theorem TtlInvariant.promote {pageTtl : Int} {memberKeys : List String}
    {memberTtls : List Int} (hI : TtlInvariant config store)
    (hkeeps : PromotionKeeps config store pageKey pageTtl memberKeys memberTtls)
    (hlength : memberKeys.length ≤ memberTtls.length) :
    TtlInvariant config
      (promotePaginatedResult config store pageKey pageTtl memberKeys memberTtls).1 := by
  obtain ⟨hgone, hpage, hmembers, hframe⟩ :=
    promote_spec hkeeps.apart.1 hkeeps.promoted_pos hkeeps.ordered hlength rfl
  generalize (promotePaginatedResult config store pageKey pageTtl memberKeys memberTtls).1 =
    store' at hgone hpage hmembers hframe ⊢
  intro other held ttl hother
  by_cases hown : other = pageKey
  · -- The page itself: all of its members are promoted from no less than the page.
    subst hown
    cases hslot : store other with
    | none =>
        rw [hgone other hslot] at hother
        cases hother
    | some slot =>
        obtain ⟨value, pageHeld⟩ := slot
        rw [hpage value pageHeld hslot] at hother
        cases hother
        obtain ⟨ms, _, _, houtlives⟩ := hI other held pageHeld hslot
        refine ⟨_, rfl, config.promoted_le pageTtl, ?_⟩
        intro member hmember
        obtain ⟨⟨memberValue, memberHeld⟩, hmemberSlot, _⟩ := houtlives member hmember
        by_cases hkey : member ∈ memberKeys
        · obtain ⟨observed, hobserved, rfl, hslot'⟩ :=
            hmembers member hkey memberValue memberHeld hmemberSlot
          exact outlives_of_slot hslot'
            (config.promoted_mono (hkeeps.ordered observed hobserved))
        · have hne : member ≠ other := by
            rintro rfl
            exact (hkeeps.apart.2 member held pageHeld hslot).2 hmember
          have hstays := (hkeeps.page held pageHeld hslot member hmember).resolve_left hkey
          exact hstays.congr (hframe member hne hkey)
  · by_cases hkey : other ∈ memberKeys
    · -- A member is no page.
      cases hslot : store other with
      | none =>
          rw [hgone other hslot] at hother
          cases hother
      | some slot =>
          obtain ⟨value, memberHeld⟩ := slot
          obtain ⟨observed, _, rfl, hslot'⟩ := hmembers other hkey value memberHeld hslot
          rw [hslot'] at hother
          cases hother
          exact absurd hkey (hkeeps.apart.2 _ held memberHeld hslot).1
    · rw [hframe other hown hkey] at hother
      obtain ⟨ms, rfl, hms, houtlives⟩ := hI other held ttl hother
      refine ⟨ms, rfl, hms, ?_⟩
      intro member hmember
      have hne : member ≠ pageKey := by
        rintro rfl
        exact (hkeeps.apart.2 other held _ hother).2 hmember
      by_cases hpromoted : member ∈ memberKeys
      · obtain ⟨⟨value, memberHeld⟩, hmemberSlot, _⟩ := houtlives member hmember
        obtain ⟨observed, hobserved, rfl, hslot'⟩ :=
          hmembers member hpromoted value memberHeld hmemberSlot
        exact outlives_of_slot hslot'
          (hkeeps.others other held ms hown hother observed hobserved hmember)
      · exact (houtlives member hmember).congr (hframe member hne hpromoted)

/-- A step that meets the condition keeps the invariant. -/
theorem TtlInvariant.cacheStep {label : CacheLabel} (hI : TtlInvariant config store)
    (hstep : cacheStep config store label = some store') (hkeeps : StepKeeps config store label) :
    TtlInvariant config store' := by
  cases label with
  | write dtype pageKey members cursor =>
      cases hstep
      cases hcommands : memberCommands config.millis dtype pageKey members.items with
      | error e =>
          rw [cacheGroupedResource, hcommands]
          exact hI
      | ok commands =>
          rcases hkeeps with ⟨e, he⟩ | hkeeps
          · rw [hcommands] at he
            cases he
          · exact hI.write cursor hcommands hkeeps
  | promote pageKey pageTtl memberKeys memberTtls =>
      cases hstep
      rcases Nat.lt_or_ge memberTtls.length memberKeys.length with hlength | hlength
      · obtain ⟨e, he⟩ := expireMembers_eq_error config hlength
        rw [promotePaginatedResult, he]
        exact hI
      · rcases hkeeps with hshort | hkeeps
        · omega
        · exact hI.promote hkeeps hlength
  | elapse ms =>
      cases hstep
      exact hI.elapse ms

/-- The commands for a page begin with a push, which makes no difference between a page
that is not there and one that is empty. -/
theorem execute_fresh {settings : PageSettings} {members : List (String × List (String × Attr))}
    {commands : List PageCommand} (cursor : String)
    (h : memberCommands settings dtype pageKey members = .ok commands)
    (hpage : store pageKey = none) :
    execute store (commands ++ [.rpush pageKey cursor]) =
      execute (store.put pageKey (some ⟨.list [], none⟩))
        (commands ++ [.rpush pageKey cursor]) := by
  have hpush : ∀ value later, execute store (.rpush pageKey value :: later) =
      execute (store.put pageKey (some ⟨.list [], none⟩)) (.rpush pageKey value :: later) := by
    intro value later
    have hrun : (PageCommand.rpush pageKey value).run store =
        (PageCommand.rpush pageKey value).run (store.put pageKey (some ⟨.list [], none⟩)) := by
      simp only [PageCommand.run, hpage, Store.put, if_pos]
      rw [Prod.mk.injEq]
      refine ⟨funext fun k => ?_, rfl⟩
      simp only [Store.put]
      split <;> rfl
    simp only [execute, hrun]
  cases members with
  | nil =>
      cases h
      exact hpush cursor []
  | cons member members =>
      obtain ⟨command, _, h⟩ := except_bind_eq_ok h
      obtain ⟨rest, _, h⟩ := except_bind_eq_ok h
      cases h
      exact hpush member.1 _

/-- A page that is written for the first time has no expiry. -/
theorem freshPage_not_timely {members : PageMembers} {commands : List PageCommand}
    (cursor : Option String) (hstrong : 0 < config.ttlStrong)
    (h : memberCommands config.millis dtype pageKey members.items = .ok commands)
    (hpage : store pageKey = none) (hown : pageKey ∉ members.items.map Prod.fst)
    (hapart : ∀ key ∈ members.items.map Prod.fst, NoPage store key) :
    ¬ TtlInvariant config
      (cacheGroupedResource config.millis dtype store pageKey members cursor).1 := by
  have hexpire : ((PageCommand.expire pageKey config.millis.ttlWeak).run store).1 = store := by
    simp only [PageCommand.run, hpage]
  have hempty : (store.put pageKey (some ⟨.list [], none⟩)) pageKey = some ⟨.list [], none⟩ := by
    simp [Store.put]
  have hfree : ∀ key ∈ members.items.map Prod.fst,
      NoPage (store.put pageKey (some ⟨.list [], none⟩)) key := by
    intro key hkey items ttl hslot
    have hne : key ≠ pageKey := fun heq => hown (heq ▸ hkey)
    simp only [Store.put, if_neg hne] at hslot
    exact hapart key hkey items ttl hslot
  obtain ⟨hlist, _, _⟩ := execute_members h (by show 0 < 1000 * config.ttlStrong; omega)
    hempty hown hfree
  intro hI
  rw [cacheGroupedResource, h] at hI
  simp only [execute_fst_cons, hexpire] at hI
  rw [execute_fresh _ h hpage, execute_fst_append, execute_fst_cons, run_rpush_page hlist] at hI
  obtain ⟨ms, heq, _⟩ := hI pageKey _ none (by simp [execute, Store.put]; rfl)
  cases heq

/-- The reply to `TTL`, which is rounded to the next second. -/
def secondsLeft (ms : ℕ) : ℕ := (ms + 500) / 1000

/-- The keys as their times to live are read. -/
def inSeconds (store : Store) : Store := fun key =>
  (store key).map fun slot => ⟨slot.value, slot.ttl.map secondsLeft⟩

/-- With one counter field, a member that is read has one entry, with its time to live. -/
theorem readMember_ttl {settings : PageSettings} {counterFields : List (String × String)}
    {pending : String → String → Option Int} {entries : List (Option CacheMapping × Int)}
    (hone : counterFields.length = 1)
    (h : readMember settings dtype counterFields pending store key = .ok entries) :
    entries.map Prod.snd = [ttlReply store key] := by
  obtain ⟨replies, hreplies, h⟩ := except_bind_eq_ok h
  obtain ⟨first, _, hreplies⟩ := except_bind_eq_ok hreplies
  cases hreplies
  have hcounted : ∀ {m : CacheMapping} {seconds : Int} {counters : List PipeReply},
      countedEntry counterFields m seconds counters = .ok entries →
        entries.map Prod.snd = [seconds] := by
    intro m seconds counters hcounted
    obtain ⟨m', _, hcounted⟩ := except_bind_eq_ok hcounted
    cases hcounted
    rw [hone]
    rfl
  cases first with
  | mapping m =>
      simp only [sliceEntries] at h
      split at h
      · cases h
        rfl
      · exact hcounted h
  | text s =>
      simp only [sliceEntries] at h
      split at h
      · cases h
        rfl
      · split at h
        · cases h
        · obtain ⟨m, _, h⟩ := except_bind_eq_ok h
          exact hcounted h
  | ttl seconds => cases h
  | counter value => cases h

/-- The times to live that a read with one counter field observes are those of the members,
in their order. -/
theorem read_ttls {settings : PageSettings} {counterFields : List (String × String)}
    {pending : String → String → Option Int} {keys : List String}
    {entries : List (List (Option CacheMapping × Int))} (hone : counterFields.length = 1)
    (h : keys.mapM (readMember settings dtype counterFields pending store) = .ok entries) :
    entries.flatten.map Prod.snd = keys.map (ttlReply store) := by
  have hall := mapM_eq_ok_iff.mp h
  clear h
  induction hall with
  | nil => rfl
  | cons hkey _ ih =>
      rw [List.flatten_cons, List.map_append, readMember_ttl hone hkey, ih]
      rfl

/-- A promotion straight after the read of the page meets its condition: one counter field,
members that have an expiry, and keys that are apart. -/
theorem promotionKeeps_of_read {counterFields : List (String × String)}
    {pending : String → String → Option Int} {read : PageRead} {keys : List String}
    {cursor : String} {ttl : Option ℕ} (hI : TtlInvariant config store)
    (hone : counterFields.length = 1) (hpromotion : 0 < config.ttlPromotion)
    (hpage : store pageKey = some ⟨.list (keys ++ [cursor]), ttl⟩)
    (hread : primitivePaginationGetFromCache config.toPageSettings dtype counterFields pending
      (inSeconds store) pageKey = .ok read)
    (hexpiry : ∀ key ∈ keys, ∀ slot, store key = some slot → slot.ttl ≠ none)
    (hapart : Apart store pageKey keys) :
    PromotionKeeps config store pageKey read.ttl keys (read.entries.map Prod.snd) := by
  obtain ⟨ms, rfl, hms, houtlives⟩ := hI pageKey _ ttl hpage
  rw [List.dropLast_concat] at houtlives
  obtain ⟨keys', cursor', entries, hlist, hentries, rfl⟩ :=
    primitivePagination_eq_ok_iff.mp hread
  have hkeys : keys' = keys := by
    have hheld : lrange (inSeconds store) pageKey = .ok (keys ++ [cursor]) := by
      simp [lrange, inSeconds, hpage]
    rw [hheld, Except.ok.injEq] at hlist
    exact (List.append_inj' hlist rfl).1.symm
  subst hkeys
  have hpageTtl : ttlReply (inSeconds store) pageKey = (secondsLeft ms : Int) := by
    simp [ttlReply, inSeconds, hpage]
  have hmember : ∀ key ∈ keys', ∃ m, ms ≤ m ∧ (∃ value, store key = some ⟨value, some m⟩) ∧
      ttlReply (inSeconds store) key = (secondsLeft m : Int) := by
    intro key hkey
    obtain ⟨⟨value, held⟩, hslot, hlonger⟩ := houtlives key hkey
    cases held with
    | none => exact absurd rfl (hexpiry key hkey _ hslot)
    | some m => exact ⟨m, hlonger m rfl, ⟨value, hslot⟩, by simp [ttlReply, inSeconds, hslot]⟩
  -- what is observed of a member is its time to live
  have hobserved : ∀ observed ∈ keys'.zip (entries.flatten.map Prod.snd),
      observed.1 ∈ keys' ∧ observed.2 = ttlReply (inSeconds store) observed.1 := by
    have hzip : keys'.zip (keys'.map (ttlReply (inSeconds store))) =
        keys'.map fun key => (key, ttlReply (inSeconds store) key) := by
      have h := List.zip_map' (l := keys') (f := id) (g := ttlReply (inSeconds store))
      rwa [List.map_id] at h
    rw [read_ttls hone hentries, hzip]
    intro observed hmem
    obtain ⟨key, hkey, rfl⟩ := List.mem_map.mp hmem
    exact ⟨hkey, rfl⟩
  have hcap : config.ttlPromotion ≤ config.ttlCap := by
    have h := config.descending
    simp at h
    omega
  refine ⟨hapart, ?_, ?_, ?_, ?_⟩
  · show 0 < config.promoted (ttlReply (inSeconds store) pageKey)
    rw [hpageTtl]
    unfold CacheConfig.promoted
    omega
  · intro observed hmem
    obtain ⟨hkey, hseconds⟩ := hobserved observed hmem
    obtain ⟨m, hlonger, _, hread⟩ := hmember observed.1 hkey
    show ttlReply (inSeconds store) pageKey ≤ observed.2
    rw [hseconds, hread, hpageTtl]
    unfold secondsLeft
    omega
  · intro items ttl hslot item hitem
    rw [hpage] at hslot
    cases hslot
    rw [List.dropLast_concat] at hitem
    exact .inl hitem
  · intro other items held _ hother observed hmem hlisted
    obtain ⟨hkey, hseconds⟩ := hobserved observed hmem
    obtain ⟨m, _, ⟨value, hslot⟩, hread⟩ := hmember observed.1 hkey
    obtain ⟨_, heq, hcapped, hlonger⟩ := hI other items _ hother
    cases heq
    obtain ⟨slot, hslot', houtlives⟩ := hlonger observed.1 hlisted
    have hle : held ≤ m := houtlives m (by rw [hslot] at hslot'; cases hslot'; rfl)
    rw [hseconds, hread]
    unfold CacheConfig.promoted secondsLeft
    omega

end

/-- A run whose steps all meet the condition keeps the invariant. -/
theorem always_ttlInvariant (config : CacheConfig) (labels : List CacheLabel) (store : Store)
    (hI : TtlInvariant config store)
    (hsteps : EachStep (cacheStep config) (StepKeeps config) store labels) :
    Always (cacheStep config) (TtlInvariant config) store labels :=
  always_of_eachStep (I := fun _ => True) (fun _ _ _ _ _ _ => trivial)
    (fun _ _ _ _ hI hstep hkeeps => hI.cacheStep hstep hkeeps) labels store trivial hI hsteps

/-- Times to live from an hour down to a minute. -/
def hourCache : CacheConfig where
  toPageSettings := scorePages
  ttlCap := 3600
  ttlStrongest := 1800
  ttlEphemeral := 120
  ttlPromotion := 60
  ttlTimes_sorted := List.mergeSort_of_pairwise (by decide)

/-- A page with one member, five minutes before its expiry. -/
def agingPage : Store := fun key =>
  if key = "0:posts:0" then some ⟨.list ["7", "AAAH"], some 300000⟩
  else if key = "7" then some ⟨.hash [("score", "5")], some 600000⟩
  else none

/-- What `agingPage` holds. -/
theorem agingPage_list {key : String} {items : List String} {ttl : Option ℕ}
    (h : agingPage key = some ⟨.list items, ttl⟩) :
    key = "0:posts:0" ∧ items = ["7", "AAAH"] ∧ ttl = some 300000 := by
  unfold agingPage at h
  split at h
  · rename_i hkey
    cases h
    exact ⟨hkey, rfl, rfl⟩
  · split at h <;> cases h

theorem agingPage_timely : TtlInvariant hourCache agingPage := by
  intro pageKey items ttl h
  obtain ⟨rfl, rfl, rfl⟩ := agingPage_list h
  refine ⟨300000, rfl, by decide, ?_⟩
  intro member hmember
  rw [show ["7", "AAAH"].dropLast = ["7"] from rfl, List.mem_singleton] at hmember
  rw [hmember]
  have hslot : agingPage "7" = some ⟨.hash [("score", "5")], some 600000⟩ := rfl
  exact outlives_of_slot hslot (by decide)

/-- A promotion of that page from the times that are left, and an hour that passes. -/
theorem agingPage_stays_timely :
    Always (cacheStep hourCache) (TtlInvariant hourCache) agingPage
      [.promote "0:posts:0" 300 ["7"] [600], .elapse 3600000] := by
  refine always_ttlInvariant hourCache _ agingPage agingPage_timely ?_
  intro store' hstep
  refine ⟨.inr ⟨⟨by decide, ?_⟩, by decide, by decide, ?_, ?_⟩, fun _ _ => ⟨trivial, trivial⟩⟩
  · intro other items ttl hother
    obtain ⟨rfl, rfl, _⟩ := agingPage_list hother
    exact ⟨by decide, by decide⟩
  · intro items ttl hpage item hitem
    obtain ⟨_, rfl, _⟩ := agingPage_list hpage
    exact .inl hitem
  · intro other items ms hne hother
    exact absurd (agingPage_list hother).1 hne

/-- A page that is written to the empty cache has no expiry at all. -/
theorem first_page_never_expires :
    ¬ Always (cacheStep hourCache) (TtlInvariant hourCache) (fun _ => none)
      [.write .mapping "0:posts:0" onePost (some "AAAH")] := by
  intro h
  have hI : TtlInvariant hourCache (cacheGroupedResource hourCache.millis .mapping
      (fun _ => none) "0:posts:0" onePost (some "AAAH")).1 := h.2 _ rfl
  exact freshPage_not_timely (some "AAAH") (by decide) rfl rfl (by decide)
    (fun _ _ _ _ hslot => (by cases hslot)) hI

end ResourceServer
end Tenjin
