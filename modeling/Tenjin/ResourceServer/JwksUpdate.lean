import Tenjin.Auxillary.Base64Url
import Tenjin.ResourceServer.KeyManager

/-!
# Fetching the keys and publishing them

`get_global_key_mapping`, `get_jwks` and `update_jwks` of `key_manager.py`, with the local
mapping of a worker and the mapping that is published in Redis.

* A plan says for every call whether it goes through: a command can raise without an
  effect (`lost`) or after it (`late`).
* Building a PEM from the coordinates of a point is the library's; it may raise.
* `AtomicUpdate` is the purpose: both mappings are the fetched keys, or none has changed.
* The local mapping is purged and filled entry by entry before anything is published, and
  a known kid keeps its PEM.  `updateJwks_atomic_iff` says when that does no harm.
-/

namespace Tenjin
namespace ResourceServer

open Foundation
open Python

/-- An entry of a JWKS response: the fields that are read, `none` where one is missing. -/
structure JWKSEntry where
  kid : Option String
  x : Option String
  y : Option String
  deriving DecidableEq

/-- The mappings, and the lock and the cooldown of the polling. -/
structure JwksState where
  currentMapping : KeyMapping
  jwksMapping : KeyMapping
  pollLock : Bool
  pollCooldown : Bool
  deriving DecidableEq

/-- How a Redis command or transaction ends. -/
inductive CallOutcome
  | done
  /-- It raises, and nothing has happened. -/
  | lost (exn : Exn)
  /-- It raises after it has had its effect. -/
  | late (exn : Exn)
  deriving DecidableEq

/-- The reply of the authentication server: `response.json().get("keys")` may raise. -/
structure JwksResponse where
  statusCode : ℕ
  keys : Except Exn (Option (List JWKSEntry))

/-- How the calls of one `update_jwks` end. -/
structure UpdatePlan where
  lock : CallOutcome
  response : Except Exn JwksResponse
  publish : CallOutcome
  cleanup : CallOutcome
  /-- Reading the lock of another worker. -/
  lockPoll : Option Exn
  /-- Reading the published mapping, `MAX_GLOBAL_MAPPING_POLLS` times. -/
  polls : List (Option Exn)

/-- A command with its effect. -/
def redisCall (outcome : CallOutcome) (effect : JwksState → JwksState) :
    EStateM Exn JwksState Unit :=
  match outcome with
  | .done => modify effect
  | .lost exn => throw exn
  | .late exn => do
      modify effect
      throw exn

/-- A computation on the local mapping. -/
def onCurrent (x : EStateM Exn KeyMapping Unit) : EStateM Exn JwksState Unit := fun state =>
  match x state.currentMapping with
  | .ok a mapping => .ok a { state with currentMapping := mapping }
  | .error exn mapping => .error exn { state with currentMapping := mapping }

/-- `try: ... except Exception: print(format_exc())`. -/
def printException (x : EStateM Exn JwksState Unit) : EStateM Exn JwksState Unit :=
  fun state => .ok () (stateAfter x state)

/-- `get_jwks`. -/
def getJwks (response : Except Exn JwksResponse) : Except Exn (Option (List JWKSEntry)) :=
  match response with
  | .error exn => .error exn
  | .ok reply => if reply.statusCode = 200 then reply.keys else .ok none

/-- `entry[name]`. -/
def getField (name : String) (value : Option String) : Except Exn String :=
  match value with
  | none => .error (.keyError name)
  | some text => .ok text

/-- The PEM of an entry. -/
def entryPem (publicPem : Int → Int → Except Exn String) (entry : JWKSEntry) :
    Except Exn String := do
  let x ← Auxillary.fromBase64url (← getField "x" entry.x)
  let y ← Auxillary.fromBase64url (← getField "y" entry.y)
  publicPem x y

/-- `global_valid_keys`. -/
def globalValidKeys (newMapping : List JWKSEntry) : Except Exn (List String) :=
  newMapping.mapM fun entry => getField "kid" entry.kid

/-- Popping `local_keys - global_valid_keys`: they are all there, and the order in which
they go does not matter. -/
def purge (validKeys : List String) (current : KeyMapping) : KeyMapping where
  entries := current.entries.filter fun entry => entry.1 ∈ validKeys
  nodupKeys := by
    have hkeys : (current.entries.filter fun entry => entry.1 ∈ validKeys).keys ≤
        current.entries.keys := Multiset.map_le_map (Multiset.filter_le _ _)
    exact Multiset.nodup_keys.mp
      (Multiset.nodup_of_le hkeys (Multiset.nodup_keys.mpr current.nodupKeys))

/-- One entry of the loop over the new mapping. -/
def addEntry (publicPem : Int → Int → Except Exn String) (entry : JWKSEntry) :
    EStateM Exn KeyMapping Unit :=
  match getField "kid" entry.kid with
  | .error exn => throw exn
  | .ok kid => do
      let current ← get
      if kid ∈ current then pure ()
      else
        match entryPem publicPem entry with
        | .error exn => throw exn
        | .ok pem => set (current.insert kid pem)

/-- The part of `update_jwks` that changes the local mapping. -/
def loadLocal (publicPem : Int → Int → Except Exn String) (newMapping : List JWKSEntry) :
    EStateM Exn KeyMapping Unit :=
  match globalValidKeys newMapping with
  | .error exn => throw exn
  | .ok validKeys => do
      modify (purge validKeys)
      newMapping.forM (addEntry publicPem)

/-- The transaction that overwrites the published mapping.  `hset` refuses an empty one. -/
def publishMapping (outcome : CallOutcome) : EStateM Exn JwksState Unit := do
  let state ← get
  if state.currentMapping = ∅ then throw (.redisError false)
  else redisCall outcome fun s => { s with jwksMapping := s.currentMapping }

/-- The body of the `try`. -/
def refreshMappings (publicPem : Int → Int → Except Exn String) (plan : UpdatePlan) :
    EStateM Exn JwksState Unit :=
  match getJwks plan.response with
  | .error exn => throw exn
  | .ok none => pure ()
  | .ok (some newMapping) =>
      if newMapping = [] then pure ()
      else do
        onCurrent (loadLocal publicPem newMapping)
        publishMapping plan.publish

/-- `get_global_key_mapping`.  The client decodes no reply, and the `bytes` that it returns
have no `encode`. -/
def getGlobalKeyMapping (state : JwksState) : Except Exn KeyMapping :=
  if state.jwksMapping = ∅ then .ok ∅ else .error .attributeError

/-- Polling the published mapping. -/
def pollGlobalMapping : List (Option Exn) → EStateM Exn JwksState Unit
  | [] => throw .runtimeError
  | some exn :: _ => throw exn
  | none :: polls => do
      let state ← get
      match getGlobalKeyMapping state with
      | .error exn => throw exn
      | .ok globalMapping =>
          if globalMapping = ∅ then pollGlobalMapping polls
          else set { state with currentMapping := globalMapping }

/-- Waiting for the worker that has the lock: the loop ends after one look at it. -/
def awaitWorker (plan : UpdatePlan) : EStateM Exn JwksState Unit :=
  match plan.polls, plan.lockPoll with
  | _ :: _, some exn => throw exn
  | _, _ => pure ()

/-- `SET ... NX` on the lock. -/
def acquirePollLock (outcome : CallOutcome) : EStateM Exn JwksState Bool := do
  let state ← get
  redisCall outcome fun s => { s with pollLock := true }
  pure !state.pollLock

/-- `update_jwks`. -/
def updateJwks (publicPem : Int → Int → Except Exn String) (plan : UpdatePlan) :
    EStateM Exn JwksState Unit := do
  let res ← acquirePollLock plan.lock
  if res then do
    printException (refreshMappings publicPem plan)
    redisCall plan.cleanup fun s => { s with pollLock := false, pollCooldown := true }
  else do
    awaitWorker plan
    pollGlobalMapping plan.polls

/-- The mapping holds the keys of the entries, and these only. -/
def IsKeySet (publicPem : Int → Int → Except Exn String) (entries : List JWKSEntry)
    (mapping : KeyMapping) : Prop :=
  (∀ entry ∈ entries, ∃ kid pem, entry.kid = some kid ∧
    entryPem publicPem entry = .ok pem ∧ mapping.lookup kid = some pem) ∧
  ∀ kid ∈ mapping, ∃ entry ∈ entries, entry.kid = some kid

/-- Both mappings are the fetched keys, or both are as before. -/
def AtomicUpdate (publicPem : Int → Int → Except Exn String) (plan : UpdatePlan)
    (before after : JwksState) : Prop :=
  (∃ entries, getJwks plan.response = .ok (some entries) ∧
    IsKeySet publicPem entries after.currentMapping ∧
    IsKeySet publicPem entries after.jwksMapping) ∨
  (after.currentMapping = before.currentMapping ∧ after.jwksMapping = before.jwksMapping)

/-- The call takes the lock and gets entries that all have a kid. -/
def Loads (plan : UpdatePlan) (before : JwksState) (entries : List JWKSEntry) : Prop :=
  before.pollLock = false ∧ plan.lock = .done ∧
    getJwks plan.response = .ok (some entries) ∧ entries ≠ [] ∧
    ∀ entry ∈ entries, entry.kid ≠ none

/-- The first entry with a kid. -/
def firstEntry (entries : List JWKSEntry) (kid : String) : Option JWKSEntry :=
  entries.find? fun entry => entry.kid = some kid

/-- The first entry whose kid is not in the mapping. -/
def firstNewEntry (entries : List JWKSEntry) (mapping : KeyMapping) : Option JWKSEntry :=
  entries.find? fun entry => entry.kid.all fun kid => kid ∉ mapping

/-- The entry gives no PEM: a coordinate is missing or no text of base64url, or the point
is refused. -/
def Malformed (publicPem : Int → Int → Except Exn String) (entry : JWKSEntry) : Prop :=
  ∀ pem, entryPem publicPem entry ≠ .ok pem

/-- An entry that the update has to read is malformed. -/
def NewMalformed (publicPem : Int → Int → Except Exn String) (entries : List JWKSEntry)
    (mapping : KeyMapping) : Prop :=
  ∃ kid, kid ∉ mapping ∧ ∃ entry, firstEntry entries kid = some entry ∧
    Malformed publicPem entry

/-- Every kid of the mapping is announced. -/
def AllAnnounced (entries : List JWKSEntry) (mapping : KeyMapping) : Prop :=
  ∀ kid ∈ mapping, ∃ entry ∈ entries, entry.kid = some kid

/-- Every announced kid is in the mapping. -/
def AllKnown (entries : List JWKSEntry) (mapping : KeyMapping) : Prop :=
  ∀ entry ∈ entries, ∀ kid, entry.kid = some kid → kid ∈ mapping

/-- Every entry gives a PEM, the one that the mapping has if it knows the kid, and entries
with the same kid give the same. -/
def Agrees (publicPem : Int → Int → Except Exn String) (entries : List JWKSEntry)
    (mapping : KeyMapping) : Prop :=
  ∀ entry ∈ entries, ∀ kid, entry.kid = some kid → ∃ pem,
    entryPem publicPem entry = .ok pem ∧
    (kid ∈ mapping → mapping.lookup kid = some pem) ∧
    ∀ other ∈ entries, other.kid = some kid → entryPem publicPem other = .ok pem

/-- What makes the publication harmless: it comes through with the right keys or changes
nothing, or it is lost where nothing was to be published. -/
def PublishesSafely (publicPem : Int → Int → Except Exn String) (entries : List JWKSEntry)
    (outcome : CallOutcome) (before : JwksState) : Prop :=
  match outcome with
  | .lost _ =>
      (AllAnnounced entries before.currentMapping ∧ AllKnown entries before.currentMapping) ∨
      (Agrees publicPem entries before.currentMapping ∧
        IsKeySet publicPem entries before.jwksMapping)
  | _ =>
      Agrees publicPem entries before.currentMapping ∨
      (AllAnnounced entries before.currentMapping ∧ AllKnown entries before.currentMapping ∧
        before.jwksMapping = before.currentMapping)

/-- The condition of `updateJwks_atomic_iff` on the entries that the call loads: if one
that it has to read is malformed, no key expires and the first new entry is the malformed
one. -/
def UpdateCondition (publicPem : Int → Int → Except Exn String) (entries : List JWKSEntry)
    (outcome : CallOutcome) (before : JwksState) : Prop :=
  (NewMalformed publicPem entries before.currentMapping →
    AllAnnounced entries before.currentMapping ∧
      ∃ entry, firstNewEntry entries before.currentMapping = some entry ∧
        Malformed publicPem entry) ∧
  (¬ NewMalformed publicPem entries before.currentMapping →
    PublishesSafely publicPem entries outcome before)

section Purging

theorem lookup_purge (validKeys : List String) (current : KeyMapping) (kid : String) :
    (purge validKeys current).lookup kid =
      if kid ∈ validKeys then current.lookup kid else none := by
  apply Option.ext
  intro pem
  have hentries : (⟨kid, pem⟩ : Σ _ : String, String) ∈ (purge validKeys current).entries ↔
      (⟨kid, pem⟩ : Σ _ : String, String) ∈ current.entries ∧ kid ∈ validKeys := by
    simp [purge]
  rw [← Option.mem_def, Finmap.mem_lookup_iff, hentries, ← Finmap.mem_lookup_iff]
  by_cases hkid : kid ∈ validKeys
  · simp [hkid]
  · simp [hkid]

@[simp] theorem mem_purge {validKeys : List String} {current : KeyMapping} {kid : String} :
    kid ∈ purge validKeys current ↔ kid ∈ current ∧ kid ∈ validKeys := by
  rw [← Finmap.lookup_isSome, ← Finmap.lookup_isSome, lookup_purge]
  by_cases hkid : kid ∈ validKeys
  · simp [hkid]
  · simp [hkid]

/-- Nothing is popped exactly if every local key is valid. -/
theorem purge_eq_self_iff {validKeys : List String} {current : KeyMapping} :
    purge validKeys current = current ↔ ∀ kid ∈ current, kid ∈ validKeys := by
  constructor
  · intro h kid hkid
    rw [← h, mem_purge] at hkid
    exact hkid.2
  · intro h
    apply Finmap.ext_lookup
    intro kid
    rw [lookup_purge]
    by_cases hkid : kid ∈ validKeys
    · rw [if_pos hkid]
    · rw [if_neg hkid]
      exact (Finmap.lookup_eq_none.mpr fun hmem => hkid (h kid hmem)).symm

/-- `global_valid_keys` are the kids of the entries, unless one of them has none. -/
theorem globalValidKeys_cases (entries : List JWKSEntry) :
    (∃ validKeys, globalValidKeys entries = .ok validKeys ∧
      (∀ entry ∈ entries, entry.kid ≠ none) ∧
      ∀ kid, kid ∈ validKeys ↔ ∃ entry ∈ entries, entry.kid = some kid) ∨
    (∃ exn, globalValidKeys entries = .error exn ∧ ∃ entry ∈ entries, entry.kid = none) := by
  induction entries with
  | nil => exact .inl ⟨[], rfl, by simp, by simp⟩
  | cons entry entries ih =>
      unfold globalValidKeys at ih ⊢
      rw [List.mapM_cons]
      cases hkid : entry.kid with
      | none => exact .inr ⟨_, rfl, entry, List.mem_cons_self .., hkid⟩
      | some kid =>
          rcases ih with ⟨validKeys, hok, hkids, hmem⟩ | ⟨exn, herror, other, hother, hnone⟩
          · refine .inl ⟨kid :: validKeys, ?_, ?_, fun other => ?_⟩
            · rw [hok]
              rfl
            · intro e he
              rcases List.mem_cons.mp he with rfl | he
              · simp [hkid]
              · exact hkids e he
            · simp [hmem, hkid, eq_comm]
          · refine .inr ⟨exn, ?_, other, List.mem_cons_of_mem _ hother, hnone⟩
            rw [herror]
            rfl

end Purging

section AddingEntries

variable {publicPem : Int → Int → Except Exn String}

theorem addEntry_of_known {entry : JWKSEntry} {kid : String} {current : KeyMapping}
    (hkid : entry.kid = some kid) (hknown : kid ∈ current) :
    addEntry publicPem entry current = .ok () current := by
  simp only [addEntry, hkid, getField]
  show (if kid ∈ current then pure () else _ : EStateM Exn KeyMapping Unit) current = _
  rw [if_pos hknown]
  rfl

theorem addEntry_of_new {entry : JWKSEntry} {kid pem : String} {current : KeyMapping}
    (hkid : entry.kid = some kid) (hnew : kid ∉ current)
    (hpem : entryPem publicPem entry = .ok pem) :
    addEntry publicPem entry current = .ok () (current.insert kid pem) := by
  simp only [addEntry, hkid, getField, hpem]
  show (if kid ∈ current then pure () else set (current.insert kid pem) :
    EStateM Exn KeyMapping Unit) current = _
  rw [if_neg hnew]
  rfl

theorem addEntry_of_malformed {entry : JWKSEntry} {kid : String} {current : KeyMapping}
    (hkid : entry.kid = some kid) (hnew : kid ∉ current) (hbad : Malformed publicPem entry) :
    ∃ exn, addEntry publicPem entry current = .error exn current := by
  cases hpem : entryPem publicPem entry with
  | ok pem => exact absurd hpem (hbad pem)
  | error exn =>
      refine ⟨exn, ?_⟩
      simp only [addEntry, hkid, getField, hpem]
      show (if kid ∈ current then pure () else throw exn :
        EStateM Exn KeyMapping Unit) current = _
      rw [if_neg hnew]
      rfl

theorem firstEntry_cons_self {entry : JWKSEntry} {entries : List JWKSEntry} {kid : String}
    (h : entry.kid = some kid) : firstEntry (entry :: entries) kid = some entry := by
  simp [firstEntry, h]

theorem firstEntry_cons_other {entry : JWKSEntry} {entries : List JWKSEntry}
    {kid other : String} (h : entry.kid = some kid) (hne : other ≠ kid) :
    firstEntry (entry :: entries) other = firstEntry entries other := by
  simp [firstEntry, h, hne.symm]

theorem mem_of_firstEntry {entries : List JWKSEntry} {kid : String} {entry : JWKSEntry}
    (h : firstEntry entries kid = some entry) : entry ∈ entries ∧ entry.kid = some kid := by
  refine ⟨List.mem_of_find?_eq_some h, ?_⟩
  simpa using List.find?_some h

theorem exists_firstEntry {entries : List JWKSEntry} {kid : String}
    (h : ∃ entry ∈ entries, entry.kid = some kid) :
    ∃ entry, firstEntry entries kid = some entry := by
  obtain ⟨entry, hentry, hkid⟩ := h
  rw [← Option.isSome_iff_exists, firstEntry, List.find?_isSome]
  exact ⟨entry, hentry, by simpa using hkid⟩

theorem firstNewEntry_cons_known {entry : JWKSEntry} {entries : List JWKSEntry} {kid : String}
    {mapping : KeyMapping} (hkid : entry.kid = some kid) (hknown : kid ∈ mapping) :
    firstNewEntry (entry :: entries) mapping = firstNewEntry entries mapping := by
  simp [firstNewEntry, hkid, hknown]

theorem firstNewEntry_cons_new {entry : JWKSEntry} {entries : List JWKSEntry} {kid : String}
    {mapping : KeyMapping} (hkid : entry.kid = some kid) (hnew : kid ∉ mapping) :
    firstNewEntry (entry :: entries) mapping = some entry := by
  simp [firstNewEntry, hkid, hnew]

/-- An entry that is passed over is not read. -/
theorem newMalformed_cons_known {entry : JWKSEntry} {entries : List JWKSEntry} {kid : String}
    {current : KeyMapping} (hkid : entry.kid = some kid) (hknown : kid ∈ current) :
    NewMalformed publicPem (entry :: entries) current ↔
      NewMalformed publicPem entries current := by
  refine exists_congr fun other => and_congr_right fun hother => ?_
  have hne : other ≠ kid := fun heq => hother (heq ▸ hknown)
  rw [firstEntry_cons_other hkid hne]

/-- The kid of an entry that has been added is not new any more. -/
theorem newMalformed_cons_new {entry : JWKSEntry} {entries : List JWKSEntry}
    {kid pem : String} {current : KeyMapping} (hkid : entry.kid = some kid)
    (hpem : entryPem publicPem entry = .ok pem) :
    NewMalformed publicPem (entry :: entries) current ↔
      NewMalformed publicPem entries (current.insert kid pem) := by
  refine exists_congr fun other => ?_
  by_cases hsame : other = kid
  · subst hsame
    refine iff_of_false ?_ fun h => h.1 (Finmap.mem_insert.mpr (.inl rfl))
    rintro ⟨_, e, he, hbad⟩
    rw [firstEntry_cons_self hkid] at he
    cases he
    exact hbad pem hpem
  · rw [firstEntry_cons_other hkid hsame, Finmap.mem_insert, not_or]
    exact and_congr_left fun _ => (and_iff_right hsame).symm

/-- Where a kid of the mapping comes from, when the entry has been passed over. -/
theorem origin_cons {entry : JWKSEntry} {entries : List JWKSEntry} {current : KeyMapping}
    {kid : String} (h : kid ∈ current ∨ ∃ e ∈ entries, e.kid = some kid) :
    kid ∈ current ∨ ∃ e ∈ entry :: entries, e.kid = some kid := by
  rcases h with h | ⟨e, he, heKid⟩
  · exact .inl h
  · exact .inr ⟨e, List.mem_cons_of_mem _ he, heKid⟩

/-- And when it has been added. -/
theorem origin_cons_insert {entry : JWKSEntry} {entries : List JWKSEntry}
    {current : KeyMapping} {kid other pem : String} (hkid : entry.kid = some kid)
    (h : other ∈ current.insert kid pem ∨ ∃ e ∈ entries, e.kid = some other) :
    other ∈ current ∨ ∃ e ∈ entry :: entries, e.kid = some other := by
  rcases h with h | h
  · rcases Finmap.mem_insert.mp h with rfl | h
    · exact .inr ⟨entry, List.mem_cons_self .., hkid⟩
    · exact .inl h
  · exact origin_cons (.inr h)

/-- What the loop makes of entries whose new kids all have a PEM: the known kids are as
before, and a new kid has the PEM of its first entry. -/
theorem addEntries_ok {entries : List JWKSEntry} {current : KeyMapping}
    (hkids : ∀ entry ∈ entries, entry.kid ≠ none)
    (hgood : ¬ NewMalformed publicPem entries current) :
    ∃ mapping, entries.forM (addEntry publicPem) current = .ok () mapping ∧
      (∀ kid ∈ current, mapping.lookup kid = current.lookup kid) ∧
      (∀ kid ∉ current, ∀ entry, firstEntry entries kid = some entry →
        ∃ pem, entryPem publicPem entry = .ok pem ∧ mapping.lookup kid = some pem) ∧
      ∀ kid ∈ mapping, kid ∈ current ∨ ∃ entry ∈ entries, entry.kid = some kid := by
  induction entries generalizing current with
  | nil =>
      refine ⟨current, rfl, fun _ _ => rfl, ?_, fun kid hkid => .inl hkid⟩
      intro kid _ entry hentry
      simp [firstEntry] at hentry
  | cons entry entries ih =>
      obtain ⟨kid, hkid⟩ := Option.ne_none_iff_exists'.mp (hkids entry (List.mem_cons_self ..))
      have hrestKids : ∀ e ∈ entries, e.kid ≠ none :=
        fun e he => hkids e (List.mem_cons_of_mem _ he)
      by_cases hknown : kid ∈ current
      · -- the entry is passed over
        rw [newMalformed_cons_known hkid hknown] at hgood
        obtain ⟨mapping, hrun, hold, hnew, hfrom⟩ := ih hrestKids hgood
        refine ⟨mapping, bind_eq_ok.mpr ⟨(), current, addEntry_of_known hkid hknown, hrun⟩,
          hold, fun other hother e he => ?_, fun other hother => origin_cons (hfrom other hother)⟩
        have hne : other ≠ kid := fun heq => hother (heq ▸ hknown)
        rw [firstEntry_cons_other hkid hne] at he
        exact hnew other hother e he
      · -- the entry is the first one with its kid
        have hpem : ∃ pem, entryPem publicPem entry = .ok pem := by
          by_contra hnone
          exact hgood ⟨kid, hknown, entry, firstEntry_cons_self hkid,
            fun pem hpem => hnone ⟨pem, hpem⟩⟩
        obtain ⟨pem, hpem⟩ := hpem
        rw [newMalformed_cons_new hkid hpem] at hgood
        obtain ⟨mapping, hrun, hold, hnew, hfrom⟩ := ih hrestKids hgood
        refine ⟨mapping, bind_eq_ok.mpr ⟨(), _, addEntry_of_new hkid hknown hpem, hrun⟩,
          fun other hother => ?_, fun other hother e he => ?_,
          fun other hother => origin_cons_insert hkid (hfrom other hother)⟩
        · have hne : other ≠ kid := fun heq => hknown (heq ▸ hother)
          rw [hold other (Finmap.mem_insert.mpr (.inr hother)),
            Finmap.lookup_insert_of_ne current hne]
        · by_cases hsame : other = kid
          · subst hsame
            rw [firstEntry_cons_self hkid] at he
            cases he
            refine ⟨pem, hpem, ?_⟩
            rw [hold other (Finmap.mem_insert.mpr (.inl rfl)), Finmap.lookup_insert]
          · have hnot : other ∉ current.insert kid pem := by
              rw [Finmap.mem_insert, not_or]
              exact ⟨hsame, hother⟩
            rw [firstEntry_cons_other hkid hsame] at he
            exact hnew other hnot e he

/-- Where an entry that has to be read is malformed, the loop raises and keeps what it has
added by then: nothing exactly if the first new entry is malformed. -/
theorem addEntries_error {entries : List JWKSEntry} {current : KeyMapping}
    (hkids : ∀ entry ∈ entries, entry.kid ≠ none)
    (hbad : NewMalformed publicPem entries current) :
    ∃ exn mapping, entries.forM (addEntry publicPem) current = .error exn mapping ∧
      (∀ kid ∈ current, kid ∈ mapping) ∧
      (∀ kid ∈ mapping, kid ∈ current ∨ ∃ entry ∈ entries, entry.kid = some kid) ∧
      (mapping = current ↔ ∃ entry, firstNewEntry entries current = some entry ∧
        Malformed publicPem entry) := by
  induction entries generalizing current with
  | nil =>
      obtain ⟨kid, _, entry, hentry, _⟩ := hbad
      simp [firstEntry] at hentry
  | cons entry entries ih =>
      obtain ⟨kid, hkid⟩ := Option.ne_none_iff_exists'.mp (hkids entry (List.mem_cons_self ..))
      have hrestKids : ∀ e ∈ entries, e.kid ≠ none :=
        fun e he => hkids e (List.mem_cons_of_mem _ he)
      by_cases hknown : kid ∈ current
      · rw [newMalformed_cons_known hkid hknown] at hbad
        obtain ⟨exn, mapping, hrun, hold, hfrom, hiff⟩ := ih hrestKids hbad
        refine ⟨exn, mapping, bind_eq_error.mpr (.inr ⟨(), current,
          addEntry_of_known hkid hknown, hrun⟩), hold,
          fun other hother => origin_cons (hfrom other hother), ?_⟩
        rw [hiff, firstNewEntry_cons_known hkid hknown]
      · rw [firstNewEntry_cons_new hkid hknown]
        by_cases hpem : ∃ pem, entryPem publicPem entry = .ok pem
        · -- the entry is added, so the mapping has grown when the loop raises
          obtain ⟨pem, hpem⟩ := hpem
          rw [newMalformed_cons_new hkid hpem] at hbad
          obtain ⟨exn, mapping, hrun, hold, hfrom, _⟩ := ih hrestKids hbad
          refine ⟨exn, mapping, bind_eq_error.mpr (.inr ⟨(), _,
            addEntry_of_new hkid hknown hpem, hrun⟩),
            fun other hother => hold other (Finmap.mem_insert.mpr (.inr hother)),
            fun other hother => origin_cons_insert hkid (hfrom other hother), ?_⟩
          constructor
          · intro heq
            have hgrown : kid ∈ mapping := hold kid (Finmap.mem_insert.mpr (.inl rfl))
            exact absurd (heq ▸ hgrown) hknown
          · rintro ⟨found, hfound, hbadEntry⟩
            cases hfound
            exact absurd hpem (hbadEntry pem)
        · have hbadEntry : Malformed publicPem entry := fun pem h => hpem ⟨pem, h⟩
          obtain ⟨exn, hrun⟩ := addEntry_of_malformed hkid hknown hbadEntry
          refine ⟨exn, current, bind_of_error hrun, fun k hk => hk, fun k hk => .inl hk, ?_⟩
          exact ⟨fun _ => ⟨entry, rfl, hbadEntry⟩, fun _ => rfl⟩

end AddingEntries

section LoadingLocally

variable {publicPem : Int → Int → Except Exn String} {entries : List JWKSEntry}
  {current : KeyMapping}

/-- Purging pops no kid that is announced, so the same entries are read afterwards. -/
theorem newMalformed_purge_iff {validKeys : List String}
    (hvalid : ∀ kid, kid ∈ validKeys ↔ ∃ entry ∈ entries, entry.kid = some kid) :
    NewMalformed publicPem entries (purge validKeys current) ↔
      NewMalformed publicPem entries current := by
  constructor
  · rintro ⟨kid, hkid, entry, hentry, hbad⟩
    obtain ⟨hmem, hentryKid⟩ := mem_of_firstEntry hentry
    refine ⟨kid, fun hcurrent => hkid ?_, entry, hentry, hbad⟩
    exact mem_purge.mpr ⟨hcurrent, (hvalid kid).mpr ⟨entry, hmem, hentryKid⟩⟩
  · rintro ⟨kid, hkid, entry, hentry, hbad⟩
    exact ⟨kid, fun h => hkid (mem_purge.mp h).1, entry, hentry, hbad⟩

theorem loadLocal_run {validKeys : List String} (hkeys : globalValidKeys entries = .ok validKeys) :
    loadLocal publicPem entries current =
      entries.forM (addEntry publicPem) (purge validKeys current) := by
  rw [loadLocal, hkeys]
  exact bind_of_ok rfl

/-- The local mapping after a load that does not raise: the announced kids, the known ones
with their PEM and a new one with that of its first entry. -/
theorem loadLocal_ok (hkids : ∀ entry ∈ entries, entry.kid ≠ none)
    (hgood : ¬ NewMalformed publicPem entries current) :
    ∃ mapping, loadLocal publicPem entries current = .ok () mapping ∧
      (∀ kid, kid ∈ mapping ↔ ∃ entry ∈ entries, entry.kid = some kid) ∧
      (∀ kid ∈ mapping, kid ∈ current → mapping.lookup kid = current.lookup kid) ∧
      ∀ kid ∈ mapping, kid ∉ current → ∃ entry pem, firstEntry entries kid = some entry ∧
        entryPem publicPem entry = .ok pem ∧ mapping.lookup kid = some pem := by
  rcases globalValidKeys_cases entries with ⟨validKeys, hkeys, _, hvalid⟩ | ⟨_, _, entry, he, hnone⟩
  · have hpurged := mt (newMalformed_purge_iff hvalid).mp hgood
    obtain ⟨mapping, hrun, hold, hnew, hfrom⟩ := addEntries_ok hkids hpurged
    have hkidsOf : ∀ kid, kid ∈ mapping ↔ ∃ entry ∈ entries, entry.kid = some kid := by
      intro kid
      constructor
      · intro hkid
        rcases hfrom kid hkid with h | h
        · exact (hvalid kid).mp (mem_purge.mp h).2
        · exact h
      · intro hentry
        by_cases hmem : kid ∈ purge validKeys current
        · rw [← Finmap.lookup_isSome, hold kid hmem, Finmap.lookup_isSome]
          exact hmem
        · obtain ⟨first, hfirst⟩ := exists_firstEntry hentry
          obtain ⟨pem, _, hpem⟩ := hnew kid hmem first hfirst
          exact Finmap.mem_of_lookup_eq_some hpem
    refine ⟨mapping, (loadLocal_run hkeys).trans hrun, hkidsOf, fun kid hkid hcurrent => ?_,
      fun kid hkid hnot => ?_⟩
    · have hvalidKid := (hvalid kid).mpr ((hkidsOf kid).mp hkid)
      rw [hold kid (mem_purge.mpr ⟨hcurrent, hvalidKid⟩), lookup_purge, if_pos hvalidKid]
    · obtain ⟨first, hfirst⟩ := exists_firstEntry ((hkidsOf kid).mp hkid)
      obtain ⟨pem, hpem, hlookup⟩ := hnew kid (fun h => hnot (mem_purge.mp h).1) first hfirst
      exact ⟨first, pem, hfirst, hpem, hlookup⟩
  · exact absurd hnone (hkids entry he)

/-- A load that raises leaves the local mapping as it was exactly if no key is popped and
the first new entry is the malformed one. -/
theorem loadLocal_error (hkids : ∀ entry ∈ entries, entry.kid ≠ none)
    (hbad : NewMalformed publicPem entries current) :
    ∃ exn mapping, loadLocal publicPem entries current = .error exn mapping ∧
      (mapping = current ↔ AllAnnounced entries current ∧
        ∃ entry, firstNewEntry entries current = some entry ∧ Malformed publicPem entry) := by
  rcases globalValidKeys_cases entries with ⟨validKeys, hkeys, _, hvalid⟩ | ⟨_, _, entry, he, hnone⟩
  · obtain ⟨exn, mapping, hrun, _, hfrom, hiff⟩ :=
      addEntries_error hkids ((newMalformed_purge_iff hvalid).mpr hbad)
    refine ⟨exn, mapping, (loadLocal_run hkeys).trans hrun, ?_⟩
    constructor
    · intro heq
      have hannounced : AllAnnounced entries current := by
        intro kid hkid
        rcases hfrom kid (heq ▸ hkid) with h | h
        · exact (hvalid kid).mp (mem_purge.mp h).2
        · exact h
      have hpurge : purge validKeys current = current :=
        purge_eq_self_iff.mpr fun kid hkid => (hvalid kid).mpr (hannounced kid hkid)
      rw [hpurge] at hiff
      exact ⟨hannounced, hiff.mp heq⟩
    · rintro ⟨hannounced, hfirst⟩
      have hpurge : purge validKeys current = current :=
        purge_eq_self_iff.mpr fun kid hkid => (hvalid kid).mpr (hannounced kid hkid)
      rw [hpurge] at hiff
      exact hiff.mpr hfirst
  · exact absurd hnone (hkids entry he)

/-- Where the load has not raised, the local mapping is the fetched key set exactly if the
entries agree with the old one. -/
theorem isKeySet_loaded_iff {mapping : KeyMapping}
    (hkidsOf : ∀ kid, kid ∈ mapping ↔ ∃ entry ∈ entries, entry.kid = some kid)
    (hold : ∀ kid ∈ mapping, kid ∈ current → mapping.lookup kid = current.lookup kid)
    (hnew : ∀ kid ∈ mapping, kid ∉ current → ∃ entry pem,
      firstEntry entries kid = some entry ∧ entryPem publicPem entry = .ok pem ∧
      mapping.lookup kid = some pem)
    (hkids : ∀ entry ∈ entries, entry.kid ≠ none) :
    IsKeySet publicPem entries mapping ↔ Agrees publicPem entries current := by
  constructor
  · rintro ⟨hentries, _⟩ entry hentry kid hkid
    obtain ⟨kid', pem, hkid', hpem, hlookup⟩ := hentries entry hentry
    have hsame : kid' = kid := by
      rw [hkid] at hkid'
      exact (Option.some.inj hkid').symm
    subst hsame
    have hmem : kid' ∈ mapping := Finmap.mem_of_lookup_eq_some hlookup
    refine ⟨pem, hpem, fun hcurrent => (hold kid' hmem hcurrent).symm.trans hlookup, ?_⟩
    intro other hother hotherKid
    obtain ⟨k, otherPem, hk, hotherPem, hotherLookup⟩ := hentries other hother
    rw [hotherKid] at hk
    cases hk
    rw [hlookup] at hotherLookup
    cases hotherLookup
    exact hotherPem
  · intro hagrees
    refine ⟨fun entry hentry => ?_, fun kid hkid => (hkidsOf kid).mp hkid⟩
    obtain ⟨kid, hkid⟩ := Option.ne_none_iff_exists'.mp (hkids entry hentry)
    obtain ⟨pem, hpem, hcurrentPem, hothers⟩ := hagrees entry hentry kid hkid
    have hmem : kid ∈ mapping := (hkidsOf kid).mpr ⟨entry, hentry, hkid⟩
    refine ⟨kid, pem, hkid, hpem, ?_⟩
    by_cases hcurrent : kid ∈ current
    · rw [hold kid hmem hcurrent]
      exact hcurrentPem hcurrent
    · obtain ⟨first, firstPem, hfirst, hfirstPem, hlookup⟩ := hnew kid hmem hcurrent
      obtain ⟨hfirstMem, hfirstKid⟩ := mem_of_firstEntry hfirst
      have heq := hothers first hfirstMem hfirstKid
      rw [hfirstPem] at heq
      cases heq
      exact hlookup

/-- A load that has not raised leaves the local mapping as it was exactly if the kids are
the announced ones already. -/
theorem loaded_eq_iff {mapping : KeyMapping}
    (hkidsOf : ∀ kid, kid ∈ mapping ↔ ∃ entry ∈ entries, entry.kid = some kid)
    (hold : ∀ kid ∈ mapping, kid ∈ current → mapping.lookup kid = current.lookup kid) :
    mapping = current ↔ AllAnnounced entries current ∧ AllKnown entries current := by
  constructor
  · rintro rfl
    exact ⟨fun kid hkid => (hkidsOf kid).mp hkid,
      fun entry hentry kid hkid => (hkidsOf kid).mpr ⟨entry, hentry, hkid⟩⟩
  · rintro ⟨hannounced, hknown⟩
    apply Finmap.ext_lookup
    intro kid
    by_cases hcurrent : kid ∈ current
    · exact hold kid ((hkidsOf kid).mpr (hannounced kid hcurrent)) hcurrent
    · have hnot : kid ∉ mapping := by
        intro hmem
        obtain ⟨entry, hentry, hkid⟩ := (hkidsOf kid).mp hmem
        exact hcurrent (hknown entry hentry kid hkid)
      rw [Finmap.lookup_eq_none.mpr hnot, Finmap.lookup_eq_none.mpr hcurrent]

end LoadingLocally

section Mappings

variable {publicPem : Int → Int → Except Exn String} {plan : UpdatePlan} {before : JwksState}

/-- The two mappings of a state. -/
def JwksState.mappings (state : JwksState) : KeyMapping × KeyMapping :=
  (state.currentMapping, state.jwksMapping)

/-- A command that touches neither mapping keeps both, however it ends. -/
theorem keeps_mappings_redisCall {outcome : CallOutcome} {effect : JwksState → JwksState}
    (heffect : ∀ s, (effect s).mappings = s.mappings) (both : KeyMapping × KeyMapping) :
    Keeps (fun s => s.mappings = both) (redisCall outcome effect) := by
  cases outcome with
  | done => exact Keeps.modify fun s hs => (heffect s).trans hs
  | lost exn => exact Keeps.throw exn
  | late exn =>
      exact Keeps.bind (Keeps.modify fun s hs => (heffect s).trans hs) fun _ => Keeps.throw exn

/-- Polling the published mapping changes neither: an empty one is no answer, and a
nonempty one raises. -/
theorem keeps_mappings_pollGlobalMapping (polls : List (Option Exn))
    (both : KeyMapping × KeyMapping) :
    Keeps (fun s => s.mappings = both) (pollGlobalMapping polls) := by
  induction polls with
  | nil => exact Keeps.throw _
  | cons poll polls ih =>
      cases poll with
      | some exn => exact Keeps.throw exn
      | none =>
          intro s hs
          unfold pollGlobalMapping
          rw [stateAfter_get_bind]
          by_cases hempty : s.jwksMapping = ∅
          · simp only [getGlobalKeyMapping, hempty, if_true]
            exact ih s hs
          · simp only [getGlobalKeyMapping, hempty, if_false]
            exact hs

theorem keeps_mappings_acquirePollLock (outcome : CallOutcome) (both : KeyMapping × KeyMapping) :
    Keeps (fun s => s.mappings = both) (acquirePollLock outcome) := by
  intro s hs
  unfold acquirePollLock
  rw [stateAfter_get_bind]
  have hcall : Keeps (fun s : JwksState => s.mappings = both)
      (redisCall outcome fun s => { s with pollLock := true }) := by
    apply keeps_mappings_redisCall
    intro s
    rfl
  exact Keeps.bind hcall (fun _ => Keeps.pure _) s hs

/-- A call that waits for another worker, or that cannot take the lock, changes neither
mapping. -/
theorem updateJwks_mappings_of_waiting (h : before.pollLock = true ∨ plan.lock ≠ .done) :
    (stateAfter (updateJwks publicPem plan) before).mappings = before.mappings := by
  have hacquire := keeps_mappings_acquirePollLock plan.lock before.mappings before rfl
  unfold updateJwks
  cases hlock : acquirePollLock plan.lock before with
  | error exn state =>
      rw [stateAfter_of_error hlock] at hacquire
      rw [stateAfter_of_error (bind_of_error hlock), hacquire]
  | ok res state =>
      rw [stateAfter_of_ok hlock] at hacquire
      rw [stateAfter_bind_of_ok hlock]
      have hres : res = false := by
        unfold acquirePollLock at hlock
        rw [get_bind_run] at hlock
        obtain ⟨_, middle, hcall, hpure⟩ := bind_eq_ok.mp hlock
        cases hpure
        rcases h with hheld | hfails
        · simp [hheld]
        · cases hout : plan.lock with
          | done => exact absurd hout hfails
          | lost exn =>
              rw [hout] at hcall
              cases hcall
          | late exn =>
              rw [hout] at hcall
              cases hcall
      subst hres
      have hwait : Keeps (fun s : JwksState => s.mappings = before.mappings)
          (awaitWorker plan) := by
        unfold awaitWorker
        split
        · exact Keeps.throw _
        · exact Keeps.pure ()
      exact Keeps.bind hwait (fun _ => keeps_mappings_pollGlobalMapping plan.polls _)
        state hacquire

/-- A call that takes the lock leaves the mappings as the body of its `try` does. -/
theorem updateJwks_mappings_of_leading (hfree : before.pollLock = false)
    (hlock : plan.lock = .done) :
    (stateAfter (updateJwks publicPem plan) before).mappings =
      (stateAfter (refreshMappings publicPem plan) { before with pollLock := true }).mappings := by
  have hacquire : acquirePollLock plan.lock before =
      .ok true { before with pollLock := true } := by
    rw [hlock]
    show EStateM.Result.ok (!before.pollLock) { before with pollLock := true } = _
    rw [hfree]
    rfl
  unfold updateJwks
  rw [stateAfter_bind_of_ok hacquire]
  have hprint : printException (refreshMappings publicPem plan) { before with pollLock := true } =
      .ok () (stateAfter (refreshMappings publicPem plan) { before with pollLock := true }) := rfl
  have hcleanup : ∀ both, Keeps (fun s : JwksState => s.mappings = both)
      (redisCall plan.cleanup fun s => { s with pollLock := false, pollCooldown := true }) := by
    apply keeps_mappings_redisCall
    intro s
    rfl
  show (stateAfter (printException (refreshMappings publicPem plan) >>= fun _ => _) _).mappings = _
  rw [stateAfter_bind_of_ok hprint]
  exact hcleanup _ _ rfl

end Mappings

section Atomicity

variable {publicPem : Int → Int → Except Exn String} {plan : UpdatePlan}

/-- Atomicity is about the two mappings. -/
theorem atomicUpdate_congr {before after after' : JwksState}
    (h : after.mappings = after'.mappings) :
    AtomicUpdate publicPem plan before after ↔ AtomicUpdate publicPem plan before after' := by
  obtain ⟨hcurrent, hjwks⟩ := Prod.mk.inj h
  unfold AtomicUpdate
  rw [hcurrent, hjwks]

theorem atomicUpdate_of_unchanged {before after : JwksState}
    (h : after.mappings = before.mappings) : AtomicUpdate publicPem plan before after :=
  .inr (Prod.mk.inj h)

/-- A call that loads no entries leaves both mappings as they were. -/
theorem refreshMappings_unloaded {before : JwksState} (hfree : before.pollLock = false)
    (hlock : plan.lock = .done) (hnone : ∀ entries, ¬ Loads plan before entries)
    (state : JwksState) :
    stateAfter (refreshMappings publicPem plan) state = state := by
  unfold refreshMappings
  cases hget : getJwks plan.response with
  | error exn => rfl
  | ok reply =>
      cases reply with
      | none => rfl
      | some entries =>
          by_cases hempty : entries = []
          · simp only [hempty, if_true]
            rfl
          · simp only [hempty, if_false]
            rcases globalValidKeys_cases entries with
              ⟨_, _, hkids, _⟩ | ⟨exn, herror, _⟩
            · exact absurd ⟨hfree, hlock, hget, hempty, hkids⟩ (hnone entries)
            · have hload : loadLocal publicPem entries state.currentMapping =
                  .error exn state.currentMapping := by
                rw [loadLocal, herror]
                rfl
              have hlift : onCurrent (loadLocal publicPem entries) state = .error exn state := by
                simp only [onCurrent, hload]
              exact stateAfter_of_error (bind_of_error hlift)

/-- The publication of a nonempty local mapping. -/
theorem stateAfter_publishMapping {outcome : CallOutcome} {state : JwksState}
    (hne : state.currentMapping ≠ ∅) :
    stateAfter (publishMapping outcome) state =
      match outcome with
      | .lost _ => state
      | _ => { state with jwksMapping := state.currentMapping } := by
  unfold publishMapping
  rw [stateAfter_get_bind, if_neg hne]
  cases outcome <;> rfl

/-- With the entries at hand the call is the load and the publication. -/
theorem refreshMappings_of_loads {before : JwksState} {entries : List JWKSEntry}
    (hloads : Loads plan before entries) :
    refreshMappings publicPem plan =
      (onCurrent (loadLocal publicPem entries) >>= fun _ => publishMapping plan.publish) := by
  obtain ⟨_, _, hget, hne, _⟩ := hloads
  unfold refreshMappings
  simp only [hget, hne, if_false]

/-- When the load raises, the fetched keys are no mapping at all: the call is atomic if it
has changed nothing by then. -/
theorem refreshMappings_of_malformed {before : JwksState} {entries : List JWKSEntry}
    (hloads : Loads plan before entries)
    (hbad : NewMalformed publicPem entries before.currentMapping) :
    AtomicUpdate publicPem plan before
        (stateAfter (refreshMappings publicPem plan) { before with pollLock := true }) ↔
      UpdateCondition publicPem entries plan.publish before := by
  rw [refreshMappings_of_loads hloads]
  obtain ⟨_, _, hget, _, hkids⟩ := hloads
  obtain ⟨exn, mapping, hload, hiff⟩ := loadLocal_error hkids hbad
  have hlift : onCurrent (loadLocal publicPem entries) { before with pollLock := true } =
      .error exn { before with pollLock := true, currentMapping := mapping } := by
    simp only [onCurrent, hload]
  rw [stateAfter_of_error (bind_of_error hlift)]
  have hnotFetched : ¬ IsKeySet publicPem entries mapping := by
    rintro ⟨hentries, _⟩
    obtain ⟨kid, _, entry, hentry, hmalformed⟩ := hbad
    obtain ⟨_, pem, _, hpem, _⟩ := hentries entry (mem_of_firstEntry hentry).1
    exact hmalformed pem hpem
  constructor
  · rintro (⟨entries', hentries', hfetched, _⟩ | ⟨hsame, _⟩)
    · rw [hget] at hentries'
      cases hentries'
      exact absurd hfetched hnotFetched
    · exact ⟨fun _ => hiff.mp hsame, fun hgood => absurd hbad hgood⟩
  · rintro ⟨hfirst, _⟩
    exact .inr ⟨hiff.mpr (hfirst hbad), rfl⟩

/-- What has been loaded is not empty. -/
theorem loaded_ne_empty {entries : List JWKSEntry} {mapping : KeyMapping} (hne : entries ≠ [])
    (hkids : ∀ entry ∈ entries, entry.kid ≠ none)
    (hkidsOf : ∀ kid, kid ∈ mapping ↔ ∃ entry ∈ entries, entry.kid = some kid) :
    mapping ≠ ∅ := by
  rintro rfl
  obtain ⟨entry, rest, rfl⟩ := List.exists_cons_of_ne_nil hne
  obtain ⟨kid, hkid⟩ := Option.ne_none_iff_exists'.mp (hkids entry (List.mem_cons_self ..))
  exact Finmap.notMem_empty ((hkidsOf kid).mpr ⟨entry, List.mem_cons_self .., hkid⟩)

/-- A call that loads entries ends with both mappings fetched or unchanged exactly under
the condition. -/
theorem refreshMappings_atomic_iff {before : JwksState} {entries : List JWKSEntry}
    (hloads : Loads plan before entries) :
    AtomicUpdate publicPem plan before
        (stateAfter (refreshMappings publicPem plan) { before with pollLock := true }) ↔
      UpdateCondition publicPem entries plan.publish before := by
  by_cases hbad : NewMalformed publicPem entries before.currentMapping
  · exact refreshMappings_of_malformed hloads hbad
  · rw [refreshMappings_of_loads hloads]
    obtain ⟨_, _, hget, hne, hkids⟩ := hloads
    obtain ⟨mapping, hload, hkidsOf, hold, hnew⟩ := loadLocal_ok hkids hbad
    have hlift : onCurrent (loadLocal publicPem entries) { before with pollLock := true } =
        .ok () { before with pollLock := true, currentMapping := mapping } := by
      simp only [onCurrent, hload]
    have hfetched := isKeySet_loaded_iff hkidsOf hold hnew hkids
    have hsame := loaded_eq_iff hkidsOf hold
    rw [stateAfter_bind_of_ok hlift,
      stateAfter_publishMapping (loaded_ne_empty hne hkids hkidsOf)]
    have hcondition : UpdateCondition publicPem entries plan.publish before ↔
        PublishesSafely publicPem entries plan.publish before :=
      ⟨fun h => h.2 hbad, fun h => ⟨fun hb => absurd hb hbad, fun _ => h⟩⟩
    rw [hcondition]
    have hpublished : AtomicUpdate publicPem plan before
        ⟨mapping, mapping, true, before.pollCooldown⟩ ↔
        Agrees publicPem entries before.currentMapping ∨
        (AllAnnounced entries before.currentMapping ∧ AllKnown entries before.currentMapping ∧
          before.jwksMapping = before.currentMapping) := by
      constructor
      · rintro (⟨entries', hentries', hboth, _⟩ | ⟨hcurrent, hjwks⟩)
        · rw [hget] at hentries'
          cases hentries'
          exact .inl (hfetched.mp hboth)
        · obtain ⟨hannounced, hknown⟩ := hsame.mp hcurrent
          exact .inr ⟨hannounced, hknown, hjwks.symm.trans hcurrent⟩
      · rintro (hagrees | ⟨hannounced, hknown, hjwks⟩)
        · exact .inl ⟨entries, hget, hfetched.mpr hagrees, hfetched.mpr hagrees⟩
        · have hcurrent := hsame.mpr ⟨hannounced, hknown⟩
          exact .inr ⟨hcurrent, hcurrent.trans hjwks.symm⟩
    cases hout : plan.publish with
    | done => exact hpublished
    | late exn => exact hpublished
    | lost exn =>
        constructor
        · rintro (⟨entries', hentries', hcurrent, hjwks⟩ | ⟨hcurrent, _⟩)
          · rw [hget] at hentries'
            cases hentries'
            exact .inr ⟨hfetched.mp hcurrent, hjwks⟩
          · exact .inl (hsame.mp hcurrent)
        · rintro (hkept | ⟨hagrees, hjwks⟩)
          · exact .inr ⟨hsame.mpr hkept, rfl⟩
          · exact .inl ⟨entries, hget, hfetched.mpr hagrees, hjwks⟩

/-- The response that announces a rotation with a malformed entry, every call going
through. -/
def malformedRotation : UpdatePlan where
  lock := .done
  response := .ok ⟨200, .ok (some [⟨some "new", none, none⟩])⟩
  publish := .done
  cleanup := .done
  lockPoll := none
  polls := []

/-- A worker that has a key and publishes it, before it fetches the rotation. -/
def beforeRotation : JwksState where
  currentMapping := Finmap.singleton "old" "pem-old"
  jwksMapping := Finmap.singleton "old" "pem-old"
  pollLock := false
  pollCooldown := false

end Atomicity

end ResourceServer
end Tenjin
