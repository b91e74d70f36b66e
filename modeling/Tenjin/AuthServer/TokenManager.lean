import Mathlib.Data.Finmap
import Mathlib.Data.Finset.Sort
import Mathlib.Data.String.Basic
import Tenjin.AuthServer.KeyTable
import Tenjin.Foundation.Effects

/-!
# The keys of a token manager and the polling of the global ones

`set_key_state`, `update_keydata`, `invalidate_key`, `fetch_unexpired_key` and one
iteration of `poll_store` of `token_manager.py`.

* `key_mapping` is a finite map; a `frozenset` is a finite set, and the order in which
  Python iterates over it is a parameter.
* An iteration raises inside its `try` and keeps what it has done by then.
* A key that is not rotated out cannot be fetched: `fetch_unexpired_key` calls
  `timestamp` on its empty `rotated_out_at`.  An iteration never adds the active key, and
  it converges only where the active key is known and active already
  (`pollStore_converges_iff`).
-/

namespace Tenjin
namespace AuthServer

open Foundation
open Python

/-- `KeyMetadata`. -/
structure KeyMetadata where
  publicPem : String
  privatePem : String
  algorithm : String
  epoch : Int
  rotatedAt : Option Int
  deriving DecidableEq

/-- `key_mapping`. -/
abbrev KeyMapping := Finmap fun _ : String => KeyMetadata

/-- The key state of a `TokenManager`. -/
structure TokenManager where
  activeKey : String
  keyMapping : KeyMapping
  deriving DecidableEq

/-- `set_key_state`. -/
def setKeyState (activeKid : String) (activeKeyMetadata : KeyMetadata)
    (verificationKeysMapping : Option KeyMapping) : TokenManager where
  activeKey := activeKid
  keyMapping := (verificationKeysMapping.getD ∅).insert activeKid activeKeyMetadata

/-- `update_keydata`. -/
def updateKeydata (kid : String) (newKeyData : KeyMetadata) (active : Bool)
    (manager : TokenManager) : TokenManager where
  activeKey := if active then kid else manager.activeKey
  keyMapping := manager.keyMapping.insert kid newKeyData

/-- `invalidate_key`. -/
def TokenManager.invalidateKey (kid : String) : EStateM Exn TokenManager Unit := do
  let manager ← get
  if manager.activeKey = kid then throw .runtimeError
  else set { manager with keyMapping := manager.keyMapping.erase kid }

/-- What an iteration reads of the synced store: the `VALID_KEYS` list and the ids that
have an `invalid_key` announcement. -/
structure SyncedStore where
  validKeys : List String
  announced : List String

/-- `fetch_unexpired_key`.  An announcement is a coroutine that nobody awaits. -/
def fetchUnexpiredKey (store : SyncedStore) (rows : List KeyRow) (kid : String) :
    Except Exn (Option KeyMetadata) :=
  if kid ∈ store.announced then .ok none
  else
    match selectKid kid rows with
    | none => .ok none
    | some key =>
        match key.rotatedOutAt with
        | none => .error .attributeError
        | some rotatedOutAt =>
            .ok (some ⟨key.publicPem, key.privatePem, key.alg, key.epoch, some rotatedOutAt⟩)

/-- `not bool(result.ROTATED_AT)`: nothing, or the timestamp zero. -/
def KeyMetadata.fetchedActive (result : KeyMetadata) : Bool :=
  match result.rotatedAt with
  | none => true
  | some rotatedAt => rotatedAt = 0

/-- One new key of an iteration. -/
def addNewKey (store : SyncedStore) (rows : List KeyRow) (newKey : String) :
    EStateM Exn TokenManager Unit :=
  match fetchUnexpiredKey store rows newKey with
  | .error exn => throw exn
  | .ok none => pure ()
  | .ok (some result) => modify (updateKeydata newKey result result.fetchedActive)

/-- The order in which Python iterates over a `frozenset`. -/
structure IterationOrder where
  enumerate : Finset String → List String
  nodup : ∀ keys, (enumerate keys).Nodup
  mem_enumerate : ∀ keys kid, kid ∈ enumerate keys ↔ kid ∈ keys

/-- The body of the `try` of `poll_store`. -/
def pollKeys (order : IterationOrder) (store : SyncedStore) (rows : List KeyRow) :
    EStateM Exn TokenManager Unit :=
  if store.validKeys = [] then throw .runtimeError
  else do
    let globalValidKeyset := store.validKeys.toFinset
    let localValidKeyset := (← get).keyMapping.keys
    (order.enumerate (globalValidKeyset \ localValidKeyset)).forM (addNewKey store rows)
    (order.enumerate (localValidKeyset \ globalValidKeyset)).forM TokenManager.invalidateKey

/-- One iteration of `poll_store`, which prints an exception and goes on. -/
def pollStore (order : IterationOrder) (store : SyncedStore) (rows : List KeyRow)
    (manager : TokenManager) : TokenManager :=
  stateAfter (pollKeys order store rows) manager

/-- A key table and the kids of a `VALID_KEYS` list, which all have unexpired rows,
exactly one of them not rotated out. -/
structure GlobalKeys where
  rows : List KeyRow
  kids_nodup : (kids (keyData rows)).Nodup
  validKeys : List String
  valid_unexpired : ∀ kid ∈ validKeys, ∃ row ∈ rows, row.kid = kid ∧ row.expiredAt = none
  activeKid : String
  active_valid : activeKid ∈ validKeys
  active_iff : ∀ row ∈ rows, row.kid ∈ validKeys →
    (row.rotatedOutAt = none ↔ row.kid = activeKid)

/-- The local keys are the global ones, and the active key is the one that is not rotated
out. -/
def Converged (keys : GlobalKeys) (manager : TokenManager) : Prop :=
  manager.keyMapping.keys = keys.validKeys.toFinset ∧ manager.activeKey = keys.activeKid

/-- The kid can be fetched as a verification key. -/
def FetchedRotated (rows : List KeyRow) (announced : List String) (kid : String) : Prop :=
  kid ∉ announced ∧ ∀ row ∈ rows, row.kid = kid → row.rotatedOutAt ≠ some 0

/-- The active key is known and active already, and every new key can be fetched as a
verification key. -/
def PollCondition (keys : GlobalKeys) (announced : List String) (manager : TokenManager) :
    Prop :=
  manager.activeKey = keys.activeKid ∧ keys.activeKid ∈ manager.keyMapping ∧
    ∀ kid ∈ keys.validKeys, kid ∉ manager.keyMapping →
      FetchedRotated keys.rows announced kid

/-- The kids after `set_key_state`. -/
theorem mem_setKeyState {activeKid : String} {activeKeyMetadata : KeyMetadata}
    {verificationKeysMapping : Option KeyMapping} {kid : String} :
    kid ∈ (setKeyState activeKid activeKeyMetadata verificationKeysMapping).keyMapping ↔
      kid = activeKid ∨ kid ∈ verificationKeysMapping.getD ∅ := by
  show kid ∈ (verificationKeysMapping.getD ∅).insert activeKid activeKeyMetadata ↔ _
  rw [Finmap.mem_insert]

@[simp] theorem updateKeydata_keys (kid : String) (newKeyData : KeyMetadata) (active : Bool)
    (manager : TokenManager) (other : String) :
    other ∈ (updateKeydata kid newKeyData active manager).keyMapping ↔
      other = kid ∨ other ∈ manager.keyMapping := by
  show other ∈ manager.keyMapping.insert kid newKeyData ↔ _
  rw [Finmap.mem_insert]

/-- The row of a global kid. -/
theorem GlobalKeys.selectKid_eq (keys : GlobalKeys) {kid : String}
    (hkid : kid ∈ keys.validKeys) :
    ∃ row ∈ keys.rows, row.kid = kid ∧ selectKid kid keys.rows = some row := by
  obtain ⟨row, hrow, hrowKid, _⟩ := keys.valid_unexpired kid hkid
  cases hfind : selectKid kid keys.rows with
  | none =>
      have hnot := List.find?_eq_none.mp hfind row hrow
      simp [hrowKid] at hnot
  | some found =>
      refine ⟨found, List.mem_of_find?_eq_some hfind, ?_, rfl⟩
      simpa using List.find?_some hfind

/-- A verification key among the global ones is fetched with the time of its rotation,
unless it has been announced as invalid. -/
theorem fetchUnexpiredKey_of_rotated (keys : GlobalKeys) (store : SyncedStore) {kid : String}
    (hkid : kid ∈ keys.validKeys) (hrotated : kid ≠ keys.activeKid)
    (hannounced : kid ∉ store.announced) :
    ∃ row ∈ keys.rows, row.kid = kid ∧ ∃ result rotatedAt,
      row.rotatedOutAt = some rotatedAt ∧ result.rotatedAt = some rotatedAt ∧
      fetchUnexpiredKey store keys.rows kid = .ok (some result) := by
  obtain ⟨row, hrow, hrowKid, hfind⟩ := keys.selectKid_eq hkid
  have hout : row.rotatedOutAt ≠ none := by
    intro hnone
    have hactive := (keys.active_iff row hrow (hrowKid ▸ hkid)).mp hnone
    exact hrotated (hrowKid ▸ hactive)
  obtain ⟨rotatedAt, hrotatedAt⟩ := Option.ne_none_iff_exists'.mp hout
  refine ⟨row, hrow, hrowKid,
    ⟨row.publicPem, row.privatePem, row.alg, row.epoch, some rotatedAt⟩, rotatedAt,
    hrotatedAt, rfl, ?_⟩
  simp [fetchUnexpiredKey, hannounced, hfind, hrotatedAt]

/-- The active key cannot be fetched. -/
theorem fetchUnexpiredKey_active (keys : GlobalKeys) (store : SyncedStore) :
    fetchUnexpiredKey store keys.rows keys.activeKid = .ok none ∨
      fetchUnexpiredKey store keys.rows keys.activeKid = .error .attributeError := by
  obtain ⟨row, hrow, hrowKid, hfind⟩ := keys.selectKid_eq keys.active_valid
  have hnone : row.rotatedOutAt = none :=
    (keys.active_iff row hrow (hrowKid ▸ keys.active_valid)).mpr hrowKid
  by_cases hannounced : keys.activeKid ∈ store.announced
  · left
    simp [fetchUnexpiredKey, hannounced]
  · right
    simp [fetchUnexpiredKey, hannounced, hfind, hnone]

/-- What adding one new key does: nothing, an exception, or an update with its kid. -/
theorem addNewKey_cases (store : SyncedStore) (rows : List KeyRow) (kid : String)
    (manager : TokenManager) :
    (fetchUnexpiredKey store rows kid = .ok none ∧
      addNewKey store rows kid manager = .ok () manager) ∨
    (∃ exn, fetchUnexpiredKey store rows kid = .error exn ∧
      addNewKey store rows kid manager = .error exn manager) ∨
    (∃ result, fetchUnexpiredKey store rows kid = .ok (some result) ∧
      addNewKey store rows kid manager =
        .ok () (updateKeydata kid result result.fetchedActive manager)) := by
  unfold addNewKey
  cases hfetch : fetchUnexpiredKey store rows kid with
  | error exn => exact .inr (.inl ⟨exn, rfl, rfl⟩)
  | ok fetched =>
      cases fetched with
      | none => exact .inl ⟨rfl, rfl⟩
      | some result => exact .inr (.inr ⟨result, rfl, rfl⟩)

/-- A kid that is never fetched is never added. -/
theorem keeps_not_mem_addNewKey {store : SyncedStore} {rows : List KeyRow} {kid : String}
    (hnever : ∀ result, fetchUnexpiredKey store rows kid ≠ .ok (some result))
    (newKey : String) :
    Keeps (fun manager => kid ∉ manager.keyMapping) (addNewKey store rows newKey) := by
  intro manager hnot
  rcases addNewKey_cases store rows newKey manager with
    ⟨_, hrun⟩ | ⟨exn, _, hrun⟩ | ⟨result, hfetch, hrun⟩
  · rwa [stateAfter_of_ok hrun]
  · rwa [stateAfter_of_error hrun]
  · rw [stateAfter_of_ok hrun, updateKeydata_keys]
    rintro (rfl | hmem)
    · exact hnever result hfetch
    · exact hnot hmem

/-- A kid that is never fetched never becomes the active one. -/
theorem keeps_active_ne_addNewKey {store : SyncedStore} {rows : List KeyRow} {kid : String}
    (hnever : ∀ result, fetchUnexpiredKey store rows kid ≠ .ok (some result))
    (newKey : String) :
    Keeps (fun manager => manager.activeKey ≠ kid) (addNewKey store rows newKey) := by
  intro manager hne
  rcases addNewKey_cases store rows newKey manager with
    ⟨_, hrun⟩ | ⟨exn, _, hrun⟩ | ⟨result, hfetch, hrun⟩
  · rwa [stateAfter_of_ok hrun]
  · rwa [stateAfter_of_error hrun]
  · rw [stateAfter_of_ok hrun]
    show (if result.fetchedActive then newKey else manager.activeKey) ≠ kid
    split
    · rintro rfl
      exact hnever result hfetch
    · exact hne

theorem TokenManager.invalidateKey_of_active {kid : String} {manager : TokenManager}
    (h : manager.activeKey = kid) :
    TokenManager.invalidateKey kid manager = .error .runtimeError manager := by
  show (if manager.activeKey = kid then _ else _ : EStateM Exn TokenManager Unit) manager = _
  rw [if_pos h]
  rfl

theorem TokenManager.invalidateKey_of_ne {kid : String} {manager : TokenManager}
    (h : manager.activeKey ≠ kid) :
    TokenManager.invalidateKey kid manager =
      .ok () { manager with keyMapping := manager.keyMapping.erase kid } := by
  show (if manager.activeKey = kid then _ else _ : EStateM Exn TokenManager Unit) manager = _
  rw [if_neg h]
  rfl

/-- Removing keys adds none. -/
theorem keeps_not_mem_invalidateKey (kid expired : String) :
    Keeps (fun manager => kid ∉ manager.keyMapping) (TokenManager.invalidateKey expired) := by
  intro manager hnot
  by_cases hactive : manager.activeKey = expired
  · rwa [stateAfter_of_error (TokenManager.invalidateKey_of_active hactive)]
  · rw [stateAfter_of_ok (TokenManager.invalidateKey_of_ne hactive)]
    intro hmem
    exact hnot (Finmap.mem_erase.mp hmem).2

/-- Removing keys leaves the active key alone. -/
theorem keeps_active_invalidateKey (Q : String → Prop) (expired : String) :
    Keeps (fun manager => Q manager.activeKey) (TokenManager.invalidateKey expired) := by
  intro manager hQ
  by_cases hactive : manager.activeKey = expired
  · rwa [stateAfter_of_error (TokenManager.invalidateKey_of_active hactive)]
  · rwa [stateAfter_of_ok (TokenManager.invalidateKey_of_ne hactive)]

/-- Adding verification keys among the global ones never raises. -/
theorem addNewKeys_ok (keys : GlobalKeys) (store : SyncedStore) (items : List String)
    (hvalid : ∀ kid ∈ items, kid ∈ keys.validKeys ∧ kid ≠ keys.activeKid)
    (manager : TokenManager) :
    ∃ manager', items.forM (addNewKey store keys.rows) manager = .ok () manager' := by
  induction items generalizing manager with
  | nil => exact ⟨manager, rfl⟩
  | cons kid items ih =>
      have htail := ih fun other hother => hvalid other (List.mem_cons_of_mem _ hother)
      obtain ⟨hkid, hrotated⟩ := hvalid kid (List.mem_cons_self ..)
      rcases addNewKey_cases store keys.rows kid manager with
        ⟨_, hrun⟩ | ⟨exn, hfetch, _⟩ | ⟨result, _, hrun⟩
      · obtain ⟨manager', hrest⟩ := htail manager
        exact ⟨manager', bind_eq_ok.mpr ⟨(), manager, hrun, hrest⟩⟩
      · -- the fetch of a rotated key does not raise
        exfalso
        by_cases hannounced : kid ∈ store.announced
        · simp [fetchUnexpiredKey, hannounced] at hfetch
        · obtain ⟨_, _, _, result, _, _, _, hok⟩ :=
            fetchUnexpiredKey_of_rotated keys store hkid hrotated hannounced
          rw [hok] at hfetch
          cases hfetch
      · obtain ⟨manager', hrest⟩ := htail (updateKeydata kid result result.fetchedActive manager)
        exact ⟨manager', bind_eq_ok.mpr ⟨(), _, hrun, hrest⟩⟩

/-- Adding keys that are all fetched as verification keys adds just these. -/
theorem addNewKeys_of_fetchedRotated (keys : GlobalKeys) (store : SyncedStore)
    (items : List String) (hvalid : ∀ kid ∈ items, kid ∈ keys.validKeys ∧ kid ≠ keys.activeKid)
    (hfetched : ∀ kid ∈ items, FetchedRotated keys.rows store.announced kid)
    (manager : TokenManager) :
    ∃ manager', items.forM (addNewKey store keys.rows) manager = .ok () manager' ∧
      manager'.activeKey = manager.activeKey ∧
      ∀ kid, kid ∈ manager'.keyMapping ↔ kid ∈ items ∨ kid ∈ manager.keyMapping := by
  induction items generalizing manager with
  | nil => exact ⟨manager, rfl, rfl, fun kid => by simp⟩
  | cons newKey items ih =>
      have htail := ih (fun other hother => hvalid other (List.mem_cons_of_mem _ hother))
        fun other hother => hfetched other (List.mem_cons_of_mem _ hother)
      obtain ⟨hkid, hrotated⟩ := hvalid newKey (List.mem_cons_self ..)
      obtain ⟨hannounced, hnonzero⟩ := hfetched newKey (List.mem_cons_self ..)
      obtain ⟨row, hrow, hrowKid, result, rotatedAt, hout, hresult, hfetch⟩ :=
        fetchUnexpiredKey_of_rotated keys store hkid hrotated hannounced
      have hverification : result.fetchedActive = false := by
        have hne : rotatedAt ≠ 0 := by
          rintro rfl
          exact hnonzero row hrow hrowKid hout
        simp [KeyMetadata.fetchedActive, hresult, hne]
      obtain ⟨manager', hrest, hactive, hmem⟩ :=
        htail (updateKeydata newKey result result.fetchedActive manager)
      refine ⟨manager', bind_eq_ok.mpr ⟨(), _, ?_, hrest⟩, ?_, fun kid => ?_⟩
      · simp only [addNewKey, hfetch]
        rfl
      · rw [hactive]
        simp [updateKeydata, hverification]
      · rw [hmem kid, updateKeydata_keys, List.mem_cons]
        constructor
        · rintro (h | rfl | h)
          · exact .inl (.inr h)
          · exact .inl (.inl rfl)
          · exact .inr h
        · rintro ((rfl | h) | h)
          · exact .inr (.inl rfl)
          · exact .inl h
          · exact .inr (.inr h)

/-- A key that was rotated out at the timestamp zero becomes the active one, or a later
one does. -/
theorem addNewKeys_of_zero (keys : GlobalKeys) (store : SyncedStore) (items : List String)
    (hvalid : ∀ kid ∈ items, kid ∈ keys.validKeys ∧ kid ≠ keys.activeKid) {row : KeyRow}
    (hrow : row ∈ keys.rows) (hmem : row.kid ∈ items) (hannounced : row.kid ∉ store.announced)
    (hzero : row.rotatedOutAt = some 0) {manager manager' : TokenManager}
    (hrun : items.forM (addNewKey store keys.rows) manager = .ok () manager') :
    manager'.activeKey ≠ keys.activeKid := by
  have hnever : ∀ result, fetchUnexpiredKey store keys.rows keys.activeKid ≠
      .ok (some result) := by
    intro result
    rcases fetchUnexpiredKey_active keys store with h | h <;> simp [h]
  induction items generalizing manager with
  | nil => cases hmem
  | cons newKey items ih =>
      obtain ⟨_, middle, hfirst, hrest⟩ := bind_eq_ok.mp hrun
      have htail : ∀ kid ∈ items, kid ∈ keys.validKeys ∧ kid ≠ keys.activeKid :=
        fun other hother => hvalid other (List.mem_cons_of_mem _ hother)
      by_cases hkid : row.kid ∈ items
      · exact ih htail hkid hrest
      · -- the key is the first one, and no later one is the active key of the table
        have hnew : row.kid = newKey := (List.mem_cons.mp hmem).resolve_right hkid
        obtain ⟨hvalidKid, hrotated⟩ := hvalid newKey (List.mem_cons_self ..)
        obtain ⟨other, hother, hotherKid, result, rotatedAt, hout, hresult, hfetch⟩ :=
          fetchUnexpiredKey_of_rotated keys store hvalidKid hrotated (hnew ▸ hannounced)
        have hsame : other = row :=
          keyRow_eq_of_kid_eq keys.kids_nodup hother hrow (hotherKid.trans hnew.symm)
        have hactive : result.fetchedActive = true := by
          rw [hsame, hzero] at hout
          cases hout
          simp [KeyMetadata.fetchedActive, hresult]
        have hmiddle : middle = updateKeydata newKey result true manager := by
          simp only [addNewKey, hfetch, hactive] at hfirst
          cases hfirst
          rfl
        have hkept : Keeps (fun m => m.activeKey ≠ keys.activeKid)
            (items.forM (addNewKey store keys.rows)) :=
          Keeps.forM fun kid _ => keeps_active_ne_addNewKey hnever kid
        refine hkept.ok ?_ hrest
        rw [hmiddle]
        exact hrotated

/-- Removing other keys than the active one removes just these. -/
theorem invalidateKeys_ok (items : List String) (manager : TokenManager)
    (hactive : manager.activeKey ∉ items) :
    ∃ manager', items.forM TokenManager.invalidateKey manager = .ok () manager' ∧
      manager'.activeKey = manager.activeKey ∧
      ∀ kid, kid ∈ manager'.keyMapping ↔ kid ∉ items ∧ kid ∈ manager.keyMapping := by
  induction items generalizing manager with
  | nil => exact ⟨manager, rfl, rfl, fun kid => by simp⟩
  | cons expired items ih =>
      rw [List.mem_cons, not_or] at hactive
      obtain ⟨manager', hrest, hsame, hmem⟩ :=
        ih { manager with keyMapping := manager.keyMapping.erase expired } hactive.2
      refine ⟨manager', bind_eq_ok.mpr ⟨(), _,
        TokenManager.invalidateKey_of_ne hactive.1, hrest⟩, hsame, fun kid => ?_⟩
      rw [hmem kid, Finmap.mem_erase, List.mem_cons, not_or]
      tauto

/-- An iteration reads the local keys, adds and removes. -/
theorem pollKeys_run (order : IterationOrder) {store : SyncedStore} (rows : List KeyRow)
    (manager : TokenManager) (h : store.validKeys ≠ []) :
    pollKeys order store rows manager =
      ((order.enumerate (store.validKeys.toFinset \ manager.keyMapping.keys)).forM
        (addNewKey store rows) >>= fun _ =>
        (order.enumerate (manager.keyMapping.keys \ store.validKeys.toFinset)).forM
          TokenManager.invalidateKey) manager := by
  unfold pollKeys
  rw [if_neg h]
  rfl

/-- What every addition and every removal keeps, an iteration keeps. -/
theorem keeps_pollKeys {I : TokenManager → Prop} (order : IterationOrder) (store : SyncedStore)
    (rows : List KeyRow) (hadd : ∀ kid, Keeps I (addNewKey store rows kid))
    (hremove : ∀ kid, Keeps I (TokenManager.invalidateKey kid)) :
    Keeps I (pollKeys order store rows) := by
  intro manager hI
  by_cases h : store.validKeys = []
  · have hrun : pollKeys order store rows manager = .error .runtimeError manager := by
      unfold pollKeys
      rw [if_pos h]
      rfl
    rwa [stateAfter_of_error hrun]
  · rw [stateAfter_congr (pollKeys_run order rows manager h)]
    apply Keeps.bind _ _ manager hI
    · exact Keeps.forM fun kid _ => hadd kid
    · exact fun _ => Keeps.forM fun kid _ => hremove kid

/-- The kids that an iteration adds. -/
theorem IterationOrder.mem_new_iff (order : IterationOrder) (validKeys : List String)
    (manager : TokenManager) (kid : String) :
    kid ∈ order.enumerate (validKeys.toFinset \ manager.keyMapping.keys) ↔
      kid ∈ validKeys ∧ kid ∉ manager.keyMapping := by
  rw [order.mem_enumerate, Finset.mem_sdiff, List.mem_toFinset, Finmap.mem_keys]

/-- The kids that an iteration removes. -/
theorem IterationOrder.mem_expired_iff (order : IterationOrder) (validKeys : List String)
    (manager : TokenManager) (kid : String) :
    kid ∈ order.enumerate (manager.keyMapping.keys \ validKeys.toFinset) ↔
      kid ∈ manager.keyMapping ∧ kid ∉ validKeys := by
  rw [order.mem_enumerate, Finset.mem_sdiff, List.mem_toFinset, Finmap.mem_keys]

/-- Where the active kid is known, only other global kids are added. -/
theorem IterationOrder.new_valid (order : IterationOrder) {keys : GlobalKeys}
    {manager : TokenManager} (hknown : keys.activeKid ∈ manager.keyMapping) :
    ∀ kid ∈ order.enumerate (keys.validKeys.toFinset \ manager.keyMapping.keys),
      kid ∈ keys.validKeys ∧ kid ≠ keys.activeKid := by
  intro kid hkid
  obtain ⟨hglobal, hunknown⟩ := (order.mem_new_iff keys.validKeys manager kid).mp hkid
  exact ⟨hglobal, fun hsame => hunknown (hsame ▸ hknown)⟩

/-- A kid that cannot be fetched is not added by an iteration. -/
theorem notMem_pollStore (order : IterationOrder) {store : SyncedStore} {rows : List KeyRow}
    {manager : TokenManager} {kid : String}
    (hnever : ∀ result, fetchUnexpiredKey store rows kid ≠ .ok (some result))
    (hunknown : kid ∉ manager.keyMapping) :
    kid ∉ (pollStore order store rows manager).keyMapping :=
  keeps_pollKeys (I := fun m => kid ∉ m.keyMapping) order store rows
    (keeps_not_mem_addNewKey hnever) (keeps_not_mem_invalidateKey kid) manager hunknown

/-- An iteration that meets the condition converges. -/
theorem PollCondition.converged (order : IterationOrder) {keys : GlobalKeys}
    {announced : List String} {manager : TokenManager}
    (h : PollCondition keys announced manager) :
    Converged keys (pollStore order ⟨keys.validKeys, announced⟩ keys.rows manager) := by
  obtain ⟨hactive, hknown, hfetched⟩ := h
  have hnonempty : keys.validKeys ≠ [] := List.ne_nil_of_mem keys.active_valid
  set new := order.enumerate (keys.validKeys.toFinset \ manager.keyMapping.keys) with hnew
  set expired := order.enumerate (manager.keyMapping.keys \ keys.validKeys.toFinset)
    with hexpired
  have hnewIff : ∀ kid, kid ∈ new ↔ kid ∈ keys.validKeys ∧ kid ∉ manager.keyMapping :=
    fun kid => order.mem_new_iff keys.validKeys manager kid
  have hexpiredIff : ∀ kid, kid ∈ expired ↔ kid ∈ manager.keyMapping ∧ kid ∉ keys.validKeys :=
    fun kid => order.mem_expired_iff keys.validKeys manager kid
  obtain ⟨middle, hadd, hmiddleActive, hmiddleKeys⟩ :=
    addNewKeys_of_fetchedRotated keys ⟨keys.validKeys, announced⟩ new (order.new_valid hknown)
      (fun kid hkid => hfetched kid ((hnewIff kid).mp hkid).1 ((hnewIff kid).mp hkid).2) manager
  have hkept : middle.activeKey ∉ expired := by
    rw [hmiddleActive, hactive, hexpiredIff]
    exact fun hout => hout.2 keys.active_valid
  obtain ⟨final, hremove, hfinalActive, hfinalKeys⟩ := invalidateKeys_ok expired middle hkept
  have hrun : pollKeys order ⟨keys.validKeys, announced⟩ keys.rows manager =
      .ok () final := by
    rw [pollKeys_run order keys.rows manager hnonempty]
    exact bind_eq_ok.mpr ⟨(), middle, hadd, hremove⟩
  rw [pollStore, stateAfter_of_ok hrun]
  constructor
  · ext kid
    rw [Finmap.mem_keys, List.mem_toFinset, hfinalKeys, hmiddleKeys, hexpiredIff, hnewIff]
    tauto
  · rw [hfinalActive, hmiddleActive, hactive]

/-- An iteration that converges met the condition. -/
theorem Converged.pollCondition (order : IterationOrder) {keys : GlobalKeys}
    {announced : List String} {manager : TokenManager}
    (hconverged :
      Converged keys (pollStore order ⟨keys.validKeys, announced⟩ keys.rows manager)) :
    PollCondition keys announced manager := by
  obtain ⟨hkeys, hactive⟩ := hconverged
  have hmem : ∀ kid ∈ keys.validKeys,
      kid ∈ (pollStore order ⟨keys.validKeys, announced⟩ keys.rows manager).keyMapping := by
    intro kid hkid
    rw [← Finmap.mem_keys, hkeys]
    exact List.mem_toFinset.mpr hkid
  have hnever : ∀ result, fetchUnexpiredKey ⟨keys.validKeys, announced⟩ keys.rows
      keys.activeKid ≠ .ok (some result) := by
    intro result
    rcases fetchUnexpiredKey_active keys ⟨keys.validKeys, announced⟩ with h | h <;> simp [h]
  have hactiveBefore : manager.activeKey = keys.activeKid := by
    by_contra hne
    exact keeps_pollKeys (I := fun m => m.activeKey ≠ keys.activeKid) order
      ⟨keys.validKeys, announced⟩ keys.rows (keeps_active_ne_addNewKey hnever)
      (keeps_active_invalidateKey (· ≠ keys.activeKid)) manager hne hactive
  have hknown : keys.activeKid ∈ manager.keyMapping := by
    by_contra hnot
    exact notMem_pollStore order hnever hnot (hmem keys.activeKid keys.active_valid)
  -- a kid with an announcement is never added
  have hannounced : ∀ kid ∈ keys.validKeys, kid ∉ manager.keyMapping → kid ∉ announced := by
    intro kid hkid hunknown hannounced
    have hskipped : ∀ result, fetchUnexpiredKey ⟨keys.validKeys, announced⟩ keys.rows kid ≠
        .ok (some result) := by
      intro result
      simp [fetchUnexpiredKey, hannounced]
    exact notMem_pollStore order hskipped hunknown (hmem kid hkid)
  refine ⟨hactiveBefore, hknown, fun kid hkid hunknown => ⟨hannounced kid hkid hunknown, ?_⟩⟩
  intro row hrow hrowKid hzero
  subst hrowKid
  have hvalid := order.new_valid hknown
  set new := order.enumerate (keys.validKeys.toFinset \ manager.keyMapping.keys)
  have hnew : row.kid ∈ new := (order.mem_new_iff keys.validKeys manager row.kid).mpr
    ⟨hkid, hunknown⟩
  obtain ⟨middle, hadd⟩ :=
    addNewKeys_ok keys ⟨keys.validKeys, announced⟩ new hvalid manager
  have hmiddle : middle.activeKey ≠ keys.activeKid :=
    addNewKeys_of_zero keys ⟨keys.validKeys, announced⟩ new hvalid hrow hnew
      (hannounced row.kid hkid hunknown) hzero hadd
  -- the removals do not bring the active key back
  rw [pollStore, stateAfter_congr (pollKeys_run order keys.rows manager
    (List.ne_nil_of_mem keys.active_valid)), stateAfter_bind_of_ok hadd] at hactive
  exact Keeps.forM (fun expired _ => keeps_active_invalidateKey (· ≠ keys.activeKid) expired)
    middle hmiddle hactive

/-- One iteration without a store error ends with the global keys and their active key if
and only if the active key was known and active before, and every new key is fetched as a
verification key. -/
theorem pollStore_converges_iff (order : IterationOrder) (keys : GlobalKeys)
    (announced : List String) (manager : TokenManager) :
    Converged keys (pollStore order ⟨keys.validKeys, announced⟩ keys.rows manager) ↔
      PollCondition keys announced manager :=
  ⟨Converged.pollCondition order, PollCondition.converged order⟩

/-- Iteration in the order of the strings. -/
def sortedOrder : IterationOrder where
  enumerate keys := keys.sort (· ≤ ·)
  nodup keys := keys.sort_nodup (· ≤ ·)
  mem_enumerate _ _ := Finset.mem_sort (· ≤ ·)

/-- A table after a rotation, and its global keys. -/
def afterRotation : GlobalKeys where
  rows :=
    [{ kid := "1", epoch := 10, rotatedOutAt := some 20, expiredAt := none, alg := "ES256",
       curve := "SECP256k1", privatePem := "s1", publicPem := "p1" },
     { kid := "2", epoch := 20, rotatedOutAt := none, expiredAt := none, alg := "ES256",
       curve := "SECP256k1", privatePem := "s2", publicPem := "p2" }]
  kids_nodup := by decide
  validKeys := ["2", "1"]
  valid_unexpired := by decide
  activeKid := "2"
  active_valid := by decide
  active_iff := by decide

/-- The manager of a worker that has not seen the rotation. -/
def beforeRotation : TokenManager :=
  setKeyState "1" ⟨"p1", "s1", "ES256", 10, none⟩ none

/-- A rotation by another worker is never adopted. -/
theorem rotation_not_polled :
    ¬ Converged afterRotation
      (pollStore sortedOrder ⟨afterRotation.validKeys, []⟩ afterRotation.rows
        beforeRotation) := by
  intro hconverged
  obtain ⟨hactive, _⟩ := Converged.pollCondition sortedOrder hconverged
  exact absurd hactive (by decide)

end AuthServer
end Tenjin
