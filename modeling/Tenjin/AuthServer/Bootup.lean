import Tenjin.AuthServer.TokenManager

/-!
# The bootup of the master and of the slaves

`master_bootup` and `slave_bootup` of `bootup.py` over the key table, the JWKS file, the
`VALID_KEYS` list and the token manager.

* The master takes the first key of the query as the active one, and inserts a new key in
  front if there is none.  A slave reads the first keys up to the limit and finds the
  active one among them.
* Expiring the keys beyond the limit is a coroutine that nobody awaits, so the table keeps
  them (`masterBootupServer_rows`).
* `bootups_agree_iff` says when the four stores and a slave agree: the unexpired keys, with
  the new one if there is no active key, are within the limit.
-/

namespace Tenjin
namespace AuthServer

open Foundation
open Python

/-- `get_relevant_keydata` without a limit, with the PEM columns. -/
def relevantRows (rows : List KeyRow) : List KeyRow :=
  (rows.filter fun row => row.expiredAt = none).insertionSort fun a b => b.epoch ≤ a.epoch

/-- What the master makes of a row. -/
def masterMetadata (key : KeyRow) : KeyMetadata :=
  ⟨key.publicPem, key.privatePem, "ES256", key.epoch, none⟩

/-- What a slave makes of a row. -/
def slaveMetadata (key : KeyRow) : KeyMetadata :=
  ⟨key.publicPem, key.privatePem, key.alg, key.epoch, key.rotatedOutAt⟩

/-- A dictionary of keys. -/
def keyMappingOf (metadata : KeyRow → KeyMetadata) (keys : List KeyRow) : KeyMapping :=
  keys.foldl (fun mapping key => mapping.insert key.kid (metadata key)) ∅

/-- What a bootup of the master leaves behind. -/
structure BootedServer where
  rows : List KeyRow
  jwks : List String
  validKeys : List String
  manager : TokenManager

/-- The end of `master_bootup`: the first key is the active one.  `LPUSH` turns the list
around. -/
def bootWith (rows : List KeyRow) (active : KeyRow) (rotated : List KeyRow) : BootedServer where
  rows := rows
  jwks := initializeJwks (keyData (active :: rotated))
  validKeys := (kids (keyData rotated) ++ [active.kid]).reverse
  manager := setKeyState active.kid (masterMetadata active)
    (if rotated = [] then none else some (keyMappingOf masterMetadata rotated))

/-- `master_bootup`; `drawn` is the row of `initialize_active_key`.  A database error ends
it. -/
def masterBootupServer (limit : KeyLimit) (drawn : KeyRow) (rows : List KeyRow) :
    Except ServerExn BootedServer :=
  match relevantRows rows with
  | [] => do
      let inserted ← insertKey drawn rows
      .ok (bootWith inserted drawn [])
  | first :: rest => do
      let keydata := first :: rest
      let verificationOnlyKeys := keydata.filter fun row => row.rotatedOutAt ≠ none
      let missingActive := keydata.length = verificationOnlyKeys.length
      -- `expire_keydata` is not awaited
      let kept := if limit.capacity < keydata.length then keydata.take limit.capacity
        else keydata
      if missingActive then
        let inserted ← insertKey drawn rows
        .ok (bootWith inserted drawn kept)
      else .ok (bootWith rows first kept.tail)

/-- One key of the loop of `slave_bootup`. -/
def slaveKey (state : Option KeyRow × KeyMapping) (key : KeyRow) :
    Option KeyRow × KeyMapping :=
  if key.rotatedOutAt ≠ none then (state.1, state.2.insert key.kid (slaveMetadata key))
  else (some key, state.2)

/-- `slave_bootup`, after the wait for the master. -/
def slaveBootup (limit : KeyLimit) (rows : List KeyRow) : Except Exn TokenManager :=
  let keys := (relevantRows rows).take limit.capacity
  if keys = [] then .error .valueError
  else
    match keys.foldl slaveKey (none, ∅) with
    | (none, _) => .error .runtimeError
    | (some active, mapping) => .ok (setKeyState active.kid (slaveMetadata active) (some mapping))

/-- A key table whose unexpired keys are all rotated out but at most one, the one of the
newest epoch. -/
structure BootTable where
  rows : List KeyRow
  kids_nodup : (kids (keyData rows)).Nodup
  active_newest : ∀ row ∈ rows, row.expiredAt = none → row.rotatedOutAt = none →
    ∀ other ∈ rows, other.expiredAt = none → other ≠ row →
      other.rotatedOutAt ≠ none ∧ other.epoch < row.epoch

/-- The row that a bootup may draw: a new active key that the table can take. -/
structure DrawnKey (rows : List KeyRow) where
  row : KeyRow
  active : row.rotatedOutAt = none
  unexpired : row.expiredAt = none
  fresh : ¬ Collides row rows

/-- After the bootup of the master no more keys are kept than the limit, the four stores
name the same kids, and a slave installs the same active kid and the same verification
kids. -/
structure BootupsAgree (limit : KeyLimit) (server : BootedServer) : Prop where
  within_limit : server.jwks.length ≤ limit.capacity
  manager_jwks : ∀ kid, kid ∈ server.manager.keyMapping ↔ kid ∈ server.jwks
  validKeys_jwks : SameElements server.validKeys server.jwks
  rows_jwks : SameElements (kids (unexpired (keyData server.rows))) server.jwks
  slave : ∃ slave, slaveBootup limit server.rows = .ok slave ∧
    slave.activeKey = server.manager.activeKey ∧
    ∀ kid, kid ≠ server.manager.activeKey →
      (kid ∈ slave.keyMapping ↔ kid ∈ server.manager.keyMapping)

/-- The unexpired keys that are not rotated out. -/
def activeRows (rows : List KeyRow) : List KeyRow :=
  rows.filter fun row => row.expiredAt = none ∧ row.rotatedOutAt = none

/-- The keys that the bootup has to keep: the unexpired ones, and a new one if there is no
active key. -/
def neededKeys (rows : List KeyRow) : ℕ :=
  countUnexpired rows + if activeRows rows = [] then 1 else 0

theorem mem_relevantRows {rows : List KeyRow} {row : KeyRow} :
    row ∈ relevantRows rows ↔ row ∈ rows ∧ row.expiredAt = none := by
  rw [relevantRows, List.mem_insertionSort, List.mem_filter, decide_eq_true_eq]

theorem relevantRows_perm (rows : List KeyRow) :
    (relevantRows rows).Perm (rows.filter fun row => row.expiredAt = none) :=
  List.perm_insertionSort _ _

/-- The relevant rows, read without the PEM columns. -/
theorem keyData_relevantRows (rows : List KeyRow) :
    keyData (relevantRows rows) = getRelevantKeydata (keyData rows) := by
  unfold keyData relevantRows getRelevantKeydata unexpired
  rw [List.map_insertionSort (s := fun a b : KeyData => b.epoch ≤ a.epoch) _ _ _
    fun a _ b _ => Iff.rfl]
  rw [List.filter_map]
  rfl

/-- The ids of the relevant rows are the unexpired ones. -/
theorem kids_relevantRows_perm (rows : List KeyRow) :
    (kids (keyData (relevantRows rows))).Perm (kids (unexpired (keyData rows))) := by
  rw [keyData_relevantRows]
  exact kids_getRelevantKeydata_perm _

theorem length_relevantRows (rows : List KeyRow) :
    (relevantRows rows).length = countUnexpired rows := by
  have hlength := (kids_relevantRows_perm rows).length_eq
  simpa [kids, keyData, countUnexpired] using hlength

theorem mem_keyMappingOf {metadata : KeyRow → KeyMetadata} {keys : List KeyRow} {kid : String} :
    kid ∈ keyMappingOf metadata keys ↔ kid ∈ kids (keyData keys) := by
  have hfold : ∀ mapping : KeyMapping,
      kid ∈ keys.foldl (fun mapping key => mapping.insert key.kid (metadata key)) mapping ↔
        kid ∈ mapping ∨ kid ∈ kids (keyData keys) := by
    induction keys with
    | nil => intro mapping; simp [kids, keyData]
    | cons key keys ih =>
        intro mapping
        rw [List.foldl_cons, ih, Finmap.mem_insert]
        simp only [keyData, kids, List.map_cons, List.mem_cons]
        tauto
  rw [keyMappingOf, hfold ∅]
  exact or_iff_right Finmap.notMem_empty

/-- The mapping that a slave builds has the kids of the rotated keys. -/
theorem mem_slaveKeys {keys : List KeyRow} {state : Option KeyRow × KeyMapping} {kid : String} :
    kid ∈ (keys.foldl slaveKey state).2 ↔
      kid ∈ state.2 ∨ ∃ key ∈ keys, key.rotatedOutAt ≠ none ∧ key.kid = kid := by
  induction keys generalizing state with
  | nil => simp
  | cons key keys ih =>
      rw [List.foldl_cons, ih]
      by_cases hrotated : key.rotatedOutAt = none
      · simp [slaveKey, hrotated]
      · simp only [slaveKey, ne_eq, hrotated, not_false_eq_true, if_true, Finmap.mem_insert,
          List.exists_mem_cons_iff, true_and]
        tauto

/-- The active key that a slave finds, where there is only one. -/
theorem slaveKeys_active {keys : List KeyRow} (state : Option KeyRow × KeyMapping)
    {active : KeyRow} (honly : ∀ key ∈ keys, key.rotatedOutAt = none → key = active)
    (hactive : active.rotatedOutAt = none) (hfound : active ∈ keys ∨ state.1 = some active) :
    (keys.foldl slaveKey state).1 = some active := by
  induction keys generalizing state with
  | nil => exact hfound.resolve_left List.not_mem_nil
  | cons key keys ih =>
      rw [List.foldl_cons]
      apply ih _ fun other hother => honly other (List.mem_cons_of_mem _ hother)
      by_cases hrotated : key.rotatedOutAt = none
      · right
        have hsame := honly key (List.mem_cons_self ..) hrotated
        simp [slaveKey, hsame, hactive]
      · rcases hfound with hmem | hstate
        · rcases List.mem_cons.mp hmem with rfl | hmem
          · exact absurd hactive hrotated
          · exact .inl hmem
        · right
          simpa [slaveKey, hrotated] using hstate

/-- A slave whose limit covers the table installs its active key and all unexpired kids. -/
theorem slaveBootup_of_within {limit : KeyLimit} {rows : List KeyRow} {active : KeyRow}
    (hwithin : (relevantRows rows).length ≤ limit.capacity) (hmem : active ∈ relevantRows rows)
    (hactive : active.rotatedOutAt = none)
    (honly : ∀ key ∈ relevantRows rows, key.rotatedOutAt = none → key = active) :
    ∃ slave, slaveBootup limit rows = .ok slave ∧ slave.activeKey = active.kid ∧
      ∀ kid, kid ∈ slave.keyMapping ↔ kid ∈ kids (keyData (relevantRows rows)) := by
  have hfound := slaveKeys_active (none, ∅) honly hactive (.inl hmem)
  refine ⟨setKeyState active.kid (slaveMetadata active)
    (some ((relevantRows rows).foldl slaveKey (none, ∅)).2), ?_, rfl, fun kid => ?_⟩
  · unfold slaveBootup
    rw [List.take_of_length_le hwithin]
    dsimp only
    rw [if_neg (List.ne_nil_of_mem hmem)]
    cases hloop : (relevantRows rows).foldl slaveKey (none, ∅) with
    | mk found mapping =>
        rw [hloop] at hfound
        cases hfound
        rfl
  · rw [mem_setKeyState, Option.getD_some, mem_slaveKeys]
    constructor
    · rintro (rfl | hempty | ⟨key, hkey, _, rfl⟩)
      · exact List.mem_map.mpr ⟨active.toKeyData, List.mem_map.mpr ⟨active, hmem, rfl⟩, rfl⟩
      · exact absurd hempty Finmap.notMem_empty
      · exact List.mem_map.mpr ⟨key.toKeyData, List.mem_map.mpr ⟨key, hkey, rfl⟩, rfl⟩
    · intro hkid
      obtain ⟨data, hdata, hsame⟩ := List.mem_map.mp hkid
      obtain ⟨key, hkey, rfl⟩ := List.mem_map.mp hdata
      by_cases hrotated : key.rotatedOutAt = none
      · left
        rw [← honly key hkey hrotated]
        exact hsame.symm
      · exact .inr (.inr ⟨key, hkey, hrotated, hsame⟩)

/-- The token manager and the two lists of a bootup name the same kids in any case. -/
theorem bootWith_kids (rows : List KeyRow) (active : KeyRow) (rotated : List KeyRow)
    (kid : String) :
    (kid ∈ (bootWith rows active rotated).manager.keyMapping ↔
      kid ∈ (bootWith rows active rotated).jwks) ∧
    (kid ∈ (bootWith rows active rotated).validKeys ↔
      kid ∈ (bootWith rows active rotated).jwks) := by
  have hjwks : kid ∈ (bootWith rows active rotated).jwks ↔
      kid = active.kid ∨ kid ∈ kids (keyData rotated) := by
    simp [bootWith, initializeJwks, kids, keyData]
  rw [hjwks]
  constructor
  · show kid ∈ (setKeyState active.kid (masterMetadata active) _).keyMapping ↔ _
    rw [mem_setKeyState]
    by_cases hrotated : rotated = []
    · simp [hrotated, kids, keyData, Finmap.notMem_empty]
    · rw [if_neg hrotated, Option.getD_some, mem_keyMappingOf]
  · show kid ∈ (kids (keyData rotated) ++ [active.kid]).reverse ↔ _
    rw [List.mem_reverse, List.mem_append, List.mem_singleton]
    exact or_comm

/-- A bootup that keeps all the unexpired keys of the table, within the limit, agrees. -/
theorem bootWith_agrees {limit : KeyLimit} {rows : List KeyRow} {active : KeyRow}
    {rotated : List KeyRow} (hperm : (relevantRows rows).Perm (active :: rotated))
    (hwithin : rotated.length + 1 ≤ limit.capacity) (hactive : active.rotatedOutAt = none)
    (hrotated : ∀ key ∈ rotated, key.rotatedOutAt ≠ none) :
    BootupsAgree limit (bootWith rows active rotated) where
  within_limit := by
    simpa [bootWith, initializeJwks, kids, keyData] using hwithin
  manager_jwks kid := (bootWith_kids rows active rotated kid).1
  validKeys_jwks kid := (bootWith_kids rows active rotated kid).2
  rows_jwks kid := by
    show kid ∈ kids (unexpired (keyData rows)) ↔ kid ∈ kids (keyData (active :: rotated))
    rw [← (kids_relevantRows_perm rows).mem_iff]
    exact ((hperm.map KeyRow.toKeyData).map KeyData.kid).mem_iff
  slave := by
    have honly : ∀ key ∈ relevantRows rows, key.rotatedOutAt = none → key = active := by
      intro key hkey hnone
      rcases List.mem_cons.mp (hperm.mem_iff.mp hkey) with hsame | hmem
      · exact hsame
      · exact absurd hnone (hrotated key hmem)
    have hlength : (relevantRows rows).length ≤ limit.capacity := by
      rw [hperm.length_eq]
      exact hwithin
    obtain ⟨slave, hslave, hslaveActive, hslaveKids⟩ := slaveBootup_of_within hlength
      (hperm.mem_iff.mpr (List.mem_cons_self ..)) hactive honly
    refine ⟨slave, hslave, hslaveActive, fun kid _ => ?_⟩
    rw [hslaveKids, (bootWith_kids rows active rotated kid).1]
    exact ((hperm.map KeyRow.toKeyData).map KeyData.kid).mem_iff

/-- The first of the relevant rows is the active one, if there is one. -/
theorem BootTable.first_active (table : BootTable) {first : KeyRow} {rest : List KeyRow}
    (hrelevant : relevantRows table.rows = first :: rest) {active : KeyRow}
    (hmem : active ∈ table.rows) (hunexpired : active.expiredAt = none)
    (hactive : active.rotatedOutAt = none) : active = first := by
  by_contra hne
  have hfirst : first ∈ relevantRows table.rows := hrelevant ▸ List.mem_cons_self ..
  obtain ⟨hfirstMem, hfirstUnexpired⟩ := mem_relevantRows.mp hfirst
  obtain ⟨_, hnewer⟩ := table.active_newest active hmem hunexpired hactive first hfirstMem
    hfirstUnexpired (fun hsame => hne hsame.symm)
  -- the rows are sorted, the newest first
  have hrest : active ∈ rest := by
    have hin : active ∈ relevantRows table.rows := mem_relevantRows.mpr ⟨hmem, hunexpired⟩
    rw [hrelevant] at hin
    exact (List.mem_cons.mp hin).resolve_left hne
  have : IsTrans KeyRow fun a b => b.epoch ≤ a.epoch := ⟨fun _ _ _ h h' => h'.trans h⟩
  have : Std.Total fun a b : KeyRow => b.epoch ≤ a.epoch := ⟨fun a b => le_total b.epoch a.epoch⟩
  have hsorted : (relevantRows table.rows).Pairwise fun a b => b.epoch ≤ a.epoch :=
    List.pairwise_insertionSort _ _
  rw [hrelevant, List.pairwise_cons] at hsorted
  have holder := hsorted.1 active hrest
  omega

/-- The relevant rows occur once each. -/
theorem BootTable.relevantRows_nodup (table : BootTable) : (relevantRows table.rows).Nodup := by
  have hkids : (kids (keyData (relevantRows table.rows))).Nodup :=
    (kids_relevantRows_perm table.rows).symm.nodup (kids_unexpired_nodup table.kids_nodup)
  exact hkids.of_map.of_map

/-- The relevant rows after the insertion of a new key. -/
theorem relevantRows_append {rows : List KeyRow} (drawn : DrawnKey rows) :
    (relevantRows (rows ++ [drawn.row])).Perm (drawn.row :: relevantRows rows) := by
  have hfilter : (rows ++ [drawn.row]).filter (fun row => row.expiredAt = none) =
      rows.filter (fun row => row.expiredAt = none) ++ [drawn.row] := by
    rw [List.filter_append]
    simp [drawn.unexpired]
  have hperm := relevantRows_perm (rows ++ [drawn.row])
  rw [hfilter] at hperm
  exact hperm.trans (List.perm_append_singleton _ _ |>.trans
    ((relevantRows_perm rows).symm.cons drawn.row))

/-- Whether the query for the active key fails. -/
theorem activeRows_eq_nil_iff (rows : List KeyRow) :
    activeRows rows = [] ↔
      (relevantRows rows).length =
        ((relevantRows rows).filter fun row => row.rotatedOutAt ≠ none).length := by
  have hall : (relevantRows rows).length =
      ((relevantRows rows).filter fun row => row.rotatedOutAt ≠ none).length ↔
      ∀ row ∈ relevantRows rows, decide (row.rotatedOutAt ≠ none) = true := by
    rw [eq_comm]
    exact List.length_filter_eq_length_iff
  rw [hall, activeRows, List.filter_eq_nil_iff]
  constructor
  · intro h row hrow
    obtain ⟨hmem, hunexpired⟩ := mem_relevantRows.mp hrow
    simpa [hunexpired] using h row hmem
  · intro h row hmem
    by_cases hunexpired : row.expiredAt = none
    · simpa [hunexpired] using h row (mem_relevantRows.mpr ⟨hmem, hunexpired⟩)
    · simp [hunexpired]

/-- What the master boots with: a new key in front of the kept ones if there is no active
key, and else the kept ones. -/
theorem masterBootupServer_eq (limit : KeyLimit) {rows : List KeyRow} (drawn : DrawnKey rows) :
    masterBootupServer limit drawn.row rows =
      .ok (if activeRows rows = [] then
        bootWith (rows ++ [drawn.row]) drawn.row ((relevantRows rows).take limit.capacity)
      else
        match relevantRows rows with
        | [] => bootWith (rows ++ [drawn.row]) drawn.row []
        | first :: rest => bootWith rows first (rest.take (limit.capacity - 1))) := by
  have hinsert : insertKey drawn.row rows = .ok (rows ++ [drawn.row]) := if_neg drawn.fresh
  unfold masterBootupServer
  cases hrelevant : relevantRows rows with
  | nil =>
      have hnil : activeRows rows = [] := by
        rw [activeRows_eq_nil_iff, hrelevant]
        rfl
      rw [if_pos hnil]
      dsimp only
      rw [hinsert, List.take_nil]
      rfl
  | cons first rest =>
      have hmissing := activeRows_eq_nil_iff rows
      rw [hrelevant] at hmissing
      dsimp only
      rw [ite_take_eq_take, hinsert]
      by_cases hnone : activeRows rows = []
      · rw [if_pos hnone, if_pos (hmissing.mp hnone)]
        rfl
      · rw [if_neg hnone, if_neg fun h => hnone (hmissing.mpr h)]
        have htail : ((first :: rest).take limit.capacity).tail =
            rest.take (limit.capacity - 1) := by
          obtain ⟨n, hn⟩ := Nat.exists_eq_add_of_le' limit.capacity_pos
          rw [hn]
          rfl
        rw [htail]

/-- The table after a bootup: no row expires. -/
theorem masterBootupServer_rows {limit : KeyLimit} {rows : List KeyRow}
    (drawn : DrawnKey rows) {server : BootedServer}
    (h : masterBootupServer limit drawn.row rows = .ok server) :
    server.rows = rows ∨ server.rows = rows ++ [drawn.row] := by
  rw [masterBootupServer_eq limit drawn] at h
  cases h
  split
  · exact .inr rfl
  · split
    · exact .inr rfl
    · exact .inl rfl

/-- A bootup without an active key agrees exactly when there is room for a new one. -/
theorem missingActive_agree_iff {limit : KeyLimit} {rows : List KeyRow} (drawn : DrawnKey rows)
    (hnone : activeRows rows = []) :
    BootupsAgree limit (bootWith (rows ++ [drawn.row]) drawn.row
        ((relevantRows rows).take limit.capacity)) ↔
      countUnexpired rows + 1 ≤ limit.capacity := by
  have hlength := length_relevantRows rows
  constructor
  · intro hagree
    have hwithin := hagree.within_limit
    simp only [bootWith, initializeJwks, kids, keyData, List.map_cons, List.length_cons,
      List.length_map, List.length_take] at hwithin
    omega
  · intro hroom
    rw [List.take_of_length_le (by omega)]
    apply bootWith_agrees (relevantRows_append drawn) (by omega) drawn.active
    intro key hkey hactive
    obtain ⟨hmem, hunexpired⟩ := mem_relevantRows.mp hkey
    have hactiveRow : key ∈ activeRows rows :=
      List.mem_filter.mpr ⟨hmem, by simp [hunexpired, hactive]⟩
    rw [hnone] at hactiveRow
    cases hactiveRow

/-- A bootup with an active key agrees exactly when the unexpired keys are within the
limit. -/
theorem BootTable.active_agree_iff {limit : KeyLimit} (table : BootTable) {first : KeyRow}
    {rest : List KeyRow} (hrelevant : relevantRows table.rows = first :: rest)
    (hsome : activeRows table.rows ≠ []) :
    BootupsAgree limit (bootWith table.rows first (rest.take (limit.capacity - 1))) ↔
      countUnexpired table.rows ≤ limit.capacity := by
  have hlength := length_relevantRows table.rows
  rw [hrelevant, List.length_cons] at hlength
  have hpositive := limit.capacity_pos
  constructor
  · -- the file has the kids of the table, and they are no more than the limit
    intro hagree
    have hperm := hagree.rows_jwks
    have hkept : (bootWith table.rows first (rest.take (limit.capacity - 1))).jwks.Nodup := by
      have hsub : (first :: rest.take (limit.capacity - 1)).Sublist (first :: rest) :=
        (List.take_sublist _ _).cons_cons first
      have hnodup : (kids (keyData (first :: rest))).Nodup := by
        rw [← hrelevant]
        exact (kids_relevantRows_perm table.rows).symm.nodup
          (kids_unexpired_nodup table.kids_nodup)
      exact ((hsub.map KeyRow.toKeyData).map KeyData.kid).nodup hnodup
    have hsame := hperm.length_eq (kids_unexpired_nodup table.kids_nodup) hkept
    have hwithin := hagree.within_limit
    rw [← hsame] at hwithin
    rwa [countUnexpired_eq]
  · intro hroom
    rw [List.take_of_length_le (by omega)]
    obtain ⟨active, hactiveRow⟩ := List.exists_mem_of_ne_nil _ hsome
    obtain ⟨hmem, hcondition⟩ := List.mem_filter.mp hactiveRow
    simp only [decide_eq_true_eq] at hcondition
    have hfirst : active = first :=
      table.first_active hrelevant hmem hcondition.1 hcondition.2
    subst hfirst
    have hnodup := table.relevantRows_nodup
    rw [hrelevant, List.nodup_cons] at hnodup
    apply bootWith_agrees (hrelevant ▸ List.Perm.refl _) (by omega) hcondition.2
    intro key hkey
    have hkeyRelevant : key ∈ relevantRows table.rows :=
      hrelevant ▸ List.mem_cons_of_mem _ hkey
    obtain ⟨hkeyMem, hkeyUnexpired⟩ := mem_relevantRows.mp hkeyRelevant
    exact (table.active_newest active hmem hcondition.1 hcondition.2 key hkeyMem hkeyUnexpired
      fun hsame => hnodup.1 (hsame ▸ hkey)).1

/-- For every table and every limit, after the bootup of the master the stores and the
slaves agree if and only if the unexpired keys, and a new one if there is no active key,
are within the limit. -/
theorem bootups_agree_iff (limit : KeyLimit) (table : BootTable)
    (drawn : DrawnKey table.rows) :
    (∃ server, masterBootupServer limit drawn.row table.rows = .ok server ∧
        BootupsAgree limit server) ↔
      neededKeys table.rows ≤ limit.capacity := by
  rw [masterBootupServer_eq limit drawn]
  unfold neededKeys
  by_cases hnone : activeRows table.rows = []
  · rw [if_pos hnone, if_pos hnone, ← missingActive_agree_iff drawn hnone]
    constructor
    · rintro ⟨server, hserver, hagree⟩
      cases hserver
      exact hagree
    · intro hagree
      exact ⟨_, rfl, hagree⟩
  · rw [if_neg hnone, if_neg hnone]
    cases hrelevant : relevantRows table.rows with
    | nil =>
        exfalso
        apply hnone
        rw [activeRows_eq_nil_iff, hrelevant]
        rfl
    | cons first rest =>
        dsimp only
        rw [Nat.add_zero, ← table.active_agree_iff hrelevant hnone]
        constructor
        · rintro ⟨server, hserver, hagree⟩
          cases hserver
          exact hagree
        · intro hagree
          exact ⟨_, rfl, hagree⟩

/-- A table with one key more than its limit. -/
def overfullTable : BootTable where
  rows := afterRotation.rows
  kids_nodup := afterRotation.kids_nodup
  active_newest := by decide

/-- A key that this table can take. -/
def overfullDrawn : DrawnKey overfullTable.rows where
  row := { kid := "3", epoch := 30, rotatedOutAt := none, expiredAt := none, alg := "ES256",
           curve := "SECP256k1", privatePem := "s3", publicPem := "p3" }
  active := rfl
  unexpired := rfl
  fresh := by decide

/-- With a limit of one key, the file loses the rotated key and the table keeps it. -/
theorem overfull_disagrees :
    ¬ ∃ server, masterBootupServer ⟨1, Nat.le_refl 1⟩ overfullDrawn.row overfullTable.rows =
      .ok server ∧ BootupsAgree ⟨1, Nat.le_refl 1⟩ server := by
  rintro ⟨server, hserver, hagree⟩
  have hsome : activeRows overfullTable.rows ≠ [] := by decide
  have hrelevant : relevantRows overfullTable.rows = overfullTable.rows.reverse := by decide
  rw [masterBootupServer_eq, if_neg hsome, hrelevant] at hserver
  cases hserver
  have hwithin := (overfullTable.active_agree_iff hrelevant hsome).mp hagree
  exact absurd hwithin (by decide)

end AuthServer
end Tenjin
