import Mathlib.Data.List.Sort
import Tenjin.Foundation.BoundedWindow
import Tenjin.Foundation.GuardedRun

/-!
# The JWKS file and the key table

The key table of the authentication server and the file that publishes its keys:
`master_bootup` of `bootup.py`, the writers of `keygen.py`, and `rotate_keys`,
`invalidate_key` and `clean_keystore` of `keys.py`, as far as they touch the two.

* The file is the list of its key ids, in order.
* A label carries what is drawn for an operation: the new key id, the clock, and the row
  that the database picks where the query leaves a choice.
* `FileAgrees` is the purpose: the file holds the ids of the unexpired rows.
* The file is trimmed by position and the table by the time of rotation; after a bootup
  the file starts with the newest key, so the two trim different keys
  (`always_fileAgrees_iff`).
-/

namespace Tenjin
namespace AuthServer

open Foundation

/-- A row of `keydata`. -/
structure KeyData where
  kid : String
  epoch : Int
  rotatedOutAt : Option Int
  expiredAt : Option Int
  deriving DecidableEq

/-- `JWKS_CAP` and `MAX_VALID_KEYS`, equal and positive. -/
structure KeyLimit where
  capacity : ℕ
  capacity_pos : 1 ≤ capacity

/-- The rows that are not expired. -/
def unexpired (rows : List KeyData) : List KeyData :=
  rows.filter fun row => row.expiredAt = none

/-- The key ids of rows. -/
def kids (rows : List KeyData) : List String := rows.map KeyData.kid

/-- The rows that were never rotated out. -/
def activeKeys (rows : List KeyData) : List KeyData :=
  rows.filter fun row => row.rotatedOutAt = none

/-- `get_relevant_keydata` without a limit: the latest epoch first. -/
def getRelevantKeydata (rows : List KeyData) : List KeyData :=
  (unexpired rows).insertionSort fun a b => b.epoch ≤ a.epoch

/-- `UPDATE ... SET expired_at` of the rows with one of the ids. -/
def expireKids (expired : List String) (now : Int) (rows : List KeyData) : List KeyData :=
  rows.map fun row => if row.kid ∈ expired then { row with expiredAt := some now } else row

/-- `initialize_jwks`. -/
def initializeJwks (keys : List KeyData) : List String := kids keys

/-- `update_jwks`. -/
def updateJwks (file : List String) (kid : String) (capacity : ℕ) : List String :=
  push capacity file kid

/-- `master_bootup`: the table and the file afterwards, and the new key that it draws if
it needs one.  Expiring the keys beyond the limit is a coroutine that nobody awaits. -/
def masterBootup (limit : KeyLimit) (kid : String) (epoch : Int) (rows : List KeyData) :
    List KeyData × List String :=
  let keydata := getRelevantKeydata rows
  let activeKey : KeyData := ⟨kid, epoch, none, none⟩
  if keydata = [] then (rows ++ [activeKey], initializeJwks [activeKey])
  else
    let verificationOnlyKeys := keydata.filter fun row => row.rotatedOutAt ≠ none
    let missingActive := keydata.length = verificationOnlyKeys.length
    let keydata := if limit.capacity < keydata.length then keydata.take limit.capacity
      else keydata
    if missingActive then (rows ++ [activeKey], initializeJwks (activeKey :: keydata))
    else (rows, initializeJwks keydata)

/-- The rotation in the table: the active key is rotated out and a new one inserted. -/
def rotateActive (previous kid : String) (epoch now : Int) (rows : List KeyData) :
    List KeyData :=
  rows.map (fun row =>
    if row.kid = previous then { row with rotatedOutAt := some now } else row) ++
    [⟨kid, epoch, none, none⟩]

/-- The rows among which the rotation looks for the oldest key. -/
def rotatedUnexpired (rows : List KeyData) : List KeyData :=
  rows.filter fun row => row.rotatedOutAt ≠ none ∧ row.expiredAt = none

/-- The id is an answer to the query for the oldest key, first in the order of
`rotated_out_at`. -/
def IsOldest (rows : List KeyData) (kid : String) : Prop :=
  ∃ row ∈ rotatedUnexpired rows, row.kid = kid ∧
    ∀ other ∈ rotatedUnexpired rows,
      row.rotatedOutAt.getD 0 ≤ other.rotatedOutAt.getD 0

instance (rows : List KeyData) (kid : String) : Decidable (IsOldest rows kid) :=
  inferInstanceAs (Decidable (∃ row ∈ rotatedUnexpired rows, row.kid = kid ∧
    ∀ other ∈ rotatedUnexpired rows,
      row.rotatedOutAt.getD 0 ≤ other.rotatedOutAt.getD 0))

/-- The table and the file.  There is no file before the first bootup. -/
structure KeyState where
  rows : List KeyData
  file : Option (List String)
  deriving DecidableEq

/-- The operations. -/
inductive KeyLabel
  | bootup (kid : String) (epoch : Int)
  | rotate (kid : String) (epoch now : Int) (oldest : String)
  | invalidate (kid : String) (now : Int)
  | clean (now : Int)

/-- `rotate_keys` with the file at hand. -/
def rotateKeys (limit : KeyLimit) (kid : String) (epoch now : Int) (oldest : String)
    (rows : List KeyData) (file : List String) : Option KeyState :=
  match activeKeys rows with
  | [previous] =>
      if kid ∈ kids rows then none
      else
        let rows := rotateActive previous.kid kid epoch now rows
        if limit.capacity < (unexpired rows).length then
          if IsOldest rows oldest then
            some ⟨expireKids [oldest] now rows, some (updateJwks file kid limit.capacity)⟩
          else none
        else some ⟨rows, some (updateJwks file kid limit.capacity)⟩
  | _ => none

/-- `invalidate_key`: the key exists, is rotated out and not expired. -/
def invalidateKey (kid : String) (now : Int) (rows : List KeyData) (file : List String) :
    Option KeyState :=
  match rows.find? fun row => row.kid = kid with
  | none => none
  | some target =>
      if target.rotatedOutAt = none then none
      else if target.expiredAt ≠ none then none
      else some ⟨expireKids [kid] now rows, some (file.filter (· ≠ kid))⟩

/-- `clean_keystore`: refused when the file has a single key. -/
def cleanKeystore (now : Int) (rows : List KeyData) (file : List String) :
    Option KeyState :=
  if file.length = 1 then none
  else
    match activeKeys rows with
    | [active] =>
        some ⟨expireKids (kids (rotatedUnexpired rows)) now rows, some [active.kid]⟩
    | _ => none

/-- One successful operation.  A key id that is drawn is the primary key of no row. -/
def keyStep (limit : KeyLimit) (st : KeyState) : KeyLabel → Option KeyState
  | .bootup kid epoch =>
      if kid ∈ kids st.rows then none
      else
        let (rows, file) := masterBootup limit kid epoch st.rows
        some ⟨rows, some file⟩
  | .rotate kid epoch now oldest =>
      match st.file with
      | none => none
      | some file => rotateKeys limit kid epoch now oldest st.rows file
  | .invalidate kid now =>
      match st.file with
      | none => none
      | some file => invalidateKey kid now st.rows file
  | .clean now =>
      match st.file with
      | none => none
      | some file => cleanKeystore now st.rows file

/-- The file holds the ids of the unexpired rows. -/
def FileAgrees (st : KeyState) : Prop :=
  ∀ file, st.file = some file → SameElements file (kids (unexpired st.rows))

/-- The condition on a step: a bootup finds no more unexpired keys than the limit; a
rotation finds less, or just as many and then the file starts with the key that the table
is about to expire. -/
def KeyStepSound (limit : KeyLimit) (st : KeyState) : KeyLabel → Prop
  | .bootup _ _ => (unexpired st.rows).length ≤ limit.capacity
  | .rotate _ _ _ oldest =>
      (unexpired st.rows).length < limit.capacity ∨
        ((unexpired st.rows).length = limit.capacity ∧
          ∀ file, st.file = some file → file.head? = some oldest)
  | .invalidate _ _ => True
  | .clean _ => True

/-- A key table: ids are primary keys, and only keys that are rotated out expire. -/
structure KeyTable where
  rows : List KeyData
  kids_nodup : (kids rows).Nodup
  active_unexpired : ∀ row ∈ rows, row.rotatedOutAt = none → row.expiredAt = none

/-- What holds of the table and the file in every state of a run. -/
structure KeyInvariant (st : KeyState) : Prop where
  kids_nodup : (kids st.rows).Nodup
  active_unexpired : ∀ row ∈ st.rows, row.rotatedOutAt = none → row.expiredAt = none
  file_nodup : ∀ file, st.file = some file → file.Nodup
  file_known : ∀ file, st.file = some file → ∀ kid ∈ file, kid ∈ kids st.rows

theorem kids_unexpired_nodup {rows : List KeyData} (h : (kids rows).Nodup) :
    (kids (unexpired rows)).Nodup :=
  ((List.filter_sublist).map _).nodup h

theorem mem_kids_of_mem_unexpired {rows : List KeyData} {kid : String}
    (h : kid ∈ kids (unexpired rows)) : kid ∈ kids rows :=
  ((List.filter_sublist).map _).subset h

/-- Expiring keys keeps the ids. -/
@[simp] theorem kids_expireKids (expired : List String) (now : Int) (rows : List KeyData) :
    kids (expireKids expired now rows) = kids rows := by
  unfold kids expireKids
  rw [List.map_map]
  apply List.map_congr_left
  intro row _
  simp only [Function.comp]
  split <;> rfl

/-- The unexpired ids after some keys have expired. -/
theorem kids_unexpired_expireKids (expired : List String) (now : Int)
    (rows : List KeyData) :
    kids (unexpired (expireKids expired now rows)) =
      (kids (unexpired rows)).filter (· ∉ expired) := by
  induction rows with
  | nil => rfl
  | cons row rows ih =>
      simp only [kids, unexpired, expireKids, List.map_cons, List.filter_cons] at ih ⊢
      by_cases hexpired : row.kid ∈ expired
      · by_cases hrow : row.expiredAt = none <;> simp [hexpired, hrow, ih]
      · by_cases hrow : row.expiredAt = none <;> simp [hexpired, hrow, ih]

/-- A rotation keeps the unexpired ids and adds the new one. -/
theorem kids_unexpired_rotateActive (previous kid : String) (epoch now : Int)
    (rows : List KeyData) :
    kids (unexpired (rotateActive previous kid epoch now rows)) =
      kids (unexpired rows) ++ [kid] := by
  have hrows : kids (unexpired (rows.map fun row =>
      if row.kid = previous then { row with rotatedOutAt := some now } else row)) =
      kids (unexpired rows) := by
    induction rows with
    | nil => rfl
    | cons row rows ih =>
        simp only [kids, unexpired, List.map_cons, List.filter_cons] at ih ⊢
        by_cases hprevious : row.kid = previous <;>
          by_cases hrow : row.expiredAt = none <;> simp [hprevious, hrow, ih]
  simp only [kids, unexpired, rotateActive, List.filter_append, List.map_append] at hrows ⊢
  rw [hrows]
  rfl

theorem kids_rotateActive (previous kid : String) (epoch now : Int) (rows : List KeyData) :
    kids (rotateActive previous kid epoch now rows) = kids rows ++ [kid] := by
  simp only [kids, rotateActive, List.map_append, List.map_map]
  congr 1
  apply List.map_congr_left
  intro row _
  simp only [Function.comp]
  split <;> rfl

/-- The ids that a bootup reads are the unexpired ones. -/
theorem kids_getRelevantKeydata_perm (rows : List KeyData) :
    (kids (getRelevantKeydata rows)).Perm (kids (unexpired rows)) :=
  (List.perm_insertionSort _ _).map _

/-- What a bootup does: it writes the first keys up to the limit, in front of them the
new key if it inserts one. -/
theorem masterBootup_cases (limit : KeyLimit) (kid : String) (epoch : Int)
    (rows : List KeyData) :
    masterBootup limit kid epoch rows =
        (rows ++ [⟨kid, epoch, none, none⟩],
          kid :: (kids (getRelevantKeydata rows)).take limit.capacity) ∨
      masterBootup limit kid epoch rows =
        (rows, (kids (getRelevantKeydata rows)).take limit.capacity) := by
  unfold masterBootup
  dsimp only
  rw [ite_take_eq_take]
  split
  · rename_i hnone
    left
    simp [hnone, initializeJwks, kids]
  · split
    · left
      simp [initializeJwks, kids, List.map_take]
    · right
      simp [initializeJwks, kids, List.map_take]

/-- Rows of a table with the same id are the same row. -/
theorem row_eq_of_kid_eq {rows : List KeyData} (h : (kids rows).Nodup) {row other : KeyData}
    (hrow : row ∈ rows) (hother : other ∈ rows) (hkid : row.kid = other.kid) :
    row = other :=
  List.inj_on_of_nodup_map h hrow hother hkid

/-- Expiring rotated keys only leaves every active key unexpired. -/
theorem active_unexpired_expireKids {rows : List KeyData} {expired : List String}
    {now : Int} (hactive : ∀ row ∈ rows, row.rotatedOutAt = none → row.expiredAt = none)
    (hrotated : ∀ row ∈ rows, row.kid ∈ expired → row.rotatedOutAt ≠ none) :
    ∀ row ∈ expireKids expired now rows, row.rotatedOutAt = none →
      row.expiredAt = none := by
  intro row hrow hnone
  obtain ⟨before, hbefore, rfl⟩ := List.mem_map.mp hrow
  by_cases hexpired : before.kid ∈ expired
  · simp only [hexpired, if_true] at hnone
    exact absurd hnone (hrotated before hbefore hexpired)
  · simp only [hexpired, if_false] at hnone ⊢
    exact hactive before hbefore hnone

/-- The oldest key of a table has a row that is rotated out and not expired. -/
theorem IsOldest.exists_row {rows : List KeyData} {kid : String} (h : IsOldest rows kid) :
    ∃ row ∈ rows, row.kid = kid ∧ row.rotatedOutAt ≠ none ∧ row.expiredAt = none := by
  obtain ⟨row, hmem, hkid, _⟩ := h
  obtain ⟨hrow, hrotated⟩ := List.mem_filter.mp hmem
  simp only [ne_eq, decide_eq_true_eq] at hrotated
  exact ⟨row, hrow, hkid, hrotated.1, hrotated.2⟩

theorem kids_rotateActive_nodup {rows : List KeyData} (hnodup : (kids rows).Nodup)
    {kid : String} (hfresh : kid ∉ kids rows) (previous : String) (epoch now : Int) :
    (kids (rotateActive previous kid epoch now rows)).Nodup := by
  rw [kids_rotateActive]
  exact nodup_append_singleton hnodup hfresh

/-- A rotation adds an active key and makes no other key active. -/
theorem active_unexpired_rotateActive {rows : List KeyData} {previous kid : String}
    {epoch now : Int} (hactive : ∀ row ∈ rows, row.rotatedOutAt = none → row.expiredAt = none) :
    ∀ row ∈ rotateActive previous kid epoch now rows, row.rotatedOutAt = none →
      row.expiredAt = none := by
  intro row hrow hnone
  rcases List.mem_append.mp hrow with hold | hnew
  · obtain ⟨before, hbefore, rfl⟩ := List.mem_map.mp hold
    by_cases heq : before.kid = previous
    · simp [heq] at hnone
    · simp only [heq, if_false] at hnone ⊢
      exact hactive before hbefore hnone
  · rw [List.mem_singleton.mp hnew]

/-- The key that a rotation expires is one of the old unexpired keys, because the new row
is not rotated out. -/
theorem mem_unexpired_of_isOldest {rows : List KeyData} {previous kid oldest : String}
    {epoch now : Int} (hnodup : (kids (rotateActive previous kid epoch now rows)).Nodup)
    (h : IsOldest (rotateActive previous kid epoch now rows) oldest) :
    oldest ∈ kids (unexpired rows) := by
  obtain ⟨row, hrow, hkid, hrotated, hvalid⟩ := h.exists_row
  have hunexpired : oldest ∈ kids (unexpired (rotateActive previous kid epoch now rows)) :=
    List.mem_map.mpr ⟨row, List.mem_filter.mpr ⟨hrow, by simp [hvalid]⟩, hkid⟩
  rw [kids_unexpired_rotateActive] at hunexpired
  rcases List.mem_append.mp hunexpired with hold | hnew
  · exact hold
  · have hlast : row = ⟨kid, epoch, none, none⟩ :=
      row_eq_of_kid_eq hnodup hrow (by simp [rotateActive])
        (hkid.trans (List.mem_singleton.mp hnew))
    rw [hlast] at hrotated
    exact absurd rfl hrotated

/-- What a rotation does: the new id joins the unexpired ids, the oldest one leaves them
when they are too many, and the file is trimmed from the front. -/
theorem rotateKeys_spec {limit : KeyLimit} {kid oldest : String} {epoch now : Int}
    {rows : List KeyData} {file : List String} {st : KeyState}
    (h : rotateKeys limit kid epoch now oldest rows file = some st)
    (hnodup : (kids rows).Nodup)
    (hactive : ∀ row ∈ rows, row.rotatedOutAt = none → row.expiredAt = none) :
    kid ∉ kids rows ∧
    (limit.capacity ≤ (unexpired rows).length → oldest ∈ kids (unexpired rows)) ∧
    st.file = some (push limit.capacity file kid) ∧
    kids (unexpired st.rows) =
      insertEvicting limit.capacity (kids (unexpired rows)) kid oldest ∧
    kids st.rows = kids rows ++ [kid] ∧
    ∀ row ∈ st.rows, row.rotatedOutAt = none → row.expiredAt = none := by
  unfold rotateKeys at h
  split at h
  swap
  · cases h
  rename_i previous hprevious
  split at h
  · cases h
  rename_i hfresh
  have hcount : (unexpired (rotateActive previous.kid kid epoch now rows)).length =
      (unexpired rows).length + 1 := by
    have hkids := congrArg List.length
      (kids_unexpired_rotateActive previous.kid kid epoch now rows)
    simpa [kids] using hkids
  have hlength : (kids (unexpired rows)).length = (unexpired rows).length := by
    simp [kids]
  have hrotatedNodup := kids_rotateActive_nodup hnodup hfresh previous.kid epoch now
  have hrotatedActive : ∀ row ∈ rotateActive previous.kid kid epoch now rows,
      row.rotatedOutAt = none → row.expiredAt = none :=
    active_unexpired_rotateActive hactive
  dsimp only at h
  split at h
  · -- the table overflows, so the key that was rotated out first expires
    rename_i hover
    split at h
    swap
    · cases h
    rename_i holdest
    cases h
    have hmem : oldest ∈ kids (unexpired rows) :=
      mem_unexpired_of_isOldest hrotatedNodup holdest
    have hne : kid ≠ oldest := by
      rintro rfl
      exact hfresh (mem_kids_of_mem_unexpired hmem)
    refine ⟨hfresh, fun _ => hmem, rfl, ?_, ?_, ?_⟩
    · show kids (unexpired (expireKids [oldest] now _)) = _
      rw [kids_unexpired_expireKids, kids_unexpired_rotateActive,
        insertEvicting_of_full (by omega) hne, List.filter_append]
      simp [hne]
    · show kids (expireKids [oldest] now _) = _
      rw [kids_expireKids, kids_rotateActive]
    · apply active_unexpired_expireKids hrotatedActive
      obtain ⟨row, hrow, hkid, hrotated, _⟩ := holdest.exists_row
      intro other hother hexpired
      have hsame : other = row := row_eq_of_kid_eq hrotatedNodup hother hrow
        ((List.mem_singleton.mp hexpired).trans hkid.symm)
      rw [hsame]
      exact hrotated
  · rename_i hroom
    cases h
    refine ⟨hfresh, fun hfull => ?_, rfl, ?_, kids_rotateActive .., hrotatedActive⟩
    · omega
    · show kids (unexpired (rotateActive previous.kid kid epoch now rows)) = _
      rw [kids_unexpired_rotateActive, insertEvicting_of_room kid oldest (by omega)]

/-- What an invalidation does: the id leaves the unexpired ids and the file. -/
theorem invalidateKey_spec {kid : String} {now : Int} {rows : List KeyData}
    {file : List String} {st : KeyState} (h : invalidateKey kid now rows file = some st)
    (hnodup : (kids rows).Nodup)
    (hactive : ∀ row ∈ rows, row.rotatedOutAt = none → row.expiredAt = none) :
    st.file = some (file.filter (· ≠ kid)) ∧
    kids (unexpired st.rows) = (kids (unexpired rows)).filter (· ∉ [kid]) ∧
    kids st.rows = kids rows ∧
    ∀ row ∈ st.rows, row.rotatedOutAt = none → row.expiredAt = none := by
  unfold invalidateKey at h
  split at h
  · cases h
  rename_i target htarget
  have hmem : target ∈ rows := List.mem_of_find?_eq_some htarget
  have hkid : target.kid = kid := by simpa using List.find?_some htarget
  split at h
  · cases h
  rename_i hrotated
  split at h
  · cases h
  cases h
  refine ⟨rfl, kids_unexpired_expireKids .., kids_expireKids .., ?_⟩
  apply active_unexpired_expireKids hactive
  intro row hrow hexpired
  have hsame : row = target :=
    row_eq_of_kid_eq hnodup hrow hmem ((List.mem_singleton.mp hexpired).trans hkid.symm)
  rw [hsame]
  exact hrotated

/-- What a cleanup does: the active key alone is left in the table and in the file. -/
theorem cleanKeystore_spec {now : Int} {rows : List KeyData} {file : List String}
    {st : KeyState} (h : cleanKeystore now rows file = some st) (hnodup : (kids rows).Nodup)
    (hactive : ∀ row ∈ rows, row.rotatedOutAt = none → row.expiredAt = none) :
    ∃ kid ∈ kids rows, st.file = some [kid] ∧
      SameElements [kid] (kids (unexpired st.rows)) ∧ kids st.rows = kids rows ∧
      ∀ row ∈ st.rows, row.rotatedOutAt = none → row.expiredAt = none := by
  unfold cleanKeystore at h
  split at h
  · cases h
  split at h
  swap
  · cases h
  rename_i active hkeys
  cases h
  -- `scalar_one_or_none` found exactly one active key
  have hmemActive : ∀ row, row ∈ activeKeys rows ↔ row = active := by simp [hkeys]
  have hrow : active ∈ rows ∧ active.rotatedOutAt = none := by
    have hself := (hmemActive active).mpr rfl
    simpa [activeKeys] using hself
  have hrotated : ∀ row ∈ rows, row.kid ∈ kids (rotatedUnexpired rows) →
      row.rotatedOutAt ≠ none := by
    intro row hmem hkid
    obtain ⟨other, hother, hsame⟩ := List.mem_map.mp hkid
    obtain ⟨hmemOther, hcondition⟩ := List.mem_filter.mp hother
    simp only [ne_eq, decide_eq_true_eq] at hcondition
    rw [← row_eq_of_kid_eq hnodup hmemOther hmem hsame]
    exact hcondition.1
  refine ⟨active.kid, List.mem_map.mpr ⟨active, hrow.1, rfl⟩, rfl, fun kid => ?_,
    kids_expireKids .., active_unexpired_expireKids hactive hrotated⟩
  show kid ∈ [active.kid] ↔ kid ∈ kids (unexpired (expireKids _ now rows))
  rw [kids_unexpired_expireKids, List.mem_singleton, List.mem_filter]
  constructor
  · rintro rfl
    refine ⟨List.mem_map.mpr ⟨active, List.mem_filter.mpr ⟨hrow.1, ?_⟩, rfl⟩, ?_⟩
    · simpa using hactive active hrow.1 hrow.2
    · simp only [decide_eq_true_eq]
      intro hexpired
      exact hrotated active hrow.1 hexpired hrow.2
  · rintro ⟨hunexpired, hkept⟩
    obtain ⟨row, hmem, rfl⟩ := List.mem_map.mp hunexpired
    obtain ⟨hmemRow, hvalid⟩ := List.mem_filter.mp hmem
    simp only [decide_eq_true_eq] at hvalid hkept
    have hnever : row.rotatedOutAt = none := by
      by_contra hout
      apply hkept
      exact List.mem_map.mpr ⟨row, List.mem_filter.mpr ⟨hmemRow, by simp [hout, hvalid]⟩, rfl⟩
    have hself : row ∈ activeKeys rows := List.mem_filter.mpr ⟨hmemRow, by simp [hnever]⟩
    rw [(hmemActive row).mp hself]

/-- A new key in front of some ids that are unexpired, next to the table with its row. -/
theorem kids_unexpired_append (rows : List KeyData) (kid : String) (epoch : Int) :
    kids (unexpired (rows ++ [⟨kid, epoch, none, none⟩])) = kids (unexpired rows) ++ [kid] := by
  simp [kids, unexpired, List.filter_append]

/-- The invariant of a state with a file. -/
theorem KeyInvariant.of_file {st : KeyState} {file : List String} (hfile : st.file = some file)
    (hkids : (kids st.rows).Nodup)
    (hactive : ∀ row ∈ st.rows, row.rotatedOutAt = none → row.expiredAt = none)
    (hnodup : file.Nodup) (hknown : ∀ kid ∈ file, kid ∈ kids st.rows) : KeyInvariant st where
  kids_nodup := hkids
  active_unexpired := hactive
  file_nodup := by
    intro file' hfile'
    rw [hfile] at hfile'
    cases hfile'
    exact hnodup
  file_known := by
    intro file' hfile'
    rw [hfile] at hfile'
    cases hfile'
    exact hknown

/-- A bootup keeps the invariant, whether or not there was a file. -/
theorem KeyInvariant.bootup {limit : KeyLimit} {st : KeyState} (h : KeyInvariant st)
    {kid : String} (hfresh : kid ∉ kids st.rows) (epoch : Int) :
    KeyInvariant ⟨(masterBootup limit kid epoch st.rows).1,
      some (masterBootup limit kid epoch st.rows).2⟩ := by
  have hperm := kids_getRelevantKeydata_perm st.rows
  have hsorted : (kids (getRelevantKeydata st.rows)).Nodup :=
    hperm.symm.nodup (kids_unexpired_nodup h.kids_nodup)
  have hfirst : ((kids (getRelevantKeydata st.rows)).take limit.capacity).Nodup :=
    (List.take_sublist _ _).nodup hsorted
  have hknown : ∀ k ∈ (kids (getRelevantKeydata st.rows)).take limit.capacity,
      k ∈ kids st.rows := by
    intro k hk
    exact mem_kids_of_mem_unexpired (hperm.subset (List.mem_of_mem_take hk))
  rcases masterBootup_cases limit kid epoch st.rows with hboot | hboot
  · -- a new active key is inserted and written in front
    rw [hboot]
    have hkids : kids (st.rows ++ [⟨kid, epoch, none, none⟩]) = kids st.rows ++ [kid] := by
      simp [kids]
    apply KeyInvariant.of_file rfl
    · rw [hkids]
      exact nodup_append_singleton h.kids_nodup hfresh
    · intro row hrow hnone
      rcases List.mem_append.mp hrow with hold | hnew
      · exact h.active_unexpired row hold hnone
      · rw [List.mem_singleton.mp hnew]
    · exact List.nodup_cons.mpr ⟨fun hmem => hfresh (hknown kid hmem), hfirst⟩
    · intro k hk
      rw [hkids, List.mem_append, List.mem_singleton]
      rcases List.mem_cons.mp hk with hnew | hold
      · exact .inr hnew
      · exact .inl (hknown k hold)
  · rw [hboot]
    exact KeyInvariant.of_file rfl h.kids_nodup h.active_unexpired hfirst hknown

/-- The invariant is kept by every operation. -/
theorem keyInvariant_step {limit : KeyLimit} {st st' : KeyState} {label : KeyLabel}
    (h : KeyInvariant st) (hstep : keyStep limit st label = some st') : KeyInvariant st' := by
  cases label with
  | bootup kid epoch =>
      simp only [keyStep] at hstep
      split at hstep
      · cases hstep
      rename_i hfresh
      cases hstep
      exact h.bootup hfresh epoch
  | rotate kid epoch now oldest =>
      simp only [keyStep] at hstep
      split at hstep
      · cases hstep
      rename_i file hfile
      obtain ⟨hfresh, _, hfile', _, hkids, hactive⟩ :=
        rotateKeys_spec hstep h.kids_nodup h.active_unexpired
      refine KeyInvariant.of_file hfile' ?_ hactive ?_ fun k hk => ?_
      · rw [hkids]
        exact nodup_append_singleton h.kids_nodup hfresh
      · exact push_nodup (h.file_nodup file hfile)
          fun hmem => hfresh (h.file_known file hfile kid hmem)
      · rw [hkids, List.mem_append, List.mem_singleton]
        exact (push_subset hk).imp_left (h.file_known file hfile k)
  | invalidate kid now =>
      simp only [keyStep] at hstep
      split at hstep
      · cases hstep
      rename_i file hfile
      obtain ⟨hfile', _, hkids, hactive⟩ :=
        invalidateKey_spec hstep h.kids_nodup h.active_unexpired
      refine KeyInvariant.of_file hfile' (hkids ▸ h.kids_nodup) hactive
        ((h.file_nodup file hfile).filter _) fun k hk => ?_
      rw [hkids]
      exact h.file_known file hfile k (List.mem_of_mem_filter hk)
  | clean now =>
      simp only [keyStep] at hstep
      split at hstep
      · cases hstep
      obtain ⟨kid, hkid, hfile', _, hkids, hactive⟩ :=
        cleanKeystore_spec hstep h.kids_nodup h.active_unexpired
      refine KeyInvariant.of_file hfile' (hkids ▸ h.kids_nodup) hactive
        (List.nodup_singleton kid) fun k hk => ?_
      rw [hkids, List.mem_singleton.mp hk]
      exact hkid

/-- The file that there is is the only one to be compared. -/
theorem fileAgrees_iff_of_file {st : KeyState} {file : List String}
    (hfile : st.file = some file) :
    FileAgrees st ↔ SameElements file (kids (unexpired st.rows)) := by
  constructor
  · intro hall
    exact hall file hfile
  · intro hsame file' hfile'
    rw [hfile] at hfile'
    cases hfile'
    exact hsame

/-- One operation leaves the file in agreement exactly when it meets the condition. -/
theorem fileAgrees_step_iff {limit : KeyLimit} {st st' : KeyState} {label : KeyLabel}
    (h : KeyInvariant st) (hagrees : FileAgrees st)
    (hstep : keyStep limit st label = some st') :
    FileAgrees st' ↔ KeyStepSound limit st label := by
  have hunexpired := kids_unexpired_nodup h.kids_nodup
  have hlength : (kids (unexpired st.rows)).length = (unexpired st.rows).length := by
    simp [kids]
  cases label with
  | bootup kid epoch =>
      simp only [keyStep] at hstep
      split at hstep
      · cases hstep
      rename_i hfresh
      simp only [Option.some.injEq] at hstep
      have hperm := kids_getRelevantKeydata_perm st.rows
      have hfirst : SameElements ((kids (getRelevantKeydata st.rows)).take limit.capacity)
          (kids (unexpired st.rows)) ↔ (unexpired st.rows).length ≤ limit.capacity := by
        rw [← sameElements_perm_iff hperm,
          take_sameElements_iff (hperm.symm.nodup hunexpired), hperm.length_eq, hlength]
      rcases masterBootup_cases limit kid epoch st.rows with hboot | hboot
      · rw [hboot] at hstep
        subst hstep
        rw [fileAgrees_iff_of_file rfl]
        show SameElements (kid :: _) (kids (unexpired (st.rows ++ [_]))) ↔ _
        rw [kids_unexpired_append]
        have hnotUnexpired : kid ∉ kids (unexpired st.rows) :=
          fun hmem => hfresh (mem_kids_of_mem_unexpired hmem)
        have hnotFirst : kid ∉ (kids (getRelevantKeydata st.rows)).take limit.capacity :=
          fun hmem => hnotUnexpired (hperm.subset (List.mem_of_mem_take hmem))
        rw [sameElements_cons_append_iff hnotFirst hnotUnexpired]
        exact hfirst
      · rw [hboot] at hstep
        subst hstep
        rw [fileAgrees_iff_of_file rfl]
        exact hfirst
  | rotate kid epoch now oldest =>
      simp only [keyStep] at hstep
      split at hstep
      · cases hstep
      rename_i file hfile
      obtain ⟨hfresh, holdest, hfile', hkids, _, _⟩ :=
        rotateKeys_spec hstep h.kids_nodup h.active_unexpired
      have hsame := hagrees file hfile
      have hcount := hsame.length_eq (h.file_nodup file hfile) hunexpired
      -- the file is the window and the unexpired ids are the pool
      rw [fileAgrees_iff_of_file hfile', hkids, push_sameElements_iff limit.capacity_pos
        (h.file_nodup file hfile) hunexpired hsame
        (fun hmem => hfresh (mem_kids_of_mem_unexpired hmem))
        (fun hfull => holdest (by omega)), hcount, hlength]
      simp only [KeyStepSound, hfile, Option.some.injEq, forall_eq']
  | invalidate kid now =>
      simp only [keyStep] at hstep
      split at hstep
      · cases hstep
      rename_i file hfile
      obtain ⟨hfile', hkids, _, _⟩ :=
        invalidateKey_spec hstep h.kids_nodup h.active_unexpired
      refine iff_of_true ((fileAgrees_iff_of_file hfile').mpr fun k => ?_) trivial
      rw [hkids, List.mem_filter, List.mem_filter, hagrees file hfile k]
      simp
  | clean now =>
      simp only [keyStep] at hstep
      split at hstep
      · cases hstep
      obtain ⟨kid, _, hfile', hsame, _, _⟩ :=
        cleanKeystore_spec hstep h.kids_nodup h.active_unexpired
      exact iff_of_true ((fileAgrees_iff_of_file hfile').mpr hsame) trivial

/-- From any key table, in a run of bootups and successful operations the file agrees with
the table in every state if and only if every step meets the condition. -/
theorem always_fileAgrees_iff (limit : KeyLimit) (table : KeyTable)
    (actions : List KeyLabel) :
    Always (keyStep limit) FileAgrees ⟨table.rows, none⟩ actions ↔
      EachStep (keyStep limit) (KeyStepSound limit) ⟨table.rows, none⟩ actions := by
  have hstart : KeyInvariant ⟨table.rows, none⟩ := by
    constructor
    · exact table.kids_nodup
    · exact table.active_unexpired
    · intro file hfile
      cases hfile
    · intro file hfile
      cases hfile
  have hnoFile : FileAgrees ⟨table.rows, none⟩ := by
    intro file hfile
    cases hfile
  exact always_iff_eachStep
    (fun _ _ _ hI _ hstep => keyInvariant_step hI hstep)
    (fun _ _ _ hI hQ hstep => (fileAgrees_step_iff hI hQ hstep).mpr)
    (fun _ _ _ hI hQ hstep hnot hagrees =>
      hnot ((fileAgrees_step_iff hI hQ hstep).mp hagrees))
    actions _ hstart hnoFile

/-- A table with three keys: two rotated out, one active. -/
def threeKeys : KeyTable where
  rows := [⟨"1", 10, some 20, none⟩, ⟨"2", 20, some 30, none⟩, ⟨"3", 30, none, none⟩]
  kids_nodup := by decide
  active_unexpired := by decide

/-- The deployed limit. -/
def deployedLimit : KeyLimit := ⟨3, by decide⟩

/-- Bootup and one rotation: the file loses the key that was active, the table the one
that was rotated out first. -/
theorem bootup_rotate_disagrees :
    ¬ Always (keyStep deployedLimit) FileAgrees ⟨threeKeys.rows, none⟩
      [.bootup "0" 0, .rotate "4" 40 40 "1"] := by
  intro hall
  have hboot : keyStep deployedLimit ⟨threeKeys.rows, none⟩ (.bootup "0" 0) =
      some ⟨threeKeys.rows, some ["3", "2", "1"]⟩ := by decide
  have hrotate : keyStep deployedLimit ⟨threeKeys.rows, some ["3", "2", "1"]⟩
      (.rotate "4" 40 40 "1") =
      some ⟨[⟨"1", 10, some 20, some 40⟩, ⟨"2", 20, some 30, none⟩,
        ⟨"3", 30, some 40, none⟩, ⟨"4", 40, none, none⟩], some ["2", "1", "4"]⟩ := by decide
  have hagrees := (hall.2 _ hboot).2 _ hrotate
  have hexpired := (hagrees _ rfl "1").mp (by decide)
  exact absurd hexpired (by decide)

end AuthServer
end Tenjin
