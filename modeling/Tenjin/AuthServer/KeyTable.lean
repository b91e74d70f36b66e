import Tenjin.AuthServer.Jwks
import Tenjin.Python.Runtime

/-!
# The statements that the key endpoints run on the key table

`keydata` with its PEM columns, and the statements of `rotate_keys`, `invalidate_key`
and `clean_keystore` in `keys.py`, one definition each.

* A statement that the database refuses raises `SQLAlchemyError`, of which the classes
  for a missing row, for several rows, for a violated constraint and for a lock that is
  not available are subclasses.
* A transaction works on the rows of its session.  The committed rows change only when
  it returns.
* `KeyLifecycle` is what every transaction keeps.
-/

namespace Tenjin
namespace AuthServer

open Foundation
open Python

/-- The exceptions of the endpoints, by the handlers they meet. -/
inductive ServerExn
  | sqlAlchemyError
  | osError
  | jsonDecodeError
  | missingGreenlet
  | raised (exn : Exn)
  deriving DecidableEq

/-- A row of `keydata` with its PEM columns. -/
structure KeyRow extends KeyData where
  alg : String
  curve : String
  privatePem : String
  publicPem : String
  deriving DecidableEq

/-- The rows without their PEM columns. -/
def keyData (rows : List KeyRow) : List KeyData := rows.map KeyRow.toKeyData

/-- `scalar_one`. -/
def scalarOne {α : Type} : List α → Except ServerExn α
  | [a] => .ok a
  | _ => .error .sqlAlchemyError

/-- A statement that the database may refuse. -/
def execute {α : Type} (fails : Bool) (result : Except ServerExn α) : Except ServerExn α :=
  if fails then .error .sqlAlchemyError else result

/-- `SELECT ... WHERE rotated_out_at IS NULL`. -/
def selectActive (rows : List KeyRow) : List KeyRow :=
  rows.filter fun row => row.rotatedOutAt = none

/-- `SELECT ... WHERE kid = ...`. -/
def selectKid (kid : String) (rows : List KeyRow) : Option KeyRow :=
  rows.find? fun row => row.kid = kid

/-- `SELECT ... WHERE rotated_out_at IS NOT NULL AND expired_at IS NULL`. -/
def selectRotated (rows : List KeyRow) : List KeyRow :=
  rows.filter fun row => row.rotatedOutAt ≠ none ∧ row.expiredAt = none

/-- `UPDATE ... SET rotated_out_at WHERE kid = ...`. -/
def setRotated (kid : String) (now : Int) (rows : List KeyRow) : List KeyRow :=
  rows.map fun row => if row.kid = kid then { row with rotatedOutAt := some now } else row

/-- `UPDATE ... SET expired_at WHERE kid IN ...`. -/
def setExpired (expired : List String) (now : Int) (rows : List KeyRow) : List KeyRow :=
  rows.map fun row => if row.kid ∈ expired then { row with expiredAt := some now } else row

/-- A unique column of the table has the value of the new row already: the id is the
primary key, the epoch and both PEMs are unique. -/
def Collides (row : KeyRow) (rows : List KeyRow) : Prop :=
  ∃ other ∈ rows, other.kid = row.kid ∨ other.epoch = row.epoch ∨
    other.privatePem = row.privatePem ∨ other.publicPem = row.publicPem

instance (row : KeyRow) (rows : List KeyRow) : Decidable (Collides row rows) :=
  inferInstanceAs (Decidable (∃ other ∈ rows, other.kid = row.kid ∨ other.epoch = row.epoch ∨
    other.privatePem = row.privatePem ∨ other.publicPem = row.publicPem))

/-- `INSERT`. -/
def insertKey (row : KeyRow) (rows : List KeyRow) : Except ServerExn (List KeyRow) :=
  if Collides row rows then .error .sqlAlchemyError else .ok (rows ++ [row])

/-- `SELECT COUNT(*) WHERE expired_at IS NULL`. -/
def countUnexpired (rows : List KeyRow) : ℕ := (unexpired (keyData rows)).length

/-- The rotated keys that may come first in the order of `rotated_out_at`. -/
def oldestKeys (rows : List KeyRow) : List KeyRow :=
  (selectRotated rows).filter fun row =>
    ∀ other ∈ selectRotated rows, row.rotatedOutAt.getD 0 ≤ other.rotatedOutAt.getD 0

/-- `... ORDER BY rotated_out_at LIMIT 1`, where the database chooses among equals. -/
def selectOldest (choice : ℕ) (rows : List KeyRow) : Except ServerExn KeyRow :=
  match (oldestKeys rows)[choice % (oldestKeys rows).length]? with
  | some row => .ok row
  | none => .error .sqlAlchemyError

/-- What every transaction keeps: one key is not rotated out and it is unexpired, every
expired key has been rotated out, and no more keys are unexpired than the limit. -/
structure KeyLifecycle (limit : KeyLimit) (rows : List KeyRow) : Prop where
  kids_nodup : (kids (keyData rows)).Nodup
  one_active : ∃ active, selectActive rows = [active] ∧ active.expiredAt = none
  expired_rotated : ∀ row ∈ rows, row.expiredAt ≠ none → row.rotatedOutAt ≠ none
  within_limit : countUnexpired rows ≤ limit.capacity

/-- Expiring rows, read without the PEM columns. -/
theorem keyData_setExpired (expired : List String) (now : Int) (rows : List KeyRow) :
    keyData (setExpired expired now rows) = expireKids expired now (keyData rows) := by
  unfold keyData setExpired expireKids
  rw [List.map_map, List.map_map]
  apply List.map_congr_left
  intro row _
  simp only [Function.comp]
  split <;> rfl

/-- A rotation and the insertion after it, read without the PEM columns. -/
theorem keyData_setRotated_append (previous : String) (now : Int) (rows : List KeyRow)
    (row : KeyRow) (hactive : row.rotatedOutAt = none) (hunexpired : row.expiredAt = none) :
    keyData (setRotated previous now rows ++ [row]) =
      rotateActive previous row.kid row.epoch now (keyData rows) := by
  unfold keyData setRotated rotateActive
  rw [List.map_append, List.map_map, List.map_map]
  congr 1
  · apply List.map_congr_left
    intro other _
    simp only [Function.comp]
    split <;> rfl
  · obtain ⟨⟨kid, epoch, rotatedOutAt, expiredAt⟩, alg, curve, privatePem, publicPem⟩ := row
    simp only at hactive hunexpired
    subst hactive hunexpired
    rfl

/-- The number of unexpired rows is the number of their ids. -/
theorem countUnexpired_eq (rows : List KeyRow) :
    countUnexpired rows = (kids (unexpired (keyData rows))).length := by
  simp [countUnexpired, kids]

/-- A rotation inserts one more unexpired row. -/
theorem countUnexpired_setRotated_append (previous : String) (now : Int) (rows : List KeyRow)
    (row : KeyRow) (hactive : row.rotatedOutAt = none) (hunexpired : row.expiredAt = none) :
    countUnexpired (setRotated previous now rows ++ [row]) = countUnexpired rows + 1 := by
  rw [countUnexpired_eq, countUnexpired_eq,
    keyData_setRotated_append previous now rows row hactive hunexpired,
    kids_unexpired_rotateActive, List.length_append, List.length_singleton]

/-- Rows of the table with the same id are the same row. -/
theorem keyRow_eq_of_kid_eq {rows : List KeyRow} (h : (kids (keyData rows)).Nodup)
    {row other : KeyRow} (hrow : row ∈ rows) (hother : other ∈ rows)
    (hkid : row.kid = other.kid) : row = other := by
  have hmap : (rows.map fun row => row.kid).Nodup := by
    simpa [kids, keyData, Function.comp_def] using h
  exact List.inj_on_of_nodup_map hmap hrow hother hkid

/-- Updates of rows that leave `rotated_out_at` alone select the same rows. -/
theorem selectActive_setExpired {rows : List KeyRow} {expired : List String} (now : Int)
    (hrotated : ∀ row ∈ rows, row.kid ∈ expired → row.rotatedOutAt ≠ none) :
    selectActive (setExpired expired now rows) = selectActive rows := by
  induction rows with
  | nil => rfl
  | cons row rows ih =>
      have htail := ih fun other hother => hrotated other (List.mem_cons_of_mem _ hother)
      have hhead := hrotated row (List.mem_cons_self ..)
      simp only [selectActive, setExpired, List.map_cons, List.filter_cons] at htail ⊢
      rw [htail]
      by_cases hexpired : row.kid ∈ expired
      · simp [hexpired, hhead hexpired]
      · simp [hexpired]

/-- After the rotation of the only active key none is left. -/
theorem selectActive_setRotated {rows : List KeyRow} {previous : KeyRow} (now : Int)
    (hactive : selectActive rows = [previous]) :
    selectActive (setRotated previous.kid now rows) = [] := by
  rw [selectActive, List.filter_eq_nil_iff]
  intro row hrow
  obtain ⟨before, hbefore, rfl⟩ := List.mem_map.mp hrow
  by_cases hkid : before.kid = previous.kid
  · simp [hkid]
  · -- any other row was rotated out before
    have hother : before.rotatedOutAt ≠ none := by
      intro hnone
      have hmem : before ∈ selectActive rows :=
        List.mem_filter.mpr ⟨hbefore, by simp [hnone]⟩
      rw [hactive, List.mem_singleton] at hmem
      exact hkid (congrArg (fun row => row.kid) hmem)
    simp [hkid, hother]

theorem scalarOne_eq_ok {α : Type} {items : List α} {a : α} :
    scalarOne items = .ok a ↔ items = [a] := by
  match items with
  | [] => simp [scalarOne]
  | [b] => simp [scalarOne]
  | b :: c :: rest => simp [scalarOne]

theorem execute_eq_ok {α : Type} {fails : Bool} {result : Except ServerExn α} {a : α} :
    execute fails result = .ok a ↔ fails = false ∧ result = .ok a := by
  cases fails <;> simp [execute]

/-- The oldest key is rotated out and unexpired. -/
theorem mem_of_selectOldest {choice : ℕ} {rows : List KeyRow} {row : KeyRow}
    (h : selectOldest choice rows = .ok row) :
    row ∈ rows ∧ row.rotatedOutAt ≠ none ∧ row.expiredAt = none := by
  unfold selectOldest at h
  split at h
  · rename_i found hfound
    cases h
    have hmem := List.mem_of_getElem? hfound
    have hrotated := (List.mem_filter.mp hmem).1
    simpa [selectRotated] using hrotated
  · cases h

/-- Expiring keys that are rotated out keeps the lifecycle, if what is left is within the
limit. -/
theorem KeyLifecycle.setExpired {limit : KeyLimit} {rows : List KeyRow} {expired : List String}
    (now : Int) (hnodup : (kids (keyData rows)).Nodup)
    (hone : ∃ active, selectActive rows = [active] ∧ active.expiredAt = none)
    (hexpired : ∀ row ∈ rows, row.expiredAt ≠ none → row.rotatedOutAt ≠ none)
    (hrotated : ∀ row ∈ rows, row.kid ∈ expired → row.rotatedOutAt ≠ none)
    (hcount : ((kids (unexpired (keyData rows))).filter (· ∉ expired)).length ≤ limit.capacity) :
    KeyLifecycle limit (setExpired expired now rows) where
  kids_nodup := by
    rw [keyData_setExpired, kids_expireKids]
    exact hnodup
  one_active := by
    rw [selectActive_setExpired now hrotated]
    exact hone
  expired_rotated := by
    intro row hrow hexpiredRow
    obtain ⟨before, hbefore, rfl⟩ := List.mem_map.mp hrow
    by_cases hkid : before.kid ∈ expired
    · simpa [hkid] using hrotated before hbefore hkid
    · simp only [hkid, if_false] at hexpiredRow ⊢
      exact hexpired before hbefore hexpiredRow
  within_limit := by
    rw [countUnexpired_eq, keyData_setExpired, kids_unexpired_expireKids]
    exact hcount

end AuthServer
end Tenjin
