import Tenjin.AuthServer.KeyRollback

/-!
# A rotation ends half way

`rotate_keys` commits to the table first, and changes the files, the token manager and the
synced store after that, outside any handler.

* The path of the old private PEM is joined to the path of the JWKS file.  Deleting it
  always raises, so no committed rotation reaches the token manager (`rotateFiles_raises`).
* A request that is refused before the commit changes nothing.
* `rotation_allOrNothing_iff` says that the refused requests are the only ones that are
  all or nothing.
-/

namespace Tenjin
namespace AuthServer

open Foundation
open Python

/-- A key state between two requests: the token manager signs with a key of the table, and
nobody holds the rotation lock. -/
structure RestingWorld where
  world : KeyWorld
  active_known : world.manager.activeKey ∈ kids (keyData world.rows)
  lock_free : world.rotationLock = false

/-- The table, the files, the token manager and `VALID_KEYS` are the old ones. -/
def ReflectsOld (before after : KeyWorld) : Prop :=
  after.rows = before.rows ∧ after.files = before.files ∧ after.manager = before.manager ∧
    after.validKeys = before.validKeys

/-- The table, the files, the token manager and `VALID_KEYS` have the new key as their
active one; the private PEM of the previous key and the PEMs of the key that has expired
are gone. -/
structure ReflectsNew (request : RotateRequest) (before after : KeyWorld) : Prop where
  table : selectActive after.rows = [request.newRow]
  jwks : ∃ entries, after.files.jwks = some entries ∧ request.pair.kid ∈ entries.map Jwk.kid
  privatePem : after.files.privatePem request.pair.kid = some request.pair.privatePem
  publicPem : after.files.publicPem request.pair.kid = some request.pair.publicPem
  previous_gone : ∀ previous ∈ selectActive before.rows,
    after.files.privatePem previous.kid = none
  expired_gone : ∀ row ∈ after.rows, row.expiredAt ≠ none →
    row.kid ∈ kids (unexpired (keyData before.rows)) →
      after.files.publicPem row.kid = none ∧ after.files.privatePem row.kid = none
  active : after.manager.activeKey = request.pair.kid
  mapping : request.pair.kid ∈ after.manager.keyMapping
  validKeys : request.pair.kid ∈ after.validKeys

/-- All stores reflect the new key or all reflect the old state, and the lock is free. -/
def AllOrNothing (request : RotateRequest) (before after : KeyWorld) : Prop :=
  (ReflectsOld before after ∨ ReflectsNew request before after) ∧ after.rotationLock = false

/-- The request is refused before it commits: it comes from a staff admin, who always runs
into the cooldown, or the table has not exactly one active key, or it collides with the new
key, or a statement of the transaction raises. -/
def RotationRefused (limit : KeyLimit) (raises : RotatePoint → Bool) (request : RotateRequest)
    (rows : List KeyRow) : Prop :=
  request.staff = true ∨ (selectActive rows).length ≠ 1 ∨ Collides request.newRow rows ∨
    raises .selectActive = true ∨ raises .updateActive = true ∨ raises .insertKey = true ∨
    raises .countKeys = true ∨ raises .commit = true ∨
    (limit.capacity ≤ countUnexpired rows ∧
      (raises .selectOldest = true ∨ raises .updateOldest = true))

/-- A rotation leaves the unique columns alone. -/
theorem collides_setRotated_iff (row : KeyRow) (kid : String) (now : Int) (rows : List KeyRow) :
    Collides row (setRotated kid now rows) ↔ Collides row rows := by
  have hsame : ∀ other : KeyRow, ∀ updated : KeyRow,
      updated = (if other.kid = kid then { other with rotatedOutAt := some now } else other) →
      updated.kid = other.kid ∧ updated.epoch = other.epoch ∧
        updated.privatePem = other.privatePem ∧ updated.publicPem = other.publicPem := by
    rintro other _ rfl
    split
    · exact ⟨rfl, rfl, rfl, rfl⟩
    · exact ⟨rfl, rfl, rfl, rfl⟩
  constructor
  · rintro ⟨updated, hupdated, hclash⟩
    obtain ⟨other, hother, heq⟩ := List.mem_map.mp hupdated
    obtain ⟨hkid, hepoch, hprivate, hpublic⟩ := hsame other updated heq.symm
    rw [hkid, hepoch, hprivate, hpublic] at hclash
    exact ⟨other, hother, hclash⟩
  · rintro ⟨other, hother, hclash⟩
    obtain ⟨hkid, hepoch, hprivate, hpublic⟩ := hsame other _ rfl
    refine ⟨_, List.mem_map.mpr ⟨other, hother, rfl⟩, ?_⟩
    rw [hkid, hepoch, hprivate, hpublic]
    exact hclash

theorem insertKey_of_not_collides {row : KeyRow} {rows : List KeyRow}
    (h : ¬ Collides row rows) : insertKey row rows = .ok (rows ++ [row]) := by
  unfold insertKey
  exact if_neg h

/-- Where a rotated key is unexpired, there is an oldest one. -/
theorem selectOldest_isOk {rows : List KeyRow} (choice : ℕ) (h : selectRotated rows ≠ []) :
    ∃ oldest, selectOldest choice rows = .ok oldest := by
  have hnonempty : oldestKeys rows ≠ [] := by
    -- the minimum of the times of rotation
    obtain ⟨row, hrow, hleast⟩ := (selectRotated rows).toFinset.exists_min_image
      (fun row => row.rotatedOutAt.getD 0) (by simpa using h)
    apply List.ne_nil_of_mem (a := row)
    apply List.mem_filter.mpr
    refine ⟨List.mem_toFinset.mp hrow, ?_⟩
    simp only [decide_eq_true_eq]
    intro other hother
    exact hleast other (List.mem_toFinset.mpr hother)
  have hindex : choice % (oldestKeys rows).length < (oldestKeys rows).length :=
    Nat.mod_lt _ (List.length_pos_iff.mpr hnonempty)
  refine ⟨(oldestKeys rows)[choice % (oldestKeys rows).length], ?_⟩
  unfold selectOldest
  rw [List.getElem?_eq_getElem hindex]

/-- After the rotation of the only active key the unexpired rows are rotated out, and where
the limit was reached before there is one. -/
theorem selectRotated_ne_nil (limit : KeyLimit) {rows : List KeyRow} {previous : KeyRow}
    (row : KeyRow) (now : Int) (hprevious : selectActive rows = [previous])
    (hfull : limit.capacity ≤ countUnexpired rows) :
    selectRotated (setRotated previous.kid now rows ++ [row]) ≠ [] := by
  have hcount : 1 ≤ (unexpired (keyData rows)).length :=
    Nat.le_trans limit.capacity_pos hfull
  obtain ⟨data, hdata⟩ := List.exists_mem_of_length_pos hcount
  obtain ⟨hmem, hunexpired⟩ := List.mem_filter.mp hdata
  obtain ⟨other, hother, rfl⟩ := List.mem_map.mp hmem
  simp only [decide_eq_true_eq] at hunexpired
  apply List.ne_nil_of_mem (a := if other.kid = previous.kid
    then { other with rotatedOutAt := some now } else other)
  apply List.mem_filter.mpr
  refine ⟨List.mem_append_left _ (List.mem_map.mpr ⟨other, hother, rfl⟩), ?_⟩
  by_cases hkid : other.kid = previous.kid
  · simp [hkid, hunexpired]
  · have hrotated : other.rotatedOutAt ≠ none := by
      intro hnone
      have hactive : other ∈ selectActive rows :=
        List.mem_filter.mpr ⟨hother, by simp [hnone]⟩
      rw [hprevious, List.mem_singleton] at hactive
      exact hkid (congrArg (fun row => row.kid) hactive)
    simp [hkid, hunexpired, hrotated]

/-- A request that is not refused commits. -/
theorem rotateTransaction_isOk {limit : KeyLimit} {raises : RotatePoint → Bool}
    {request : RotateRequest} {rows : List KeyRow}
    (h : ¬ RotationRefused limit raises request rows) :
    ∃ rotation, rotateTransaction limit raises request rows = .ok rotation := by
  unfold RotationRefused at h
  push Not at h
  obtain ⟨_, hone, hfresh, hselect, hupdate, hinsert, hcount, hcommit, hover⟩ := h
  simp only [ne_eq, Bool.not_eq_true] at hselect hupdate hinsert hcount hcommit hover
  obtain ⟨previous, hprevious⟩ := List.length_eq_one_iff.mp hone
  have hinserted := insertKey_of_not_collides
    (fun hclash => hfresh ((collides_setRotated_iff request.newRow previous.kid
      request.rotatedAt rows).mp hclash))
  have hnumber := countUnexpired_setRotated_append previous.kid request.rotatedAt rows
    request.newRow rfl rfl
  unfold rotateTransaction
  rw [hprevious, hselect, hupdate, hinsert, hcount, hcommit]
  show ∃ rotation, (insertKey request.newRow
    (setRotated previous.kid request.rotatedAt rows) >>= _) = _
  rw [hinserted]
  show ∃ rotation, (if limit.capacity < countUnexpired _ then _ else _) = _
  rw [hnumber]
  split
  · rename_i hfull
    obtain ⟨hselectOldest, hupdateOldest⟩ := hover (by omega)
    obtain ⟨oldest, holdest⟩ := selectOldest_isOk request.choice
      (selectRotated_ne_nil limit request.newRow request.rotatedAt hprevious (by omega))
    rw [hselectOldest, holdest, hupdateOldest]
    exact ⟨_, rfl⟩
  · exact ⟨_, rfl⟩

/-- A request that commits is not refused, unless it comes from a staff admin. -/
theorem not_refused_of_isOk {limit : KeyLimit} {raises : RotatePoint → Bool}
    {request : RotateRequest} {rows : List KeyRow} {rotation : Rotation}
    (hstaff : request.staff = false)
    (h : rotateTransaction limit raises request rows = .ok rotation) :
    ¬ RotationRefused limit raises request rows := by
  obtain ⟨hselect, hupdate, hinsert, hcount, hcommit, previous, inserted, hprevious, hinserted,
    hend⟩ := rotateTransaction_eq_ok h
  have hfresh : ¬ Collides request.newRow rows := by
    rw [← collides_setRotated_iff request.newRow previous.kid request.rotatedAt rows]
    exact (insertKey_eq_ok hinserted).2
  have hnumber := countUnexpired_setRotated_append previous.kid request.rotatedAt rows
    request.newRow rfl rfl
  obtain ⟨hrows, _⟩ := insertKey_eq_ok hinserted
  rw [← hrows] at hnumber
  rintro (hrefused | hone | hclash | hraises | hraises | hraises | hraises | hraises |
    ⟨hfull, hraises⟩)
  · rw [hstaff] at hrefused
    cases hrefused
  · exact hone (by rw [hprevious]; rfl)
  · exact hfresh hclash
  · rw [hselect] at hraises
    cases hraises
  · rw [hupdate] at hraises
    cases hraises
  · rw [hinsert] at hraises
    cases hraises
  · rw [hcount] at hraises
    cases hraises
  · rw [hcommit] at hraises
    cases hraises
  · rcases hend with ⟨hroom, _⟩ | ⟨_, hselectOldest, hupdateOldest, _⟩
    · omega
    · rw [hselectOldest, hupdateOldest] at hraises
      rcases hraises with hraises | hraises
      · cases hraises
      · cases hraises

/-- No rotation gets past its files: the path of the old private PEM is below a file. -/
theorem rotateFiles_raises (limit : KeyLimit) (faults : Faults RotatePoint) (pair : EcdsaPair)
    (rotation : Rotation) (files : KeyFiles) :
    ∃ exn files', rotateFiles limit faults pair rotation files = .error exn files' := by
  cases h : rotateFiles limit faults pair rotation files with
  | error exn files' => exact ⟨exn, files', rfl⟩
  | ok _ files' =>
      exfalso
      obtain ⟨_, _, _, h⟩ := bind_eq_ok.mp h
      obtain ⟨_, _, _, h⟩ := bind_eq_ok.mp h
      obtain ⟨_, _, hunlink, _⟩ := bind_eq_ok.mp h
      cases hunlink

/-- A refused request changes nothing. -/
theorem stateAfter_rotate_of_refused {limit : KeyLimit} {faults : Faults RotatePoint}
    {request : RotateRequest} {w : KeyWorld}
    (h : RotationRefused limit faults.raises request w.rows) :
    stateAfter (rotateKeysEndpoint limit faults request) w = w := by
  unfold stateAfter rotateKeysEndpoint
  simp only [Called.truthy, not_true_eq_false, if_false, Bool.true_and]
  cases hstaff : request.staff with
  | true =>
      cases faults.raises .report with
      | true => rfl
      | false => rfl
  | false =>
      simp only [Bool.false_eq_true, if_false]
      cases hrotation : rotateTransaction limit faults.raises request w.rows with
      | error exn => rfl
      | ok rotation => exact absurd h (not_refused_of_isOk hstaff hrotation)

/-- A request that commits leaves the new rows, some files, and the token manager, the list
of valid keys and the lock as they were. -/
theorem stateAfter_rotate_of_isOk {limit : KeyLimit} {faults : Faults RotatePoint}
    {request : RotateRequest} {w : KeyWorld} {rotation : Rotation}
    (hstaff : request.staff = false)
    (h : rotateTransaction limit faults.raises request w.rows = .ok rotation) :
    ∃ files, stateAfter (rotateKeysEndpoint limit faults request) w =
      { w with rows := rotation.rows, files := files } := by
  obtain ⟨exn, files, hfiles⟩ := rotateFiles_raises limit faults request.pair rotation w.files
  refine ⟨files, ?_⟩
  unfold stateAfter rotateKeysEndpoint
  simp only [Called.truthy, not_true_eq_false, if_false, Bool.true_and, hstaff,
    Bool.false_eq_true, h, hfiles]

/-- The ids of the rows that a rotation commits are the old ones and the new one. -/
theorem kids_of_rotateTransaction {limit : KeyLimit} {raises : RotatePoint → Bool}
    {request : RotateRequest} {rows : List KeyRow} {rotation : Rotation}
    (h : rotateTransaction limit raises request rows = .ok rotation) :
    kids (keyData rotation.rows) = kids (keyData rows) ++ [request.pair.kid] := by
  obtain ⟨_, _, _, _, _, previous, inserted, _, hinserted, hend⟩ := rotateTransaction_eq_ok h
  obtain ⟨rfl, _⟩ := insertKey_eq_ok hinserted
  have hkids : kids (keyData (setRotated previous.kid request.rotatedAt rows ++
      [request.newRow])) = kids (keyData rows) ++ [request.pair.kid] := by
    rw [keyData_setRotated_append previous.kid request.rotatedAt rows request.newRow rfl rfl,
      kids_rotateActive]
    rfl
  rcases hend with ⟨_, rfl⟩ | ⟨_, _, _, oldest, _, rfl⟩
  · exact hkids
  · show kids (keyData (setExpired [oldest.kid] _ _)) = _
    rw [keyData_setExpired, kids_expireKids]
    exact hkids

/-- The new id of a committed rotation was not in the table. -/
theorem kid_fresh_of_rotateTransaction {limit : KeyLimit} {raises : RotatePoint → Bool}
    {request : RotateRequest} {rows : List KeyRow} {rotation : Rotation}
    (h : rotateTransaction limit raises request rows = .ok rotation) :
    request.pair.kid ∉ kids (keyData rows) := by
  obtain ⟨_, _, _, _, _, previous, inserted, _, hinserted, _⟩ := rotateTransaction_eq_ok h
  exact kid_notMem_of_not_collides (insertKey_eq_ok hinserted).2

/-- A request that commits is half rotated. -/
theorem not_allOrNothing_of_isOk {limit : KeyLimit} {faults : Faults RotatePoint}
    {request : RotateRequest} (k : RestingWorld) {rotation : Rotation}
    (hstaff : request.staff = false)
    (h : rotateTransaction limit faults.raises request k.world.rows = .ok rotation) :
    ¬ AllOrNothing request k.world
      (stateAfter (rotateKeysEndpoint limit faults request) k.world) := by
  obtain ⟨files, hafter⟩ := stateAfter_rotate_of_isOk hstaff h
  rw [hafter]
  rintro ⟨hold | hnew, _⟩
  · -- the table has a new row
    have hrows : rotation.rows = k.world.rows := hold.1
    have hkids := kids_of_rotateTransaction h
    rw [hrows] at hkids
    have hlength := congrArg List.length hkids
    rw [List.length_append, List.length_singleton] at hlength
    omega
  · -- the token manager signs with a key that the table had before
    have hactive : k.world.manager.activeKey = request.pair.kid := hnew.active
    exact kid_fresh_of_rotateTransaction h (hactive ▸ k.active_known)

/-- From every key state between two requests, and with faults at any points, a rotation
is all or nothing if and only if it is refused before it commits. -/
theorem rotation_allOrNothing_iff (limit : KeyLimit) (faults : Faults RotatePoint)
    (request : RotateRequest) (k : RestingWorld) :
    AllOrNothing request k.world
        (stateAfter (rotateKeysEndpoint limit faults request) k.world) ↔
      RotationRefused limit faults.raises request k.world.rows := by
  constructor
  · intro hall
    by_contra hrefused
    obtain ⟨rotation, hrotation⟩ := rotateTransaction_isOk hrefused
    have hstaff : request.staff = false := by
      unfold RotationRefused at hrefused
      push Not at hrefused
      exact Bool.not_eq_true _ ▸ hrefused.1
    exact not_allOrNothing_of_isOk k hstaff hrotation hall
  · intro hrefused
    rw [stateAfter_rotate_of_refused hrefused]
    exact ⟨.inl ⟨rfl, rfl, rfl, rfl⟩, k.lock_free⟩

/-- A rotation by a super admin on the table with two keys. -/
def thirdKey : RotateRequest where
  staff := false
  pair := ⟨"3", "s3", "p3", ("x3", "y3")⟩
  epoch := 30
  rotatedAt := 30
  expiredAt := 30
  metadataEpoch := 30
  choice := 0

/-- Nothing raises. -/
def noFaults : Faults RotatePoint where
  raises _ := false
  tornJwks := none
  tornPem := none

/-- The state of the server with two keys. -/
def twoKeysResting : RestingWorld where
  world := twoKeyWorld.world
  active_known := by decide
  lock_free := rfl

/-- Without any fault the table has the new key and the token manager has not. -/
theorem rotation_half_done :
    ¬ AllOrNothing thirdKey twoKeysResting.world
      (stateAfter (rotateKeysEndpoint deployedLimit noFaults thirdKey)
        twoKeysResting.world) := by
  obtain ⟨rotation, hrotation⟩ :
      ∃ rotation, rotateTransaction deployedLimit noFaults.raises thirdKey
        twoKeysResting.world.rows = .ok rotation := ⟨_, rfl⟩
  exact not_allOrNothing_of_isOk twoKeysResting rfl hrotation

end AuthServer
end Tenjin
