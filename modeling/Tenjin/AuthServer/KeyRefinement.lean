import Tenjin.AuthServer.Bootup
import Tenjin.AuthServer.KeyEndpoints

/-!
# The bootup and the key endpoints as operations on the table and its file

`Jwks` has the table without its PEM columns and the JWKS file as the list of its key ids.
The bootup of the master and the key endpoints, with all the stores that they touch, refine
its operations.

* `KeyWorld.keyState` is what `Jwks` sees of a server.
* A rotation reads the clock twice, once for the key that it rotates out and once for the
  key that it expires; `Jwks` has one time for both.
* `keyRequest_refines` — a request that commits is an operation of `Jwks`, if it can write
  the JWKS file.  What `Jwks` says about the file and the table holds of the endpoints
  (`keyRequest_fileAgrees_iff`).
-/

namespace Tenjin
namespace AuthServer

open Foundation
open Python

/-- The table and the file of a server. -/
def KeyWorld.keyState (w : KeyWorld) : KeyState where
  rows := keyData w.rows
  file := w.files.jwks.map fun entries => entries.map Jwk.kid

/-- A rotation finds the JWKS file, writes it without a fault, and reads one time from its
clocks. -/
def WritesFile (w : KeyWorld) : KeyRequest → Prop
  | .rotate request faults =>
      w.files.jwks ≠ none ∧ faults.raises .updateJwks = false ∧
        request.expiredAt = request.rotatedAt
  | _ => True

theorem keyData_length (rows : List KeyRow) : (keyData rows).length = rows.length :=
  List.length_map _

theorem activeKeys_keyData (rows : List KeyRow) :
    activeKeys (keyData rows) = keyData (selectActive rows) := by
  unfold activeKeys keyData selectActive
  rw [List.filter_map]
  rfl

theorem rotatedUnexpired_keyData (rows : List KeyRow) :
    rotatedUnexpired (keyData rows) = keyData (selectRotated rows) := by
  unfold rotatedUnexpired keyData selectRotated
  rw [List.filter_map]
  rfl

theorem find_keyData (kid : String) (rows : List KeyRow) :
    ((keyData rows).find? fun row => row.kid = kid) =
      (selectKid kid rows).map KeyRow.toKeyData := by
  unfold keyData selectKid
  rw [List.find?_map]
  rfl

/-- The key that the query for the oldest one returns is one of the oldest. -/
theorem isOldest_of_selectOldest {choice : ℕ} {rows : List KeyRow} {oldest : KeyRow}
    (h : selectOldest choice rows = .ok oldest) : IsOldest (keyData rows) oldest.kid := by
  unfold selectOldest at h
  split at h
  · rename_i found hfound
    cases h
    obtain ⟨hmem, hleast⟩ := List.mem_filter.mp (List.mem_of_getElem? hfound)
    simp only [decide_eq_true_eq] at hleast
    unfold IsOldest
    rw [rotatedUnexpired_keyData]
    refine ⟨oldest.toKeyData, List.mem_map.mpr ⟨oldest, hmem, rfl⟩, rfl, ?_⟩
    intro data hdata
    obtain ⟨other, hother, rfl⟩ := List.mem_map.mp hdata
    exact hleast other hother
  · cases h

/-- The bootup of the master, read without the PEM columns. -/
theorem masterBootupServer_refines {limit : KeyLimit} {rows : List KeyRow}
    (drawn : DrawnKey rows) {server : BootedServer}
    (h : masterBootupServer limit drawn.row rows = .ok server) :
    masterBootup limit drawn.row.kid drawn.row.epoch (keyData rows) =
      (keyData server.rows, server.jwks) := by
  have hnone := activeRows_eq_nil_iff rows
  have hnew : (⟨drawn.row.kid, drawn.row.epoch, none, none⟩ : KeyData) =
      drawn.row.toKeyData := by
    rw [KeyData.mk.injEq]
    exact ⟨rfl, rfl, drawn.active.symm, drawn.unexpired.symm⟩
  have hinserted : keyData (rows ++ [drawn.row]) = keyData rows ++ [drawn.row.toKeyData] :=
    List.map_append
  rw [masterBootupServer_eq limit drawn] at h
  cases h
  unfold masterBootup
  rw [← keyData_relevantRows, hnew]
  dsimp only
  rw [ite_take_eq_take, ← hinserted]
  cases hrelevant : relevantRows rows with
  | nil =>
      have hnil : activeRows rows = [] := by
        rw [hnone, hrelevant]
        rfl
      have hempty : keyData [] = [] := rfl
      rw [if_pos hnil, if_pos hempty, List.take_nil]
      rfl
  | cons first rest =>
      have hrotated : (keyData (first :: rest)).filter (fun row => row.rotatedOutAt ≠ none) =
          keyData ((first :: rest).filter fun row => row.rotatedOutAt ≠ none) :=
        List.filter_map
      have htake : (keyData (first :: rest)).take limit.capacity =
          keyData ((first :: rest).take limit.capacity) := List.map_take.symm
      have hsome : keyData (first :: rest) ≠ [] := List.cons_ne_nil _ _
      rw [hrelevant] at hnone
      rw [hrotated, htake, keyData_length, keyData_length, if_neg hsome]
      by_cases hactive : activeRows rows = []
      · rw [if_pos hactive, if_pos (hnone.mp hactive)]
        rfl
      · have hfirst : (first :: rest).take limit.capacity =
            first :: rest.take (limit.capacity - 1) := by
          rw [← List.take_succ_cons, Nat.sub_add_cancel limit.capacity_pos]
        rw [if_neg hactive, if_neg (mt hnone.mpr hactive), hfirst]
        rfl

/-- The transaction of a rotation, read without the PEM columns. -/
theorem rotateTransaction_refines {limit : KeyLimit} {raises : RotatePoint → Bool}
    {request : RotateRequest} {rows : List KeyRow} {rotation : Rotation}
    (hclock : request.expiredAt = request.rotatedAt)
    (h : rotateTransaction limit raises request rows = .ok rotation) (file : List String) :
    ∃ oldest, rotateKeys limit request.pair.kid request.epoch request.rotatedAt oldest
        (keyData rows) file =
      some ⟨keyData rotation.rows, some (updateJwks file request.pair.kid limit.capacity)⟩ := by
  obtain ⟨_, _, _, _, _, previous, inserted, hprevious, hinserted, hend⟩ :=
    rotateTransaction_eq_ok h
  obtain ⟨rfl, hfresh⟩ := insertKey_eq_ok hinserted
  have hactive : activeKeys (keyData rows) = [previous.toKeyData] := by
    rw [activeKeys_keyData, hprevious]
    rfl
  have hkid : request.pair.kid ∉ kids (keyData rows) := kid_notMem_of_not_collides hfresh
  have hrotated : keyData (setRotated previous.kid request.rotatedAt rows ++
      [request.newRow]) =
      rotateActive previous.kid request.pair.kid request.epoch request.rotatedAt
        (keyData rows) :=
    keyData_setRotated_append previous.kid request.rotatedAt rows request.newRow rfl rfl
  rcases hend with ⟨hroom, rfl⟩ | ⟨hover, _, _, oldest, holdest, rfl⟩
  · refine ⟨"", ?_⟩
    unfold rotateKeys
    rw [countUnexpired, hrotated] at hroom
    simp only [hactive, hkid, if_false, not_lt.mpr hroom, hrotated]
  · refine ⟨oldest.kid, ?_⟩
    have hisOldest := isOldest_of_selectOldest holdest
    unfold rotateKeys
    rw [countUnexpired, hrotated] at hover
    rw [hrotated] at hisOldest
    simp only [hactive, hkid, if_false, hover, if_true, hisOldest, keyData_setExpired, hrotated,
      hclock]

/-- Every committed request is an operation on the table and its file, if a rotation can
write the file. -/
theorem keyRequest_refines {server : KeyServer} {w w' : KeyWorld} {request : KeyRequest}
    (hnodup : (kids (keyData w.rows)).Nodup) (hwrites : WritesFile w request)
    (hstep : keyRequestStep server w request = some w') :
    w'.rows = w.rows ∨
      ∃ label, keyStep server.limit w.keyState label = some w'.keyState := by
  simp only [keyRequestStep, Option.some.injEq] at hstep
  subst hstep
  cases request with
  | rotate request faults =>
      rcases rotateKeysEndpoint_spec server.limit faults request w with
        hsame | ⟨rotation, hrotation, hrows, hfiles⟩
      · exact .inl hsame
      right
      obtain ⟨hjwks, hwrite, hclock⟩ := hwrites
      obtain ⟨entries, hentries⟩ := Option.ne_none_iff_exists'.mp hjwks
      obtain ⟨oldest, hrefines⟩ := rotateTransaction_refines hclock hrotation
        (entries.map Jwk.kid)
      refine ⟨.rotate request.pair.kid request.epoch request.rotatedAt oldest, ?_⟩
      have hfile := stateAfter_rotateFiles_jwks server.limit request.pair rotation hentries hwrite
      simp only [handleKeyRequest, KeyWorld.keyState, keyStep, hentries, Option.map_some,
        hrefines, hrows, hfiles, hfile, map_push]
      rfl
  | invalidate kid now faults =>
      rcases invalidateKeyEndpoint_spec server.session faults kid now w with
        hsame | ⟨entries, target, hentries, htarget, hrotated, hunexpired, hrows, hfile⟩
      · exact .inl hsame
      right
      refine ⟨.invalidate kid now, ?_⟩
      simp only [handleKeyRequest, KeyWorld.keyState, keyStep, hentries, Option.map_some,
        hrows, hfile, invalidateKey, find_keyData, htarget, hrotated, hunexpired,
        keyData_setExpired, if_false, ne_eq, not_true_eq_false]
      rw [List.filter_map]
      rfl
  | clean now faults pipelineFails =>
      rcases cleanKeystoreEndpoint_spec server.ecdsa faults now pipelineFails w with
        hsame | ⟨entries, active, point, hentries, hsingle, hrows, hactive, hfile⟩
      · exact .inl hsame
      right
      refine ⟨.clean now, ?_⟩
      rw [selectActive_setExpired now (rotated_of_selectRotated hnodup)] at hactive
      simp only [handleKeyRequest, KeyWorld.keyState, keyStep, hentries, Option.map_some,
        hrows, hfile, cleanKeystore, List.length_map, hsingle, activeKeys_keyData, hactive,
        rotatedUnexpired_keyData, keyData_setExpired, if_false]
      rfl

/-- So a committed request leaves the file with the unexpired ids of the table exactly where
its operation is sound. -/
theorem keyRequest_fileAgrees_iff {server : KeyServer} {w w' : KeyWorld} {request : KeyRequest}
    (hI : KeyInvariant w.keyState) (hagrees : FileAgrees w.keyState)
    (hwrites : WritesFile w request) (hstep : keyRequestStep server w request = some w') :
    w'.rows = w.rows ∨
      ∃ label, keyStep server.limit w.keyState label = some w'.keyState ∧
        (FileAgrees w'.keyState ↔ KeyStepSound server.limit w.keyState label) := by
  rcases keyRequest_refines hI.kids_nodup hwrites hstep with hsame | ⟨label, hlabel⟩
  · exact .inl hsame
  · exact .inr ⟨label, hlabel, fileAgrees_step_iff hI hagrees hlabel⟩

end AuthServer
end Tenjin
