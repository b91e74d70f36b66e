import Tenjin.AuthServer.KeyEndpoints

/-!
# What the handlers of the key endpoints restore

`invalidate_key` and `clean_keystore` change the table, the JWKS file and the public PEM
files inside a `try`, with the commit last.  Their handlers roll the session back and write
the files again.

* `clean_keystore` has read the PEM files before, and restores them from what it read.
* `invalidate_key` takes the PEM from the row that it fetched, which the rollback has
  expired: reading it raises, and the file that was deleted stays away.
* `rollsBack_iff` is the exact condition.
-/

namespace Tenjin
namespace AuthServer

open Foundation
open Python

/-- The documented behaviour of a session: a rollback expires all its instances. -/
def expiringSession : SessionBehaviour := ⟨true⟩

/-- The JWKS file lists exactly the unexpired kids, and each of them has a public PEM file
with the PEM of the table. -/
structure ConsistentWorld where
  world : KeyWorld
  kids_nodup : (kids (keyData world.rows)).Nodup
  entries : List Jwk
  jwks_eq : world.files.jwks = some entries
  jwks_unexpired : SameElements (entries.map Jwk.kid) (kids (unexpired (keyData world.rows)))
  pem_eq : ∀ row ∈ world.rows, row.expiredAt = none →
    world.files.publicPem row.kid = some row.publicPem

/-- The committed table, the content of the JWKS file and the public PEM files are those of
the other state. -/
def Restored (before after : KeyWorld) : Prop :=
  after.rows = before.rows ∧ after.files.jwks = before.files.jwks ∧
    after.files.publicPem = before.files.publicPem

/-- A database or file operation inside the `try` of the endpoint raises. -/
def RaisesInTry (server : KeyServer) (w : KeyWorld) : KeyRequest → Prop
  | .rotate _ _ => False
  | .invalidate kid now faults =>
      ∃ originalJwks exn s, w.files.jwks = some originalJwks ∧
        invalidateTry faults kid now originalJwks w.rows ⟨w.files, none⟩ = .error exn s ∧
        exn.isOperationError = true
  | .clean now faults _ =>
      ∃ oldJwks pemMappings exn files, w.files.jwks = some oldJwks ∧ oldJwks.length ≠ 1 ∧
        readPems w.files oldJwks = some pemMappings ∧
        cleanTry server.ecdsa faults now w.rows w.files = .error exn files

/-- If an operation inside the `try` raises, the three stores are as before the request. -/
def RollsBack (server : KeyServer) (w : KeyWorld) (request : KeyRequest) : Prop :=
  RaisesInTry server w request →
    Restored w (stateAfter (handleKeyRequest server request) w)

/-- The commit of an invalidation raises, after the PEM file has been deleted: the key can
be invalidated, and no operation before the commit raises. -/
def CommitRaisesAfterUnlink (w : KeyWorld) : KeyRequest → Prop
  | .invalidate kid _ faults =>
      (∃ target, selectKid kid w.rows = some target ∧ target.rotatedOutAt ≠ none ∧
        target.expiredAt = none) ∧
      faults.raises .selectTarget = false ∧ faults.raises .updateExpired = false ∧
      faults.raises .writeJwks = false ∧ faults.raises .unlinkPublic = false ∧
      faults.raises .commit = true
  | _ => False

theorem liftExecute_eq_error {σ α : Type} {fails : Bool} {result : Except ServerExn α} {s s' : σ}
    {exn : ServerExn} (h : liftExcept (execute fails result) s = .error exn s') : s = s' := by
  unfold execute at h
  cases fails with
  | true =>
      cases h
      rfl
  | false =>
      cases result with
      | error e =>
          cases h
          rfl
      | ok a => cases h

/-- Where the file operations of an invalidation are interrupted, the public PEM files are
the old ones, unless it was the commit that raised. -/
theorem invalidateFiles_eq_error {faults : Faults InvalidatePoint} {kid : String}
    {originalJwks : List Jwk} {expired : List KeyRow} {s s' : TryState} {exn : ServerExn}
    (h : invalidateFiles faults kid originalJwks expired s = .error exn s') :
    s'.files.publicPem = s.files.publicPem ∨
      (faults.raises .writeJwks = false ∧ faults.raises .unlinkPublic = false ∧
        faults.raises .commit = true) := by
  cases hwrite : faults.raises .writeJwks with
  | true =>
      left
      have hraises : onFiles (writeJwks true faults.tornJwks (originalJwks.filter (·.kid ≠ kid)))
          s = .error .osError ⟨{ s.files with jwks := faults.tornJwks }, s.targetKey⟩ := rfl
      rw [← hwrite] at hraises
      rw [invalidateFiles, bind_of_error hraises] at h
      cases h
      rfl
  | false =>
      have hwritten : onFiles (writeJwks false faults.tornJwks
          (originalJwks.filter (·.kid ≠ kid))) s =
          .ok () ⟨{ s.files with jwks := some (originalJwks.filter (·.kid ≠ kid)) },
            s.targetKey⟩ := rfl
      rw [← hwrite] at hwritten
      rw [invalidateFiles, bind_of_ok hwritten] at h
      cases hunlink : faults.raises .unlinkPublic with
      | true =>
          left
          rw [hunlink] at h
          cases h
          rfl
      | false =>
          cases hcommit : faults.raises .commit with
          | true => exact .inr ⟨rfl, rfl, rfl⟩
          | false =>
              rw [hunlink, hcommit] at h
              cases h

/-- Where the public PEM files of an interrupted invalidation are not the old ones, it was
the commit that raised. -/
theorem invalidateTry_eq_error {faults : Faults InvalidatePoint} {kid : String} {now : Int}
    {originalJwks : List Jwk} {w : KeyWorld} {exn : ServerExn} {s : TryState}
    (h : invalidateTry faults kid now originalJwks w.rows ⟨w.files, none⟩ = .error exn s) :
    s.files.publicPem = w.files.publicPem ∨
      CommitRaisesAfterUnlink w (.invalidate kid now faults) := by
  rcases bind_eq_error.mp h with hselect | ⟨found, _, hselect, h⟩
  · left
    rw [← liftExecute_eq_error hselect]
  obtain ⟨hselectTarget, hfound, rfl⟩ := liftExecute_eq_ok.mp hselect
  cases hfound
  rcases bind_eq_error.mp h with hset | ⟨_, t, hset, h⟩
  · cases hset
  cases hset
  cases htarget : selectKid kid w.rows with
  | none =>
      rw [htarget] at h
      cases h
      exact .inl rfl
  | some target =>
      rw [htarget] at h
      dsimp only at h
      split at h
      · -- an active key: only the report is an operation
        left
        rcases bind_eq_error.mp h with hreport | ⟨_, _, hreport, h⟩
        · rw [← liftExecute_eq_error hreport]
        · obtain ⟨_, _, rfl⟩ := liftExecute_eq_ok.mp hreport
          cases h
          rfl
      rename_i hrotated
      split at h
      · cases h
        exact .inl rfl
      rename_i hunexpired
      rcases bind_eq_error.mp h with hupdate | ⟨expired, _, hupdate, h⟩
      · left
        rw [← liftExecute_eq_error hupdate]
      obtain ⟨hupdateExpired, _, rfl⟩ := liftExecute_eq_ok.mp hupdate
      rcases invalidateFiles_eq_error h with hsame | ⟨hwrite, hunlink, hcommit⟩
      · exact .inl hsame
      · exact .inr ⟨⟨target, htarget, hrotated, not_not.mp hunexpired⟩, hselectTarget,
          hupdateExpired, hwrite, hunlink, hcommit⟩

/-- Where the commit raises, the PEM file is gone by then. -/
theorem CommitRaisesAfterUnlink.invalidateTry_eq {w : KeyWorld} {kid : String} {now : Int}
    {faults : Faults InvalidatePoint}
    (h : CommitRaisesAfterUnlink w (.invalidate kid now faults)) (originalJwks : List Jwk) :
    ∃ s target, invalidateTry faults kid now originalJwks w.rows ⟨w.files, none⟩ =
        .error .sqlAlchemyError s ∧
      selectKid kid w.rows = some target ∧ target.expiredAt = none ∧
      s.targetKey = some target ∧ s.files.publicPem kid = none := by
  obtain ⟨⟨target, htarget, hrotated, hunexpired⟩, hselect, hupdate, hwrite, hunlink, hcommit⟩ :=
    h
  refine ⟨⟨{ w.files with
    jwks := some (originalJwks.filter (·.kid ≠ kid)),
    publicPem := Function.update w.files.publicPem kid none }, some target⟩, target, ?_,
    htarget, hunexpired, rfl, Function.update_self ..⟩
  refine bind_eq_error.mpr (.inr ⟨some target, ⟨w.files, none⟩,
    liftExecute_eq_ok.mpr ⟨hselect, congrArg _ htarget, rfl⟩, ?_⟩)
  refine bind_eq_error.mpr (.inr ⟨(), ⟨w.files, some target⟩, rfl, ?_⟩)
  dsimp only
  rw [if_neg hrotated, if_neg (not_not.mpr hunexpired)]
  refine bind_eq_error.mpr (.inr ⟨_, ⟨w.files, some target⟩,
    liftExecute_eq_ok.mpr ⟨hupdate, rfl, rfl⟩, ?_⟩)
  unfold invalidateFiles
  rw [hwrite, hunlink, hcommit]
  rfl

/-- The handler of an invalidation restores the JWKS file, and leaves the PEM files as they
are: it cannot read the PEM of the row that it fetched. -/
theorem invalidateHandler_files (kid : String) (originalJwks : List Jwk) (s : TryState) :
    (invalidateHandler expiringSession kid originalJwks s).2 =
      { s.files with jwks := some originalJwks } := by
  unfold invalidateHandler
  cases s.targetKey with
  | none => rfl
  | some targetKey =>
      dsimp only
      split
      · rfl
      · rfl

/-- What an invalidation leaves behind whose `try` raises. -/
theorem stateAfter_invalidate_of_error {kid : String} {now : Int}
    {faults : Faults InvalidatePoint} {w : KeyWorld} {originalJwks : List Jwk} {exn : ServerExn}
    {s : TryState} (hjwks : w.files.jwks = some originalJwks)
    (htry : invalidateTry faults kid now originalJwks w.rows ⟨w.files, none⟩ = .error exn s)
    (hexn : exn.isOperationError = true) :
    stateAfter (invalidateKeyEndpoint expiringSession faults kid now) w =
      { w with files := { s.files with jwks := some originalJwks } } := by
  have hfiles := invalidateHandler_files kid originalJwks s
  unfold stateAfter invalidateKeyEndpoint
  simp only [hjwks, htry, hexn, if_true]
  cases hhandler : invalidateHandler expiringSession kid originalJwks s with
  | mk result files =>
      rw [hhandler] at hfiles
      cases hfiles
      cases result with
      | ok _ => rfl
      | error exn => rfl

/-- The public PEM files are the old ones, except that some of the kids may have lost
theirs. -/
def PemsLost (before : KeyFiles) (lost : List String) (files : KeyFiles) : Prop :=
  ∀ kid, files.publicPem kid = before.publicPem kid ∨
    (kid ∈ lost ∧ files.publicPem kid = none)

/-- The file operations of a cleanup delete the public PEM files of the expired keys only,
however they end. -/
theorem keeps_cleanFiles (faults : Faults CleanPoint) (validInactiveKeys : List String)
    (activeKeyMapping : Jwk) (expired : List KeyRow) (before : KeyFiles) :
    Keeps (PemsLost before validInactiveKeys)
      (cleanFiles faults validInactiveKeys activeKeyMapping expired) := by
  unfold cleanFiles
  apply Keeps.bind
  · -- the JWKS file is written
    intro files hlost
    unfold stateAfter writeJwks
    cases faults.raises .writeJwks with
    | true => exact hlost
    | false => exact hlost
  intro _
  apply Keeps.bind
  swap
  · intro _
    exact keeps_liftExcept _
  apply Keeps.forM
  intro keyID hkeyID
  apply keeps_unlinkPublic
  intro files hlost kid
  show Function.update files.publicPem keyID none kid = _ ∨
    (_ ∧ Function.update files.publicPem keyID none kid = none)
  by_cases hkid : kid = keyID
  · right
    rw [hkid]
    exact ⟨hkeyID, Function.update_self ..⟩
  · rw [Function.update_of_ne hkid]
    exact hlost kid

/-- A cleanup that raises has deleted public PEM files of rotated keys only. -/
theorem cleanTry_eq_error {ecdsa : Ecdsa} {faults : Faults CleanPoint} {now : Int}
    {rows : List KeyRow} {files files' : KeyFiles} {exn : ServerExn}
    (h : cleanTry ecdsa faults now rows files = .error exn files') :
    PemsLost files (kids (keyData (selectRotated rows))) files' := by
  have hsame : PemsLost files (kids (keyData (selectRotated rows))) files :=
    fun kid => .inl rfl
  rcases bind_eq_error.mp h with hselect | ⟨rotated, _, hselect, h⟩
  · exact liftExecute_eq_error hselect ▸ hsame
  obtain ⟨_, hrotated, rfl⟩ := liftExecute_eq_ok.mp hselect
  cases hrotated
  rcases bind_eq_error.mp h with hupdate | ⟨expired, _, hupdate, h⟩
  · exact liftExecute_eq_error hupdate ▸ hsame
  obtain ⟨_, _, rfl⟩ := liftExecute_eq_ok.mp hupdate
  rcases bind_eq_error.mp h with hactive | ⟨activeKey, _, hactive, h⟩
  · exact liftExecute_eq_error hactive ▸ hsame
  obtain ⟨_, _, rfl⟩ := liftExecute_eq_ok.mp hactive
  cases hpoint : ecdsa.coordinates activeKey.publicPem with
  | none =>
      simp only [hpoint] at h
      cases h
      exact hsame
  | some point =>
      simp only [hpoint] at h
      rcases bind_eq_error.mp h with hfiles | ⟨committed, _, _, h⟩
      · exact (keeps_cleanFiles faults _ _ expired files).onError files exn files' hsame hfiles
      · cases h

/-- The PEMs that a cleanup reads before it starts. -/
theorem readPems_eq_some {files : KeyFiles} {entries : List Jwk}
    {pemMappings : List (String × String)} (h : readPems files entries = some pemMappings) :
    pemMappings.map Prod.fst = entries.map Jwk.kid ∧
      ∀ pem ∈ pemMappings, files.publicPem pem.1 = some pem.2 := by
  induction entries generalizing pemMappings with
  | nil =>
      cases h
      exact ⟨rfl, fun pem hpem => by cases hpem⟩
  | cons entry entries ih =>
      rw [readPems] at h
      split at h
      · rename_i pem rest hpem hrest
        cases h
        obtain ⟨hkids, hpems⟩ := ih hrest
        refine ⟨by rw [List.map_cons, List.map_cons, hkids], fun other hother => ?_⟩
        rcases List.mem_cons.mp hother with rfl | hother
        · exact hpem
        · exact hpems other hother
      · cases h

/-- Writing back what was read restores the PEM files that have been lost, and does not
touch the JWKS file. -/
theorem restorePems_spec {before files : KeyFiles} {pemMappings : List (String × String)}
    (hpems : ∀ pem ∈ pemMappings, before.publicPem pem.1 = some pem.2)
    (hlost : PemsLost before (pemMappings.map Prod.fst) files) :
    (restorePems files pemMappings).publicPem = before.publicPem ∧
      (restorePems files pemMappings).jwks = files.jwks := by
  induction pemMappings generalizing files with
  | nil =>
      refine ⟨?_, rfl⟩
      ext kid
      rcases hlost kid with hsame | ⟨hmem, _⟩
      · rw [restorePems, hsame]
      · cases hmem
  | cons pem rest ih =>
      obtain ⟨kid, content⟩ := pem
      have hrest : ∀ other ∈ rest, before.publicPem other.1 = some other.2 :=
        fun other hother => hpems other (List.mem_cons_of_mem _ hother)
      have hcontent : before.publicPem kid = some content :=
        hpems (kid, content) (List.mem_cons_self ..)
      rw [restorePems]
      split
      · -- the file is there, so it is the old one
        rename_i hexists
        apply ih hrest
        intro other
        rcases hlost other with hsame | ⟨hmem, hnone⟩
        · exact .inl hsame
        · rw [List.map_cons, List.mem_cons] at hmem
          rcases hmem with rfl | hmem
          · simp [hnone] at hexists
          · exact .inr ⟨hmem, hnone⟩
      · have hafter : PemsLost before (rest.map Prod.fst)
            { files with publicPem := Function.update files.publicPem kid (some content) } := by
          intro other
          show Function.update files.publicPem kid (some content) other = _ ∨
            (_ ∧ Function.update files.publicPem kid (some content) other = none)
          by_cases hother : other = kid
          · left
            rw [hother, Function.update_self, hcontent]
          · rw [Function.update_of_ne hother]
            rcases hlost other with hsame | ⟨hmem, hnone⟩
            · exact .inl hsame
            · rw [List.map_cons, List.mem_cons] at hmem
              exact .inr ⟨hmem.resolve_left hother, hnone⟩
        exact ih hrest hafter

/-- A cleanup whose `try` raises restores everything. -/
theorem ConsistentWorld.clean_restored (c : ConsistentWorld) (ecdsa : Ecdsa)
    (faults : Faults CleanPoint) (now : Int) (pipelineFails : Bool)
    {oldJwks : List Jwk} {pemMappings : List (String × String)} {exn : ServerExn}
    {files : KeyFiles} (hjwks : c.world.files.jwks = some oldJwks) (hsingle : oldJwks.length ≠ 1)
    (hpems : readPems c.world.files oldJwks = some pemMappings)
    (htry : cleanTry ecdsa faults now c.world.rows c.world.files = .error exn files) :
    Restored c.world
      (stateAfter (cleanKeystoreEndpoint ecdsa faults now pipelineFails) c.world) := by
  obtain ⟨hkids, hcontents⟩ := readPems_eq_some hpems
  have hentries : oldJwks = c.entries := by
    rw [c.jwks_eq] at hjwks
    cases hjwks
    rfl
  have hlost : PemsLost c.world.files (kids (keyData (selectRotated c.world.rows))) files :=
    cleanTry_eq_error htry
  have hread : PemsLost c.world.files (pemMappings.map Prod.fst)
      { files with jwks := some oldJwks } := by
    intro kid
    rcases hlost kid with hsame | ⟨hmem, hnone⟩
    · exact .inl hsame
    · -- a rotated key that is not expired is listed in the JWKS file
      right
      refine ⟨?_, hnone⟩
      rw [hkids, hentries, c.jwks_unexpired kid]
      obtain ⟨data, hdata, rfl⟩ := List.mem_map.mp hmem
      obtain ⟨row, hrow, rfl⟩ := List.mem_map.mp hdata
      obtain ⟨hrowMem, hcondition⟩ := List.mem_filter.mp hrow
      simp only [ne_eq, decide_eq_true_eq] at hcondition
      exact List.mem_map.mpr ⟨row.toKeyData, List.mem_filter.mpr
        ⟨List.mem_map.mpr ⟨row, hrowMem, rfl⟩, by simp [hcondition.2]⟩, rfl⟩
  obtain ⟨hpublic, hfile⟩ := restorePems_spec hcontents hread
  have hafter : stateAfter (cleanKeystoreEndpoint ecdsa faults now pipelineFails) c.world =
      { c.world with
        files := restorePems { files with jwks := some oldJwks } pemMappings } := by
    unfold stateAfter cleanKeystoreEndpoint
    simp only [hjwks, hsingle, if_false, hpems, htry]
  rw [hafter]
  exact ⟨rfl, hfile.trans hjwks.symm, hpublic⟩

/-- An invalidation restores everything unless its commit raises. -/
theorem ConsistentWorld.invalidate_restored_iff (c : ConsistentWorld) (kid : String)
    (now : Int) (faults : Faults InvalidatePoint) {originalJwks : List Jwk} {exn : ServerExn}
    {s : TryState} (hjwks : c.world.files.jwks = some originalJwks)
    (htry : invalidateTry faults kid now originalJwks c.world.rows ⟨c.world.files, none⟩ =
      .error exn s) (hexn : exn.isOperationError = true) :
    Restored c.world
        (stateAfter (invalidateKeyEndpoint expiringSession faults kid now) c.world) ↔
      ¬ CommitRaisesAfterUnlink c.world (.invalidate kid now faults) := by
  have hafter := stateAfter_invalidate_of_error hjwks htry hexn
  constructor
  · rintro ⟨_, _, hpublic⟩ hcommit
    obtain ⟨s', target, htry', htarget, hunexpired, _, hgone⟩ :=
      hcommit.invalidateTry_eq originalJwks
    rw [htry] at htry'
    cases htry'
    have hmem : target ∈ c.world.rows := List.mem_of_find?_eq_some htarget
    have hkid : target.kid = kid := by simpa using List.find?_some htarget
    have hpem := c.pem_eq target hmem hunexpired
    rw [hkid, ← hpublic, hafter] at hpem
    rw [show ({ c.world with files := { s.files with jwks := some originalJwks } } :
      KeyWorld).files.publicPem kid = none from hgone] at hpem
    cases hpem
  · intro hcommit
    rw [hafter]
    refine ⟨rfl, hjwks.symm, ?_⟩
    exact (invalidateTry_eq_error htry).resolve_right hcommit

/-- From every consistent state, a request whose `try` raises restores the table, the JWKS
file and the public PEM files if and only if it is not an invalidation whose commit
raises. -/
theorem rollsBack_iff (limit : KeyLimit) (ecdsa : Ecdsa) (c : ConsistentWorld)
    (request : KeyRequest) :
    RollsBack ⟨limit, expiringSession, ecdsa⟩ c.world request ↔
      ¬ CommitRaisesAfterUnlink c.world request := by
  cases request with
  | rotate request faults =>
      exact iff_of_true (fun hraises => hraises.elim) id
  | clean now faults pipelineFails =>
      refine iff_of_true ?_ id
      rintro ⟨oldJwks, pemMappings, exn, files, hjwks, hsingle, hpems, htry⟩
      exact c.clean_restored ecdsa faults now pipelineFails hjwks hsingle hpems htry
  | invalidate kid now faults =>
      constructor
      · intro hrolls hcommit
        obtain ⟨s, _, htry, _⟩ := hcommit.invalidateTry_eq c.entries
        exact (c.invalidate_restored_iff kid now faults c.jwks_eq htry rfl).mp
          (hrolls ⟨c.entries, .sqlAlchemyError, s, c.jwks_eq, htry, rfl⟩) hcommit
      · rintro hcommit ⟨originalJwks, exn, s, hjwks, htry, hexn⟩
        exact (c.invalidate_restored_iff kid now faults hjwks htry hexn).mpr hcommit

/-- A table with a rotated key and an active one. -/
def twoKeyRows : List KeyRow :=
  [{ kid := "1", epoch := 10, rotatedOutAt := some 20, expiredAt := none, alg := "ES256",
     curve := "SECP256k1", privatePem := "s1", publicPem := "p1" },
   { kid := "2", epoch := 20, rotatedOutAt := none, expiredAt := none, alg := "ES256",
     curve := "SECP256k1", privatePem := "s2", publicPem := "p2" }]

/-- The files of this table. -/
def twoKeyFiles : KeyFiles where
  jwks := some [jwkOf "1" ("x1", "y1"), jwkOf "2" ("x2", "y2")]
  publicPem kid := if kid = "1" then some "p1" else if kid = "2" then some "p2" else none
  privatePem kid := if kid = "2" then some "s2" else none

/-- A server with this table. -/
def twoKeyWorld : ConsistentWorld where
  world :=
    { rows := twoKeyRows
      files := twoKeyFiles
      manager := setKeyState "2" ⟨"p2", "s2", "ES256", 20, none⟩
        (some (Finmap.singleton "1" ⟨"p1", "s1", "ES256", 10, some 20⟩))
      validKeys := ["2", "1"]
      rotationLock := false
      rotationCooldown := false }
  kids_nodup := by decide
  entries := [jwkOf "1" ("x1", "y1"), jwkOf "2" ("x2", "y2")]
  jwks_eq := rfl
  jwks_unexpired := fun _ => Iff.rfl
  pem_eq := by decide

/-- Only the commit raises. -/
def commitRaises : Faults InvalidatePoint where
  raises point := point = .commit
  tornJwks := none
  tornPem := none

/-- The invalidation of the rotated key, whose commit raises, loses its public PEM file. -/
theorem invalidate_commit_not_restored :
    ¬ RollsBack ⟨deployedLimit, expiringSession, ⟨fun pem => some (pem, pem)⟩⟩
      twoKeyWorld.world (.invalidate "1" 50 commitRaises) := by
  have hcommit : CommitRaisesAfterUnlink twoKeyWorld.world (.invalidate "1" 50 commitRaises) :=
    ⟨⟨_, rfl, by decide, rfl⟩, rfl, rfl, rfl, rfl, rfl⟩
  obtain ⟨s, _, htry, _⟩ := hcommit.invalidateTry_eq twoKeyWorld.entries
  intro hrolls
  exact (twoKeyWorld.invalidate_restored_iff "1" 50 commitRaises rfl htry rfl).mp
    (hrolls ⟨twoKeyWorld.entries, .sqlAlchemyError, s, rfl, htry, rfl⟩) hcommit

end AuthServer
end Tenjin
