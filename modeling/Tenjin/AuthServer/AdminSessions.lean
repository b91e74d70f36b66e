import Tenjin.AuthServer.AdminAccounts

/-!
# The round trip of an admin session

A session is encoded and signed by `admin_login`, decoded by `get_admin_session` and
accepted by `validate_admin_session`.

* The number of a random UUID has more than 64 bits, so the session dictionary is never
  serialised (`signedToken_createAdminSession`).
* The names of its fields are not those of `AdminSession`, so the dependency refuses it in
  any encoding (`getAdminSession_issued`).
* A login is answered with an error before it comes to the session
  (`adminLogin_never_responds`).
-/

namespace Tenjin
namespace AuthServer

open Foundation
open Python
open Auxillary

/-- What a session token is issued for. -/
structure SessionIssue where
  adminId : Int
  role : String
  iteration : Int
  epoch : Int
  length : Int
  sessionId : Uuid4
  revivalDigest : String
  signingKey : String

/-- The session dictionary of an issue. -/
def SessionIssue.session (issue : SessionIssue) : SessionItems :=
  createAdminSession issue.adminId issue.length issue.role issue.iteration issue.epoch
    issue.sessionId issue.revivalDigest

/-- The server holds a session of the admin in the iteration of the issue. -/
def HoldsSession (issue : SessionIssue) (s : AdminState) : Prop :=
  ∃ serverSession, s.sessions issue.adminId = some serverSession ∧
    serverSession.lookup "session_iteration" = some (.int issue.iteration) ∧
    serverSession.lookup "role" = some (.str issue.role)

/-- The decoded session is the one that has been issued. -/
structure SameSession (issue : SessionIssue) (session : AdminSession) : Prop where
  adminId : session.adminId = issue.adminId
  epoch : session.epoch = issue.epoch
  expiryAt : session.expiryAt = issue.epoch + issue.length
  role : session.role = issue.role
  iteration : session.iteration = issue.iteration

/-- A token is issued, decoded to the same session, and accepted before its expiry while the
server holds the session. -/
def RoundTrips (lib : AdminLibraries) (config : AdminConfig) (issue : SessionIssue)
    (freshId : Uuid4) (verificationKey : String) : Prop :=
  ∃ token, signedToken lib issue.session issue.signingKey = .ok token ∧
    ∃ session, getAdminSession lib freshId (some token) = .ok (token, session) ∧
      SameSession issue session ∧
      ∀ run now s, now < session.expiryAt → HoldsSession issue s →
        validateAdminSession lib config run now verificationKey token session s = .ok session s

/-- A random UUID has more than 64 bits, because its version digit is four. -/
theorem Uuid4.large (u : Uuid4) : 2 ^ 64 ≤ (u.value : Int) := by
  have hversion : 4 ≤ u.value / 2 ^ 76 := by
    have hmod := Nat.mod_le (u.value / 2 ^ 76) 16
    rw [u.version] at hmod
    exact hmod
  have hvalue : 4 * 2 ^ 76 ≤ u.value := (Nat.le_div_iff_mul_le (Nat.two_pow_pos 76)).mp hversion
  have hpow : 2 ^ 64 ≤ u.value := le_trans (by decide) hvalue
  exact_mod_cast hpow

/-- The dictionary keeps the number of the session when the digest is taken out. -/
theorem sessionId_mem (issue : SessionIssue) :
    ("session_id", SessionValue.int issue.sessionId.value) ∈ withoutDigest issue.session := by
  simp [withoutDigest, SessionIssue.session, createAdminSession]

/-- No session is ever signed. -/
theorem signedToken_createAdminSession (lib : AdminLibraries) (issue : SessionIssue) :
    signedToken lib issue.session issue.signingKey = .error .typeError := by
  have hdumps : lib.dumps (withoutDigest issue.session) = .error .typeError :=
    lib.dumps_rejects _ _ _ (sessionId_mem issue) issue.sessionId.large
  unfold signedToken
  rw [hdumps]
  rfl

/-- A field that is not among the items and has no default fails. -/
theorem validateField_missing {α : Type} {items : SessionItems} {name : String}
    {convert : SessionValue → Option α} (h : items.lookup name = none) :
    validateField items name none convert = .error name := by
  unfold validateField
  rw [h]

/-- Items without the two times are refused, and both are reported. -/
theorem adminSessionValidate_missing (lib : AdminLibraries) (freshId : Uuid4)
    {items : SessionItems} (hexpiry : items.lookup "expiry_at" = none)
    (hepoch : items.lookup "epoch" = none) :
    ∃ names : List String, "expiry_at" ∈ names ∧ "epoch" ∈ names ∧
      adminSessionValidate lib freshId items = .error (names.map fun name => [name]) := by
  unfold adminSessionValidate
  rw [validateField_missing hexpiry, validateField_missing hepoch]
  dsimp only
  generalize validateField items "id_" _ _ = id_
  generalize validateField items "admin_id" _ _ = adminId
  generalize validateField items "role" _ _ = role
  generalize validateField items "iteration" _ _ = iteration
  refine ⟨failedField id_ ++ failedField adminId ++ ["expiry_at"] ++ ["epoch"] ++
    failedField role ++ failedField iteration, by simp, by simp, ?_⟩
  cases id_ <;> cases adminId <;> rfl

/-- The dependency refuses the items of an issued session, however they are encoded. -/
theorem getAdminSession_issued (lib : AdminLibraries) (issue : SessionIssue) (freshId : Uuid4)
    (token : String) {data : List ℕ} (htoken : token ≠ "")
    (hdecode : urlsafeB64Decode token.toList = .ok data)
    (hloads : lib.loads data = .ok (withoutDigest issue.session)) :
    ∃ names : List String, "expiry_at" ∈ names ∧ "epoch" ∈ names ∧
      getAdminSession lib freshId (some token) = .error (.raised (.httpException 401
        ("Invalid session fields: " ++ fieldNames names))) := by
  have hexpiry : (withoutDigest issue.session).lookup "expiry_at" = none := rfl
  have hepoch : (withoutDigest issue.session).lookup "epoch" = none := rfl
  obtain ⟨names, hmem, hmem', hvalidate⟩ :=
    adminSessionValidate_missing lib freshId hexpiry hepoch
  refine ⟨names, hmem, hmem', ?_⟩
  have hnone : (names.map fun name => [name]).any List.isEmpty = false := by
    simp
  have hflat : (names.map fun name => [name]).flatten = names := by
    rw [← List.flatMap_def, List.flatMap_singleton']
  unfold getAdminSession
  dsimp only
  rw [if_neg htoken, hdecode]
  dsimp only
  rw [hloads]
  dsimp only
  rw [hvalidate]
  simp only [hnone, hflat, Bool.false_eq_true, if_false]

/-- What follows a report is never a response if it is a refusal. -/
theorem report_refuse_ne_ok {α : Type} (config : AdminConfig) (run : ReportRun)
    (adminID : Int) (desc : String) (forceLogout : Bool) (status : ℕ) (detail : String)
    (s s' : AdminState) (a : α) :
    (do
      reportSuspiciousActivity config run adminID desc forceLogout
      (refuse status detail : EStateM ServerExn AdminState α)) s ≠ .ok a s' := by
  intro h
  obtain ⟨_, t, _, hrefuse⟩ := bind_eq_ok.mp h
  cases hrefuse

/-- A login has no response: the session that it asks for is a coroutine, and is taken for
an active one. -/
theorem adminLogin_never_responds (lib : AdminLibraries) (config : AdminConfig)
    (run : ReportRun) (draw : LoginDraw) (identity password : String) (s s' : AdminState)
    (response : List (String × PyValue)) :
    adminLogin lib config run draw identity password s ≠ .ok response s' := by
  have hget : (get : EStateM ServerExn AdminState AdminState) s = .ok s s := rfl
  unfold adminLogin
  rw [bind_of_ok hget]
  cases selectAdmin s.admins identity with
  | none =>
      intro h
      cases h
  | some admin =>
      dsimp only
      intro h
      split_ifs at h with hlocked hpassword hactive
      · exact report_refuse_ne_ok _ _ _ _ _ _ _ _ _ _ h
      · exact report_refuse_ne_ok _ _ _ _ _ _ _ _ _ _ h
      · exact absurd rfl hactive
      · exact report_refuse_ne_ok _ _ _ _ _ _ _ _ _ _ h

/-- No session round trips: no login responds with a token, no session is signed, and the
items of a session are refused by the dependency in every encoding. -/
theorem sessions_never_round_trip (lib : AdminLibraries) (config : AdminConfig)
    (issue : SessionIssue) (freshId : Uuid4) (verificationKey : String) :
    ¬ RoundTrips lib config issue freshId verificationKey ∧
      (∀ run draw identity password s response s',
        adminLogin lib config run draw identity password s ≠ .ok response s') ∧
      ∀ token data, token ≠ "" → urlsafeB64Decode token.toList = .ok data →
        lib.loads data = .ok (withoutDigest issue.session) →
          ∃ names : List String, "expiry_at" ∈ names ∧ "epoch" ∈ names ∧
            getAdminSession lib freshId (some token) = .error (.raised (.httpException 401
              ("Invalid session fields: " ++ fieldNames names))) := by
  refine ⟨?_, ?_, ?_⟩
  · rintro ⟨token, htoken, _⟩
    rw [signedToken_createAdminSession] at htoken
    cases htoken
  · intro run draw identity password s response s'
    exact adminLogin_never_responds lib config run draw identity password s s' response
  · intro token data htoken hdecode hloads
    exact getAdminSession_issued lib issue freshId token htoken hdecode hloads

/-- A session of an hour for the first admin. -/
def firstIssue : SessionIssue :=
  ⟨1, "super", 1, 1700000000000000, 3600000000, sampleUuid, "c0ffee", "key-1"⟩

/-- The session of the first admin does not round trip. -/
theorem first_session_not_issued :
    signedToken sampleLibraries firstIssue.session firstIssue.signingKey = .error .typeError ∧
      ¬ RoundTrips sampleLibraries hourConfig firstIssue sampleUuid "pub-1" := by
  have hsigned := signedToken_createAdminSession sampleLibraries firstIssue
  refine ⟨hsigned, ?_⟩
  rintro ⟨token, htoken, _⟩
  rw [hsigned] at htoken
  cases htoken

end AuthServer
end Tenjin
