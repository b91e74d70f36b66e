import Tenjin.AuthServer.AdminAccounts

/-!
# What the requests of the admins change

A request of an admin may change the row and the session of that admin, and an account may
become locked only on the activities of its own admin.

* `handleAdminRequest` runs a login, a logout, a refresh, any other request as far as its
  dependency, or a report of the key endpoints.
* A request either ends in a report with a forced logout (`forcedReport`), or it leaves
  the rows alone and changes at most the session of its own admin.
* A report that reaches the limit locks every account, because the update of the report
  has no condition.  A run is framed if and only if no report is committed that locks an
  account besides its own (`eachStep_framed_iff`).
-/

namespace Tenjin
namespace AuthServer

open Foundation
open Python

/-- What a request meets: its report, the clock, a fresh identifier and the cached key. -/
structure Circumstances where
  run : ReportRun
  now : Int
  freshId : Uuid4
  cachedKey : Option String

/-- The requests.  `guarded` is any other one that depends on a validated session, and
`reported` is a report of the key endpoints. -/
inductive AdminRequest
  | login (draw : LoginDraw) (identity password : String)
  | logout (id_ : Int)
  | refresh (header : Option String) (refreshId : Int) (refreshDigest : String)
  | guarded (header : Option String)
  | reported (adminID : Int) (desc : String) (forceLogout : Bool)

/-- The dependency of the requests that need a session. -/
def authenticate (lib : AdminLibraries) (config : AdminConfig) (met : Circumstances)
    (header : Option String) : EStateM ServerExn AdminState AdminSession :=
  match getAdminSession lib met.freshId header with
  | .error exn => throw exn
  | .ok (sessionToken, session) => do
      let key ← getVerificationKey met.cachedKey session.adminId
      validateAdminSession lib config met.run met.now key sessionToken session

/-- One request, up to its response. -/
def handleAdminRequest (lib : AdminLibraries) (config : AdminConfig) (met : Circumstances) :
    AdminRequest → EStateM ServerExn AdminState Unit
  | .login draw identity password => do
      let _ ← adminLogin lib config met.run draw identity password
      pure ()
  | .logout id_ => adminLogout id_
  | .refresh header refreshId refreshDigest => do
      let session ← authenticate lib config met header
      adminRefresh config met.run refreshId refreshDigest session
  | .guarded header => do
      let _ ← authenticate lib config met header
      pure ()
  | .reported adminID desc forceLogout =>
      reportSuspiciousActivity config met.run adminID desc forceLogout

/-- A request and what it meets. -/
abbrev AdminLabel := Circumstances × AdminRequest

/-- A request is answered, or it raises and is answered with an error. -/
def adminStep (lib : AdminLibraries) (config : AdminConfig) (s : AdminState)
    (label : AdminLabel) : Option AdminState :=
  some (stateAfter (handleAdminRequest lib config label.1 label.2) s)

/-- The admin in whose name a request is made. -/
def actingAdmin (lib : AdminLibraries) (met : Circumstances) (s : AdminState) :
    AdminRequest → Option Int
  | .login _ identity _ => (selectAdmin s.admins identity).map Admin.id_
  | .logout id_ => some id_
  | .refresh header _ _ | .guarded header =>
      match getAdminSession lib met.freshId header with
      | .ok (_, session) => some session.adminId
      | .error _ => none
  | .reported adminID _ _ => some adminID

/-- A step is framed if it keeps the row and the session of every other admin, and locks
an account only on the activities of its own admin. -/
structure StepFramed (config : AdminConfig) (now : Int) (acting : Option Int)
    (s s' : AdminState) : Prop where
  row : ∀ before ∈ s.admins, some before.id_ ≠ acting → ∃ after ∈ s'.admins,
    after.id_ = before.id_ ∧ after.locked = before.locked ∧ after.lastLogin = before.lastLogin
  session : ∀ id_, some id_ ≠ acting → s'.sessions id_ = s.sessions id_
  lock : ∀ before ∈ s.admins, ∀ after ∈ s'.admins, after.id_ = before.id_ →
    before.locked = false → after.locked = true →
      config.maxActivityLimit ≤ activityCount config s'.activities before.id_ now

/-- The request of the label is framed in the state. -/
def RequestFramed (lib : AdminLibraries) (config : AdminConfig) (s : AdminState)
    (label : AdminLabel) : Prop :=
  ∀ s', adminStep lib config s label = some s' →
    StepFramed config label.1.run.now (actingAdmin lib label.1 s label.2) s s'

/-- The report of a token whose signature does not verify. -/
def tamperedReport (lib : AdminLibraries) (met : Circumstances) (s : AdminState)
    (header : Option String) : Option (Int × String) :=
  match getAdminSession lib met.freshId header with
  | .error _ => none
  | .ok (sessionToken, session) =>
      match getVerificationKey met.cachedKey session.adminId s with
      | .error _ _ => none
      | .ok key _ =>
          match (pySplit '.' sessionToken)[1]? with
          | none => none
          | some signature =>
              if lib.verify key signature = .ok false then
                some (session.adminId, "Tampered/invalid session")
              else none

/-- The report with a forced logout that a request ends in. -/
def forcedReport (lib : AdminLibraries) (met : Circumstances) (s : AdminState) :
    AdminRequest → Option (Int × String)
  | .login .. | .logout _ => none
  | .refresh header _ _ | .guarded header => tamperedReport lib met s header
  | .reported adminID desc forceLogout => if forceLogout then some (adminID, desc) else none

/-- A report with a forced logout reaches the limit and is committed. -/
def LocksAccounts (config : AdminConfig) (run : ReportRun) (s : AdminState) (adminID : Int)
    (desc : String) : Prop :=
  adminID ∈ s.admins.map Admin.id_ ∧ desc.length ≤ 64 ∧ (∀ point, run.raises point = false) ∧
    config.maxActivityLimit ≤
      activityCount config (s.activities ++ [⟨adminID, run.timeLogged, desc⟩]) adminID run.now

/-- Whenever the request locks accounts, all the others are locked already. -/
def LocksAlone (lib : AdminLibraries) (config : AdminConfig) (s : AdminState)
    (label : AdminLabel) : Prop :=
  ∀ adminID desc, forcedReport lib label.1 s label.2 = some (adminID, desc) →
    LocksAccounts config label.1.run s adminID desc →
      ∀ admin ∈ s.admins, admin.id_ ≠ adminID → admin.locked = true

/-- The rows stay, and so do the sessions of all others. -/
def ChangesSessionOf (acting : Option Int) (s s' : AdminState) : Prop :=
  s'.admins = s.admins ∧ ∀ id_, some id_ ≠ acting → s'.sessions id_ = s.sessions id_

theorem ChangesSessionOf.refl (acting : Option Int) (s : AdminState) :
    ChangesSessionOf acting s s :=
  ⟨rfl, fun _ _ => rfl⟩

theorem changesSessionOf_update (adminID : Int) (s : AdminState)
    (session : Option SessionItems) :
    ChangesSessionOf (some adminID) s
      { s with sessions := Function.update s.sessions adminID session } := by
  refine ⟨rfl, ?_⟩
  intro id_ hid
  have hne : id_ ≠ adminID := fun h => hid (congrArg some h)
  exact Function.update_of_ne hne ..

/-- The rows stay, so the step is framed. -/
theorem ChangesSessionOf.stepFramed {config : AdminConfig} {now : Int} {acting : Option Int}
    {s s' : AdminState} (h : ChangesSessionOf acting s s') :
    StepFramed config now acting s s' where
  row before hbefore _ := ⟨before, h.1 ▸ hbefore, rfl, rfl, rfl⟩
  session := h.2
  lock before hbefore after hafter hid hopen hlocked := by
    rw [h.1] at hafter
    have heq : after = before := List.inj_on_of_nodup_map s.ids_nodup hafter hbefore hid
    rw [heq, hopen] at hlocked
    cases hlocked

/-- The state that a report leaves behind when it locks. -/
def lockedState (run : ReportRun) (s : AdminState) (adminID : Int) (desc : String) :
    AdminState where
  admins := lockAdmins s.admins
  ids_nodup := s.locked_ids_nodup
  activities := s.activities ++ [⟨adminID, run.timeLogged, desc⟩]
  sessions := Function.update s.sessions adminID none

/-- A report with a forced logout that reaches the limit and is committed. -/
theorem report_locks {config : AdminConfig} {run : ReportRun} {s : AdminState} {adminID : Int}
    {desc : String} (h : LocksAccounts config run s adminID desc) :
    stateAfter (reportSuspiciousActivity config run adminID desc true) s =
      lockedState run s adminID desc := by
  obtain ⟨hsuspect, hlength, hraises, hlimit⟩ := h
  have hlong : ¬ 64 < desc.length := by omega
  simp [stateAfter, reportSuspiciousActivity, hraises, hsuspect, hlong, hlimit, lockedState]

/-- Any other report leaves the rows alone. -/
theorem report_changesSessionOf {config : AdminConfig} {run : ReportRun} {s : AdminState}
    {adminID : Int} {desc : String} {forceLogout : Bool}
    (h : forceLogout = true → ¬ LocksAccounts config run s adminID desc) :
    ChangesSessionOf (some adminID) s
      (stateAfter (reportSuspiciousActivity config run adminID desc forceLogout) s) := by
  have hsame := ChangesSessionOf.refl (some adminID) s
  have hout := changesSessionOf_update adminID s none
  unfold stateAfter reportSuspiciousActivity
  by_cases hinsert : (run.raises .insert || adminID ∉ s.admins.map Admin.id_ ||
      64 < desc.length : Bool) = true
  · rw [if_pos hinsert]
    exact hsame
  rw [if_neg hinsert]
  dsimp only
  split_ifs with hcount hreached hupdate hdelete hcommit hcommit
  · exact hsame
  · exact hsame
  · exact hsame
  · exact hout
  · -- The report would lock.
    exfalso
    simp only [Bool.or_eq_true, decide_eq_true_eq, not_or, not_not, not_lt, Bool.not_eq_true,
      Bool.and_eq_true] at hinsert hcount hreached hupdate hdelete hcommit
    apply h hreached.1
    refine ⟨hinsert.1.2, hinsert.2, ?_, hreached.2⟩
    intro point
    cases point with
    | insert => exact hinsert.1.1
    | count => exact Bool.eq_false_iff.mpr fun hc => hcount ⟨hreached.1, hc⟩
    | update => exact hupdate
    | delete => exact hdelete
    | commit => exact hcommit
  · exact hsame
  · exact hsame

/-- A report without a forced logout locks nothing. -/
theorem report_mild (config : AdminConfig) (run : ReportRun) (s : AdminState) (adminID : Int)
    (desc : String) :
    ChangesSessionOf (some adminID) s
      (stateAfter (reportSuspiciousActivity config run adminID desc false) s) := by
  apply report_changesSessionOf
  intro h
  cases h

/-- Refusing a request changes nothing. -/
theorem stateAfter_refuse {α : Type} (status : ℕ) (detail : String) (s : AdminState) :
    stateAfter (refuse status detail : EStateM ServerExn AdminState α) s = s :=
  rfl

/-- A report that is followed by a refusal. -/
theorem stateAfter_report_refuse {α : Type} (config : AdminConfig) (run : ReportRun)
    (s : AdminState) (adminID : Int) (desc : String) (forceLogout : Bool) (status : ℕ)
    (detail : String) :
    stateAfter (do
      reportSuspiciousActivity config run adminID desc forceLogout
      (refuse status detail : EStateM ServerExn AdminState α)) s =
      stateAfter (reportSuspiciousActivity config run adminID desc forceLogout) s :=
  stateAfter_bind_of_unchanged (fun _ t => stateAfter_refuse status detail t) s

/-- A login changes at most the session of the admin whose name it gives. -/
theorem adminLogin_changesSessionOf (lib : AdminLibraries) (config : AdminConfig)
    (run : ReportRun) (draw : LoginDraw) (identity password : String) (s : AdminState) :
    ChangesSessionOf ((selectAdmin s.admins identity).map Admin.id_) s
      (stateAfter (adminLogin lib config run draw identity password) s) := by
  have hget : (get : EStateM ServerExn AdminState AdminState) s = .ok s s := rfl
  unfold adminLogin
  rw [stateAfter_bind_of_ok hget]
  cases hadmin : selectAdmin s.admins identity with
  | none => exact ChangesSessionOf.refl ..
  | some admin =>
      dsimp only
      split_ifs
      · rw [stateAfter_report_refuse]
        exact report_mild ..
      · rw [stateAfter_report_refuse]
        exact report_mild ..
      · cases loginSession lib config admin draw with
        | error exn => exact ChangesSessionOf.refl ..
        | ok response => exact ChangesSessionOf.refl ..
      · rw [stateAfter_report_refuse]
        exact report_mild ..

/-- The refresh itself changes nothing: it raises before it reaches a report. -/
theorem adminRefresh_unchanged (config : AdminConfig) (run : ReportRun) (refreshId : Int)
    (refreshDigest : String) (session : AdminSession) (s : AdminState) :
    stateAfter (adminRefresh config run refreshId refreshDigest session) s = s := by
  unfold adminRefresh
  split_ifs <;> rfl

/-- The key of a token is looked up without a change. -/
theorem getVerificationKey_unchanged (cachedKey : Option String) (adminId : Int)
    (s : AdminState) :
    (∃ key, getVerificationKey cachedKey adminId s = .ok key s) ∨
      ∃ exn, getVerificationKey cachedKey adminId s = .error exn s := by
  have hget : (get : EStateM ServerExn AdminState AdminState) s = .ok s s := rfl
  unfold getVerificationKey
  cases cachedKey.filter (· ≠ "") with
  | some key => exact .inl ⟨key, rfl⟩
  | none =>
      dsimp only
      rw [bind_of_ok hget]
      cases s.admins.find? fun admin => admin.id_ = adminId with
      | some admin => exact .inl ⟨admin.verificationKey, rfl⟩
      | none => exact .inr ⟨_, rfl⟩

/-- A validation without a tampered signature changes at most the session of the token. -/
theorem validateAdminSession_changesSessionOf (lib : AdminLibraries) (config : AdminConfig)
    (run : ReportRun) (now : Int) (key sessionToken : String) (session : AdminSession)
    (s : AdminState) {signature : String}
    (hsignature : (pySplit '.' sessionToken)[1]? = some signature)
    (hverify : lib.verify key signature ≠ .ok false) :
    ChangesSessionOf (some session.adminId) s
      (stateAfter (validateAdminSession lib config run now key sessionToken session) s) := by
  unfold validateAdminSession
  rw [hsignature]
  dsimp only
  cases hv : lib.verify key signature with
  | error exn => exact ChangesSessionOf.refl ..
  | ok verified =>
      cases verified with
      | false => exact absurd hv hverify
      | true =>
          dsimp only
          split_ifs
          · have hmodify : (modify fun s : AdminState =>
                { s with sessions := Function.update s.sessions session.adminId none } :
                EStateM ServerExn AdminState Unit) s =
                .ok () { s with sessions := Function.update s.sessions session.adminId none } :=
              rfl
            rw [stateAfter_bind_of_ok hmodify, stateAfter_refuse]
            exact changesSessionOf_update ..
          · have hget : (get : EStateM ServerExn AdminState AdminState) s = .ok s s := rfl
            rw [stateAfter_bind_of_ok hget]
            cases s.sessions session.adminId with
            | none =>
                dsimp only
                rw [stateAfter_report_refuse]
                exact report_mild ..
            | some serverSession =>
                dsimp only
                cases serverSession.lookup "role" with
                | none => exact ChangesSessionOf.refl ..
                | some role =>
                    dsimp only
                    cases adminRole role <;> exact ChangesSessionOf.refl ..

/-- A token whose signature does not verify is reported, with a forced logout. -/
theorem validateAdminSession_tampered (lib : AdminLibraries) (config : AdminConfig)
    (run : ReportRun) (now : Int) (key sessionToken : String) (session : AdminSession)
    (s : AdminState) {signature : String}
    (hsignature : (pySplit '.' sessionToken)[1]? = some signature)
    (hverify : lib.verify key signature = .ok false) :
    stateAfter (validateAdminSession lib config run now key sessionToken session) s =
      stateAfter (reportSuspiciousActivity config run session.adminId "Tampered/invalid session"
        true) s := by
  unfold validateAdminSession
  rw [hsignature]
  dsimp only
  rw [hverify]
  exact stateAfter_report_refuse ..

/-- What a request can come to: a report with a forced logout in the name of its admin, or
at most a change of the session of its admin. -/
def RequestOutcome (config : AdminConfig) (run : ReportRun) (acting : Option Int)
    (forced : Option (Int × String)) (s s' : AdminState) : Prop :=
  match forced with
  | some (adminID, desc) =>
      acting = some adminID ∧
        s' = stateAfter (reportSuspiciousActivity config run adminID desc true) s
  | none => ChangesSessionOf acting s s'

/-- The dependency comes to a report only for a tampered token. -/
theorem authenticate_outcome (lib : AdminLibraries) (config : AdminConfig) (met : Circumstances)
    (header : Option String) (s : AdminState) :
    RequestOutcome config met.run (actingAdmin lib met s (.guarded header))
      (tamperedReport lib met s header) s (stateAfter (authenticate lib config met header) s) := by
  simp only [actingAdmin]
  unfold tamperedReport authenticate
  cases getAdminSession lib met.freshId header with
  | error exn => exact ChangesSessionOf.refl ..
  | ok decoded =>
      obtain ⟨sessionToken, session⟩ := decoded
      dsimp only
      rcases getVerificationKey_unchanged met.cachedKey session.adminId s with
        ⟨key, hkey⟩ | ⟨exn, hkey⟩
      · rw [stateAfter_bind_of_ok hkey, hkey]
        dsimp only
        cases hsignature : (pySplit '.' sessionToken)[1]? with
        | none =>
            unfold validateAdminSession
            rw [hsignature]
            exact ChangesSessionOf.refl ..
        | some signature =>
            dsimp only
            by_cases hverify : lib.verify key signature = .ok false
            · rw [if_pos hverify]
              exact ⟨rfl, validateAdminSession_tampered lib config met.run met.now key sessionToken
                session s hsignature hverify⟩
            · rw [if_neg hverify]
              exact validateAdminSession_changesSessionOf lib config met.run met.now key
                sessionToken session s hsignature hverify
      · rw [stateAfter_of_error (bind_of_error hkey), hkey]
        exact ChangesSessionOf.refl ..

/-- A value that is thrown away. -/
theorem stateAfter_discard {α : Type} (x : EStateM ServerExn AdminState α) (s : AdminState) :
    stateAfter (do let _ ← x; pure ()) s = stateAfter x s :=
  stateAfter_bind_of_unchanged (fun _ _ => rfl) s

/-- What a request comes to. -/
theorem handleAdminRequest_outcome (lib : AdminLibraries) (config : AdminConfig)
    (met : Circumstances) (request : AdminRequest) (s : AdminState) :
    RequestOutcome config met.run (actingAdmin lib met s request)
      (forcedReport lib met s request) s
      (stateAfter (handleAdminRequest lib config met request) s) := by
  cases request with
  | login draw identity password =>
      show ChangesSessionOf _ s (stateAfter (do
        let _ ← adminLogin lib config met.run draw identity password
        pure ()) s)
      rw [stateAfter_discard]
      exact adminLogin_changesSessionOf ..
  | logout id_ => exact ChangesSessionOf.refl ..
  | refresh header refreshId refreshDigest =>
      show RequestOutcome config met.run _ (tamperedReport lib met s header) s
        (stateAfter (do
          let session ← authenticate lib config met header
          adminRefresh config met.run refreshId refreshDigest session) s)
      rw [stateAfter_bind_of_unchanged fun session t =>
        adminRefresh_unchanged config met.run refreshId refreshDigest session t]
      exact authenticate_outcome ..
  | guarded header =>
      show RequestOutcome config met.run _ (tamperedReport lib met s header) s
        (stateAfter (do
          let _ ← authenticate lib config met header
          pure ()) s)
      rw [stateAfter_discard]
      exact authenticate_outcome ..
  | reported adminID desc forceLogout =>
      cases forceLogout with
      | false => exact report_mild ..
      | true => exact ⟨rfl, rfl⟩

/-- A row of the locked accounts is a row of the accounts, locked. -/
theorem mem_lockAdmins {admins : List Admin} {after : Admin} :
    after ∈ lockAdmins admins ↔ ∃ admin ∈ admins, { admin with locked := true } = after :=
  List.mem_map

/-- A report that locks is framed if and only if the others are locked already. -/
theorem lockedState_framed_iff {config : AdminConfig} {run : ReportRun} {s : AdminState}
    {adminID : Int} {desc : String} (h : LocksAccounts config run s adminID desc) :
    StepFramed config run.now (some adminID) s (lockedState run s adminID desc) ↔
      ∀ admin ∈ s.admins, admin.id_ ≠ adminID → admin.locked = true := by
  constructor
  · intro hframed admin hadmin hother
    obtain ⟨after, hafter, _, hlocked, _⟩ :=
      hframed.row admin hadmin fun h => hother (Option.some.inj h)
    obtain ⟨locked, _, rfl⟩ := mem_lockAdmins.mp hafter
    exact hlocked.symm
  · intro hlocked
    refine ⟨?_, ?_, ?_⟩
    · intro before hbefore hother
      refine ⟨{ before with locked := true }, mem_lockAdmins.mpr ⟨before, hbefore, rfl⟩, rfl, ?_,
        rfl⟩
      exact (hlocked before hbefore fun h => hother (congrArg some h)).symm
    · intro id_ hid
      have hne : id_ ≠ adminID := fun h => hid (congrArg some h)
      exact Function.update_of_ne hne ..
    · intro before hbefore after _ _ hopen _
      by_cases hsame : before.id_ = adminID
      · rw [hsame]
        exact h.2.2.2
      · rw [hlocked before hbefore hsame] at hopen
        cases hopen

/-- One request is framed if and only if it locks alone. -/
theorem requestFramed_iff (lib : AdminLibraries) (config : AdminConfig) (s : AdminState)
    (label : AdminLabel) : RequestFramed lib config s label ↔ LocksAlone lib config s label := by
  obtain ⟨met, request⟩ := label
  have houtcome := handleAdminRequest_outcome lib config met request s
  have hstep : RequestFramed lib config s (met, request) ↔
      StepFramed config met.run.now (actingAdmin lib met s request) s
        (stateAfter (handleAdminRequest lib config met request) s) := by
    constructor
    · intro h
      exact h _ rfl
    · intro h s' hs
      cases hs
      exact h
  rw [hstep]
  unfold LocksAlone
  dsimp only
  cases hforced : forcedReport lib met s request with
  | none =>
      rw [hforced] at houtcome
      constructor
      · intro _ adminID desc h
        cases h
      · intro _
        exact houtcome.stepFramed
  | some report =>
      obtain ⟨adminID, desc⟩ := report
      rw [hforced] at houtcome
      obtain ⟨hacting, hafter⟩ := houtcome
      rw [hacting, hafter]
      by_cases hlocks : LocksAccounts config met.run s adminID desc
      · rw [report_locks hlocks, lockedState_framed_iff hlocks]
        constructor
        · intro hall adminID' desc' heq _
          cases heq
          exact hall
        · intro hall
          exact hall adminID desc rfl hlocks
      · constructor
        · intro _ adminID' desc' heq h
          cases heq
          exact absurd h hlocks
        · intro _
          exact (report_changesSessionOf fun _ => hlocks).stepFramed

/-- Every request of a run is framed if and only if none commits a lock of an account
besides its own. -/
theorem eachStep_framed_iff (lib : AdminLibraries) (config : AdminConfig)
    (labels : List AdminLabel) (s : AdminState) :
    EachStep (adminStep lib config) (RequestFramed lib config) s labels ↔
      EachStep (adminStep lib config) (LocksAlone lib config) s labels :=
  eachStep_congr (fun s label _ _ => requestFramed_iff lib config s label) labels s

/-- A limit of one activity within an hour. -/
def strictConfig : AdminConfig := { hourConfig with maxActivityLimit := 1 }

/-- Two admins, neither of them locked. -/
def twoAdmins : AdminState where
  admins := [⟨1, "first", "staff", "$2b$one", none, 0, false, "key-1", "pub-1"⟩,
    ⟨2, "second", "staff", "$2b$two", none, 0, false, "key-2", "pub-2"⟩]
  ids_nodup := by decide
  activities := []
  sessions := fun _ => none

/-- The first admin tries to rotate the keys during the cooldown. -/
def cooldownReport : AdminLabel :=
  (⟨⟨5, 5, fun _ => false⟩, 5, sampleUuid, none⟩,
    .reported 1 "Attempt to perform key rotation during cooldown" true)

/-- The report about the first admin locks the second one. -/
theorem second_admin_locked :
    ¬ EachStep (adminStep sampleLibraries strictConfig)
      (RequestFramed sampleLibraries strictConfig) twoAdmins [cooldownReport] := by
  intro h
  obtain ⟨hframed, _⟩ := h _ rfl
  have hlocks : LocksAccounts strictConfig cooldownReport.1.run twoAdmins 1
      "Attempt to perform key rotation during cooldown" :=
    ⟨by decide, by decide, fun _ => rfl, by decide⟩
  have hsecond := (requestFramed_iff ..).mp hframed 1 _ rfl hlocks
    ⟨2, "second", "staff", "$2b$two", none, 0, false, "key-2", "pub-2"⟩ (by decide) (by decide)
  cases hsecond

end AuthServer
end Tenjin
