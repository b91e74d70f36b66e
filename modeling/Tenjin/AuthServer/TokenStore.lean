import Tenjin.AuthServer.TokenFamily
import Tenjin.AuthServer.TokenManager

/-!
# The token store and its clients

`login`, `register`, `reissue` and `purge_family` of `auth.py` with `decode_token` of
`token_manager.py`, over the lists of all families.

* The token library checks the signature of a token before its claims.  It is a parameter,
  and so is the digest that makes the id of a family.
* Nobody but the server can sign: a token with a valid signature is one that an endpoint has
  given to a client.
* `login` and `register` sign an access token first, and return it after the refresh token
  has been issued.  That never happens, so no client ever gets a token, and the store only
  loses families (`tokenStore_of_run`).
-/

namespace Tenjin
namespace AuthServer

open Foundation
open Python

/-- The lists of the token store. -/
abbrev TokenStore := String → List String

/-- The key of a family. -/
def familyKey (familyId : String) : String := "FID:" ++ familyId

section
variable {Instant : Type} [DecidableEq Instant]

/-- The claims of a decoded token. -/
structure RefreshClaims (Instant : Type) where
  sub : String
  sid : Int
  fid : String
  token : RefreshToken Instant

/-- What the library finds in the claims of a token with a valid signature. -/
inductive ClaimsCheck (Instant : Type)
  | valid (claims : RefreshClaims Instant)
  /-- `ImmatureSignatureError`, `InvalidIssuedAtError` or `InvalidIssuerError`. -/
  | rejected (fid : String)
  /-- Any other exception of the library. -/
  | refused

/-- The token library, as far as it decodes. -/
structure PyJwt (Instant : Type) where
  unverifiedKid : String → Except Exn String
  signatureValid : KeyMetadata → String → Bool
  checkClaims : Bool → String → ClaimsCheck Instant

/-- The exceptions of `decode_token`. -/
inductive TokenExn
  | invalidKey
  | invalidToken
  | raised (exn : Exn)

/-- Where the token store raises: reading the family, or deleting it without or with an
effect. -/
inductive StoreFault
  | read
  | deleteLost
  | deleteLate
  deriving DecidableEq

/-- `invalidate_family`, with a fault of the store. -/
def invalidateFamilyAt (fault : Option StoreFault) (fid : String) (store : TokenStore) :
    Except Exn Unit × TokenStore :=
  let deleted := Function.update store (familyKey fid) (invalidateFamily (store (familyKey fid)))
  match fault with
  | none => (.ok (), deleted)
  | some .deleteLate => (.error .runtimeError, deleted)
  | some _ => (.error .runtimeError, store)

/-- An operation on one family.  When it raises it has deleted the family, unless the store
has raised before. -/
def onFamily (fault : Option StoreFault) (fid : String)
    (operation : List String → Except Exn (RefreshToken Instant) × List String)
    (store : TokenStore) : Except Exn (RefreshToken Instant) × TokenStore :=
  match fault with
  | some .read => (.error (.redisError true), store)
  | _ =>
      match operation (store (familyKey fid)) with
      | (.ok token, family) => (.ok token, Function.update store (familyKey fid) family)
      | (.error exn, family) =>
          let deleted := Function.update store (familyKey fid) family
          match fault with
          | some .deleteLost => (.error .runtimeError, store)
          | some .deleteLate => (.error .runtimeError, deleted)
          | _ => (.error exn, deleted)

/-- `decode_token` for a refresh token. -/
def decodeToken (jwt : PyJwt Instant) (manager : TokenManager) (verifyNbf : Bool)
    (fault : Option StoreFault) (token : String) (store : TokenStore) :
    Except TokenExn (RefreshClaims Instant) × TokenStore :=
  match jwt.unverifiedKid token with
  | .error (.keyError _) => (.error .invalidToken, store)
  | .error exn => (.error (.raised exn), store)
  | .ok kid =>
      match manager.keyMapping.lookup kid with
      | none => (.error .invalidKey, store)
      | some key =>
          if ¬ jwt.signatureValid key token then (.error .invalidToken, store)
          else
            match jwt.checkClaims verifyNbf token with
            | .valid claims => (.ok claims, store)
            | .refused => (.error .invalidToken, store)
            | .rejected fid =>
                match invalidateFamilyAt fault fid store with
                | (.ok _, store) => (.error (.raised .valueError), store)
                | (.error exn, store) => (.error (.raised exn), store)

/-- What the resource server replies to a login or a registration. -/
structure AccountReply where
  statusCode : ℕ
  sub : Except Exn String
  sid : Except Exn Int

/-- A login or a registration: the reply, the key state, the refresh token that is drawn,
and the two texts that the library would make of the tokens. -/
structure LoginRequest (Instant : Type) where
  reply : Except Exn AccountReply
  manager : TokenManager
  drawn : RefreshToken Instant
  fault : Option StoreFault
  accessToken : String
  refreshToken : String

/-- `login` and `register`, which expect the status codes 200 and 201.  Without the expected
one they return no tokens. -/
def issueTokens (floats : FloatText Instant) (sha256 : String → HexText 64) (expected : ℕ)
    (request : LoginRequest Instant) (store : TokenStore) :
    Except Exn (List String) × TokenStore :=
  match request.reply with
  | .error exn => (.error exn, store)
  | .ok reply =>
      if reply.statusCode ≠ expected then (.ok [], store)
      else
        match reply.sub, reply.sid with
        | .error exn, _ => (.error exn, store)
        | .ok _, .error exn => (.error exn, store)
        | .ok sub, .ok sid =>
            let familyId := (sha256 s!"{sub}:{sid}").text
            -- `issue_access_token` looks the active key up
            if request.manager.activeKey ∉ request.manager.keyMapping then
              (.error (.keyError request.manager.activeKey), store)
            else
              match onFamily request.fault familyId
                  (login floats familyId request.drawn) store with
              | (.error exn, store) => (.error exn, store)
              | (.ok _, store) => (.ok [request.accessToken, request.refreshToken], store)

/-- The two cookies that may carry a refresh token. -/
structure RefreshCookies where
  lower : Option String
  upper : Option String

/-- The cookie that `reissue` reads, when it is not empty. -/
def RefreshCookies.forReissue (cookies : RefreshCookies) : Option String :=
  (cookies.lower.or cookies.upper).filter fun token => token ≠ ""

/-- The cookie that `purge_family` reads, when it is not empty. -/
def RefreshCookies.forPurge (cookies : RefreshCookies) : Option String :=
  (cookies.upper.or cookies.lower).filter fun token => token ≠ ""

/-- A request to `reissue`: the key state, the refresh token that is drawn, and the texts
that the library would make of the tokens. -/
structure ReissueRequest (Instant : Type) where
  cookies : RefreshCookies
  manager : TokenManager
  drawn : RefreshToken Instant
  fault : Option StoreFault
  accessToken : String
  refreshToken : String

/-- `reissue`. -/
def reissueEndpoint (floats : FloatText Instant) (jwt : PyJwt Instant) (maxLlen : ℕ)
    (request : ReissueRequest Instant) (store : TokenStore) :
    Except TokenExn (List String) × TokenStore :=
  match request.cookies.forReissue with
  | none => (.error (.raised (.keyError "")), store)
  | some token =>
      match decodeToken jwt request.manager true request.fault token store with
      | (.error exn, store) => (.error exn, store)
      | (.ok claims, store) =>
          match onFamily request.fault claims.fid
              (reissueTokenPair floats maxLlen claims.fid claims.token request.drawn) store with
          | (.error exn, store) => (.error (.raised exn), store)
          | (.ok _, store) =>
              if request.manager.activeKey ∉ request.manager.keyMapping then
                (.error (.raised (.keyError request.manager.activeKey)), store)
              else (.ok [request.accessToken, request.refreshToken], store)

/-- `purge_family`: every exception is answered with the status 401. -/
def purgeEndpoint (jwt : PyJwt Instant) (manager : TokenManager) (cookies : RefreshCookies)
    (fault : Option StoreFault) (store : TokenStore) : Except Exn Unit × TokenStore :=
  match cookies.forPurge with
  | none => (.error (.httpException 400 "Logout requires a refresh token to be provided"), store)
  | some token =>
      let failed : Except Exn Unit :=
        .error (.httpException 401 "Failed to validate this refresh token")
      match decodeToken jwt manager false fault token store with
      | (.error _, store) => (failed, store)
      | (.ok claims, store) =>
          match invalidateFamilyAt fault claims.fid store with
          | (.error _, store) => (failed, store)
          | (.ok _, store) => (.ok (), store)

/-- The requests of the clients. -/
inductive TokenRequest (Instant : Type)
  | login (request : LoginRequest Instant)
  | register (request : LoginRequest Instant)
  | reissue (request : ReissueRequest Instant)
  | purge (manager : TokenManager) (cookies : RefreshCookies) (fault : Option StoreFault)

/-- The store, and the tokens that the clients have got. -/
structure TokenState where
  store : TokenStore
  handedOut : List String

/-- The token has a signature that is valid for a key in the mapping. -/
def signed (jwt : PyJwt Instant) (manager : TokenManager) (token : String) : Bool :=
  match jwt.unverifiedKid token with
  | .error _ => false
  | .ok kid =>
      match manager.keyMapping.lookup kid with
      | none => false
      | some key => jwt.signatureValid key token

/-- The cookie has a valid signature, and no client has got such a token. -/
def forged (jwt : PyJwt Instant) (handedOut : List String) (manager : TokenManager)
    (cookie : Option String) : Bool :=
  match cookie with
  | none => false
  | some token => signed jwt manager token && !handedOut.contains token

/-- The state after an endpoint has returned tokens or raised. -/
def TokenState.after {ε : Type} (s : TokenState)
    (result : Except ε (List String) × TokenStore) : TokenState :=
  match result with
  | (.ok tokens, store) => ⟨store, tokens ++ s.handedOut⟩
  | (.error _, store) => ⟨store, s.handedOut⟩

/-- One request.  Nobody forges a token. -/
def tokenStep (floats : FloatText Instant) (jwt : PyJwt Instant)
    (sha256 : String → HexText 64) (maxLlen : ℕ) (s : TokenState) :
    TokenRequest Instant → Option TokenState
  | .login request => some (s.after (issueTokens floats sha256 200 request s.store))
  | .register request => some (s.after (issueTokens floats sha256 201 request s.store))
  | .reissue request =>
      if forged jwt s.handedOut request.manager request.cookies.forReissue then none
      else some (s.after (reissueEndpoint floats jwt maxLlen request s.store))
  | .purge manager cookies fault =>
      if forged jwt s.handedOut manager cookies.forPurge then none
      else some ⟨(purgeEndpoint jwt manager cookies fault s.store).2, s.handedOut⟩

/-- The key that a login or a registration deletes. -/
def LoginRequest.clears (sha256 : String → HexText 64) (expected : ℕ)
    (request : LoginRequest Instant) : Option String :=
  match request.reply with
  | .error _ => none
  | .ok reply =>
      match reply.sub, reply.sid with
      | .ok sub, .ok sid =>
          if reply.statusCode = expected ∧
              request.manager.activeKey ∈ request.manager.keyMapping ∧
              (request.fault = none ∨ request.fault = some .deleteLate) then
            some (familyKey (sha256 s!"{sub}:{sid}").text)
          else none
      | _, _ => none

/-- The key that a request deletes: it is one of a login or a registration. -/
def TokenRequest.clears (sha256 : String → HexText 64) :
    TokenRequest Instant → Option String
  | .login request => request.clears sha256 200
  | .register request => request.clears sha256 201
  | _ => none

/-- The store without a family, if a family is given. -/
def cleared (store : TokenStore) : Option String → TokenStore
  | none => store
  | some key => Function.update store key []

omit [DecidableEq Instant] in
/-- Without a valid signature no token is decoded, and no family is deleted. -/
theorem decodeToken_of_unsigned {jwt : PyJwt Instant} {manager : TokenManager}
    {token : String} (hunsigned : signed jwt manager token = false) (verifyNbf : Bool)
    (fault : Option StoreFault) (store : TokenStore) :
    ∃ exn, decodeToken jwt manager verifyNbf fault token store = (.error exn, store) := by
  unfold signed at hunsigned
  unfold decodeToken
  cases hkid : jwt.unverifiedKid token with
  | error exn => cases exn <;> exact ⟨_, rfl⟩
  | ok kid =>
      cases hkey : manager.keyMapping.lookup kid with
      | none => exact ⟨.invalidKey, by simp [hkey]⟩
      | some key =>
          simp only [hkid, hkey] at hunsigned
          exact ⟨.invalidToken, by simp [hkey, hunsigned]⟩

omit [DecidableEq Instant] in
/-- An operation that issues nothing deletes the family, unless the store fails. -/
theorem onFamily_of_fails {operation : List String →
      Except Exn (RefreshToken Instant) × List String} {exn : Exn}
    (hfails : ∀ family, operation family = (.error exn, [])) (fault : Option StoreFault)
    (fid : String) (store : TokenStore) :
    ∃ exn', onFamily fault fid operation store = (.error exn',
      cleared store (if fault = none ∨ fault = some .deleteLate then some (familyKey fid)
        else none)) := by
  unfold onFamily
  rcases fault with _ | (_ | _ | _)
  · exact ⟨exn, by simp [hfails, cleared]⟩
  · exact ⟨.redisError true, by simp [cleared]⟩
  · exact ⟨.runtimeError, by simp [hfails, cleared]⟩
  · exact ⟨.runtimeError, by simp [hfails, cleared]⟩

/-- A login or a registration returns no token, and deletes at most the family of its
user. -/
theorem issueTokens_spec (floats : FloatText Instant) (sha256 : String → HexText 64)
    (expected : ℕ) (request : LoginRequest Instant) (store : TokenStore) :
    (issueTokens floats sha256 expected request store).2 =
        cleared store (request.clears sha256 expected) ∧
      ∀ tokens, (issueTokens floats sha256 expected request store).1 = .ok tokens →
        tokens = [] := by
  unfold issueTokens LoginRequest.clears
  cases request.reply with
  | error exn => exact ⟨rfl, fun tokens h => by cases h⟩
  | ok reply =>
      by_cases hstatus : reply.statusCode = expected
      · cases hsub : reply.sub with
        | error exn => simp [hstatus, hsub, cleared]
        | ok sub =>
            cases hsid : reply.sid with
            | error exn => simp [hstatus, hsub, hsid, cleared]
            | ok sid =>
                by_cases hkey : request.manager.activeKey ∈ request.manager.keyMapping
                · -- the digest is not empty, so the family is asked for and never matches
                  let fam : Family := ⟨sha256 s!"{sub}:{sid}", 0⟩
                  obtain ⟨exn, hfamily⟩ := onFamily_of_fails
                    (login_eq floats fam request.drawn) request.fault fam.familyId.text store
                  simp [hstatus, hsub, hsid, hkey, fam] at hfamily ⊢
                  simp [hfamily]
                · simp [hstatus, hsub, hsid, hkey, cleared]
      · cases hsub : reply.sub <;> cases hsid : reply.sid <;>
          simp [hstatus, hsub, hsid, cleared]

/-- A reissue with a cookie that is not signed raises, and leaves the store as it is. -/
theorem reissueEndpoint_of_unsigned {floats : FloatText Instant} {jwt : PyJwt Instant}
    {request : ReissueRequest Instant}
    (hunsigned : ∀ token ∈ request.cookies.forReissue,
      signed jwt request.manager token = false) (maxLlen : ℕ) (store : TokenStore) :
    ∃ exn, reissueEndpoint floats jwt maxLlen request store = (.error exn, store) := by
  unfold reissueEndpoint
  cases hcookie : request.cookies.forReissue with
  | none => exact ⟨_, rfl⟩
  | some token =>
      obtain ⟨exn, hdecode⟩ :=
        decodeToken_of_unsigned (hunsigned token hcookie) true request.fault store
      exact ⟨exn, by simp [hdecode]⟩

omit [DecidableEq Instant] in
/-- A purge with a cookie that is not signed leaves the store as it is. -/
theorem purgeEndpoint_of_unsigned {jwt : PyJwt Instant} {manager : TokenManager}
    {cookies : RefreshCookies}
    (hunsigned : ∀ token ∈ cookies.forPurge, signed jwt manager token = false)
    (fault : Option StoreFault) (store : TokenStore) :
    (purgeEndpoint jwt manager cookies fault store).2 = store := by
  unfold purgeEndpoint
  cases hcookie : cookies.forPurge with
  | none => rfl
  | some token =>
      obtain ⟨exn, hdecode⟩ :=
        decodeToken_of_unsigned (hunsigned token hcookie) false fault store
      simp [hdecode]

omit [DecidableEq Instant] in
/-- No cookie that is not forged has a valid signature, while no token is handed out. -/
theorem unsigned_of_not_forged {jwt : PyJwt Instant} {manager : TokenManager}
    {cookie : Option String} (hforged : ¬ forged jwt [] manager cookie = true) :
    ∀ token ∈ cookie, signed jwt manager token = false := by
  rintro token rfl
  simpa [forged] using hforged

/-- While no token is handed out, a request hands out none, and deletes at most the family
of a login or a registration. -/
theorem tokenStep_spec {floats : FloatText Instant} {jwt : PyJwt Instant}
    {sha256 : String → HexText 64} {maxLlen : ℕ} {s s' : TokenState}
    {request : TokenRequest Instant} (hnone : s.handedOut = [])
    (hs : tokenStep floats jwt sha256 maxLlen s request = some s') :
    s'.handedOut = [] ∧ s'.store = cleared s.store (request.clears sha256) := by
  -- what an endpoint does that issues no token
  have hafter : ∀ {ε : Type} (result : Except ε (List String) × TokenStore),
      (∀ tokens, result.1 = .ok tokens → tokens = []) →
        (s.after result).handedOut = [] ∧ (s.after result).store = result.2 := by
    rintro ε ⟨exn | tokens, store⟩ hresult
    · exact ⟨hnone, rfl⟩
    · obtain rfl := hresult _ rfl
      exact ⟨hnone, rfl⟩
  cases request with
  | login request =>
      cases hs
      obtain ⟨hstore, htokens⟩ := issueTokens_spec floats sha256 200 request s.store
      obtain ⟨hhanded, hkept⟩ := hafter _ htokens
      exact ⟨hhanded, hkept.trans hstore⟩
  | register request =>
      cases hs
      obtain ⟨hstore, htokens⟩ := issueTokens_spec floats sha256 201 request s.store
      obtain ⟨hhanded, hkept⟩ := hafter _ htokens
      exact ⟨hhanded, hkept.trans hstore⟩
  | reissue request =>
      simp only [tokenStep, hnone] at hs
      split at hs
      · cases hs
      · rename_i hforged
        obtain ⟨exn, hraises⟩ : ∃ exn, reissueEndpoint floats jwt maxLlen request s.store =
            (.error exn, s.store) :=
          reissueEndpoint_of_unsigned (unsigned_of_not_forged hforged) maxLlen s.store
        rw [hraises] at hs
        cases hs
        exact ⟨hnone, rfl⟩
  | purge manager cookies fault =>
      simp only [tokenStep, hnone] at hs
      split at hs
      · cases hs
      · rename_i hforged
        have hstore :=
          purgeEndpoint_of_unsigned (unsigned_of_not_forged hforged) fault s.store
        cases hs
        exact ⟨rfl, hstore⟩

/-- The store after a run is the one at its start, without the families that the logins and
the registrations delete, and no client has got a token. -/
theorem tokenStore_of_run (floats : FloatText Instant) (jwt : PyJwt Instant)
    (sha256 : String → HexText 64) (maxLlen : ℕ) (store : TokenStore)
    (requests : List (TokenRequest Instant)) (s : TokenState)
    (hrun : runActions (tokenStep floats jwt sha256 maxLlen) ⟨store, []⟩ requests = some s) :
    s.handedOut = [] ∧ ∀ key, s.store key =
      if key ∈ requests.filterMap (TokenRequest.clears sha256) then [] else store key := by
  induction requests generalizing store with
  | nil =>
      cases hrun
      exact ⟨rfl, fun key => rfl⟩
  | cons request requests ih =>
      cases hs : tokenStep floats jwt sha256 maxLlen ⟨store, []⟩ request with
      | none => simp [runActions, hs] at hrun
      | some t =>
          simp only [runActions, hs] at hrun
          -- after the first request still no token is handed out
          obtain ⟨hnone, hstore⟩ := tokenStep_spec rfl hs
          obtain ⟨store', handedOut⟩ := t
          obtain rfl : handedOut = [] := hnone
          obtain rfl : store' = cleared store (request.clears sha256) := hstore
          obtain ⟨hhanded, hrest⟩ := ih _ hrun
          refine ⟨hhanded, fun key => ?_⟩
          rw [hrest key]
          cases hclears : request.clears sha256 with
          | none => rw [List.filterMap_cons_none hclears]; rfl
          | some key' =>
              rw [List.filterMap_cons_some hclears]
              by_cases hkey : key = key'
              · simp [cleared, hkey]
              · simp [cleared, hkey]

end

/-- The digest of one user. -/
def mikaDigest : HexText 64 where
  text := "5348a56099036990fbe803b733a7c64c8fa4972794bc4527c9237865e6824642"
  length_eq := by decide
  digits c hc := of_decide_eq_true
    ((List.all_eq_true (p := fun c => decide (c ∈ hexAlphabet))).mp rfl c hc)

/-- A library to which each cookie is no token at all. -/
def noTokens : PyJwt ℕ where
  unverifiedKid _ := .error .valueError
  signatureValid _ _ := false
  checkClaims _ _ := .refused

/-- The login of one user, and a purge with a cookie that is no token. -/
def mikaRequests : List (TokenRequest ℕ) :=
  [.login ⟨.ok ⟨200, .ok "mika", .ok 7⟩, beforeRotation, zeroToken, none, "access", "refresh"⟩,
   .purge beforeRotation ⟨some "cookie", none⟩ none]

/-- The login deletes the family of its user, and the purge deletes nothing. -/
theorem tokenStore_of_run_mika :
    ∃ s, runActions (tokenStep natFloats noTokens (fun _ => mikaDigest) 3)
        ⟨fun _ => ["0:0"], []⟩ mikaRequests = some s ∧
      s.handedOut = [] ∧ s.store (familyKey mikaDigest.text) = [] ∧
      s.store (familyKey "other") = ["0:0"] := by
  obtain ⟨s, hrun⟩ : ∃ s, runActions (tokenStep natFloats noTokens (fun _ => mikaDigest) 3)
      ⟨fun _ => ["0:0"], []⟩ mikaRequests = some s := ⟨_, rfl⟩
  obtain ⟨hhanded, hstore⟩ := tokenStore_of_run natFloats noTokens (fun _ => mikaDigest) 3
    (fun _ => ["0:0"]) mikaRequests s hrun
  refine ⟨s, hrun, hhanded, ?_, ?_⟩
  · rw [hstore]
    exact if_pos (by decide)
  · rw [hstore]
    exact if_neg (by decide)

end AuthServer
end Tenjin
