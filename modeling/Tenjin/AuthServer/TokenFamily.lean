import Tenjin.Foundation.GuardedRun
import Tenjin.Python.BytesText

/-!
# Families of refresh tokens

`TokenManager` of `token_manager.py` on the token store of one family, and the endpoints
of `auth.py` that call it.  The store holds a Redis list, newest entry first, and the
client replies with bytes.

* `familyStep` is one login, one reissue or one purge.  Decoding a presented token passes
  all of its checks.
* `MeetsFamilySpec` is the purpose of a step: what it returns and what becomes of the
  family.
* A login is issued like a reissue without a token, and the comparison of identifiers
  never succeeds; so nothing is ever issued (`issueRefreshToken_of_familyId`).
-/

namespace Tenjin
namespace AuthServer

open Python Foundation

section
variable {Instant : Type} [DecidableEq Instant]

/-- The claims of a refresh token that the family looks at. -/
structure RefreshToken (Instant : Type) where
  jti : HexText 32
  exp : Instant

/-- What the runtime makes of an instant: the text in an entry, and `float` of such a
text. -/
structure FloatText (Instant : Type) where
  text : Instant → String
  float : String → Except Exn Instant

variable (floats : FloatText Instant)

/-- The entry of a token in the list of its family. -/
def familyEntry (token : RefreshToken Instant) : String :=
  token.jti.text ++ ":" ++ floats.text token.exp

/-- `invalidate_family`. -/
def invalidateFamily (family : List String) : List String :=
  if family ≠ [] then [] else family

/-- The negation of the test for a replay: identifier first, then expiry. -/
def metadataMatches (keyMetadata : List String) (jti : Option String)
    (exp : Option Instant) : Except Exn Bool :=
  if some (pyStrOfBytes (keyMetadata.headD "")) ≠ jti then .ok false
  else
    match keyMetadata[1]? with
    | none => .error .indexError
    | some metadata => (floats.float metadata).map fun instant => some instant = exp

/-- `issue_refresh_token`, with the token that is drawn for it.  The second component is
the list of the family afterwards. -/
def issueRefreshToken (familyId : String) (jti : Option String) (exp : Option Instant)
    (drawn : RefreshToken Instant) (family : List String) :
    Except Exn (RefreshToken Instant) × List String :=
  if familyId ≠ "" then
    match family.head? with
    | none => (.error .valueError, invalidateFamily family)
    | some key =>
        if key = "" then (.error .valueError, invalidateFamily family)
        else
          match metadataMatches floats (pySplit ':' key) jti exp with
          | .error e => (.error e, family)
          | .ok false => (.error .valueError, invalidateFamily family)
          | .ok true => (.ok drawn, familyEntry floats drawn :: family)
  else if family ≠ [] then (.ok drawn, familyEntry floats drawn :: invalidateFamily family)
  else (.ok drawn, familyEntry floats drawn :: family)

/-- `shift_token_window`: at the limit the oldest entries are popped, at least one. -/
def shiftTokenWindow (maxLlen : ℕ) (family : List String) : List String :=
  if family.length = 0 then family
  else if maxLlen ≤ family.length then
    family.take (family.length - max 1 (family.length - maxLlen))
  else family

/-- `reissue_token_pair` for a decoded token of the family. -/
def reissueTokenPair (maxLlen : ℕ) (familyId : String)
    (presented drawn : RefreshToken Instant) (family : List String) :
    Except Exn (RefreshToken Instant) × List String :=
  match issueRefreshToken floats familyId (some presented.jti.text) (some presented.exp)
      drawn family with
  | (.error e, family) => (.error e, family)
  | (.ok token, family) => (.ok token, shiftTokenWindow maxLlen family)

/-- The part of `login` that issues the refresh token. -/
def login (familyId : String) (drawn : RefreshToken Instant) (family : List String) :
    Except Exn (RefreshToken Instant) × List String :=
  issueRefreshToken floats familyId none none drawn family

/-- The list of a family and the tokens issued for it, newest first. -/
structure FamilyState (Instant : Type) where
  family : List String
  issued : List (RefreshToken Instant)

/-- The operations on a family, with the presented and the drawn token. -/
inductive FamilyLabel (Instant : Type)
  | login (drawn : RefreshToken Instant)
  | reissue (presented drawn : RefreshToken Instant)
  | purge (presented : RefreshToken Instant)

/-- The settings of the token manager and the family: its id is a SHA-256 digest. -/
structure Family where
  familyId : HexText 64
  maxTokensPerFid : ℕ

variable (fam : Family)

/-- The state after an operation that returned a token or raised. -/
def FamilyState.after (st : FamilyState Instant)
    (result : Except Exn (RefreshToken Instant) × List String) : FamilyState Instant :=
  match result with
  | (.ok token, family) => ⟨family, token :: st.issued⟩
  | (.error _, family) => ⟨family, st.issued⟩

/-- One operation.  A presented token is one that was issued earlier, and a drawn token
has an identifier of its own. -/
def familyStep (st : FamilyState Instant) : FamilyLabel Instant → Option (FamilyState Instant)
  | .login drawn =>
      if ∀ token ∈ st.issued, token.jti.text ≠ drawn.jti.text then
        some (st.after (login floats fam.familyId.text drawn st.family))
      else none
  | .reissue presented drawn =>
      if (∃ token ∈ st.issued, token.jti.text = presented.jti.text ∧
          token.exp = presented.exp) ∧
          ∀ token ∈ st.issued, token.jti.text ≠ drawn.jti.text then
        some (st.after (reissueTokenPair floats fam.maxTokensPerFid fam.familyId.text
          presented drawn st.family))
      else none
  | .purge presented =>
      if ∃ token ∈ st.issued, token.jti.text = presented.jti.text ∧
          token.exp = presented.exp then
        some ⟨invalidateFamily st.family, st.issued⟩
      else none

/-- The newest token of a family that is still valid. -/
def newestToken (st : FamilyState Instant) : Option (RefreshToken Instant) :=
  if st.family = [] then none else st.issued.head?

/-- The presented token is the newest one of the valid family. -/
def PresentsNewest (st : FamilyState Instant) (presented : RefreshToken Instant) : Prop :=
  ∃ token, newestToken st = some token ∧ token.jti.text = presented.jti.text ∧
    token.exp = presented.exp

/-- The purpose of a step: a login on an empty family succeeds; a reissue succeeds exactly
with the newest token of a valid family and otherwise leaves the family empty; a purge
empties it. -/
def MeetsFamilySpec (st : FamilyState Instant) : FamilyLabel Instant → Prop
  | .login drawn =>
      st.family = [] → ∃ family, login floats fam.familyId.text drawn st.family =
        (.ok drawn, family) ∧ family ≠ []
  | .reissue presented drawn =>
      let result := reissueTokenPair floats fam.maxTokensPerFid fam.familyId.text
        presented drawn st.family
      ((∃ token, result.1 = .ok token) ↔ PresentsNewest st presented) ∧
        (¬ PresentsNewest st presented → result.2 = [])
  | .purge _ => invalidateFamily st.family = []

/-- The condition on a step: a login finds a family that is not empty, and a reissue does
not present the newest token of a valid one. -/
def FamilyStepSound (st : FamilyState Instant) : FamilyLabel Instant → Prop
  | .login _ => st.family ≠ []
  | .reissue presented _ => ¬ PresentsNewest st presented
  | .purge _ => True

theorem invalidateFamily_eq (family : List String) : invalidateFamily family = [] := by
  unfold invalidateFamily
  split
  · rfl
  · rename_i hempty
    exact not_not.mp hempty

/-- A digest is not empty. -/
theorem Family.familyId_ne (fam : Family) : fam.familyId.text ≠ "" := by
  intro hempty
  have hlength := fam.familyId.length_eq
  rw [hempty] at hlength
  cases hlength

/-- With a family id nothing is ever issued, whatever the family holds: an empty family is
an error, and the literal of the stored identifier is never the presented one. -/
theorem issueRefreshToken_of_familyId {familyId : String} (hid : familyId ≠ "")
    {jti : Option String} (hjti : jti = none ∨ ∃ token : HexText 32, jti = some token.text)
    (exp : Option Instant) (drawn : RefreshToken Instant) (family : List String) :
    issueRefreshToken floats familyId jti exp drawn family = (.error .valueError, []) := by
  -- the stored identifier is compared as the literal of a bytes object
  have hmismatch : ∀ keyMetadata : List String,
      metadataMatches floats keyMetadata jti exp = .ok false := by
    intro keyMetadata
    apply if_pos
    rcases hjti with rfl | ⟨token, rfl⟩
    · exact Option.some_ne_none _
    · intro heq
      exact token.ne_pyStrOfBytes _ (Option.some.inj heq)
  unfold issueRefreshToken
  rw [if_pos hid, invalidateFamily_eq]
  cases family.head? with
  | none => rfl
  | some key =>
      by_cases hkey : key = ""
      · simp [hkey]
      · simp [hkey, hmismatch]

/-- No login succeeds. -/
theorem login_eq (drawn : RefreshToken Instant) (family : List String) :
    login floats fam.familyId.text drawn family = (.error .valueError, []) :=
  issueRefreshToken_of_familyId floats fam.familyId_ne (.inl rfl) none drawn family

/-- No reissue succeeds, and each one deletes the family. -/
theorem reissueTokenPair_eq (presented drawn : RefreshToken Instant)
    (family : List String) :
    reissueTokenPair floats fam.maxTokensPerFid fam.familyId.text presented drawn family =
      (.error .valueError, []) := by
  unfold reissueTokenPair
  rw [issueRefreshToken_of_familyId floats fam.familyId_ne (.inr ⟨presented.jti, rfl⟩)]

/-- A step meets the specification exactly when it meets the condition. -/
theorem meetsFamilySpec_iff (st : FamilyState Instant) (label : FamilyLabel Instant) :
    MeetsFamilySpec floats fam st label ↔ FamilyStepSound st label := by
  cases label with
  | login drawn =>
      constructor
      · intro hmeets hempty
        obtain ⟨family, hlogin, _⟩ := hmeets hempty
        rw [login_eq] at hlogin
        cases hlogin
      · intro hnonempty hempty
        exact absurd hempty hnonempty
  | reissue presented drawn =>
      have hresult := reissueTokenPair_eq floats fam presented drawn st.family
      constructor
      · rintro ⟨hiff, _⟩ hnewest
        obtain ⟨token, htoken⟩ := hiff.mpr hnewest
        rw [hresult] at htoken
        cases htoken
      · intro holder
        refine ⟨⟨fun hok => ?_, fun hnewest => absurd hnewest holder⟩, fun _ => ?_⟩
        · obtain ⟨token, htoken⟩ := hok
          rw [hresult] at htoken
          cases htoken
        · rw [hresult]
  | purge presented =>
      exact iff_of_true (invalidateFamily_eq st.family) trivial

/-- A run of logins, reissues and purges meets the specification in every step if and only
if none of its logins finds the family empty and none of its reissues presents the newest
token of a valid family. -/
theorem eachStep_meetsFamilySpec_iff (actions : List (FamilyLabel Instant))
    (st : FamilyState Instant) :
    EachStep (familyStep floats fam) (MeetsFamilySpec floats fam) st actions ↔
      EachStep (familyStep floats fam) FamilyStepSound st actions :=
  eachStep_congr (fun st label _ _ => meetsFamilySpec_iff floats fam st label) actions st

/-- A family that starts empty stays empty, and no token is ever issued for it. -/
theorem run_of_empty_family (actions : List (FamilyLabel Instant))
    (st : FamilyState Instant)
    (h : runActions (familyStep floats fam) ⟨[], []⟩ actions = some st) :
    st.family = [] ∧ st.issued = [] := by
  have hkeep : ∀ (st : FamilyState Instant) (label : FamilyLabel Instant)
      (st' : FamilyState Instant), (st.family = [] ∧ st.issued = []) →
      familyStep floats fam st label = some st' → (st'.family = [] ∧ st'.issued = []) := by
    -- only logins are enabled, since no token was issued that could be presented
    rintro st label st' ⟨_, hissued⟩ hstep
    cases label with
    | login drawn =>
        simp only [familyStep, login_eq] at hstep
        split at hstep
        · cases hstep
          exact ⟨rfl, hissued⟩
        · cases hstep
    | reissue presented drawn =>
        simp [familyStep, hissued] at hstep
    | purge presented =>
        simp [familyStep, hissued] at hstep
  exact runActions_preserves hkeep actions ⟨[], []⟩ st ⟨rfl, rfl⟩ h

end

/-- A family whose id has sixty-four zeros. -/
def zeroFamily : Family where
  familyId := HexText.zeros 64
  maxTokensPerFid := 3

/-- A token whose identifier has thirty-two zeros. -/
def zeroToken : RefreshToken ℕ := ⟨HexText.zeros 32, 0⟩

/-- Instants that are natural numbers. -/
def natFloats : FloatText ℕ where
  text n := toString n
  float s := (pyInt s).map Int.toNat

/-- The first login of a user fails. -/
theorem first_login_fails :
    ¬ EachStep (familyStep natFloats zeroFamily) (MeetsFamilySpec natFloats zeroFamily)
      ⟨[], []⟩ [.login zeroToken] := by
  intro hmeets
  obtain ⟨st, hst⟩ : ∃ st, familyStep natFloats zeroFamily ⟨[], []⟩ (.login zeroToken) =
      some st := by
    simp [familyStep]
  obtain ⟨hlogin, _⟩ := hmeets st hst
  obtain ⟨family, hok, _⟩ := hlogin rfl
  rw [login_eq] at hok
  cases hok

end AuthServer
end Tenjin
