import Mathlib.Data.List.Nodup
import Tenjin.Foundation.GuardedRun
import Tenjin.ResourceServer.Results

/-!
# Recovering a password

`recover_password` and `update_password` of `users.py` with the operations of `user.py`
that they call, on the tables of users and of recovery tokens.

* What `generate_url_token` draws is a label: the digest that it reads as UTF-8 may be no
  text at all.
* `recover_password` asks the object of the user for its `id_`, which is never set: no token
  is issued (`recoverPassword_raises`).  So a run starts from tables that may hold tokens.
* An update has taken effect when its transaction is committed; the write to the cache
  that follows it touches neither table.
* `RecoveryState.issues` is the history that the code does not keep: the latest token of
  every user and whether it was used.
* `update_password` takes a token from its expiry on, and its transaction empties the
  table of tokens (`eachStep_soundUpdate_iff`).
-/

namespace Tenjin
namespace ResourceServer

open Foundation
open Python

/-- A row of the users.  Of the columns that no query is about only the values are known. -/
structure RecoveryUser where
  id : Int
  username : String
  email : String
  pwHash : String
  deleted : Bool
  others : Row

/-- The values of the columns. -/
def RecoveryUser.row (user : RecoveryUser) : Row := fun name =>
  if name = "id_" then .value (.int user.id)
  else if name = "username" then .value (.str user.username)
  else if name = "email" then .value (.str user.email)
  else if name = "pw_hash" then .value (.bytes user.pwHash)
  else if name = "deleted" then .value (.bool user.deleted)
  else user.others name

/-- `PasswordRecoveryToken`; `user_id` is the primary key. -/
structure RecoveryToken where
  userId : Int
  urlHash : String
  expiry : Int
  deriving DecidableEq

/-- The two tables. -/
structure RecoveryTables where
  users : List RecoveryUser
  tokens : List RecoveryToken

/-- `PASSWORD_RECOVERY_TOKEN_LENGTH`. -/
def passwordRecoveryTokenLength : ℕ := 16

/-- `get_user_by_email` or `get_user_by_username`, whichever the identity asks for: the object
that is made of the row. -/
def getIdentifiedUser (identity : String) (tables : RecoveryTables) : Option Dto :=
  let found :=
    if '@' ∈ identity.toList then
      tables.users.find? fun user => user.email = identity && !user.deleted
    else tables.users.find? fun user => user.username = identity && !user.deleted
  found.map fun user => abstractConstructFromOrm .userResult user.row

/-- `set_password_recovery_token`.  The url is unique in the table. -/
def setPasswordRecoveryToken (token : RecoveryToken) (tables : RecoveryTables) :
    Except Exn RecoveryTables :=
  let remaining := tables.tokens.filter fun row => row.userId ≠ token.userId
  if ∃ row ∈ remaining, row.urlHash = token.urlHash then .error .integrityError
  else .ok { tables with tokens := remaining ++ [token] }

/-- `get_user_password_recovery_token`: the user, and the row that the outer join finds.  The
object that is made of the user is not read before the transaction of the update is over. -/
def getUserPasswordRecoveryToken (userId : Int) (tables : RecoveryTables) :
    Option RecoveryUser × Option RecoveryToken :=
  match tables.users.find? fun user => user.id = userId with
  | none => (none, none)
  | some user => (some user, tables.tokens.find? fun token => token.userId = user.id)

/-- `UPDATE users SET pw_hash` of one user. -/
def setPassword (userId : Int) (pwHash : String) (users : List RecoveryUser) :
    List RecoveryUser :=
  users.map fun user => if user.id = userId then { user with pwHash := pwHash } else user

/-- The repository's `update_password`.  Its `DELETE` joins the users without a condition on
the tokens, so it takes all of them if the user exists. -/
def updatePasswordRow (userId : Int) (pwHash : String) (tables : RecoveryTables) :
    RecoveryTables where
  users := setPassword userId pwHash tables.users
  tokens := if ∃ user ∈ tables.users, user.id = userId then [] else tables.tokens

/-- `recover_password`: the token that it issues, and the tables afterwards. -/
def recoverPassword (identity : String) (drawn : Except Exn String) (now maxAge : Int)
    (tables : RecoveryTables) : Except Exn (RecoveryToken × RecoveryTables) := do
  match getIdentifiedUser identity tables with
  | none =>
      let kind := if '@' ∈ identity.toList then "email" else "username"
      throw (.httpException 404 s!"No user with {kind} {identity} found")
  | some user =>
      let urlToken ← drawn
      let userId ← user.number "id_"
      let token : RecoveryToken := ⟨userId, urlToken, now + maxAge⟩
      let tables ← setPasswordRecoveryToken token tables
      return (token, tables)

/-- `update_password`, up to its transaction.  The length of the url is validated with the
path. -/
def updatePassword (userId : Int) (tempUrl pwHash : String) (now : Int)
    (tables : RecoveryTables) : Except Exn RecoveryTables :=
  if tempUrl.length ≠ passwordRecoveryTokenLength then .error (.httpException 422 "")
  else
    match getUserPasswordRecoveryToken userId tables with
    | (none, _) => .error (.httpException 404 "User not found")
    | (some _, none) => .error (.httpException 404 "No password recovery token found")
    | (some _, some token) =>
        if token.urlHash = "" then
          .error (.httpException 404 "No password recovery token found")
        else if token.urlHash ≠ tempUrl then .error (.httpException 403 "Invalid url")
        else if now < token.expiry then .error (.httpException 403 "Token expired")
        else .ok (updatePasswordRow userId pwHash tables)

/-- A token that was issued to a user. -/
structure Issue where
  url : String
  expiry : Int
  used : Bool
  deriving DecidableEq

/-- The tables and the history. -/
structure RecoveryState where
  tables : RecoveryTables
  issues : Int → Option Issue

/-- The requests. -/
inductive RecoveryLabel
  | recover (identity : String) (drawn : Except Exn String) (now : Int)
  | update (userId : Int) (tempUrl pwHash : String) (now : Int)

/-- The history with a new latest token of a user. -/
def RecoveryState.issue (s : RecoveryState) (userId : Int) (entry : Issue) :
    Int → Option Issue :=
  fun id => if id = userId then some entry else s.issues id

/-- The history after the latest token of a user was used. -/
def RecoveryState.use (s : RecoveryState) (userId : Int) : Int → Option Issue :=
  fun id =>
    if id = userId then (s.issues id).map fun entry => { entry with used := true }
    else s.issues id

/-- One request.  A request that raises changes nothing. -/
def recoveryStep (maxAge : Int) (s : RecoveryState) : RecoveryLabel → Option RecoveryState
  | .recover identity drawn now =>
      match recoverPassword identity drawn now maxAge s.tables with
      | .error _ => some s
      | .ok (token, tables) =>
          some ⟨tables, s.issue token.userId ⟨token.urlHash, token.expiry, false⟩⟩
  | .update userId tempUrl pwHash now =>
      match updatePassword userId tempUrl pwHash now s.tables with
      | .error _ => some s
      | .ok tables => some ⟨tables, s.use userId⟩

/-- The url is the latest token of the user, it has not been used and has not expired. -/
def ValidToken (s : RecoveryState) (userId : Int) (tempUrl : String) (now : Int) : Prop :=
  ∃ entry, s.issues userId = some entry ∧ entry.url = tempUrl ∧ entry.used = false ∧
    now ≤ entry.expiry

/-- The update takes effect exactly for a valid token, and then it changes the password of
its user and removes the token of its user. -/
def SoundUpdate (s : RecoveryState) : RecoveryLabel → Prop
  | .recover .. => True
  | .update userId tempUrl pwHash now =>
      ((∃ tables, updatePassword userId tempUrl pwHash now s.tables = .ok tables) ↔
        ValidToken s userId tempUrl now) ∧
      ∀ tables, updatePassword userId tempUrl pwHash now s.tables = .ok tables →
        tables.users = setPassword userId pwHash s.tables.users ∧
        tables.tokens = s.tables.tokens.filter fun token => token.userId ≠ userId

/-- If the url is the token in the table, then it is presented at its expiry while nobody
else has a token, or after its expiry and with a length that is refused. -/
def UpdateAllowed (s : RecoveryState) : RecoveryLabel → Prop
  | .recover .. => True
  | .update userId tempUrl _ now =>
      ∀ token ∈ s.tables.tokens, token.userId = userId → token.urlHash = tempUrl →
        (token.expiry = now ∧ tempUrl.length = passwordRecoveryTokenLength ∧
          ∀ other ∈ s.tables.tokens, other.userId = userId) ∨
        (token.expiry < now ∧ tempUrl.length ≠ passwordRecoveryTokenLength)

/-- The tables agree with the history: every user has at most one row of tokens, and it is
the latest token while that is unused. -/
structure RecoveryInv (s : RecoveryState) : Prop where
  owner : ∀ token ∈ s.tables.tokens, ∃ user ∈ s.tables.users, user.id = token.userId
  single : (s.tables.tokens.map RecoveryToken.userId).Nodup
  agree : ∀ userId url expiry, (⟨userId, url, expiry⟩ : RecoveryToken) ∈ s.tables.tokens ↔
    s.issues userId = some ⟨url, expiry, false⟩

section Updates

variable {s : RecoveryState} {userId : Int} {tempUrl pwHash : String} {now : Int}

/-- The row that the update reads is the token of the user. -/
theorem RecoveryInv.find_token (h : RecoveryInv s) {token : RecoveryToken}
    (htoken : token ∈ s.tables.tokens) (howner : token.userId = userId) :
    ∃ user, getUserPasswordRecoveryToken userId s.tables = (some user, some token) := by
  obtain ⟨owner, hownerMem, hownerId⟩ := h.owner token htoken
  have huser : ∃ user, (s.tables.users.find? fun user => user.id = userId) = some user := by
    rw [← Option.isSome_iff_exists, List.find?_isSome]
    exact ⟨owner, hownerMem, by simpa using hownerId.trans howner⟩
  obtain ⟨user, huser⟩ := huser
  have hid : user.id = userId := by simpa using List.find?_some huser
  have hfound : ∃ found, (s.tables.tokens.find? fun token => token.userId = user.id) =
      some found := by
    rw [← Option.isSome_iff_exists, List.find?_isSome]
    exact ⟨token, htoken, by simpa using howner.trans hid.symm⟩
  obtain ⟨found, hfound⟩ := hfound
  have hfoundOwner : found.userId = user.id := by simpa using List.find?_some hfound
  have hsame : found = token :=
    List.inj_on_of_nodup_map h.single (List.mem_of_find?_eq_some hfound) htoken
      (hfoundOwner.trans (hid.trans howner.symm))
  refine ⟨user, ?_⟩
  simp only [getUserPasswordRecoveryToken, huser, hfound, hsame]

/-- An update takes effect for the token of its user from the expiry on. -/
theorem RecoveryInv.updatePassword_eq_ok_iff (h : RecoveryInv s) {tables : RecoveryTables} :
    updatePassword userId tempUrl pwHash now s.tables = .ok tables ↔
      (tempUrl.length = passwordRecoveryTokenLength ∧
        ∃ token ∈ s.tables.tokens, token.userId = userId ∧ token.urlHash = tempUrl ∧
          token.expiry ≤ now) ∧
      tables = updatePasswordRow userId pwHash s.tables := by
  constructor
  · intro hok
    unfold updatePassword at hok
    split at hok
    · cases hok
    · rename_i hlength
      split at hok
      · cases hok
      · cases hok
      · rename_i user token hread
        split at hok
        · cases hok
        split at hok
        · cases hok
        split at hok
        · cases hok
        · rename_i hne hurl hexpiry
          cases hok
          -- the row that was read is one of the tokens, and it is the user's
          unfold getUserPasswordRecoveryToken at hread
          split at hread
          · cases hread
          · rename_i found hfound
            have hid : found.id = userId := by simpa using List.find?_some hfound
            obtain ⟨_, htoken⟩ := Prod.mk.inj hread
            have howner : token.userId = found.id := by simpa using List.find?_some htoken
            exact ⟨⟨by simpa using hlength, token, List.mem_of_find?_eq_some htoken,
              howner.trans hid, by simpa using hurl, Int.not_lt.mp hexpiry⟩, rfl⟩
  · rintro ⟨⟨hlength, token, htoken, howner, hurl, hexpiry⟩, rfl⟩
    obtain ⟨user, hread⟩ := h.find_token htoken howner
    have hne : ¬ token.urlHash = "" := by
      rintro hempty
      rw [← hurl, hempty] at hlength
      exact absurd hlength (by decide)
    unfold updatePassword
    rw [if_neg (by simpa using hlength), hread]
    simp only [hne, if_false]
    rw [if_neg (not_not.mpr hurl), if_neg (Int.not_lt.mpr hexpiry)]

/-- A valid token is a row of the table that has not expired. -/
theorem RecoveryInv.validToken_iff (h : RecoveryInv s) :
    ValidToken s userId tempUrl now ↔
      ∃ token ∈ s.tables.tokens, token.userId = userId ∧ token.urlHash = tempUrl ∧
        now ≤ token.expiry := by
  constructor
  · rintro ⟨⟨url, expiry, used⟩, hissue, rfl, rfl, hexpiry⟩
    exact ⟨⟨userId, url, expiry⟩, (h.agree userId url expiry).mpr hissue, rfl, rfl, hexpiry⟩
  · rintro ⟨⟨owner, url, expiry⟩, htoken, rfl, rfl, hexpiry⟩
    exact ⟨⟨url, expiry, false⟩, (h.agree owner url expiry).mp htoken, rfl, rfl, hexpiry⟩

/-- A user has one token. -/
theorem RecoveryInv.token_eq (h : RecoveryInv s) {token other : RecoveryToken}
    (htoken : token ∈ s.tables.tokens) (hother : other ∈ s.tables.tokens)
    (howner : other.userId = token.userId) : other = token :=
  List.inj_on_of_nodup_map h.single hother htoken howner

/-- The update of a user who has a token leaves no tokens at all. -/
theorem RecoveryInv.emptied (h : RecoveryInv s) {token : RecoveryToken}
    (htoken : token ∈ s.tables.tokens) (howner : token.userId = userId) :
    (updatePasswordRow userId pwHash s.tables).tokens = [] := by
  obtain ⟨user, huser, huserId⟩ := h.owner token htoken
  exact if_pos ⟨user, huser, huserId.trans howner⟩

/-- A sound update that finds its token comes at the expiry of the only token, or is
refused for its length when the token has expired. -/
theorem RecoveryInv.allowed_of_sound (h : RecoveryInv s)
    (hsound : SoundUpdate s (.update userId tempUrl pwHash now)) :
    UpdateAllowed s (.update userId tempUrl pwHash now) := by
  obtain ⟨hiff, honly⟩ := hsound
  intro token htoken howner hurl
  by_cases hlength : tempUrl.length = passwordRecoveryTokenLength
  · left
    by_cases hexpiry : token.expiry ≤ now
    · -- the update takes effect, so the token is valid and the only one
      have hok : updatePassword userId tempUrl pwHash now s.tables =
          .ok (updatePasswordRow userId pwHash s.tables) :=
        h.updatePassword_eq_ok_iff.mpr ⟨⟨hlength, token, htoken, howner, hurl, hexpiry⟩, rfl⟩
      obtain ⟨valid, hvalid, hvalidOwner, _, hvalidExpiry⟩ :=
        h.validToken_iff.mp (hiff.mp ⟨_, hok⟩)
      obtain rfl := h.token_eq htoken hvalid (hvalidOwner.trans howner.symm)
      refine ⟨Int.le_antisymm hexpiry hvalidExpiry, hlength, fun other hother => ?_⟩
      have htokens := (honly _ hok).2
      rw [h.emptied hvalid howner] at htokens
      by_contra hne
      have hkept : other ∈ s.tables.tokens.filter fun token => token.userId ≠ userId :=
        List.mem_filter.mpr ⟨hother, by simpa using hne⟩
      rw [← htokens] at hkept
      cases hkept
    · -- a valid token is refused
      have hvalid := h.validToken_iff.mpr
        ⟨token, htoken, howner, hurl, Int.le_of_lt (Int.not_le.mp hexpiry)⟩
      obtain ⟨tables, hok⟩ := hiff.mpr hvalid
      obtain ⟨⟨_, found, hfound, hfoundOwner, _, hfoundExpiry⟩, _⟩ :=
        h.updatePassword_eq_ok_iff.mp hok
      obtain rfl := h.token_eq htoken hfound (hfoundOwner.trans howner.symm)
      exact absurd hfoundExpiry hexpiry
  · right
    refine ⟨?_, hlength⟩
    by_contra hexpiry
    have hvalid := h.validToken_iff.mpr
      ⟨token, htoken, howner, hurl, Int.not_lt.mp hexpiry⟩
    obtain ⟨tables, hok⟩ := hiff.mpr hvalid
    exact hlength (h.updatePassword_eq_ok_iff.mp hok).1.1

theorem RecoveryInv.sound_of_allowed (h : RecoveryInv s)
    (hallowed : UpdateAllowed s (.update userId tempUrl pwHash now)) :
    SoundUpdate s (.update userId tempUrl pwHash now) := by
  refine ⟨⟨?_, ?_⟩, ?_⟩
  · rintro ⟨tables, hok⟩
    obtain ⟨⟨hlength, token, htoken, howner, hurl, _⟩, _⟩ := h.updatePassword_eq_ok_iff.mp hok
    rcases hallowed token htoken howner hurl with ⟨hnow, _, _⟩ | ⟨_, hrefused⟩
    · exact h.validToken_iff.mpr ⟨token, htoken, howner, hurl, Int.le_of_eq hnow.symm⟩
    · exact absurd hlength hrefused
  · intro hvalid
    obtain ⟨token, htoken, howner, hurl, hexpiry⟩ := h.validToken_iff.mp hvalid
    rcases hallowed token htoken howner hurl with ⟨hnow, hlength, _⟩ | ⟨hexpired, _⟩
    · exact ⟨_, h.updatePassword_eq_ok_iff.mpr
        ⟨⟨hlength, token, htoken, howner, hurl, Int.le_of_eq hnow⟩, rfl⟩⟩
    · exact absurd hexpired (Int.not_lt.mpr hexpiry)
  · intro tables hok
    obtain ⟨⟨hlength, token, htoken, howner, hurl, _⟩, rfl⟩ := h.updatePassword_eq_ok_iff.mp hok
    refine ⟨rfl, ?_⟩
    rcases hallowed token htoken howner hurl with ⟨_, _, honly⟩ | ⟨_, hrefused⟩
    · rw [h.emptied htoken howner, eq_comm, List.filter_eq_nil_iff]
      intro other hother
      simpa using honly other hother
    · exact absurd hlength hrefused

/-- Where the tables agree with the history, an update is as it should be exactly if it is
allowed. -/
theorem RecoveryInv.soundUpdate_iff (h : RecoveryInv s) (label : RecoveryLabel) :
    SoundUpdate s label ↔ UpdateAllowed s label := by
  cases label with
  | recover identity drawn now => exact Iff.rfl
  | update userId tempUrl pwHash now => exact ⟨h.allowed_of_sound, h.sound_of_allowed⟩

end Updates

section Runs

/-- The object of a user has no identifier. -/
theorem number_id_of_row (row : Row) :
    (abstractConstructFromOrm .userResult row).number "id_" = .error .attributeError := by
  unfold Dto.number
  cases hlookup : (abstractConstructFromOrm .userResult row).lookup "id_" with
  | none => rfl
  | some v =>
      exact absurd (mem_of_lookup hlookup) (id_not_mem_abstractConstructFromOrm .userResult row v)

/-- No recovery issues a token. -/
theorem recoverPassword_raises (identity : String) (drawn : Except Exn String)
    (now maxAge : Int) (tables : RecoveryTables) :
    ∃ e, recoverPassword identity drawn now maxAge tables = .error e := by
  unfold recoverPassword getIdentifiedUser
  dsimp only
  generalize (if '@' ∈ identity.toList then _ else _ : Option RecoveryUser) = found
  cases found with
  | none => exact ⟨_, rfl⟩
  | some user =>
      simp only [Option.map_some, number_id_of_row]
      cases drawn with
      | error e => exact ⟨e, rfl⟩
      | ok urlToken => exact ⟨.attributeError, rfl⟩

theorem setPassword_ids (userId : Int) (pwHash : String) (users : List RecoveryUser) :
    (setPassword userId pwHash users).map RecoveryUser.id = users.map RecoveryUser.id := by
  rw [setPassword, List.map_map]
  apply List.map_congr_left
  intro user _
  simp only [Function.comp_apply]
  split <;> rfl

/-- An update that removes just the token of its user keeps the tables in agreement with
the history. -/
theorem RecoveryInv.update {s : RecoveryState} (h : RecoveryInv s) {userId : Int}
    {pwHash : String} {tables : RecoveryTables}
    (husers : tables.users = setPassword userId pwHash s.tables.users)
    (htokens : tables.tokens = s.tables.tokens.filter fun token => token.userId ≠ userId) :
    RecoveryInv ⟨tables, s.use userId⟩ := by
  refine ⟨?_, ?_, ?_⟩
  · intro token htoken
    rw [htokens] at htoken
    obtain ⟨user, huser, hid⟩ := h.owner token (List.mem_filter.mp htoken).1
    have hmem : token.userId ∈ tables.users.map RecoveryUser.id := by
      rw [husers, setPassword_ids, ← hid]
      exact List.mem_map_of_mem huser
    obtain ⟨owner, howner, hownerId⟩ := List.mem_map.mp hmem
    exact ⟨owner, howner, hownerId⟩
  · show (tables.tokens.map RecoveryToken.userId).Nodup
    rw [htokens]
    exact h.single.sublist (List.filter_sublist.map _)
  · intro other url expiry
    show (⟨other, url, expiry⟩ : RecoveryToken) ∈ tables.tokens ↔
      s.use userId other = some ⟨url, expiry, false⟩
    rw [htokens, List.mem_filter]
    by_cases hsame : other = userId
    · subst hsame
      simp [RecoveryState.use]
    · simp [RecoveryState.use, hsame, h.agree]

/-- Requests that are as they should be keep the tables in agreement with the history. -/
theorem RecoveryInv.step {maxAge : Int} {s s' : RecoveryState} {label : RecoveryLabel}
    (h : RecoveryInv s) (hstep : recoveryStep maxAge s label = some s')
    (hsound : SoundUpdate s label) : RecoveryInv s' := by
  cases label with
  | recover identity drawn now =>
      obtain ⟨e, hraises⟩ := recoverPassword_raises identity drawn now maxAge s.tables
      simp only [recoveryStep, hraises] at hstep
      cases hstep
      exact h
  | update userId tempUrl pwHash now =>
      simp only [recoveryStep] at hstep
      split at hstep
      · cases hstep
        exact h
      · rename_i tables hok
        cases hstep
        obtain ⟨husers, htokens⟩ := hsound.2 tables hok
        exact h.update husers htokens

/-- In a run of requests from tables that agree with the history, every update is as it should
be exactly if every update is allowed. -/
theorem eachStep_soundUpdate_iff (maxAge : Int) {s : RecoveryState} (h : RecoveryInv s)
    (labels : List RecoveryLabel) :
    EachStep (recoveryStep maxAge) SoundUpdate s labels ↔
      EachStep (recoveryStep maxAge) UpdateAllowed s labels :=
  eachStep_iff_of_kept (fun _ label _ h _ => h.soundUpdate_iff label)
    (fun _ _ _ h hstep hsound => h.step hstep hsound) labels s h

/-- The latest token of a user, who has not used it. -/
def aliceRecovers : RecoveryState where
  tables :=
    { users := [⟨1, "alice", "alice@tenjin.org", "old", false, fun _ => .value .none⟩]
      tokens := [⟨1, "éééééééééééééééé", 600⟩] }
  issues := fun id => if id = 1 then some ⟨"éééééééééééééééé", 600, false⟩ else none

theorem recoveryInv_aliceRecovers : RecoveryInv aliceRecovers where
  owner := by simp [aliceRecovers]
  single := by simp [aliceRecovers]
  agree := by
    intro userId url expiry
    by_cases huser : userId = 1
    · simp [aliceRecovers, huser, eq_comm]
    · simp [aliceRecovers, huser]

/-- The token is taken when it is presented at its expiry. -/
theorem eachStep_soundUpdate_expiring :
    EachStep (recoveryStep 600) SoundUpdate aliceRecovers
      [.update 1 "éééééééééééééééé" "new" 600] := by
  rw [eachStep_soundUpdate_iff 600 recoveryInv_aliceRecovers]
  refine fun _ _ => ⟨fun token htoken _ _ => .inl ?_, trivial⟩
  rw [List.mem_singleton.mp htoken]
  exact ⟨rfl, by decide, fun other hother => by rw [List.mem_singleton.mp hother]⟩

/-- Presented before its expiry, it is refused. -/
theorem freshToken_refused :
    RecoveryInv aliceRecovers ∧
      ¬ EachStep (recoveryStep 600) SoundUpdate aliceRecovers
        [.update 1 "éééééééééééééééé" "new" 10] := by
  refine ⟨recoveryInv_aliceRecovers, fun hrun => ?_⟩
  obtain ⟨⟨hsound, _⟩, _⟩ := hrun _ rfl
  obtain ⟨tables, hok⟩ := hsound.mpr ⟨⟨"éééééééééééééééé", 600, false⟩, rfl, rfl, rfl, by decide⟩
  cases hok

/-- From tables without tokens every update is as it should be: none is ever issued, and none
is taken. -/
theorem eachStep_soundUpdate_untokened (maxAge : Int) (users : List RecoveryUser)
    (labels : List RecoveryLabel) :
    EachStep (recoveryStep maxAge) SoundUpdate ⟨⟨users, []⟩, fun _ => none⟩ labels := by
  have hstart : RecoveryInv ⟨⟨users, []⟩, fun _ => none⟩ :=
    ⟨fun _ h => (by cases h), List.nodup_nil, fun _ _ _ => by simp⟩
  have hempty : Always (recoveryStep maxAge)
      (fun s => RecoveryInv s ∧ s.tables.tokens = []) ⟨⟨users, []⟩, fun _ => none⟩ labels := by
    refine always_of_preserved ?_ labels _ ⟨hstart, rfl⟩
    rintro s label s' ⟨h, hnone⟩ hstep
    cases label with
    | recover identity drawn now =>
        obtain ⟨e, hraises⟩ := recoverPassword_raises identity drawn now maxAge s.tables
        simp only [recoveryStep, hraises] at hstep
        cases hstep
        exact ⟨h, hnone⟩
    | update userId tempUrl pwHash now =>
        simp only [recoveryStep] at hstep
        split at hstep
        · cases hstep
          exact ⟨h, hnone⟩
        · rename_i tables hok
          obtain ⟨⟨_, token, htoken, _⟩, _⟩ := h.updatePassword_eq_ok_iff.mp hok
          rw [hnone] at htoken
          cases htoken
  refine eachStep_of_always (fun s label ⟨h, hnone⟩ => (h.soundUpdate_iff label).mpr ?_) hempty
  cases label with
  | recover identity drawn now => trivial
  | update userId tempUrl pwHash now =>
      intro token htoken
      rw [hnone] at htoken
      cases htoken

end Runs

end ResourceServer
end Tenjin
