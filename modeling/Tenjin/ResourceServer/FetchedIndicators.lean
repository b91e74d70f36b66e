import Tenjin.Foundation.Effects
import Tenjin.ResourceServer.ContributionTallies
import Tenjin.ResourceServer.DeletedResources
import Tenjin.ResourceServer.GuardedKeyspace

/-!
# The endpoints that fetch indicators

`comment_on_post`, `report_post` and `delete_user` do not run inside `guard_action`.  They
ask `fetch_indicators` for a lock and for an intent, and go on if there is none.

* `commentOnPost`, `reportPost` and `deleteUser` end in an `IndicatorCall`: the arguments of
  `fetch_indicators`, and what the endpoint does with its answer.
* `indicatorStep` runs them on the store that all of the server shares.
* `IntentsOnly` is the invariant: a text that lies where an intent is looked for is an intent
  that was set.  It rests on `RedisKey.text_eq_iff`.
* `fetch_indicators` answers neither to an intent nor to a missing one, so these endpoints
  raise whatever was set: `always_indicatorsRaise`.
-/

namespace Tenjin
namespace ResourceServer

open Python Foundation ResourceAuxillary

/-- The store, and what the three endpoints have done: the counter updates and the stream
entries of their events, and the accounts that were marked as deleted. -/
structure IndicatorState where
  store : Store
  counters : List CounterUpdate
  streams : List (StreamName × Event)
  deletedUsers : List Int

/-- A call of `fetch_indicators`, and what comes after it. -/
structure IndicatorCall where
  userIdentifier : String
  resourceIdentifier : String
  resourceName : String
  action : Action
  goesOn : Option Reply → Option IntentFlag → EStateM Exn IndicatorState Unit

/-- The key of the intent. -/
def IndicatorCall.intentName (call : IndicatorCall) : String :=
  createIntentFlag call.resourceName call.action.value call.userIdentifier
    call.resourceIdentifier

/-- The key of the lock. -/
def IndicatorCall.lockName (call : IndicatorCall) : String :=
  deriveLockKey [call.resourceName, call.action.value, call.userIdentifier,
    call.resourceIdentifier]

/-- `GET`. -/
def getText (store : Store) (key : String) : Except Exn (Option String) :=
  match store key with
  | none => .ok none
  | some ⟨.text text, _⟩ => .ok (some text)
  | some _ => .error wrongType

/-- What `distributed_get_or_load` has returned, if it is not `None`. -/
def foundOr {α : Type} (answer : Except Exn (Option α)) (detail : String) : Except Exn α :=
  answer.bind fun found => found.elim (.error (.httpException 404 detail)) .ok

/-- The post as it has been loaded: its attributes, or what reading them raises.  Its `id_`
is that of the path, and read together with `forum_id`. -/
structure FoundPost where
  closed : Except Exn Bool
  forumId : Except Exn Int

/-- `CommentModel`. -/
structure CommentModel where
  body : String
  clientTag : Option String

/-- The tag of the client, or else the id that was drawn. -/
def CommentModel.intentId (model : CommentModel) (drawn : String) : String :=
  match model.clientTag with
  | none => drawn
  | some tag => if tag.isEmpty then drawn else tag

section
variable (config : CacheConfig)

/-- An intent is set, for as long as `TTL_STRONGEST` says. -/
def putIntent (store : Store) (intentName intentValue : String) : Store :=
  (execute store
    [.set intentName intentValue, .expire intentName (1000 * config.ttlStrongest)]).1

/-- `emit_user_event`. -/
def IndicatorState.emit (stream : StreamName) (event : Event) (s : IndicatorState) :
    IndicatorState :=
  { s with
    store := event.sideEffects.intentUpdates.foldl
      (fun store u => putIntent config store u.intentName u.intentValue) s.store
    counters := s.counters ++ event.sideEffects.counterUpdates
    streams := s.streams ++ [(stream, event)] }

/-- `comment_on_post`. -/
def commentOnPost (claims : AccessTokenClaims) (postId : Int) (commentModel : CommentModel)
    (post : Except Exn (Option FoundPost)) (drawn now : String) : Except Exn IndicatorCall := do
  let post ← foundOr post s!"No post with id {postId} found"
  if ← post.closed then throw (.httpException 409 "Post closed")
  return {
    userIdentifier := toString claims.sid
    resourceIdentifier := commentModel.intentId drawn
    resourceName := commentResource
    action := .create
    goesOn := fun lock latestIntent => do
      if isHeld lock || latestIntent.isSome then
        throw (.httpException 409 "Identical request being processed")
      let forumId ← MonadExcept.ofExcept post.forumId
      modify (IndicatorState.emit config .comments
        (commentOnPostEvent claims postId forumId commentModel.body now)) }

/-- The event of `report_post`, under the name of another one. -/
def reportPostEvent (claims : AccessTokenClaims) (postId : Int) (tag : ReportTags)
    (description intentId now : String) : Event where
  name := .postUnsave
  payload := [("post_id", .int postId), ("user_id", .int claims.sid),
    ("report_tag", .str tag.value), ("report_description", .str description),
    ("report_time", .str now)]
  sideEffects :=
    { counterUpdates := [counterUpdate postResource "reports"
        (deriveCacheKey postResource (toString postId)) 1]
      intentUpdates := [⟨(GuardTarget.mk (.reportedPosts tag) .report claims.sid
        (toString postId)).intent, .resourceCreationPendingFlag, intentId⟩] }

/-- `report_post`.  It looks for the intent of another action than the one it sets. -/
def reportPost (claims : AccessTokenClaims) (postId : Int) (tag : ReportTags)
    (description : String) (post : Except Exn (Option FoundPost))
    (reported : Except Exn Bool) (intentId now : String) : Except Exn IndicatorCall := do
  let _ ← foundOr post s!"No post with id {postId} found"
  return {
    userIdentifier := toString claims.sid
    resourceIdentifier := toString postId
    resourceName := pyJoin nameSeperator [postResource, tag.value]
    action := .save
    goesOn := fun lock latestIntent => do
      if isHeld lock then
        throw (.httpException 409 "An identical request is being processed")
      if latestIntent.isSome then throw (.httpException 409 "Post already reported")
      if ← MonadExcept.ofExcept reported then
        modify fun s => { s with
          store := putIntent config s.store
            (GuardTarget.mk (.reportedPosts tag) .report claims.sid (toString postId)).intent
            (writtenIntent .resourceCreationPendingFlag intentId) }
        throw (.httpException 409 s!"Post already reported for reason: {tag.value}")
      modify (IndicatorState.emit config .posts
        (reportPostEvent claims postId tag description intentId now)) }

/-- The event of `delete_user`. -/
def userCleanupEvent (userId : Int) (now : String) : Event where
  name := .userCleanup
  payload := [("user_id", .int userId), ("time_deleted", .str now)]
  sideEffects := {}

/-- `set_negative_mapping`. -/
def setNegativeMapping (key : String) : EStateM Exn IndicatorState Unit := do
  let (store, raised) := setNegativeEntry config .mapping (← get).store key
  modify fun s => { s with store := store }
  raised.elim (pure ()) throw

/-- `delete_user`.  The user is given by the `id_`, or by what reading it raises. -/
def deleteUser (username : String) (user : Except Exn (Option (Except Exn Int)))
    (passwordMatches : Except Exn Bool) (now : String) : Except Exn IndicatorCall := do
  let user ← foundOr user s!"User {username} not found"
  let userId ← user
  if !(← passwordMatches) then throw (.httpException 403 "Incorrect password")
  return {
    userIdentifier := username
    resourceIdentifier := username
    resourceName := userResource
    action := .delete
    goesOn := fun lock latestIntent => do
      if isHeld lock then throw (.httpException 409 "Identical operation underway")
      if latestIntent = some .resourceDeletionPendingFlag then
        throw (.httpException 409 "Account already queued for deletion")
      setNegativeMapping config (deriveCacheKey userResource username)
      modify fun s => { s with deletedUsers := s.deletedUsers ++ [userId] }
      modify (IndicatorState.emit config .users (userCleanupEvent userId now)) }

end

/-- A request to one of the three endpoints, with what is read and drawn for it. -/
inductive IndicatorRequest
  | commentOnPost (claims : AccessTokenClaims) (postId : Int) (commentModel : CommentModel)
      (post : Except Exn (Option FoundPost)) (drawn now : String)
  | reportPost (claims : AccessTokenClaims) (postId : Int) (tag : ReportTags)
      (description : String) (post : Except Exn (Option FoundPost))
      (reported : Except Exn Bool) (intentId now : String)
  | deleteUser (username : String) (user : Except Exn (Option (Except Exn Int)))
      (passwordMatches : Except Exn Bool) (now : String)

/-- What happens to the store.  `expire` is the end of any key's time, and its `EXPIRE` in
between; `other` is a write or a deletion under a key where no intent is looked for. -/
inductive IndicatorLabel
  | request (request : IndicatorRequest)
  | setIntent (target : GuardTarget) (flag : IntentFlag) (intentId : String)
  | cacheUser (username : String) (items : List (String × String)) (seconds : ℕ)
  | expire (key : String) (milliseconds : ℕ)
  | other (key : RedisKey) (slot : Option Slot)

/-- The intents. -/
def KeyName.isIntent : KeyName → Bool
  | .intent _ | .accountIntent _ => true
  | _ => false

/-- The intents, and the cached users, whose keys may be those of intents. -/
def RedisKey.mayBeIntent : RedisKey → Bool
  | .value (.cached (.user _)) => true
  | .value name => name.isIntent
  | .lock _ => false

section
variable (config : CacheConfig)

/-- The endpoint up to its call. -/
def IndicatorRequest.call : IndicatorRequest → Except Exn IndicatorCall
  | .commentOnPost claims postId commentModel post drawn now =>
      ResourceServer.commentOnPost config claims postId commentModel post drawn now
  | .reportPost claims postId tag description post reported intentId now =>
      ResourceServer.reportPost config claims postId tag description post reported intentId now
  | .deleteUser username user passwordMatches now =>
      ResourceServer.deleteUser config username user passwordMatches now

/-- `fetch_indicators`, on the store. -/
def IndicatorCall.fetchIndicators (call : IndicatorCall) (store : Store) :
    Except Exn (Option Reply × Option IntentFlag) := do
  let lock ← getText store call.lockName
  let intent ← getText store call.intentName
  ResourceServer.fetchIndicators config.decodeResponses lock intent

/-- The whole endpoint.  The store is not touched before the transaction of
`fetch_indicators`, and is read in that transaction only. -/
def IndicatorRequest.run (request : IndicatorRequest) : EStateM Exn IndicatorState Unit := do
  let call ← MonadExcept.ofExcept (request.call config)
  let (lock, latestIntent) ← MonadExcept.ofExcept (call.fetchIndicators config (← get).store)
  call.goesOn lock latestIntent

/-- The requests on a store that is shared with everything else. -/
def indicatorStep (s : IndicatorState) : IndicatorLabel → Option IndicatorState
  | .request request => some (stateAfter (request.run config) s)
  | .setIntent target flag intentId =>
      some { s with
        store := putIntent config s.store target.intent (writtenIntent flag intentId) }
  | .cacheUser username items seconds =>
      some { s with
        store := (hsetWithTtl s.store (ReadSite.user username).key items seconds).1 }
  | .expire key milliseconds =>
      some { s with store := (PageCommand.run s.store (.expire key milliseconds)).1 }
  | .other key slot =>
      if key.mayBeIntent then none else some { s with store := s.store.put key.text slot }

/-- What `fetch_indicators` raises: for a missing intent, for one of another type, and for one
that it reads. -/
def IndicatorError (e : Exn) : Prop :=
  e = .attributeError ∨ e = wrongType ∨
    e = if config.decodeResponses then .valueError else .typeError

/-- The request raises and changes nothing: it is refused before `fetch_indicators`, or that
raises. -/
def IndicatorRequest.RaisesIn (request : IndicatorRequest) (s : IndicatorState) : Prop :=
  ∃ e, request.run config s = .error e s ∧
    (request.call config = .error e ∨
      (∃ call, request.call config = .ok call) ∧ IndicatorError config e)

/-- A text in the slot is an intent that was set. -/
def OnlyIntents (slot : Option Slot) : Prop :=
  ∀ text ttl, slot = some ⟨.text text, ttl⟩ →
    ∃ flag intentId, text = writtenIntent flag intentId

/-- Where an intent is looked for, a text is one. -/
def IntentsOnly (store : Store) : Prop :=
  ∀ name : KeyName, name.isIntent = true → OnlyIntents (store name.text)

/-- Nothing has been emitted, and no account has been marked. -/
structure NothingDone (s : IndicatorState) : Prop where
  counters : s.counters = []
  streams : s.streams = []
  deletedUsers : s.deletedUsers = []

/-- An empty store. -/
def IndicatorState.start : IndicatorState := ⟨fun _ => none, [], [], []⟩

section
variable {config : CacheConfig} {store : Store} {s s' : IndicatorState}

theorem OnlyIntents.none : OnlyIntents none := fun _ _ h => nomatch h

theorem OnlyIntents.hash (items : List (String × String)) (ttl : Option ℕ) :
    OnlyIntents (some ⟨.hash items, ttl⟩) := by
  intro text ttl' h
  cases h

theorem OnlyIntents.written (flag : IntentFlag) (intentId : String) (ttl : Option ℕ) :
    OnlyIntents (some ⟨.text (writtenIntent flag intentId), ttl⟩) := by
  intro text ttl' h
  cases h
  exact ⟨flag, intentId, rfl⟩

theorem NothingDone.withStore (h : NothingDone s) (store : Store) :
    NothingDone { s with store := store } :=
  ⟨h.counters, h.streams, h.deletedUsers⟩

/-- Another slot under one key. -/
theorem OnlyIntents.put {key : String} (h : OnlyIntents (store key)) {key' : String}
    {slot : Option Slot} (hslot : key = key' → OnlyIntents slot) :
    OnlyIntents (store.put key' slot key) := by
  unfold Store.put
  split
  · rename_i hkey
    exact hslot hkey
  · exact h

/-- An expiry leaves the value, or nothing. -/
theorem OnlyIntents.expire {key : String} (h : OnlyIntents (store key)) (key' : String)
    (milliseconds : ℕ) :
    OnlyIntents ((PageCommand.run store (.expire key' milliseconds)).1 key) := by
  simp only [PageCommand.run]
  split
  · exact h
  · rename_i slot hslot
    refine h.put fun hkey => ?_
    rw [hkey, hslot] at h
    split
    · exact .none
    · obtain ⟨value, ttl⟩ := slot
      intro text ttl' htext
      cases htext
      exact h text ttl rfl

/-- Fields are set in a hash, or not at all. -/
theorem OnlyIntents.hset {key : String} (h : OnlyIntents (store key)) (key' : String)
    (items : List (String × String)) :
    OnlyIntents ((PageCommand.run store (.hset key' items)).1 key) := by
  simp only [PageCommand.run]
  split
  · exact h.put fun _ => .hash _ _
  · exact h.put fun _ => .hash _ _
  · exact h

theorem OnlyIntents.hsetWithTtl {key : String} (h : OnlyIntents (store key)) (key' : String)
    (items : List (String × String)) (seconds : ℕ) :
    OnlyIntents ((ResourceServer.hsetWithTtl store key' items seconds).1 key) :=
  (h.hset key' items).expire key' (1000 * seconds)

/-- Intents may be set under any key. -/
theorem OnlyIntents.putIntent {key : String} (h : OnlyIntents (store key)) (intentName : String)
    (flag : IntentFlag) (intentId : String) :
    OnlyIntents (ResourceServer.putIntent config store intentName (writtenIntent flag intentId)
      key) :=
  OnlyIntents.expire (h.put fun _ => .written _ _ _) intentName (1000 * config.ttlStrongest)

/-- Where no intent is looked for is none of their keys. -/
theorem KeyName.text_ne_of_not_mayBeIntent {name : KeyName} (hname : name.isIntent = true)
    {key : RedisKey} (hkey : key.mayBeIntent = false) : name.text ≠ key.text := by
  intro heq
  have hshares := ((RedisKey.value name).text_eq_iff key).mp heq
  cases key with
  | lock lock => exact hshares
  | value other =>
      cases name with
      | intent target =>
          cases other with
          | cached site => cases site <;> exact nomatch hshares
          | intent other => cases hkey
          | _ => exact nomatch hshares
      | accountIntent username =>
          cases other with
          | cached site =>
              cases site with
              | user username => cases hkey
              | _ => exact nomatch hshares
          | accountIntent other => cases hkey
          | _ => exact nomatch hshares
      | _ => cases hname

/-- Where an intent is looked for, `fetch_indicators` raises. -/
theorem IndicatorCall.fetchIndicators_raises (call : IndicatorCall)
    (h : OnlyIntents (store call.intentName)) :
    ∃ e, call.fetchIndicators config store = .error e ∧ IndicatorError config e := by
  unfold IndicatorCall.fetchIndicators
  cases hlock : getText store call.lockName with
  | error e =>
      refine ⟨e, rfl, .inr (.inl ?_)⟩
      unfold getText at hlock
      split at hlock <;> cases hlock
      rfl
  | ok lock =>
      unfold getText
      split
      · exact ⟨_, rfl, .inl rfl⟩
      · rename_i text ttl hslot
        obtain ⟨flag, intentId, rfl⟩ := h text ttl hslot
        exact ⟨_, fetchIndicators_written config.decodeResponses lock flag intentId,
          .inr (.inr rfl)⟩
      · exact ⟨_, rfl, .inr (.inl rfl)⟩

/-- Each endpoint looks for an intent of its own kind. -/
theorem IndicatorRequest.intentName_eq (request : IndicatorRequest) {call : IndicatorCall}
    (h : request.call config = .ok call) :
    ∃ name : KeyName, name.isIntent = true ∧ call.intentName = name.text := by
  cases request with
  | commentOnPost claims postId commentModel post drawn now =>
      obtain ⟨post, _, h⟩ := except_bind_eq_ok h
      obtain ⟨closed, _, h⟩ := except_bind_eq_ok h
      cases closed with
      | true => cases h
      | false =>
          cases h
          exact ⟨.intent ⟨.comments, .create, claims.sid, commentModel.intentId drawn⟩, rfl, rfl⟩
  | reportPost claims postId tag description post reported intentId now =>
      obtain ⟨post, _, h⟩ := except_bind_eq_ok h
      cases h
      exact ⟨.intent ⟨.reportedPosts tag, .save, claims.sid, toString postId⟩, rfl, rfl⟩
  | deleteUser username user passwordMatches now =>
      obtain ⟨user, _, h⟩ := except_bind_eq_ok h
      obtain ⟨userId, _, h⟩ := except_bind_eq_ok h
      obtain ⟨isMatch, _, h⟩ := except_bind_eq_ok h
      cases isMatch with
      | false => cases h
      | true =>
          cases h
          exact ⟨.accountIntent username, rfl, rfl⟩

theorem ofExcept_error {α : Type} {x : Except Exn α} {e : Exn} (h : x = .error e)
    (s : IndicatorState) :
    (MonadExcept.ofExcept x : EStateM Exn IndicatorState α) s = .error e s := by
  rw [h]
  rfl

theorem ofExcept_ok {α : Type} {x : Except Exn α} {a : α} (h : x = .ok a)
    (s : IndicatorState) :
    (MonadExcept.ofExcept x : EStateM Exn IndicatorState α) s = .ok a s := by
  rw [h]
  rfl

/-- Every request raises. -/
theorem IndicatorRequest.raisesIn (request : IndicatorRequest) (h : IntentsOnly s.store) :
    request.RaisesIn config s := by
  unfold IndicatorRequest.RaisesIn IndicatorRequest.run
  cases hcall : request.call config with
  | error e => exact ⟨e, bind_of_error (ofExcept_error rfl s), .inl rfl⟩
  | ok call =>
      obtain ⟨name, hname, hkey⟩ := request.intentName_eq hcall
      obtain ⟨e, hfetch, he⟩ := call.fetchIndicators_raises (hkey ▸ h name hname)
      refine ⟨e, ?_, .inr ⟨⟨call, rfl⟩, he⟩⟩
      rw [bind_of_ok (ofExcept_ok rfl s), get_bind_run]
      exact bind_of_error (ofExcept_error hfetch s)

/-- A step writes no other text where an intent is looked for, and only a request could do
something else. -/
theorem indicatorStep_preserves (h : IntentsOnly s.store) (hdone : NothingDone s)
    {label : IndicatorLabel} (hs : indicatorStep config s label = some s') :
    IntentsOnly s'.store ∧ NothingDone s' := by
  cases label with
  | request request =>
      obtain ⟨e, hrun, _⟩ : request.RaisesIn config s := request.raisesIn h
      simp only [indicatorStep, Option.some.injEq] at hs
      rw [← hs, stateAfter_of_error hrun]
      exact ⟨h, hdone⟩
  | setIntent target flag intentId =>
      simp only [indicatorStep, Option.some.injEq] at hs
      rw [← hs]
      refine ⟨fun name hname => ?_, hdone.withStore _⟩
      exact (h name hname).putIntent target.intent flag intentId
  | cacheUser username items seconds =>
      simp only [indicatorStep, Option.some.injEq] at hs
      rw [← hs]
      refine ⟨fun name hname => ?_, hdone.withStore _⟩
      exact (h name hname).hsetWithTtl _ items seconds
  | expire key milliseconds =>
      simp only [indicatorStep, Option.some.injEq] at hs
      rw [← hs]
      refine ⟨fun name hname => ?_, hdone.withStore _⟩
      exact (h name hname).expire key milliseconds
  | other key slot =>
      simp only [indicatorStep] at hs
      split at hs
      · cases hs
      · rename_i hkey
        simp only [Option.some.injEq] at hs
        rw [← hs]
        refine ⟨fun name hname => (h name hname).put fun heq => ?_, hdone.withStore _⟩
        exact absurd heq (KeyName.text_ne_of_not_mayBeIntent hname (Bool.eq_false_iff.mpr hkey))

end

end

/-- In every run from an empty store, with intents of any users set, removed and expired and
anything else written and read in between: in every state each request to `comment_on_post`,
`report_post` and `delete_user` raises, and none has emitted an event or marked an account. -/
theorem always_indicatorsRaise (config : CacheConfig) (labels : List IndicatorLabel) :
    Always (indicatorStep config)
      (fun s => NothingDone s ∧ ∀ request : IndicatorRequest, request.RaisesIn config s)
      IndicatorState.start labels :=
  (always_of_preserved (I := fun s => IntentsOnly s.store ∧ NothingDone s)
    (fun _ _ _ hI hs => indicatorStep_preserves hI.1 hI.2 hs) labels IndicatorState.start
    ⟨fun _ _ => .none, rfl, rfl, rfl⟩).imp
    fun _ hI => ⟨hI.2, fun request => request.raisesIn hI.1⟩

end ResourceServer
end Tenjin
