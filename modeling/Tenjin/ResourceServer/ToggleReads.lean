import Mathlib.Data.List.Induction
import Tenjin.DatabaseWorkers.Associations
import Tenjin.ResourceServer.DuplicateSuppression

/-!
# What the toggling endpoints read

`check_saved` and the two `check_subscription`s of the repositories under the endpoints
that save posts and subscribe to forums and animes, against the rows that the worker's
upsert leaves.

* A history is what one user has done about one resource, in the order of the stream.  The
  worker may have recorded its events in any order and more than once.
* `TogglesAgree` is the purpose: without a pending intent, a request is accepted exactly
  if it is not what the last event has done.
* With a serialiser that refuses bytes no request is accepted, so there is always one of the
  two that should be and is not (`not_togglesAgree`).
* The checks look for a row, and the upsert never deletes one: it writes the marker of the
  last event (`recordedRow_state`).  So the requests would be wrong also with events that can
  be represented and objects that have their attributes (`togglesAgree_iff`); reading the
  marker would then be right for posts and forums (`togglesAgree_marker`).
-/

namespace Tenjin
namespace ResourceServer

open Python ResourceAuxillary DatabaseWorkers

/-- The relations that a user switches on and off. -/
inductive Toggle
  | postSave
  | forumSubscription
  | animeSubscription
  deriving DecidableEq

/-- The relation in the worker's tables. -/
def Toggle.association : Toggle → Association
  | .postSave => .postSave
  | .forumSubscription => .forumSubscription
  | .animeSubscription => .animeSubscription

/-- The endpoint that switches the relation on or off. -/
def Toggle.endpoint : Toggle → (on : Bool) → Endpoint
  | .postSave, true => .savePost
  | .postSave, false => .unsavePost
  | .forumSubscription, true => .subscribeForum
  | .forumSubscription, false => .unsubscribeForum
  | .animeSubscription, true => .subAnime
  | .animeSubscription, false => .unsubAnime

/-- The event that switches the relation on. -/
def Toggle.onEvent : Toggle → EventName
  | .postSave => .postSave
  | .forumSubscription => .forumSub
  | .animeSubscription => .animeSub

/-- The key of the relation between the requester and the resource. -/
def Toggle.key (toggle : Toggle) (r : Request) : AssociationKey :=
  ⟨toggle.association, .int r.sid, .int r.resourceId⟩

/-- The events of a user about a resource, in the order of their stream. -/
structure ToggleHistory (toggle : Toggle) (r : Request) where
  events : List StreamedEvent
  about : ∀ event ∈ events, associationKey event = some (toggle.key r)
  increasing : events.Pairwise fun a b => a.eventId < b.eventId

/-- The last event of the history has switched the relation on. -/
def ToggleHistory.On {toggle : Toggle} {r : Request} (h : ToggleHistory toggle r) : Prop :=
  ∃ event, h.events.getLast? = some event ∧ event.name = toggle.onEvent

/-- The row of the relation after the worker has recorded events. -/
def recordedRow (recorded : List StreamedEvent) : Option AssociationRow :=
  recorded.foldl upsertAssociation none

/-- `check_saved` and `check_subscription`: `bool` of the selected row. -/
def checkAssociated (row : Option AssociationRow) : Bool := row.isSome

/-- What is read for a request about a resource. -/
def toggleReads (resource owner : Except Exn (Option Dto)) (associated : Bool) : Reads where
  resource := resource
  forumAdmin := .ok none
  existingVote := none
  associated := associated
  forumOwner := owner

/-- The request is accepted: it emits an event. -/
def ToggleAccepted (dumps : PyValue → Except Exn String) (decodeResponses : Bool)
    (toggle : Toggle) (on : Bool) (r : Request) (v : Reads) (s : ServerState) : Prop :=
  ∃ stream event,
    Accepted dumps decodeResponses ((toggle.endpoint on).handler r v) r s stream event

/-- No request of the user about the resource is under way, and no intent is pending. -/
structure Settled (toggle : Toggle) (r : Request) (s : ServerState) : Prop where
  unlocked : ∀ on v, ((toggle.endpoint on).handler r v).lockName r ∉ s.locks
  noIntent : ∀ on v, s.intents (((toggle.endpoint on).handler r v).intentKey r) = none

/-- Switching on is accepted exactly if the relation is not on, and switching off exactly
if it is. -/
def TogglesAgree (dumps : PyValue → Except Exn String)
    (check : Option AssociationRow → Bool) (decodeResponses : Bool) (toggle : Toggle)
    (r : Request) (resource owner : Except Exn (Option Dto)) (s : ServerState)
    (h : ToggleHistory toggle r) (recorded : List StreamedEvent) : Prop :=
  let v := toggleReads resource owner (check (recordedRow recorded))
  (ToggleAccepted dumps decodeResponses toggle true r v s ↔ ¬ h.On) ∧
    (ToggleAccepted dumps decodeResponses toggle false r v s ↔ h.On)

/-- The looked-up objects have the attributes that the endpoints read. -/
structure Usable (resource owner : Except Exn (Option Dto)) : Prop where
  resource : ∃ dto authorId name title, resource = .ok (some dto) ∧
    dto.number "author_id" = .ok authorId ∧ dto.text "name_" = .ok name ∧
    dto.text "title" = .ok title
  owner : ∃ dto ownerId, owner = .ok (some dto) ∧ dto.number "id_" = .ok ownerId

/-- When a body refuses, given what the check has answered.  `unsub_anime` refuses like its
sibling. -/
def Toggle.refuses (toggle : Toggle) (on associated : Bool) : Bool :=
  match toggle, on with
  | .animeSubscription, false => associated
  | _, true => associated
  | _, false => !associated

section Requests

variable {dumps : PyValue → Except Exn String} {decodeResponses : Bool} {r : Request}
  {s : ServerState}

/-- Where every event can be represented, a request without a lock and without an intent is
accepted exactly if its body has an event to emit. -/
theorem accepted_iff_emits (hdumps : ∀ event, Represented dumps event) {h : Handler}
    {guarded : Guarded} (hprepare : h.prepare = .ok guarded) (hlock : h.lockName r ∉ s.locks)
    (hintent : s.intents (h.intentKey r) = none) :
    (∃ stream event, Accepted dumps decodeResponses h r s stream event) ↔
      ∃ emission, guarded.body none = .ok emission := by
  have hguard : guardAction decodeResponses guarded.options (decide (h.lockName r ∉ s.locks))
      (s.intents (h.intentKey r)) = .entered none := by
    rw [hintent]
    simp [guardAction, hlock]
  constructor
  · rintro ⟨stream, event, haccepted⟩
    unfold Accepted at haccepted
    simp only [runRequest, hprepare, hguard] at haccepted
    cases hbody : guarded.body none with
    | ok emission => exact ⟨emission, rfl⟩
    | error refusal =>
        -- a refusal leaves the streams alone
        obtain ⟨write, e⟩ := refusal
        rw [hbody] at haccepted
        cases write <;> simp at haccepted
  · rintro ⟨⟨stream, event⟩, hbody⟩
    refine ⟨stream, event, ?_⟩
    unfold Accepted
    rw [runRequest_of_emits hprepare hguard hbody (hdumps event), ServerState.unlock_streams,
      executeEmission_streams]

theorem toggleBody_none_emits_iff (refuse : Bool) (refusedIntent : String × String)
    (detail : String) (emission : StreamName × Event) :
    (∃ e, toggleBody refuse refusedIntent detail (.ok emission) none = .ok e) ↔
      refuse = false := by
  cases refuse with
  | true => simp [toggleBody, noLatestIntent]
  | false => exact ⟨fun _ => rfl, fun _ => ⟨emission, rfl⟩⟩

/-- The author of the post is known. -/
theorem exists_saveEmission (r : Request) {post : Dto} {authorId : Int}
    (hauthor : post.number "author_id" = .ok authorId) (name : EventName) (delta : Int)
    (flag : IntentFlag) : ∃ emission, saveEmission r post name delta flag = .ok emission := by
  unfold saveEmission
  rw [hauthor]
  exact ⟨_, rfl⟩

/-- The owner of the forum is known. -/
theorem exists_forumEmission (r : Request) {v : Reads} {owner : Dto} {ownerId : Int}
    (howner : v.forumOwner = .ok (some owner)) (hid : owner.number "id_" = .ok ownerId)
    (failure : String) (name : EventName) (delta : Int) (action : Action) (flag : IntentFlag) :
    ∃ emission, forumEmission r v failure name delta action flag = .ok emission := by
  unfold forumEmission
  simp only [raising, bind, Except.bind, howner, hid]
  exact ⟨_, rfl⟩

/-- On usable objects an endpoint comes to its guard, and its body emits unless the check is
against it. -/
theorem toggle_prepare (toggle : Toggle) (on : Bool) (r : Request)
    {resource owner : Except Exn (Option Dto)} (h : Usable resource owner) (associated : Bool) :
    ∃ guarded,
      ((toggle.endpoint on).handler r (toggleReads resource owner associated)).prepare =
        .ok guarded ∧
      ∃ refusedIntent detail emission, guarded.body =
        toggleBody (toggle.refuses on associated) refusedIntent detail (.ok emission) := by
  obtain ⟨⟨dto, authorId, name, title, rfl, hauthor, hname, htitle⟩,
    ⟨user, ownerId, rfl, howner⟩⟩ := h
  cases toggle with
  | postSave =>
      cases on with
      | true =>
          obtain ⟨emission, hemission⟩ := exists_saveEmission r hauthor .postSave 1
            .resourceCreationPendingFlag
          exact ⟨_, rfl, _, _, emission, by rw [← hemission]; rfl⟩
      | false =>
          obtain ⟨emission, hemission⟩ := exists_saveEmission r hauthor .postUnsave (-1)
            .resourceDeletionPendingFlag
          exact ⟨_, rfl, _, _, emission, by rw [← hemission]; rfl⟩
  | forumSubscription =>
      cases on with
      | true =>
          obtain ⟨emission, hemission⟩ := exists_forumEmission r
            (v := toggleReads (.ok (some dto)) (.ok (some user)) associated) rfl howner
            "Failed to perform subscription" .forumSub 1 .sub .resourceCreationPendingFlag
          refine ⟨?subscribeForumGuarded, ?subscribeForumPrepared, ?subscribeForumBody⟩
          case subscribeForumPrepared =>
            simp only [Toggle.endpoint, Endpoint.handler, subscribeForum, present, toggleReads,
              bind, Except.bind, hname]
            rfl
          case subscribeForumBody => exact ⟨_, _, emission, by rw [← hemission]; rfl⟩
      | false =>
          obtain ⟨emission, hemission⟩ := exists_forumEmission r
            (v := toggleReads (.ok (some dto)) (.ok (some user)) associated) rfl howner
            "Failed to perform unsubscription" .forumUnsub (-1) .unsub
            .resourceDeletionPendingFlag
          refine ⟨?unsubscribeForumGuarded, ?unsubscribeForumPrepared, ?unsubscribeForumBody⟩
          case unsubscribeForumPrepared =>
            simp only [Toggle.endpoint, Endpoint.handler, unsubscribeForum, present, toggleReads,
              bind, Except.bind, hname]
            rfl
          case unsubscribeForumBody => exact ⟨_, _, emission, by rw [← hemission]; rfl⟩
  | animeSubscription =>
      cases on with
      | true =>
          refine ⟨?subAnimeGuarded, ?subAnimePrepared, ?subAnimeBody⟩
          case subAnimePrepared =>
            simp only [Toggle.endpoint, Endpoint.handler, subAnime, present, toggleReads,
              bind, Except.bind, htitle]
            rfl
          case subAnimeBody => exact ⟨_, _, _, rfl⟩
      | false =>
          refine ⟨?unsubAnimeGuarded, ?unsubAnimePrepared, ?unsubAnimeBody⟩
          case unsubAnimePrepared =>
            simp only [Toggle.endpoint, Endpoint.handler, unsubAnime, present, toggleReads,
              bind, Except.bind, htitle]
            rfl
          case unsubAnimeBody => exact ⟨_, _, _, rfl⟩

/-- Then a request of a settled user is accepted exactly if its body does not refuse. -/
theorem toggleAccepted_iff (hdumps : ∀ event, Represented dumps event) {toggle : Toggle}
    (hsettled : Settled toggle r s) (on : Bool) {resource owner : Except Exn (Option Dto)}
    (h : Usable resource owner) (associated : Bool) :
    ToggleAccepted dumps decodeResponses toggle on r (toggleReads resource owner associated) s ↔
      toggle.refuses on associated = false := by
  obtain ⟨guarded, hprepare, refusedIntent, detail, emission, hbody⟩ :=
    toggle_prepare toggle on r h associated
  rw [← toggleBody_none_emits_iff _ refusedIntent detail emission, ← hbody]
  exact accepted_iff_emits hdumps hprepare (hsettled.unlocked on _) (hsettled.noIntent on _)

end Requests

section Rows

/-- The upsert never deletes a row. -/
theorem recordedRow_isSome (recorded : List StreamedEvent) :
    (recordedRow recorded).isSome = !recorded.isEmpty := by
  have hkeeps : ∀ (events : List StreamedEvent) (row : AssociationRow),
      (events.foldl upsertAssociation (some row)).isSome = true := by
    intro events
    induction events with
    | nil => exact fun _ => rfl
    | cons event events ih =>
        intro row
        rw [List.foldl_cons]
        by_cases hlater : row.lastEventId < event.eventId
        · simpa [upsertAssociation, hlater] using ih _
        · simpa [upsertAssociation, hlater] using ih row
  cases recorded with
  | nil => rfl
  | cons event events => exact hkeeps events _

/-- The row is that of the recorded event with the greatest id. -/
theorem recordedRow_latest (recorded : List StreamedEvent) (row : AssociationRow)
    (h : recordedRow recorded = some row) :
    (∃ event ∈ recorded, row = ⟨associationState event, event.eventId⟩) ∧
      ∀ event ∈ recorded, event.eventId ≤ row.lastEventId := by
  -- on the recorded events, the last one first
  induction recorded using List.reverseRecOn generalizing row with
  | nil => cases h
  | append_singleton recorded event ih =>
      rw [recordedRow, List.foldl_append] at h
      cases hbefore : recordedRow recorded with
      | none =>
          have hempty : recorded = [] := by
            have hsome := recordedRow_isSome recorded
            rw [hbefore] at hsome
            simpa using hsome.symm
          subst hempty
          cases h
          refine ⟨⟨event, by simp, rfl⟩, fun e he => ?_⟩
          rw [List.nil_append, List.mem_singleton] at he
          exact he ▸ Int.le_refl _
      | some stored =>
          obtain ⟨⟨latest, hlatest, hstored⟩, hgreatest⟩ := ih stored hbefore
          have hfold : upsertAssociation (some stored) event = some row := by
            rw [recordedRow] at hbefore
            rw [hbefore] at h
            exact h
          by_cases hlater : stored.lastEventId < event.eventId
          · simp only [upsertAssociation, hlater, if_true, Option.some.injEq] at hfold
            subst hfold
            refine ⟨⟨event, by simp, rfl⟩, fun e he => ?_⟩
            rcases List.mem_append.mp he with he | he
            · exact Int.le_trans (hgreatest e he) (Int.le_of_lt hlater)
            · rw [List.mem_singleton] at he
              exact he ▸ Int.le_refl _
          · simp only [upsertAssociation, hlater, if_false, Option.some.injEq] at hfold
            subst hfold
            refine ⟨⟨latest, by simp [hlatest], hstored⟩, fun e he => ?_⟩
            rcases List.mem_append.mp he with he | he
            · exact hgreatest e he
            · rw [List.mem_singleton] at he
              exact he ▸ Int.not_lt.mp hlater

variable {toggle : Toggle} {r : Request} (h : ToggleHistory toggle r)
  {recorded : List StreamedEvent}

/-- A row is there exactly if something was recorded. -/
theorem checkAssociated_recorded (hrecorded : ∀ event, event ∈ recorded ↔ event ∈ h.events) :
    checkAssociated (recordedRow recorded) = true ↔ h.events ≠ [] := by
  rw [checkAssociated, recordedRow_isSome]
  have hempty : recorded = [] ↔ h.events = [] := by
    simp only [List.eq_nil_iff_forall_not_mem, hrecorded]
  simp [hempty]

/-- The row carries the marker of the last event of the history, however the events were
recorded. -/
theorem recordedRow_state (hrecorded : ∀ event, event ∈ recorded ↔ event ∈ h.events)
    {last : StreamedEvent} (hlast : h.events.getLast? = some last) :
    recordedRow recorded = some ⟨associationState last, last.eventId⟩ := by
  obtain ⟨front, hfront⟩ := List.getLast?_eq_some_iff.mp hlast
  have hincreasing := h.increasing
  rw [hfront, List.pairwise_append] at hincreasing
  have hlastMem : last ∈ recorded := (hrecorded last).mpr (by simp [hfront])
  cases hrow : recordedRow recorded with
  | none =>
      have hsome := recordedRow_isSome recorded
      rw [hrow] at hsome
      have hempty : recorded = [] := by simpa using hsome.symm
      rw [hempty] at hlastMem
      cases hlastMem
  | some row =>
      obtain ⟨⟨event, hevent, rfl⟩, hgreatest⟩ := recordedRow_latest recorded row hrow
      have hmem := (hrecorded event).mp hevent
      rw [hfront, List.mem_append, List.mem_singleton] at hmem
      rcases hmem with hmem | rfl
      · -- an earlier event has a smaller id than the last one
        have hless := hincreasing.2.2 event hmem last (List.mem_singleton_self _)
        exact absurd (hgreatest last hlastMem) (Int.not_le.mpr hless)
      · rfl

/-- The check that reads the marker of the row. -/
def checkMarker (row : Option AssociationRow) : Bool :=
  row.any fun stored => stored.state = some (.bool true)

theorem checkMarker_recorded (hrecorded : ∀ event, event ∈ recorded ↔ event ∈ h.events) :
    checkMarker (recordedRow recorded) = true ↔ h.On := by
  cases hlast : h.events.getLast? with
  | none =>
      have hnil : h.events = [] := List.getLast?_eq_none_iff.mp hlast
      have hempty : recorded = [] := by
        rw [List.eq_nil_iff_forall_not_mem]
        intro event hevent
        rw [hrecorded, hnil] at hevent
        cases hevent
      simp [hempty, recordedRow, checkMarker, ToggleHistory.On, hlast]
  | some last =>
      rw [recordedRow_state h hrecorded hlast]
      have hmem : last ∈ h.events := List.mem_of_getLast? hlast
      have habout := h.about last hmem
      have hon : h.On ↔ last.name = toggle.onEvent := by
        constructor
        · rintro ⟨event, hevent, hname⟩
          rw [hlast] at hevent
          cases hevent
          exact hname
        · intro hname
          exact ⟨last, hlast, hname⟩
      have hrelation : association last.name = some toggle.association := by
        unfold associationKey at habout
        cases hassociation : association last.name with
        | none =>
            rw [hassociation] at habout
            cases habout
        | some relation =>
            rw [hassociation] at habout
            dsimp only at habout
            split at habout
            · cases habout
              rfl
            · cases habout
      rw [hon]
      show decide (associationState last = some (.bool true)) = true ↔ _
      rw [decide_eq_true_iff, associationState]
      revert hrelation
      cases toggle <;> cases last.name <;>
        simp [association, Toggle.association, Toggle.onEvent]

end Rows

section Agreement

variable {dumps : PyValue → Except Exn String} {toggle : Toggle} {r : Request} {s : ServerState}
  {recorded : List StreamedEvent} {resource owner : Except Exn (Option Dto)}

/-- Requests whose events cannot be represented agree with no history: neither is accepted,
and one of the two should be. -/
theorem not_togglesAgree (dumps : PyValue → Except Exn String) (hdumps : RejectsBytes dumps)
    (check : Option AssociationRow → Bool) (decodeResponses : Bool) (toggle : Toggle)
    (r : Request) (resource owner : Except Exn (Option Dto)) (s : ServerState)
    (h : ToggleHistory toggle r) (recorded : List StreamedEvent) :
    ¬ TogglesAgree dumps check decodeResponses toggle r resource owner s h recorded := by
  have hnone : ∀ on v, ¬ ToggleAccepted dumps decodeResponses toggle on r v s := by
    rintro on v ⟨stream, event, hacc⟩
    obtain ⟨_, _, _, _, hrepr⟩ := hacc.body
    exact not_represented hdumps event hrepr
  rintro ⟨hon, hoff⟩
  exact hnone false _ (hoff.mpr (not_not.mp fun hnot => hnone true _ (hon.mpr hnot)))

/-- A post that was saved and then unsaved. -/
def savedAndUnsaved : ToggleHistory .postSave sampleRequest where
  events :=
    [{ name := .postSave, payload := [("user_id", .int 7), ("post_id", .int 5)],
       sideEffects := {}, eventId := 1 },
     { name := .postUnsave, payload := [("user_id", .int 7), ("post_id", .int 5)],
       sideEffects := {}, eventId := 2 }]
  about := by decide
  increasing := by decide

theorem settled_quietServer (toggle : Toggle) (r : Request) : Settled toggle r quietServer where
  unlocked := fun _ _ h => by cases h
  noIntent := fun _ _ => rfl

/-- Never for that history, with objects that have every attribute. -/
theorem not_togglesAgree_savedAndUnsaved :
    ¬ TogglesAgree orjsonDumps checkAssociated false .postSave sampleRequest
      (.ok (some sampleObject)) (.ok (some [("id_", .value (.int 1))])) quietServer
      savedAndUnsaved savedAndUnsaved.events :=
  not_togglesAgree orjsonDumps orjsonDumps_rejectsBytes checkAssociated false .postSave
    sampleRequest (.ok (some sampleObject)) (.ok (some [("id_", .value (.int 1))])) quietServer
    savedAndUnsaved savedAndUnsaved.events

/-- The post was unsaved last, and cannot be saved again: nothing is cached for it, and a
result that is made of its row raises. -/
theorem savedAndUnsaved_disagrees :
    LooksUp bytesSettings .mapping .postResult (.error .typeError) ∧
      Settled .postSave sampleRequest quietServer ∧
      ¬ TogglesAgree orjsonDumps checkAssociated bytesSettings.decodeResponses .postSave
        sampleRequest (.error .typeError) (.ok none) quietServer savedAndUnsaved
        savedAndUnsaved.events := by
  refine ⟨.leader fun _ => .value .none, settled_quietServer _ _, ?_⟩
  rintro ⟨hon, -⟩
  have hoff : ¬ savedAndUnsaved.On := by
    rintro ⟨event, hevent, hname⟩
    cases hevent
    cases hname
  obtain ⟨stream, event, hacc⟩ := hon.mpr hoff
  cases hacc

/-- What the agreement comes to for any check, where events can be represented and objects
have their attributes. -/
theorem togglesAgree_iff_check (check : Option AssociationRow → Bool) (decodeResponses : Bool)
    (hdumps : ∀ event, Represented dumps event) (hsettled : Settled toggle r s)
    (husable : Usable resource owner) (h : ToggleHistory toggle r) :
    TogglesAgree dumps check decodeResponses toggle r resource owner s h recorded ↔
      (check (recordedRow recorded) = true ↔ h.On) ∧
        (toggle.refuses false (check (recordedRow recorded)) = false ↔ h.On) := by
  have hon : toggle.refuses true (check (recordedRow recorded)) =
      check (recordedRow recorded) := by
    cases toggle <;> rfl
  unfold TogglesAgree
  dsimp only
  rw [toggleAccepted_iff hdumps hsettled true husable,
    toggleAccepted_iff hdumps hsettled false husable, hon]
  apply and_congr_left
  intro _
  cases check (recordedRow recorded) with
  | true => simp
  | false => simp

/-- Then the requests agree with the recorded events exactly for a post or a forum of which
nothing was recorded, or which the last event has switched on. -/
theorem togglesAgree_iff (decodeResponses : Bool) (hdumps : ∀ event, Represented dumps event)
    (hsettled : Settled toggle r s) (husable : Usable resource owner)
    (h : ToggleHistory toggle r)
    (hrecorded : ∀ event, event ∈ recorded ↔ event ∈ h.events) :
    TogglesAgree dumps checkAssociated decodeResponses toggle r resource owner s h recorded ↔
      toggle ≠ .animeSubscription ∧ (h.events = [] ∨ h.On) := by
  rw [togglesAgree_iff_check checkAssociated decodeResponses hdumps hsettled husable]
  have hrow := checkAssociated_recorded h hrecorded
  have hnothing : h.events = [] → ¬ h.On := by
    rintro hnil ⟨event, hevent, _⟩
    rw [hnil] at hevent
    cases hevent
  by_cases hanime : toggle = .animeSubscription
  · -- both requests are refused with a row, and both are accepted without
    subst hanime
    simp only [Toggle.refuses, ne_eq, not_true_eq_false, false_and, iff_false]
    rintro ⟨hon, hoff⟩
    cases hcheck : checkAssociated (recordedRow recorded) with
    | true =>
        rw [hcheck] at hon hoff
        exact absurd (hoff.mpr (hon.mp rfl)) (by simp)
    | false =>
        rw [hcheck] at hon hoff
        exact absurd (hon.mpr (hoff.mp rfl)) (by simp)
  · have hoff : toggle.refuses false (checkAssociated (recordedRow recorded)) =
        !checkAssociated (recordedRow recorded) := by
      cases toggle with
      | postSave => rfl
      | forumSubscription => rfl
      | animeSubscription => exact absurd rfl hanime
    rw [hoff, Bool.not_eq_false', hrow, and_self]
    constructor
    · intro hiff
      refine ⟨hanime, ?_⟩
      by_cases hnil : h.events = []
      · exact .inl hnil
      · exact .inr (hiff.mp hnil)
    · rintro ⟨_, hcases⟩
      constructor
      · intro hne
        exact hcases.resolve_left hne
      · intro hon hnil
        exact hnothing hnil hon

/-- With the check that reads the marker, posts and forums would agree after every history. -/
theorem togglesAgree_marker (decodeResponses : Bool) (hdumps : ∀ event, Represented dumps event)
    (hsettled : Settled toggle r s) (husable : Usable resource owner)
    (h : ToggleHistory toggle r)
    (hrecorded : ∀ event, event ∈ recorded ↔ event ∈ h.events)
    (hanime : toggle ≠ .animeSubscription) :
    TogglesAgree dumps checkMarker decodeResponses toggle r resource owner s h recorded := by
  rw [togglesAgree_iff_check checkMarker decodeResponses hdumps hsettled husable]
  have hmarker := checkMarker_recorded h hrecorded
  refine ⟨hmarker, ?_⟩
  cases toggle with
  | postSave => simpa [Toggle.refuses] using hmarker
  | forumSubscription => simpa [Toggle.refuses] using hmarker
  | animeSubscription => exact absurd rfl hanime

end Agreement

end ResourceServer
end Tenjin
