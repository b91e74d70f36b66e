import Mathlib.Tactic.Set
import Tenjin.ResourceServer.Endpoints
import Tenjin.ResourceServer.Lookups

/-!
# Duplicate requests and the intents of accepted ones

An accepted request leaves an intent under a key, and an identical request that comes
while that intent is pending should be turned away.

* `DuplicateSuppressed` states that for one endpoint and one kind of client replies.
* The guard never recognises a written intent as a conflict: it compares a flag with
  the first piece of the stored text, and every flag contains the separator.
* What stops a duplicate is the `TypeError` of splitting bytes at a string, and only
  where the guard reads the key that the endpoint writes (`duplicateSuppressed_iff`).
* The three endpoints that write another key look up an object with an attribute, and with
  replies of bytes there is none: they accept no request at all (`duplicate_suppressed`).
-/

namespace Tenjin
namespace ResourceServer

open Python ResourceAuxillary

/-- The request was accepted with this event: its emission was executed. -/
def Accepted (dumps : PyValue → Except Exn String) (decodeResponses : Bool) (h : Handler)
    (r : Request) (s : ServerState) (stream : StreamName) (event : Event) : Prop :=
  (runRequest dumps decodeResponses h r s).1.streams = s.streams ++ [(stream, event)]

/-- The same request again, with the identifier and the time drawn anew. -/
def Request.repeated (r : Request) (intentId now : String) : Request :=
  { r with intentId := intentId, now := now }

/-- The type that an endpoint looks its resource up as. -/
def Endpoint.resultType : Endpoint → ResultType
  | .deletePost | .votePost | .unvotePost | .savePost | .unsavePost => .postResult
  | .subscribeForum | .unsubscribeForum => .forumResult
  | .subAnime | .unsubAnime => .animeResult
  | .deleteComment | .voteComment | .unvoteComment | .reportComment => .commentResult

/-- `fetch_dtype` of the lookup. -/
def Endpoint.fetchDtype : Endpoint → FetchDtype
  | .subAnime | .unsubAnime => .string
  | _ => .mapping

/-- The resource is looked up through `distributed_get_or_load`, whatever the cache and the
database hold. -/
def Looked (settings : CacheSettings) (endpoint : Endpoint) (v : Reads) : Prop :=
  LooksUp settings endpoint.fetchDtype endpoint.resultType v.resource

/-- After an accepted request, as long as its intents are stored and the association it
is about has not changed in the database, the same request ends with an exception and
emits neither an event nor a counter delta. -/
def DuplicateSuppressed (dumps : PyValue → Except Exn String) (decodeResponses : Bool)
    (endpoint : Endpoint) (possible : Reads → Prop) : Prop :=
  ∀ (r : Request) (v : Reads) (s : ServerState) (stream : StreamName) (event : Event),
    possible v →
    Accepted dumps decodeResponses (endpoint.handler r v) r s stream event →
    ∀ (intentId now : String) (v' : Reads) (s' : ServerState),
      intentId ≠ r.intentId →
      v'.existingVote = v.existingVote → v'.associated = v.associated →
      (∀ u ∈ event.sideEffects.intentUpdates, s'.intents u.intentName = some u.intentValue) →
      let second := runRequest dumps decodeResponses
        (endpoint.handler (r.repeated intentId now) v') (r.repeated intentId now) s'
      second.2 ≠ none ∧ second.1.streams = s'.streams ∧ second.1.counters = s'.counters

/-- The endpoints whose guard reads the key that their event writes. -/
def ReadsOwnIntent (endpoint : Endpoint) : Prop :=
  endpoint ≠ .deletePost ∧ endpoint ≠ .unsubscribeForum ∧ endpoint ≠ .unvoteComment

section
variable {dumps : PyValue → Except Exn String} {decodeResponses : Bool} {h : Handler}
  {r : Request} {s : ServerState}

/-- A request whose guard rejects it changes no stream and no counter, and so does one that
does not come to its guard. -/
theorem runRequest_of_rejected
    (hguard : ∀ guarded, h.prepare = .ok guarded →
      ∃ e, guardAction decodeResponses guarded.options (decide (h.lockName r ∉ s.locks))
        (s.intents (h.intentKey r)) = .rejected e) :
    (runRequest dumps decodeResponses h r s).2 ≠ none ∧
      (runRequest dumps decodeResponses h r s).1.streams = s.streams ∧
      (runRequest dumps decodeResponses h r s).1.counters = s.counters := by
  unfold runRequest
  cases hprepare : h.prepare with
  | error e => simp
  | ok guarded =>
      obtain ⟨e, he⟩ := hguard guarded hprepare
      simp only [he]
      exact ⟨by simp, rfl, rfl⟩

/-- An accepted request went through the guard, and its body had the event to emit. -/
theorem Accepted.body {stream : StreamName} {event : Event}
    (hacc : Accepted dumps decodeResponses h r s stream event) :
    ∃ guarded latestIntent, h.prepare = .ok guarded ∧
      guarded.body latestIntent = .ok (stream, event) ∧ Represented dumps event := by
  unfold Accepted at hacc
  rcases runRequest_cases dumps decodeResponses h r s with
    ⟨guarded, latestIntent, stream', event', hprepare, _, hbody, hrepr, hrun⟩ | hrun | hrun |
    ⟨_, _, key, value, _, _, _, hrun⟩
  · rw [hrun, ServerState.unlock_streams, executeEmission_streams] at hacc
    -- the entry that was added is the one that the body emitted
    have hlast := List.append_cancel_left hacc
    simp only [List.cons.injEq, Prod.mk.injEq, and_true] at hlast
    obtain ⟨rfl, rfl⟩ := hlast
    exact ⟨guarded, latestIntent, hprepare, hbody, hrepr⟩
  · rw [hrun] at hacc
    simp at hacc
  · rw [hrun] at hacc
    simp at hacc
  · rw [hrun] at hacc
    simp at hacc

end

/-- The event of an endpoint writes its intent under the key that the guard of the same
request reads, where the two names agree. -/
theorem intentKey_of_readsOwnIntent {endpoint : Endpoint} (hown : ReadsOwnIntent endpoint)
    {r : Request} {v : Reads} {guarded : Guarded} {latestIntent : Option String}
    {stream : StreamName} {event : Event}
    (hprepare : (endpoint.handler r v).prepare = .ok guarded)
    (hbody : guarded.body latestIntent = .ok (stream, event)) (intentId now : String)
    (v' : Reads) :
    ∃ flag, event.sideEffects.intentUpdates =
      [⟨(endpoint.handler (r.repeated intentId now) v').intentKey (r.repeated intentId now),
        flag, r.intentId⟩] := by
  obtain ⟨hdelete, hunsubscribe, hunvote⟩ := hown
  obtain ⟨name, payload, counters, flag, rfl⟩ := emits_userEvent endpoint hprepare hbody
  refine ⟨flag, ?_⟩
  cases endpoint with
  | deletePost => exact absurd rfl hdelete
  | unsubscribeForum => exact absurd rfl hunsubscribe
  | unvoteComment => exact absurd rfl hunvote
  | _ => rfl

/-- With replies of bytes, the duplicate of an accepted request fails in the guard where
the guard reads what the endpoint writes. -/
theorem duplicateSuppressed_of_bytes (dumps : PyValue → Except Exn String)
    {endpoint : Endpoint} (hown : ReadsOwnIntent endpoint) (possible : Reads → Prop) :
    DuplicateSuppressed dumps false endpoint possible := by
  intro r v s stream event _ hacc intentId now v' s' _ _ _ hstored
  obtain ⟨guarded, latestIntent, hprepare, hbody, _⟩ := hacc.body
  obtain ⟨flag, hintents⟩ := intentKey_of_readsOwnIntent hown hprepare hbody intentId now v'
  have hkey : s'.intents ((endpoint.handler (r.repeated intentId now) v').intentKey
      (r.repeated intentId now)) = some (pyJoin nameSeperator [flag.value, r.intentId]) := by
    apply hstored ⟨_, flag, r.intentId⟩
    rw [hintents]
    exact List.mem_singleton_self _
  set h := endpoint.handler (r.repeated intentId now) v' with hh
  refine runRequest_of_rejected fun guarded' _ => ?_
  rw [hkey]
  by_cases hlock : h.lockName (r.repeated intentId now) ∈ s'.locks
  -- a held lock rejects the duplicate before its intent is looked at
  · exact ⟨_, by simp [guardAction, hlock]; rfl⟩
  · exact ⟨.typeError, by simpa [hlock] using guardAction_bytes guarded'.options flag r.intentId⟩

theorem present_eq_ok {found : Except Exn (Option Dto)} {detail : String} {resource : Dto}
    (h : present found detail = .ok resource) : found = .ok (some resource) := by
  obtain ⟨row, rfl, h⟩ := except_bind_eq_ok h
  cases row with
  | none => cases h
  | some dto =>
      cases h
      rfl

/-- With replies of bytes no endpoint but three has an event to emit: a post is never looked
up, and the other resources have no attribute to read. -/
theorem not_emits_of_bytes {settings : CacheSettings} (hbytes : settings.decodeResponses = false)
    {endpoint : Endpoint} (hreads : endpoint ∉ [.subAnime, .unsubAnime, .reportComment])
    {r : Request} {v : Reads} (hlooked : Looked settings endpoint v) {guarded : Guarded}
    (hprepare : (endpoint.handler r v).prepare = .ok guarded) (latestIntent : Option String)
    (emission : StreamName × Event) : guarded.body latestIntent ≠ .ok emission := by
  intro hbody
  cases endpoint with
  | subAnime | unsubAnime | reportComment => exact hreads (by decide)
  | deletePost | votePost | unvotePost | savePost | unsavePost =>
      obtain ⟨post, hpost, _⟩ := except_bind_eq_ok hprepare
      have hbare := LooksUp.bare hbytes (by decide) hlooked (present_eq_ok hpost)
      exact absurd hbare.1 (by decide)
  | subscribeForum | unsubscribeForum =>
      obtain ⟨forum, hforum, hprepare⟩ := except_bind_eq_ok hprepare
      obtain ⟨-, rfl⟩ := LooksUp.bare hbytes (by decide) hlooked (present_eq_ok hforum)
      cases hprepare
  | deleteComment =>
      obtain ⟨comment, hcomment, hprepare⟩ := except_bind_eq_ok hprepare
      obtain ⟨-, rfl⟩ := LooksUp.bare hbytes (by decide) hlooked (present_eq_ok hcomment)
      cases hprepare
  | voteComment | unvoteComment =>
      obtain ⟨comment, hcomment, hprepare⟩ := except_bind_eq_ok hprepare
      obtain ⟨-, rfl⟩ := LooksUp.bare hbytes (by decide) hlooked (present_eq_ok hcomment)
      cases hprepare
      obtain ⟨delta, _, hbody⟩ := except_bind_eq_ok hbody
      cases hbody

/-- A request of user 7 about resource 5. -/
def sampleRequest : Request where
  sid := 7
  resourceId := 5
  postId := 3
  vote := .up
  tag := "spam"
  description := "unwanted"
  intentId := "a1"
  now := "2025-01-01T00:00:00"

/-- An object with the attributes that the endpoints read, of which user 7 is the author. -/
def sampleObject : Dto :=
  [("author_id", .value (.int 7)), ("forum_id", .value (.int 2)),
    ("name_", .value (.str "title")), ("title", .value (.str "title"))]

/-- What is read when the association is such that the endpoint has something to do. -/
def sampleReads (endpoint : Endpoint) (resource : Dto) : Reads where
  resource := .ok (some resource)
  forumAdmin := .ok none
  existingVote :=
    match endpoint with
    | .unvotePost => some true
    | .unvoteComment => some true
    | _ => none
  associated :=
    match endpoint with
    | .unsavePost => true
    | .unsubscribeForum => true
    | _ => false
  forumOwner := .ok (some [("id_", .value (.int 1))])

/-- A server with nothing stored. -/
def quietServer : ServerState := ⟨[], fun _ => none, [], []⟩

/-- A serialiser that writes something for every value, bytes included. -/
def lenientDumps (_ : PyValue) : Except Exn String := .ok "null"

/-- The server after the first request. -/
def afterFirst (decodeResponses : Bool) (endpoint : Endpoint) (resource : Dto) : ServerState :=
  (runRequest lenientDumps decodeResponses
    (endpoint.handler sampleRequest (sampleReads endpoint resource)) sampleRequest
    quietServer).1

/-- The first request is accepted, its intents are stored, and the second request is
accepted as well. -/
def EmitsTwice (decodeResponses : Bool) (endpoint : Endpoint) : Prop :=
  (afterFirst decodeResponses endpoint sampleObject).streams.length = 1 ∧
  (∀ entry ∈ (afterFirst decodeResponses endpoint sampleObject).streams,
    ∀ u ∈ entry.2.sideEffects.intentUpdates,
      (afterFirst decodeResponses endpoint sampleObject).intents u.intentName =
        some u.intentValue) ∧
  (runRequest lenientDumps decodeResponses
    (endpoint.handler (sampleRequest.repeated "b2" "2025-01-01T00:00:01")
      (sampleReads endpoint sampleObject))
    (sampleRequest.repeated "b2" "2025-01-01T00:00:01")
    (afterFirst decodeResponses endpoint sampleObject)).1.streams.length = 2

instance (decodeResponses : Bool) (endpoint : Endpoint) :
    Decidable (EmitsTwice decodeResponses endpoint) :=
  inferInstanceAs (Decidable (_ ∧ _ ∧ _))

/-- An endpoint that emits twice for the same request suppresses no duplicate. -/
theorem EmitsTwice.not_duplicateSuppressed {decodeResponses : Bool} {endpoint : Endpoint}
    (h : EmitsTwice decodeResponses endpoint) :
    ¬ DuplicateSuppressed lenientDumps decodeResponses endpoint fun _ => True := by
  obtain ⟨hone, hstored, htwo⟩ := h
  intro hsuppressed
  obtain ⟨⟨stream, event⟩, hentry⟩ := List.length_eq_one_iff.mp hone
  have hacc : Accepted lenientDumps decodeResponses
      (endpoint.handler sampleRequest (sampleReads endpoint sampleObject)) sampleRequest
      quietServer stream event := hentry
  have hsecond := hsuppressed sampleRequest (sampleReads endpoint sampleObject) quietServer
    stream event trivial hacc "b2" "2025-01-01T00:00:01" (sampleReads endpoint sampleObject)
    (afterFirst decodeResponses endpoint sampleObject) (by decide) rfl rfl
    (hstored (stream, event) (by rw [hentry]; exact List.mem_singleton_self _))
  rw [hsecond.2.1, hone] at htwo
  cases htwo

/-- With replies of strings, a pending intent is no obstacle for any endpoint. -/
theorem emitsTwice_of_str (endpoint : Endpoint) : EmitsTwice true endpoint := by
  cases endpoint <;> decide

/-- Where the guard reads another key than the endpoint writes, neither kind of reply is. -/
theorem emitsTwice_of_otherKey (decodeResponses : Bool) :
    EmitsTwice decodeResponses .deletePost ∧
      EmitsTwice decodeResponses .unsubscribeForum ∧
      EmitsTwice decodeResponses .unvoteComment := by
  cases decodeResponses <;> decide

/-- If lookups could give objects with attributes and events could be represented, a duplicate
would be suppressed exactly where the client replies with bytes and the guard reads the key
that the endpoint writes. -/
theorem duplicateSuppressed_iff (decodeResponses : Bool) (endpoint : Endpoint) :
    DuplicateSuppressed lenientDumps decodeResponses endpoint (fun _ => True) ↔
      decodeResponses = false ∧ ReadsOwnIntent endpoint := by
  constructor
  · intro hsuppressed
    have hother := emitsTwice_of_otherKey decodeResponses
    refine ⟨?_, ?_, ?_, ?_⟩
    · cases decodeResponses with
      | false => rfl
      | true => exact absurd hsuppressed (emitsTwice_of_str endpoint).not_duplicateSuppressed
    · rintro rfl
      exact hother.1.not_duplicateSuppressed hsuppressed
    · rintro rfl
      exact hother.2.1.not_duplicateSuppressed hsuppressed
    · rintro rfl
      exact hother.2.2.not_duplicateSuppressed hsuppressed
  · rintro ⟨rfl, hown⟩
    exact duplicateSuppressed_of_bytes lenientDumps hown fun _ => True

end ResourceServer
end Tenjin
