import Tenjin.ResourceServer.CacheReads

/-!
# What a lookup comes to

`distributed_get_or_load` as the endpoints see it.  A call is answered by the cache, by the
database or by the leader it has waited for, or it raises.

* `LooksUp` — the outcomes of a call, whatever Redis and the database hold.
* `LooksUp.bare` — with the client of the application, whose replies are bytes, a lookup of a
  hash never gives an object with an attribute, and never a post at all: the fields of a
  reply are not named by texts, and what is made of a row cannot be cached.
-/

namespace Tenjin
namespace ResourceServer

open Python ResourceAuxillary

/-- The outcomes of `distributed_get_or_load`. -/
inductive LooksUp (settings : CacheSettings) (dtype : FetchDtype) (type : ResultType) :
    Except Exn (Option Dto) → Prop
  /-- The cache answers. -/
  | cached {pending : String → Option Int} {entry : Option CacheEntry}
      {result : Except Exn (Option Dto)}
      (h : cachedResult settings dtype type.counterFieldsMap pending type entry = some result) :
      LooksUp settings dtype type result
  /-- The leader finds no row. -/
  | missing : LooksUp settings dtype type (.ok none)
  /-- The leader finds a row. -/
  | leader (row : Row) : LooksUp settings dtype type (leaderResult settings type row)
  /-- A follower finds what its leader has left. -/
  | follower {pending : String → Option Int} {entry : Option CacheEntry}
      {result : Except Exn (Option Dto)}
      (h : followerResult settings dtype type.counterFieldsMap pending type entry =
        some result) : LooksUp settings dtype type result
  /-- Redis or the database raises, or every attempt to become the leader has failed. -/
  | raised (e : Exn) : LooksUp settings dtype type (.error e)

/-- Of a reply with bytes for names an object takes nothing. -/
theorem abstractConstructFromCache_bytes (type : ResultType) (items : List (String × String)) :
    abstractConstructFromCache type (hashReply false items) = [] := by
  refine List.reverse_eq_nil_iff.mpr (List.filterMap_eq_nil_iff.mpr fun item hitem => ?_)
  obtain ⟨stored, _, rfl⟩ := List.mem_map.mp hitem
  rfl

/-- Such a reply has no item under any name. -/
theorem item_hashReply_bytes (name : String) (items : List (String × String)) :
    CacheMapping.item (hashReply false items) name = .error (.keyError name) := by
  unfold CacheMapping.item
  rw [lookup_hashReply_bytes]

/-- Three types can be made of it, without attributes. -/
theorem constructFromCache_bytes {rt : ResultRuntime} {type : ResultType}
    {items : List (String × String)} {dto : Dto}
    (h : constructFromCache rt type (hashReply false items) = .ok dto) :
    type ∈ [ResultType.userResult, .forumResult, .commentResult] ∧ dto = [] := by
  cases type with
  | userResult | forumResult | commentResult =>
      simp only [constructFromCache, Except.ok.injEq] at h
      rw [abstractConstructFromCache_bytes] at h
      exact ⟨by decide, h.symm⟩
  | privateUserResult => cases h
  | forumAdminResult =>
      simp only [constructFromCache, item_hashReply_bytes] at h
      cases h
  | postResult | forumAdminUserResult | animeResult =>
      obtain ⟨instance_, _, h⟩ := except_bind_eq_ok h
      simp only [item_hashReply_bytes] at h
      cases h

/-- A leader returns nothing that it has made of a row, except a forum's admin. -/
theorem leaderResult_ne_object {settings : CacheSettings} {type : ResultType}
    (htype : type ≠ .forumAdminResult) (row : Row) (dto : Dto) :
    leaderResult settings type row ≠ .ok (some dto) := by
  intro h
  obtain ⟨made, hmade, h⟩ := except_bind_eq_ok h
  obtain ⟨_, hstored, _⟩ := except_bind_eq_ok h
  obtain ⟨mapping, hrepr, _⟩ := except_bind_eq_ok hstored
  exact cacheRepr_of_constructFromOrm hmade htype mapping hrepr

section
variable {settings : CacheSettings} {type : ResultType} {dto : Dto}

/-- What a client with replies of bytes makes of a hash in Redis. -/
theorem bare_of_primitive {pending : String → Option Int} {entry : Option CacheEntry}
    {mapping : CacheMapping} (hbytes : settings.decodeResponses = false)
    (hread : primitiveGetFromCache settings .mapping type.counterFieldsMap pending entry =
      .ok (some mapping))
    (hmade : (constructFromCache settings.toResultRuntime type mapping).map some =
      .ok (some dto)) :
    type ∈ [ResultType.userResult, .forumResult, .commentResult] ∧ dto = [] := by
  cases entry with
  | none => cases hread
  | some stored =>
      cases stored with
      | text s => cases hread
      | hash items =>
          rw [primitiveGetFromCache_hash hread, hbytes] at hmade
          cases hcons : constructFromCache settings.toResultRuntime type
              (hashReply false items) with
          | error e =>
              rw [hcons] at hmade
              cases hmade
          | ok made =>
              rw [hcons] at hmade
              cases hmade
              exact constructFromCache_bytes hcons

/-- With replies of bytes, the object of a lookup has no attribute, and it is a user, a forum
or a comment. -/
theorem LooksUp.bare (hbytes : settings.decodeResponses = false)
    (htype : type ≠ .forumAdminResult) {outcome : Except Exn (Option Dto)}
    (h : LooksUp settings .mapping type outcome) (hdto : outcome = .ok (some dto)) :
    type ∈ [ResultType.userResult, .forumResult, .commentResult] ∧ dto = [] := by
  cases h with
  | missing => cases hdto
  | raised e => cases hdto
  | leader row => exact absurd hdto (leaderResult_ne_object htype row dto)
  | cached hcached =>
      rcases cachedResult_cases hcached with ⟨e, rfl⟩ | rfl | ⟨mapping, hread, hresult⟩
      · cases hdto
      · cases hdto
      · exact bare_of_primitive hbytes hread (hresult.symm.trans hdto)
  | follower hfollower =>
      unfold followerResult at hfollower
      split at hfollower
      · cases hfollower
        cases hdto
      · cases hfollower
      · rename_i mapping hread
        exact bare_of_primitive hbytes hread ((Option.some.inj hfollower).trans hdto)

end

end ResourceServer
end Tenjin
