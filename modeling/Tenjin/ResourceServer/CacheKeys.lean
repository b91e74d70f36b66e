import Tenjin.Foundation.GuardedRun
import Tenjin.Python.Separated
import Tenjin.ResourceServer.PageWays

/-!
# The keys under which results are cached

The single reads of the endpoints, the pages and the writes that the endpoints make
themselves, over one keyspace.  A mapping that is made into a result should have been
written for that result.

* `ReadSite` lists the calls of `distributed_get_or_load`, with the key that each of them
  builds and with what it asks the database for.
* A call is split into its read, its write as the leader and its read as a follower, which
  may come in any order with those of all other calls.
* `ReadSite.key_inj` — the keys tell all sites apart but one: `add_admin` looks up a user
  under the key of the forum.
* `memberEntities_eq_nil`, `registered_eq_error`, `passwordUpdate_eq_error` and
  `createdForum_eq_error` — a result that is made of a row has no identifier, so the pages
  and these endpoints write none.
-/

namespace Tenjin
namespace ResourceServer

open Python Foundation ResourceAuxillary

/-- How a row is selected. -/
inductive Selector
  | id (i : Int)
  | pair (forumId userId : Int)
  | username (name : String)
  | ownerOf (forumId : Int)
  deriving DecidableEq

/-- What a result stands for. -/
structure Entity where
  type : ResultType
  selector : Selector
  deriving DecidableEq

/-- The calls of `distributed_get_or_load`.  `newAdmin` is the one for the user in
`add_admin`. -/
inductive ReadSite
  | forum (forumId : Int)
  | anime (animeId : Int)
  | post (postId : Int)
  | comment (commentId : Int)
  | forumAdmin (forumId userId : Int)
  | user (username : String)
  | forumOwner (forumId : Int)
  | newAdmin (forumId userId : Int)
  deriving DecidableEq

/-- The key that the call builds. -/
def ReadSite.key : ReadSite → String
  | .forum forumId => deriveCacheKey forumResource (toString forumId)
  | .anime animeId => deriveCacheKey animeResource (toString animeId)
  | .post postId => deriveCacheKey postResource (toString postId)
  | .comment commentId => deriveCacheKey commentResource (toString commentId)
  | .forumAdmin forumId userId =>
      deriveCacheKey ResultType.forumAdminResult.resourceName
        (pyJoin nameSeperator [toString forumId, toString userId])
  | .user username => deriveCacheKey userResource username
  | .forumOwner forumId =>
      deriveCacheKey (pyJoin nameSeperator [forumResource, "owner"]) (toString forumId)
  | .newAdmin forumId _ => deriveCacheKey forumResource (toString forumId)

/-- What the call asks the database for. -/
def ReadSite.entity : ReadSite → Entity
  | .forum forumId => ⟨.forumResult, .id forumId⟩
  | .anime animeId => ⟨.animeResult, .id animeId⟩
  | .post postId => ⟨.postResult, .id postId⟩
  | .comment commentId => ⟨.commentResult, .id commentId⟩
  | .forumAdmin forumId userId => ⟨.forumAdminResult, .pair forumId userId⟩
  | .user username => ⟨.userResult, .username username⟩
  | .forumOwner forumId => ⟨.userResult, .ownerOf forumId⟩
  | .newAdmin _ userId => ⟨.userResult, .id userId⟩

/-- Every call but the one of `add_admin`. -/
def ReadSite.Proper : ReadSite → Prop
  | .newAdmin _ _ => False
  | _ => True

/-- The keyspace; for whom what is stored under a key has been written; and all results
that have ever been stored, with their keys. -/
structure SharedCache where
  store : Store
  writers : String → List Entity
  stored : List (String × Entity)

/-- Before any call. -/
def SharedCache.empty : SharedCache := ⟨fun _ => none, fun _ => [], []⟩

/-- What is stored under the key of a single result. -/
def entryAt (store : Store) (key : String) : Except Exn (Option CacheEntry) :=
  match store key with
  | none => .ok none
  | some ⟨.text s, _⟩ => .ok (some (.text s))
  | some ⟨.hash items, _⟩ => .ok (some (.hash items))
  | some ⟨.list _, _⟩ => .error wrongType

/-- `HSET`, for an entity; `results` are the results that this stores.  What was there
stays, with those it was written for. -/
def SharedCache.writeHash (s : SharedCache) (key : String) (items : List (String × String))
    (entity : Entity) (results : List (String × Entity)) : SharedCache :=
  match (PageCommand.hset key items).run s.store with
  | (_, some _) => s
  | (store', none) =>
      { store := store'
        writers := fun k =>
          if k = key then (if (s.store key).isNone then [] else s.writers key) ++ [entity]
          else s.writers k
        stored := s.stored ++ results }

/-- `SET`, for an entity. -/
def SharedCache.writeText (s : SharedCache) (key text : String) (entity : Entity) :
    SharedCache :=
  { s with
    store := ((PageCommand.set key text).run s.store).1
    writers := fun k => if k = key then [entity] else s.writers k }

/-- A result that is stored. -/
def SharedCache.storeResult (s : SharedCache) (key : String) (items : List (String × String))
    (entity : Entity) : SharedCache :=
  s.writeHash key items entity [(key, entity)]

/-- The keys and the hashes of some results, and what these stand for. -/
abbrev ResultWrites := List (String × List (String × String) × Entity)

/-- The results that an endpoint stores itself, if it comes to that. -/
def SharedCache.storeResults (s : SharedCache) : Except Exn ResultWrites → SharedCache
  | .error _ => s
  | .ok writes => writes.foldl (fun s write => s.storeResult write.1 write.2.1 write.2.2) s

/-- `__json_repr__`. -/
def jsonRepr (type : ResultType) (dto : Dto) : Except Exn (List (String × Attr)) :=
  type.fields.mapM fun field => do
    let v ← dto.getattr field.1
    .ok (stripUnderscores field.1, v)

section
variable (settings : PageSettings)

/-- The sentinel, as it is written to a hash. -/
def sentinelItems : List (String × String) :=
  [(settings.nfSentinelKey, settings.nfSentinelValue)]

/-- `set_negative_mapping` and `set_negative_string`. -/
def SharedCache.announceMissing (s : SharedCache) (dtype : FetchDtype) (key : String)
    (entity : Entity) : SharedCache :=
  match dtype with
  | .mapping => s.writeHash key (sentinelItems settings) entity []
  | .string => s.writeText key settings.nfSentinelKey entity

/-- The write of a leader. -/
def SharedCache.lead (s : SharedCache) (dtype : FetchDtype) (site : ReadSite)
    (row : Option Row) : SharedCache :=
  match row with
  | none => s.announceMissing settings dtype site.key site.entity
  | some r =>
      match constructFromOrm settings.toResultRuntime site.entity.type r >>=
          storedItems site.entity.type with
      | .error _ => s
      | .ok items => s.storeResult site.key items site.entity

/-- The first read of a call, which writes the sentinel again when it finds it. -/
def SharedCache.fetch (s : SharedCache) (dtype : FetchDtype) (site : ReadSite) :
    SharedCache :=
  match entryAt s.store site.key >>=
      fetchFromCache settings.toCacheSettings dtype site.entity.type.counterFieldsMap
        fun _ => none with
  | .ok .negative => s.writeHash site.key (sentinelItems settings) site.entity []
  | _ => s

/-- The keys of the members of a page, for whom they are written. -/
def memberEntities (type : ResultType) (rows : List (Int × Row)) : List (String × Entity) :=
  rows.filterMap fun row =>
    match constructFromOrm settings.toResultRuntime type row.2 >>= fun dto =>
        dto.getattr "id_" >>= encodeAttr with
    | .ok key => some (key, ⟨type, .id row.1⟩)
    | .error _ => none

/-- The leader of a page. -/
def SharedCache.leadPage (s : SharedCache) (type : ResultType) (pageKey : String)
    (rows : List (Int × Row)) : SharedCache :=
  let results := rows.mapM fun row => constructFromOrm settings.toResultRuntime type row.2
  let members := memberEntities settings type rows
  { store := (leaderPage settings type "id_" s.store pageKey results).1
    writers := fun k => s.writers k ++ (members.filter fun m => m.1 = k).map Prod.snd
    stored := s.stored ++ members }

/-- What `register` writes. -/
def registered (userId : Int) (row : Row) : Except Exn ResultWrites := do
  let user ← constructFromOrm settings.toResultRuntime .userResult row
  let id_ ← user.getattr "id_" >>= encodeAttr
  let items ← jsonRepr .userResult user >>= encodeMapping
  .ok [(deriveCacheKey userResource id_, items, ⟨.userResult, .id userId⟩)]

/-- What `update_password` writes. -/
def passwordUpdate (userId : Int) (row : Row) : Except Exn ResultWrites := do
  let user ← constructFromOrm settings.toResultRuntime .userResult row
  let items ← jsonRepr .userResult user >>= encodeMapping
  .ok [(deriveCacheKey userResource (toString userId), items, ⟨.userResult, .id userId⟩)]

/-- What `create_forum` writes. -/
def createdForum (forumId animeId : Int) (row : Row) (anime : Dto) :
    Except Exn ResultWrites := do
  let forum ← constructFromOrm settings.toResultRuntime .forumResult row
  let forumKey ← forum.getattr "id_" >>= encodeAttr
  let animeKey ← forum.getattr "anime" >>= encodeAttr
  let forumItems ← storedItems .forumResult forum
  let animeItems ← storedItems .animeResult anime
  .ok [(deriveCacheKey forumResource forumKey, forumItems, ⟨.forumResult, .id forumId⟩),
    (deriveCacheKey animeResource animeKey, animeItems, ⟨.animeResult, .id animeId⟩)]

/-- What `edit_post` writes. -/
def editedPost (postId : Int) (post : Dto) : Except Exn ResultWrites := do
  let items ← storedItems .postResult post
  .ok [((ReadSite.post postId).key, items, (ReadSite.post postId).entity)]

/-- The write of `delete_user`. -/
def SharedCache.deleteUser (s : SharedCache) (username : String) : SharedCache :=
  s.writeHash (ReadSite.user username).key (sentinelItems settings)
    (ReadSite.user username).entity []

/-- A key that expires. -/
def SharedCache.expire (s : SharedCache) (key : String) : SharedCache :=
  { s with
    store := s.store.put key none
    writers := fun k => if k = key then [] else s.writers k }

/-- What happens to the cache. -/
inductive CacheCall
  | fetch (dtype : FetchDtype) (site : ReadSite)
  | lead (dtype : FetchDtype) (site : ReadSite) (row : Option Row)
  | follow (dtype : FetchDtype) (site : ReadSite)
  | readPage (dtype : FetchDtype) (type : ResultType) (pageKey : String)
  | leadPage (type : ResultType) (pageKey : String) (rows : List (Int × Row))
  | register (userId : Int) (row : Row)
  | updatePassword (userId : Int) (row : Row)
  | deleteUser (username : String)
  | createForum (forumId animeId : Int) (row : Row) (anime : Dto)
  | editPost (postId : Int) (post : Dto)
  | expire (key : String)

/-- One of these.  A key may expire at any time. -/
def cacheCallStep (s : SharedCache) : CacheCall → Option SharedCache
  | .fetch dtype site => some (s.fetch settings dtype site)
  | .lead dtype site row => some (s.lead settings dtype site row)
  | .follow _ _ => some s
  | .readPage _ _ _ => some s
  | .leadPage type pageKey rows => some (s.leadPage settings type pageKey rows)
  | .register userId row => some (s.storeResults (registered settings userId row))
  | .updatePassword userId row => some (s.storeResults (passwordUpdate settings userId row))
  | .deleteUser username => some (s.deleteUser settings username)
  | .createForum forumId animeId row anime =>
      some (s.storeResults (createdForum settings forumId animeId row anime))
  | .editPost postId post => some (s.storeResults (editedPost postId post))
  | .expire key => some (s.expire key)

/-- The step hands what is stored under the key to `construct_from_cache`, for the
entity. -/
def HandsOver (s : SharedCache) (key : String) (entity : Entity) : CacheCall → Prop
  | .fetch dtype site =>
      key = site.key ∧ entity = site.entity ∧
        ∃ entry mapping, entryAt s.store site.key = .ok entry ∧
          fetchFromCache settings.toCacheSettings dtype site.entity.type.counterFieldsMap
              (fun _ => none) entry = .ok (.found mapping) ∧
          mapping.isEmpty = false ∧ mapping.contains settings.nfSentinelKey = false
  | .follow dtype site =>
      key = site.key ∧ entity = site.entity ∧
        ∃ entry mapping, entryAt s.store site.key = .ok entry ∧
          primitiveGetFromCache settings.toCacheSettings dtype site.entity.type.counterFieldsMap
            (fun _ => none) entry = .ok (some mapping)
  | .readPage dtype type pageKey =>
      (∃ i, entity = ⟨type, .id i⟩ ∧ key = toString i) ∧
        ∃ items entries entry, lrange s.store pageKey = .ok items ∧ key ∈ items.dropLast ∧
          readMember settings dtype type.counterFieldsMap (fun _ _ => none) s.store key =
            .ok entries ∧ entry ∈ entries ∧ entry.1 ≠ none
  | _ => False

/-- What the step hands over has been written for the entity. -/
def HandsOverOwn (s : SharedCache) (call : CacheCall) : Prop :=
  ∀ key entity, HandsOver settings s key entity call →
    ∀ writer ∈ s.writers key, writer = entity

/-- No two results have ever been stored under one key. -/
def KeysUnshared (s : SharedCache) : Prop :=
  ∀ key entity entity', (key, entity) ∈ s.stored → (key, entity') ∈ s.stored →
    entity = entity'

/-- The user of `add_admin` is there, and is looked up while nothing is stored under the
key of the forum. -/
def SiteFine (s : SharedCache) : CacheCall → Prop
  | .fetch _ (.newAdmin forumId _) => s.store (ReadSite.forum forumId).key = none
  | .follow _ (.newAdmin forumId _) => s.store (ReadSite.forum forumId).key = none
  | .lead _ (.newAdmin _ _) row => row ≠ none
  | _ => True

end

/-- The pieces of the key of a site. -/
def ReadSite.pieces : ReadSite → List String
  | .forum forumId => [forumResource, toString forumId]
  | .anime animeId => [animeResource, toString animeId]
  | .post postId => [postResource, toString postId]
  | .comment commentId => [commentResource, toString commentId]
  | .forumAdmin forumId userId => ["forum_admins", toString forumId, toString userId]
  | .user username => userResource :: pySplit ':' username
  | .forumOwner forumId => [forumResource, "owner", toString forumId]
  | .newAdmin forumId _ => [forumResource, toString forumId]

theorem pySplit_toString (n : Int) : pySplit ':' (toString n) = [toString n] :=
  pySplit_of_not_mem (colon_not_mem_toString n)

theorem pySplit_deriveCacheKey (resourceName identifier : String) :
    pySplit ':' (deriveCacheKey resourceName identifier) =
      pySplit ':' resourceName ++ pySplit ':' identifier := by
  have h := pySplit_pyJoin ':' (List.cons_ne_nil resourceName [identifier])
  rw [List.flatMap_cons, List.flatMap_singleton] at h
  exact h

theorem ReadSite.pySplit_key (site : ReadSite) : pySplit ':' site.key = site.pieces := by
  have hpair : ∀ forumId userId : Int,
      pySplit ':' (pyJoin nameSeperator [toString forumId, toString userId]) =
        [toString forumId, toString userId] := by
    intro forumId userId
    have h := pySplit_pyJoin ':' (List.cons_ne_nil (toString forumId) [toString userId])
    rw [List.flatMap_cons, List.flatMap_singleton, pySplit_toString, pySplit_toString] at h
    exact h
  have hname : ∀ name : String, ':' ∉ name.toList → pySplit ':' name = [name] :=
    fun _ => pySplit_of_not_mem
  cases site with
  | user username =>
      rw [ReadSite.key, pySplit_deriveCacheKey, hname userResource (by decide)]
      rfl
  | forumAdmin forumId userId =>
      rw [ReadSite.key, pySplit_deriveCacheKey, hpair,
        hname ResultType.forumAdminResult.resourceName (by decide)]
      rfl
  | forumOwner forumId =>
      have howner : pySplit ':' (pyJoin nameSeperator [forumResource, "owner"]) =
          [forumResource, "owner"] := by decide
      rw [ReadSite.key, pySplit_deriveCacheKey, howner, pySplit_toString]
      rfl
  | forum forumId | newAdmin forumId _ =>
      rw [ReadSite.key, pySplit_deriveCacheKey, pySplit_toString,
        hname forumResource (by decide)]
      rfl
  | anime animeId =>
      rw [ReadSite.key, pySplit_deriveCacheKey, pySplit_toString,
        hname animeResource (by decide)]
      rfl
  | post postId =>
      rw [ReadSite.key, pySplit_deriveCacheKey, pySplit_toString,
        hname postResource (by decide)]
      rfl
  | comment commentId =>
      rw [ReadSite.key, pySplit_deriveCacheKey, pySplit_toString,
        hname commentResource (by decide)]
      rfl

/-- The keys tell the proper sites apart. -/
theorem ReadSite.key_inj {a b : ReadSite} (ha : a.Proper) (hb : b.Proper)
    (h : a.key = b.key) : a = b := by
  have hpieces : a.pieces = b.pieces := by
    rw [← a.pySplit_key, ← b.pySplit_key, h]
  clear h
  cases a <;> cases b <;>
    simp only [ReadSite.pieces, forumResource, animeResource, postResource, commentResource,
      userResource, List.cons.injEq, String.reduceEq, toString_inj, pySplit_inj, and_true,
      true_and, false_and, and_false, reduceCtorEq] at hpieces
  -- only sites of one kind are left, and those of `add_admin`
  all_goals first
    | exact ha.elim
    | exact hb.elim
    | rw [hpieces]
    | rw [hpieces.1, hpieces.2]

/-- A proper site reads the entity under the key. -/
def OwnKey (entity : Entity) (key : String) : Prop :=
  ∃ site : ReadSite, site.Proper ∧ site.entity = entity ∧ site.key = key

theorem ReadSite.ownKey {site : ReadSite} (h : site.Proper) : OwnKey site.entity site.key :=
  ⟨site, h, rfl, rfl⟩

/-- A key is the key of one entity. -/
theorem OwnKey.eq {entity entity' : Entity} {key : String} (h : OwnKey entity key)
    (h' : OwnKey entity' key) : entity = entity' := by
  obtain ⟨site, hproper, rfl, hkey⟩ := h
  obtain ⟨site', hproper', rfl, hkey'⟩ := h'
  rw [ReadSite.key_inj hproper hproper' (hkey.trans hkey'.symm)]

/-- Everything has been written under the key of its entity. -/
structure OwnKeys (s : SharedCache) : Prop where
  writers : ∀ key writer, writer ∈ s.writers key → OwnKey writer key
  stored : ∀ key entity, (key, entity) ∈ s.stored → OwnKey entity key

theorem OwnKeys.unshared {s : SharedCache} (h : OwnKeys s) : KeysUnshared s :=
  fun key entity entity' hstored hstored' =>
    (h.stored key entity hstored).eq (h.stored key entity' hstored')

theorem OwnKeys.writeHash {s : SharedCache} (h : OwnKeys s) {key : String}
    {items : List (String × String)} {entity : Entity} {results : List (String × Entity)}
    (hown : OwnKey entity key) (hresults : ∀ result ∈ results, OwnKey result.2 result.1) :
    OwnKeys (s.writeHash key items entity results) := by
  unfold SharedCache.writeHash
  split
  · exact h
  · refine ⟨?_, ?_⟩
    · intro k writer hwriter
      dsimp only at hwriter
      split at hwriter
      · rename_i hk
        rcases List.mem_append.mp hwriter with hwriter | hwriter
        · split at hwriter
          · cases hwriter
          · exact hk ▸ h.writers key writer hwriter
        · rw [List.mem_singleton.mp hwriter, hk]
          exact hown
      · exact h.writers k writer hwriter
    · intro k e hstored
      rcases List.mem_append.mp hstored with hstored | hstored
      · exact h.stored k e hstored
      · exact hresults (k, e) hstored

theorem OwnKeys.writeText {s : SharedCache} (h : OwnKeys s) {key : String} (text : String)
    {entity : Entity} (hown : OwnKey entity key) : OwnKeys (s.writeText key text entity) := by
  refine ⟨?_, h.stored⟩
  intro k writer hwriter
  simp only [SharedCache.writeText] at hwriter
  split at hwriter
  · rename_i hk
    rw [List.mem_singleton.mp hwriter, hk]
    exact hown
  · exact h.writers k writer hwriter

theorem OwnKeys.storeResult {s : SharedCache} (h : OwnKeys s) {key : String}
    {items : List (String × String)} {entity : Entity} (hown : OwnKey entity key) :
    OwnKeys (s.storeResult key items entity) := by
  apply h.writeHash hown
  intro result hresult
  rw [List.mem_singleton.mp hresult]
  exact hown

section
variable {settings : PageSettings} {s s' : SharedCache}

/-- No result that is made of a row has its identifier set. -/
theorem getattr_id_of_constructFromOrm {rt : ResultRuntime} {type : ResultType} {row : Row}
    {dto : Dto} (h : constructFromOrm rt type row = .ok dto) :
    dto.getattr "id_" = .error .attributeError := by
  have hnone : ∀ v, ("id_", v) ∉ dto := by
    intro v
    by_cases htype : type = .forumAdminResult
    · subst htype
      obtain ⟨role, _, h⟩ := except_bind_eq_ok h
      cases h
      simp
    · exact id_unset_of_constructFromOrm h htype v
  unfold Dto.getattr
  split
  · rename_i v hv
    exact absurd (mem_of_lookup hv) (hnone v)
  · rfl

/-- So a page has no members to write. -/
theorem memberEntities_eq_nil (type : ResultType) (rows : List (Int × Row)) :
    memberEntities settings type rows = [] := by
  apply List.filterMap_eq_nil_iff.mpr
  intro row _
  cases hdto : constructFromOrm settings.toResultRuntime type row.2 with
  | error e => rfl
  | ok dto =>
      have hid := getattr_id_of_constructFromOrm hdto
      simp only [bind, Except.bind, hid]

/-- A new user is not cached. -/
theorem registered_eq_error (userId : Int) (row : Row) :
    registered settings userId row = .error .attributeError := by
  have hdto : constructFromOrm settings.toResultRuntime .userResult row =
      .ok (abstractConstructFromOrm .userResult row) := rfl
  have hid := getattr_id_of_constructFromOrm hdto
  simp only [registered, constructFromOrm, bind, Except.bind, hid]

/-- A user with a new password is not cached. -/
theorem passwordUpdate_eq_error (userId : Int) (row : Row) :
    passwordUpdate settings userId row = .error .attributeError := by
  have hdto : constructFromOrm settings.toResultRuntime .userResult row =
      .ok (abstractConstructFromOrm .userResult row) := rfl
  have hid := getattr_id_of_constructFromOrm hdto
  simp only [passwordUpdate, constructFromOrm, jsonRepr, ResultType.fields, userFields,
    List.mapM_cons, bind, Except.bind, hid]

/-- A new forum is not cached. -/
theorem createdForum_eq_error (forumId animeId : Int) (row : Row) (anime : Dto) :
    createdForum settings forumId animeId row anime = .error .attributeError := by
  have hdto : constructFromOrm settings.toResultRuntime .forumResult row =
      .ok (abstractConstructFromOrm .forumResult row) := rfl
  have hid := getattr_id_of_constructFromOrm hdto
  simp only [createdForum, constructFromOrm, bind, Except.bind, hid]

theorem OwnKeys.announceMissing (h : OwnKeys s) (dtype : FetchDtype) {key : String}
    {entity : Entity} (hown : OwnKey entity key) :
    OwnKeys (s.announceMissing settings dtype key entity) := by
  cases dtype with
  | mapping => exact h.writeHash hown fun _ hresult => (by cases hresult)
  | string => exact h.writeText _ hown

/-- What the leader of a fine call writes is its own. -/
theorem OwnKeys.lead (h : OwnKeys s) {dtype : FetchDtype} {site : ReadSite} {row : Option Row}
    (hfine : SiteFine s (.lead dtype site row)) : OwnKeys (s.lead settings dtype site row) := by
  cases row with
  | none =>
      have hproper : site.Proper := by
        cases site with
        | newAdmin forumId userId => exact absurd rfl hfine
        | _ => trivial
      exact h.announceMissing dtype (ReadSite.ownKey hproper)
  | some r =>
      simp only [SharedCache.lead]
      split
      · exact h
      · rename_i items hitems
        obtain ⟨dto, hdto, hstored⟩ := except_bind_eq_ok hitems
        obtain ⟨mapping, hrepr, _⟩ := except_bind_eq_ok hstored
        have hproper : site.Proper := by
          cases site with
          | newAdmin forumId userId =>
              have htype : (ReadSite.newAdmin forumId userId).entity.type ≠ .forumAdminResult :=
                nofun
              exact absurd hrepr (cacheRepr_of_constructFromOrm hdto htype mapping)
          | _ => trivial
        exact h.storeResult (ReadSite.ownKey hproper)

/-- A site that a fine call reads where something is stored is proper. -/
theorem proper_of_entryAt {call : CacheCall} {dtype : FetchDtype} {site : ReadSite}
    {entry : CacheEntry} (hcall : call = .fetch dtype site ∨ call = .follow dtype site)
    (hfine : SiteFine s call) (hentry : entryAt s.store site.key = .ok (some entry)) :
    site.Proper := by
  cases site with
  | newAdmin forumId userId =>
      have hnone : s.store (ReadSite.newAdmin forumId userId).key = none := by
        rcases hcall with rfl | rfl
        · exact hfine
        · exact hfine
      rw [entryAt, hnone] at hentry
      cases hentry
  | _ => trivial

theorem OwnKeys.fetch (h : OwnKeys s) {dtype : FetchDtype} {site : ReadSite}
    (hfine : SiteFine s (.fetch dtype site)) : OwnKeys (s.fetch settings dtype site) := by
  unfold SharedCache.fetch
  split
  · rename_i hnegative
    obtain ⟨entry, hentry, hnegative⟩ := except_bind_eq_ok hnegative
    cases entry with
    | none => cases dtype <;> cases hnegative
    | some entry =>
        have hproper : site.Proper := proper_of_entryAt (.inl rfl) hfine hentry
        exact h.writeHash (ReadSite.ownKey hproper) fun _ hresult => (by cases hresult)
  · exact h

/-- The pages write no members. -/
theorem OwnKeys.leadPage (h : OwnKeys s) (type : ResultType) (pageKey : String)
    (rows : List (Int × Row)) : OwnKeys (s.leadPage settings type pageKey rows) := by
  have hmembers : memberEntities settings type rows = [] := memberEntities_eq_nil type rows
  refine ⟨?_, ?_⟩
  · intro key writer hwriter
    simp only [SharedCache.leadPage, hmembers, List.filter_nil, List.map_nil,
      List.append_nil] at hwriter
    exact h.writers key writer hwriter
  · intro key entity hstored
    simp only [SharedCache.leadPage, hmembers, List.append_nil] at hstored
    exact h.stored key entity hstored

/-- A fine step writes everything under its own key. -/
theorem OwnKeys.cacheCallStep {call : CacheCall} (h : OwnKeys s) (hfine : SiteFine s call)
    (hstep : cacheCallStep settings s call = some s') : OwnKeys s' := by
  cases call with
  | fetch dtype site =>
      cases hstep
      exact h.fetch hfine
  | lead dtype site row =>
      cases hstep
      exact h.lead hfine
  | follow dtype site =>
      cases hstep
      exact h
  | readPage dtype type pageKey =>
      cases hstep
      exact h
  | leadPage type pageKey rows =>
      cases hstep
      exact h.leadPage type pageKey rows
  | register userId row =>
      obtain rfl := Option.some.inj hstep
      rw [registered_eq_error]
      exact h
  | updatePassword userId row =>
      obtain rfl := Option.some.inj hstep
      rw [passwordUpdate_eq_error]
      exact h
  | deleteUser username =>
      cases hstep
      exact h.writeHash (ReadSite.ownKey trivial) fun _ hresult => (by cases hresult)
  | createForum forumId animeId row anime =>
      obtain rfl := Option.some.inj hstep
      rw [createdForum_eq_error]
      exact h
  | editPost postId post =>
      obtain rfl := Option.some.inj hstep
      cases hwrites : editedPost postId post with
      | error e => exact h
      | ok writes =>
          obtain ⟨items, _, hwrites⟩ := except_bind_eq_ok hwrites
          cases hwrites
          exact h.storeResult ⟨.post postId, trivial, rfl, rfl⟩
  | expire key =>
      cases hstep
      refine ⟨?_, h.stored⟩
      intro k writer hwriter
      simp only [SharedCache.expire] at hwriter
      split at hwriter
      · cases hwriter
      · exact h.writers k writer hwriter

/-- A fine step hands over only what has been written for its entity. -/
theorem OwnKeys.handsOverOwn {call : CacheCall} (h : OwnKeys s) (hfine : SiteFine s call) :
    HandsOverOwn settings s call := by
  intro key entity hover writer hwriter
  have hown := h.writers key writer hwriter
  cases call with
  | fetch dtype site =>
      obtain ⟨rfl, rfl, entry, mapping, hentry, hfound, _⟩ := hover
      cases entry with
      | none => cases dtype <;> cases hfound
      | some entry =>
          have hproper : site.Proper := proper_of_entryAt (.inl rfl) hfine hentry
          exact hown.eq (ReadSite.ownKey hproper)
  | follow dtype site =>
      obtain ⟨rfl, rfl, entry, mapping, hentry, hfound⟩ := hover
      cases entry with
      | none => cases dtype <;> cases hfound
      | some entry =>
          have hproper : site.Proper := proper_of_entryAt (.inr rfl) hfine hentry
          exact hown.eq (ReadSite.ownKey hproper)
  | readPage dtype type pageKey =>
      obtain ⟨_, items, entries, entry, _, _, hread, hentry, hthere⟩ := hover
      exact absurd (readMember_nil hread entry hentry) hthere
  | _ => cases hover

end

/-- In a run in which `add_admin` finds nothing under the key of the forum, and its users
are there, no key is shared, and what is handed over has been written for the entity. -/
theorem always_ownKeys (settings : PageSettings) (calls : List CacheCall)
    (hfine : EachStep (cacheCallStep settings) SiteFine .empty calls) :
    Always (cacheCallStep settings) KeysUnshared .empty calls ∧
      EachStep (cacheCallStep settings) (HandsOverOwn settings) .empty calls := by
  have hempty : OwnKeys .empty := ⟨nofun, nofun⟩
  have hown : Always (cacheCallStep settings) OwnKeys .empty calls :=
    always_of_eachStep (I := fun _ => True) (Q := OwnKeys) (fun _ _ _ _ _ _ => trivial)
      (fun _ _ _ _ h hstep hfine => h.cacheCallStep hfine hstep) calls SharedCache.empty trivial
      hempty hfine
  exact ⟨hown.imp fun _ h => h.unshared,
    EachStep.imp (fun _ _ h hfine => h.handsOverOwn hfine) hown hfine⟩

/-- The settings of `scorePages`, with a client as the application makes it. -/
def bytesPages : PageSettings := { scorePages with decodeResponses := false }

/-- The forum 5 is looked up before it is there.  Then `add_admin` looks up the user 9, who
is handed what has been written for the forum. -/
theorem forum_handed_to_user :
    ¬ (Always (cacheCallStep bytesPages) KeysUnshared .empty
        [.lead .mapping (.forum 5) none, .fetch .mapping (.newAdmin 5 9)] ∧
      EachStep (cacheCallStep bytesPages) (HandsOverOwn bytesPages) .empty
        [.lead .mapping (.forum 5) none, .fetch .mapping (.newAdmin 5 9)]) := by
  rintro ⟨_, hsteps⟩
  have hown : HandsOverOwn bytesPages _ (.fetch .mapping (.newAdmin 5 9)) :=
    ((hsteps _ rfl).2 _ rfl).1
  have hwriter := hown (ReadSite.newAdmin 5 9).key (ReadSite.newAdmin 5 9).entity
    ⟨rfl, rfl, some (.hash [("__NF__", "1")]), [(.bytes "__NF__", .value (.bytes "1"))], rfl, rfl,
      rfl, rfl⟩ (ReadSite.forum 5).entity (List.mem_singleton.mpr rfl)
  cases hwriter

/-- The row of an admin of the forum 5. -/
def forumAdminRow : Row := fun name =>
  if name = "role" then .value (.str "ADMIN")
  else if name = "forum_id" then .value (.int 5) else .value (.int 9)

/-- The admin is cached by a leader, and handed to a follower. -/
theorem forum_admin_handed_over :
    Always (cacheCallStep bytesPages) KeysUnshared .empty
        [.lead .mapping (.forumAdmin 5 9) (some forumAdminRow),
          .follow .mapping (.forumAdmin 5 9)] ∧
      EachStep (cacheCallStep bytesPages) (HandsOverOwn bytesPages) .empty
        [.lead .mapping (.forumAdmin 5 9) (some forumAdminRow),
          .follow .mapping (.forumAdmin 5 9)] :=
  always_ownKeys bytesPages _ fun _ _ => ⟨trivial, fun _ _ => ⟨trivial, trivial⟩⟩

end ResourceServer
end Tenjin
