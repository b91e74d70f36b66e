import Tenjin.ResourceAuxillary.Strings

/-!
# Result objects and their cache representation

`AbstractResult` of `result_protocol.py` and its subclasses: how a result object is made of
a row or of a cache entry, and what is written to the cache for it.

* `ResultType` lists the subclasses with their fields, the columns of their tables and
  their `COUNTER_FIELDS`.
* `counterFieldsMap` is the class attribute that the cache manager reads: the loop in
  `__init_subclass__` fills another one.
* `counter_of_constructFromCache` — a counter field has the value that the entry has.
* `cacheRepr_of_constructFromOrm` — `id_` is not what `strip` makes of a column key, so it is
  never set, and the cache representation fails.
-/

namespace Tenjin
namespace ResourceServer

open Python ResourceAuxillary

/-- `PostResult.resource_name` and its siblings. -/
def postResource : String := "posts"
def commentResource : String := "comments"
def forumResource : String := "forums"
def animeResource : String := "animes"
def userResource : String := "users"

/-- The value of an attribute: a Python value that can be serialised, or a `datetime`, given
by its `isoformat`. -/
inductive Attr
  | value (v : PyValue)
  | datetime (iso : String)
  deriving DecidableEq

/-- A result object: the attributes that are set, the latest assignment first.  The slots
of the others are empty. -/
abbrev Dto := List (String × Attr)

/-- `getattr(self, name)`. -/
def Dto.getattr (dto : Dto) (name : String) : Except Exn Attr :=
  match dto.lookup name with
  | some v => .ok v
  | none => .error .attributeError

/-- An attribute that its class declares as a number.  The code makes no object that holds
anything else in such a slot. -/
def Dto.number (dto : Dto) (name : String) : Except Exn Int :=
  match dto.lookup name with
  | some (.value (.int n)) => .ok n
  | _ => .error .attributeError

/-- An attribute that its class declares as a text. -/
def Dto.text (dto : Dto) (name : String) : Except Exn String :=
  match dto.lookup name with
  | some (.value (.str s)) => .ok s
  | _ => .error .attributeError

/-- An attribute that its class declares as a truth value. -/
def Dto.flag (dto : Dto) (name : String) : Except Exn Bool :=
  match dto.lookup name with
  | some (.value (.bool b)) => .ok b
  | _ => .error .attributeError

/-- What the cache client returns for a hash, or `orjson.loads` for an object. -/
abbrev CacheMapping := List (Reply × Attr)

/-- `mapping[name]`. -/
def CacheMapping.item (mapping : CacheMapping) (name : String) : Except Exn Attr :=
  match List.lookup (.str name) mapping with
  | some v => .ok v
  | none => .error (.keyError name)

/-- `name in mapping`. -/
def CacheMapping.contains (mapping : CacheMapping) (name : String) : Bool :=
  (List.lookup (.str name) mapping).isSome

/-- The declared types of fields, as far as `CACHE_TYPE_MAPPING` tells them apart: optional
and generic types are not in it. -/
inductive FieldType
  | bool
  | datetime
  | other
  deriving DecidableEq

/-- The subclasses of `AbstractResult`. -/
inductive ResultType
  | userResult
  | privateUserResult
  | postResult
  | forumResult
  | forumAdminResult
  | forumAdminUserResult
  | animeResult
  | commentResult
  deriving DecidableEq

/-- The dataclass fields of `UserResult`, which two classes inherit. -/
def userFields : List (String × FieldType) :=
  [("id_", .other), ("username", .other), ("aura", .other), ("total_posts", .other),
    ("total_comments", .other), ("time_joined", .datetime), ("last_login", .datetime)]

/-- The dataclass fields. -/
def ResultType.fields : ResultType → List (String × FieldType)
  | .userResult => userFields
  | .privateUserResult =>
      userFields ++ [("pw_hash", .other), ("deleted", .bool), ("time_deleted", .other)]
  | .postResult =>
      [("id_", .other), ("author_id", .other), ("forum_id", .other),
        ("author_username", .other), ("score", .other), ("total_comments", .other),
        ("saves", .other), ("reports", .other), ("title", .other), ("body_text", .other),
        ("flair", .other), ("closed", .bool), ("time_posted", .datetime)]
  | .forumResult =>
      [("id_", .other), ("name_", .other), ("anime", .other), ("description", .other),
        ("subscribers", .other), ("posts", .other), ("created_at", .datetime),
        ("admin_count", .other)]
  | .forumAdminResult => [("forum_id", .other), ("user_id", .other), ("role", .other)]
  | .forumAdminUserResult => userFields ++ [("role", .other)]
  | .animeResult =>
      [("id_", .other), ("title", .other), ("members", .other), ("synopsis", .other),
        ("genres", .other), ("stream_links", .other)]
  | .commentResult =>
      [("id_", .other), ("author_id", .other), ("author_username", .other),
        ("parent_forum", .other), ("parent_post", .other), ("time_created", .datetime),
        ("body", .other), ("score", .other), ("reports", .other)]

/-- `_fields`. -/
def ResultType.fieldNames (type : ResultType) : List String := type.fields.map Prod.fst

/-- The column keys of `User`. -/
def userColumns : List String :=
  ["id_", "username", "email", "pw_hash", "aura", "total_posts", "total_comments",
    "time_joined", "last_login", "deleted", "deletion_time"]

/-- `obj.__table__.columns.keys()` of the class that the result is made of: the names of the
columns in the database. -/
def ResultType.columns : ResultType → List String
  | .userResult => userColumns
  | .privateUserResult => userColumns
  | .postResult =>
      ["id_", "author_id", "parent_forum", "score", "total_comments", "title", "body_text",
        "flair", "closed", "time_posted", "saves", "reports", "deleted", "deletion_time",
        "deletion_author_event"]
  | .forumResult =>
      ["id_", "name_", "parent_anime", "description", "subscribers", "posts", "created_at",
        "admin_count", "deleted", "deletion_time", "deletion_author_event"]
  | .forumAdminResult => ["forum_id", "user_id", "role"]
  | .forumAdminUserResult => userColumns
  | .animeResult => ["id_", "title", "members", "synopsis"]
  | .commentResult =>
      ["id_", "author_id", "parent_forum", "parent_post", "time_created", "body", "score",
        "reports", "deleted", "deletion_time", "deletion_author_event"]

/-- `resource_name`. -/
def ResultType.resourceName : ResultType → String
  | .userResult => userResource
  | .privateUserResult => userResource
  | .postResult => postResource
  | .forumResult => forumResource
  | .forumAdminResult => "forum_admins"
  | .forumAdminUserResult => userResource
  | .animeResult => animeResource
  | .commentResult => commentResource

/-- `COUNTER_FIELDS`. -/
def ResultType.counterFields : ResultType → List String
  | .userResult => ["aura", "total_posts", "total_comments"]
  | .privateUserResult => ["aura", "total_posts", "total_comments"]
  | .postResult => ["saves", "reports", "total_comments"]
  | .forumResult => ["subscribers", "posts"]
  | .forumAdminResult => []
  | .forumAdminUserResult => ["aura", "total_posts", "total_comments"]
  | .animeResult => ["members"]
  | .commentResult => ["score", "reports"]

/-- The names of the counter hashes of some fields. -/
def counterMap (type : ResultType) (names : List String) : List (String × String) :=
  names.map fun i => (i, pyJoin nameSeperator [type.resourceName, i])

/-- `counter_fields_map`, which the cache manager reads and nothing assigns. -/
def ResultType.counterFieldsMap (_ : ResultType) : List (String × String) := []

/-- What the code of the results uses of the runtime and of `orjson`. -/
structure ResultRuntime where
  /-- `super()` without arguments works in a dataclass with slots: from Python 3.14 on. -/
  slotsSuper : Bool
  loads : String → Except Exn PyValue

/-- A row and what is joined to it, by the names of the attributes. -/
abbrev Row := String → Attr

/-- `name.strip("_")`. -/
def stripUnderscores (name : String) : String :=
  String.ofList ((name.toList.dropWhile (· = '_')).reverse.dropWhile (· = '_')).reverse

/-- `AbstractResult.construct_from_orm`. -/
def abstractConstructFromOrm (type : ResultType) (row : Row) : Dto :=
  (type.columns.filterMap fun column =>
    if stripUnderscores column ∈ type.fieldNames then
      some (stripUnderscores column, row column)
    else none).reverse

/-- `AbstractResult.construct_from_cache`. -/
def abstractConstructFromCache (type : ResultType) (mapping : CacheMapping) : Dto :=
  (mapping.filterMap fun item =>
    match item with
    | (.str k, v) => if k ∈ type.fieldNames then some (k, v) else none
    | (.bytes _, _) => none).reverse

/-- `AdminRoles(role)`. -/
def adminRoles (role : Attr) : Except Exn Attr :=
  if role ∈ [Attr.value (.str "ADMIN"), .value (.str "SUPER"), .value (.str "OWNER")] then
    .ok role
  else .error .valueError

/-- A method of the parent class, reached through `super()`. -/
def superMethod (rt : ResultRuntime) (dto : Dto) : Except Exn Dto :=
  if rt.slotsSuper then .ok dto else .error .typeError

/-- `construct_from_orm`. -/
def constructFromOrm (rt : ResultRuntime) (type : ResultType) (row : Row) : Except Exn Dto :=
  match type with
  | .userResult => .ok (abstractConstructFromOrm type row)
  | .forumResult => .ok (abstractConstructFromOrm type row)
  | .privateUserResult => do
      let instance_ ← superMethod rt (abstractConstructFromOrm type row)
      .ok (("time_deleted", row "time_deleted") :: ("deleted", row "deleted") ::
        ("pw_hash", row "pw_hash") :: instance_)
  | .postResult => do
      let instance_ ← superMethod rt (abstractConstructFromOrm type row)
      .ok (("author_username", row "author_username") :: instance_)
  | .forumAdminResult => do
      let role ← adminRoles (row "role")
      .ok [("role", role), ("forum_id", row "forum_id"), ("user_id", row "user_id")]
  | .forumAdminUserResult => do
      let instance_ ← superMethod rt (abstractConstructFromOrm type row)
      let role ← adminRoles (row "role")
      .ok (("role", role) :: instance_)
  | .animeResult => do
      let instance_ ← superMethod rt (abstractConstructFromOrm type row)
      .ok (("stream_links", row "stream_links") :: ("genres", row "genres") :: instance_)
  | .commentResult => do
      let instance_ ← superMethod rt (abstractConstructFromOrm type row)
      .ok (("author_username", row "author_username") :: ("author_id", row "author_id") ::
        instance_)

/-- `orjson.loads(value)`: a number or a text that holds none is refused. -/
def loadsAttr (rt : ResultRuntime) : Attr → Except Exn Attr
  | .value (.str text) => (rt.loads text).map .value
  | .value (.bytes text) => (rt.loads text).map .value
  | _ => .error .valueError

/-- `construct_from_cache`. -/
def constructFromCache (rt : ResultRuntime) (type : ResultType) (mapping : CacheMapping) :
    Except Exn Dto :=
  match type with
  | .userResult => .ok (abstractConstructFromCache type mapping)
  | .forumResult => .ok (abstractConstructFromCache type mapping)
  | .commentResult => .ok (abstractConstructFromCache type mapping)
  | .privateUserResult => .error .runtimeError
  | .postResult => do
      let instance_ ← superMethod rt (abstractConstructFromCache type mapping)
      let authorUsername ← mapping.item "author_username"
      .ok (("author_username", authorUsername) :: instance_)
  | .forumAdminResult => do
      let userId ← mapping.item "user_id"
      let forumId ← mapping.item "forum_id"
      let role ← mapping.item "role" >>= adminRoles
      .ok [("role", role), ("forum_id", forumId), ("user_id", userId)]
  | .forumAdminUserResult => do
      let instance_ ← superMethod rt (abstractConstructFromCache type mapping)
      let role ← mapping.item "role" >>= adminRoles
      .ok (("role", role) :: instance_)
  | .animeResult => do
      let instance_ ← superMethod rt (abstractConstructFromCache type mapping)
      let genres ← mapping.item "genres" >>= loadsAttr rt
      let streamLinks ← mapping.item "stream_links" >>= loadsAttr rt
      .ok (("stream_links", streamLinks) :: ("genres", genres) :: instance_)

/-- `CACHE_TYPE_MAPPING` applied to a value: `int` for a `bool` field, `isoformat` for a
`datetime` field. -/
def castCacheValue : FieldType → Attr → Except Exn Attr
  | .bool, .value v => (pyIntOf v).map fun i => .value (.int i)
  | .bool, .datetime _ => .error .typeError
  | .datetime, .datetime iso => .ok (.value (.str iso))
  | .datetime, .value _ => .error .attributeError
  | .other, v => .ok v

/-- One item of `__cache_repr__`. -/
def cacheItem (dto : Dto) (name : String) (fieldType : FieldType) :
    Except Exn (String × Attr) := do
  let v ← dto.getattr name
  let v ← castCacheValue fieldType v
  .ok (stripUnderscores name, v)

/-- `__cache_repr__`. -/
def cacheRepr (type : ResultType) (dto : Dto) : Except Exn (List (String × Attr)) :=
  match type with
  | .privateUserResult => .error .runtimeError
  | .animeResult =>
      [("id_", FieldType.other), ("title", .other), ("members", .other),
        ("synopsis", .other)].mapM fun field => cacheItem dto field.1 field.2
  | _ => type.fields.mapM fun field => cacheItem dto field.1 field.2

/-- What the Redis client sends for a value: texts, bytes and numbers only. -/
def encodeAttr : Attr → Except Exn String
  | .value (.int i) => .ok (toString i)
  | .value (.str s) => .ok s
  | .value (.bytes s) => .ok s
  | _ => .error (.redisError false)

/-- The arguments of `HSET`; a mapping without items is refused. -/
def encodeMapping (mapping : List (String × Attr)) :
    Except Exn (List (String × String)) := do
  if mapping.isEmpty then .error (.redisError false)
  mapping.mapM fun item => do
    let text ← encodeAttr item.2
    .ok (item.1, text)

/-- What a row gives is set under names without outer underscores. -/
theorem exists_column_of_mem {type : ResultType} {row : Row} {name : String} {v : Attr}
    (h : (name, v) ∈ abstractConstructFromOrm type row) :
    ∃ column ∈ type.columns, stripUnderscores column = name := by
  obtain ⟨column, hcolumn, hset⟩ := List.mem_filterMap.mp (List.mem_reverse.mp h)
  split at hset
  · simp only [Option.some.injEq, Prod.mk.injEq] at hset
    exact ⟨column, hcolumn, hset.1⟩
  · cases hset

/-- What a cache entry gives is set to the values of the entry. -/
theorem mem_mapping_of_mem {type : ResultType} {mapping : CacheMapping} {name : String}
    {v : Attr} (h : (name, v) ∈ abstractConstructFromCache type mapping) :
    (Reply.str name, v) ∈ mapping := by
  obtain ⟨⟨key, value⟩, hitem, hset⟩ := List.mem_filterMap.mp (List.mem_reverse.mp h)
  cases key with
  | bytes k => cases hset
  | str k =>
      simp only at hset
      split at hset
      · cases hset
        exact hitem
      · cases hset

/-- The value of an attribute is one of its assignments. -/
theorem mem_of_lookup {dto : Dto} {name : String} {v : Attr} (h : dto.lookup name = some v) :
    (name, v) ∈ dto := by
  obtain ⟨front, back, rfl, _⟩ := List.lookup_eq_some_iff.mp h
  simp

theorem superMethod_eq_ok {rt : ResultRuntime} {dto dto' : Dto}
    (h : superMethod rt dto = .ok dto') : dto' = dto := by
  unfold superMethod at h
  split at h
  · cases h
    rfl
  · cases h

/-- A counter field of a result from the cache has the value of the entry. -/
theorem counter_of_constructFromCache {rt : ResultRuntime} {type : ResultType}
    {mapping : CacheMapping} {dto : Dto} {f : String} {v : Attr}
    (h : constructFromCache rt type mapping = .ok dto) (hf : f ∈ type.counterFields)
    (hv : dto.lookup f = some v) : (Reply.str f, v) ∈ mapping := by
  have hmem := mem_of_lookup hv
  cases type with
  | privateUserResult => cases h
  | forumAdminResult => cases hf
  | userResult =>
      cases h
      exact mem_mapping_of_mem hmem
  | forumResult =>
      cases h
      exact mem_mapping_of_mem hmem
  | commentResult =>
      cases h
      exact mem_mapping_of_mem hmem
  | postResult =>
      obtain ⟨instance_, hsuper, h⟩ := except_bind_eq_ok h
      obtain ⟨authorUsername, _, h⟩ := except_bind_eq_ok h
      cases superMethod_eq_ok hsuper
      cases h
      rcases List.mem_cons.mp hmem with heq | hmem
      · cases heq
        exact absurd hf (by decide)
      · exact mem_mapping_of_mem hmem
  | forumAdminUserResult =>
      obtain ⟨instance_, hsuper, h⟩ := except_bind_eq_ok h
      obtain ⟨role, _, h⟩ := except_bind_eq_ok h
      cases superMethod_eq_ok hsuper
      cases h
      rcases List.mem_cons.mp hmem with heq | hmem
      · cases heq
        exact absurd hf (by decide)
      · exact mem_mapping_of_mem hmem
  | animeResult =>
      obtain ⟨instance_, hsuper, h⟩ := except_bind_eq_ok h
      obtain ⟨genres, _, h⟩ := except_bind_eq_ok h
      obtain ⟨streamLinks, _, h⟩ := except_bind_eq_ok h
      cases superMethod_eq_ok hsuper
      cases h
      rcases List.mem_cons.mp hmem with heq | hmem
      · cases heq
        exact absurd hf (by decide)
      · rcases List.mem_cons.mp hmem with heq | hmem
        · cases heq
          exact absurd hf (by decide)
        · exact mem_mapping_of_mem hmem

/-- No column gives the identifier. -/
theorem id_not_mem_abstractConstructFromOrm (type : ResultType) (row : Row) (v : Attr) :
    ("id_", v) ∉ abstractConstructFromOrm type row := by
  intro h
  obtain ⟨column, hcolumn, hname⟩ := exists_column_of_mem h
  have hnone : ∀ column ∈ type.columns, stripUnderscores column ≠ "id_" := by
    cases type <;> decide
  exact hnone column hcolumn hname

/-- A result that is made of a row has no identifier, except for a forum's admin. -/
theorem id_unset_of_constructFromOrm {rt : ResultRuntime} {type : ResultType} {row : Row}
    {dto : Dto} (h : constructFromOrm rt type row = .ok dto)
    (htype : type ≠ .forumAdminResult) (v : Attr) : ("id_", v) ∉ dto := by
  have hnone := id_not_mem_abstractConstructFromOrm type row v
  cases type with
  | forumAdminResult => exact absurd rfl htype
  | userResult =>
      cases h
      exact hnone
  | forumResult =>
      cases h
      exact hnone
  | privateUserResult =>
      obtain ⟨instance_, hsuper, h⟩ := except_bind_eq_ok h
      cases superMethod_eq_ok hsuper
      cases h
      simp [hnone]
  | postResult =>
      obtain ⟨instance_, hsuper, h⟩ := except_bind_eq_ok h
      cases superMethod_eq_ok hsuper
      cases h
      simp [hnone]
  | forumAdminUserResult =>
      obtain ⟨instance_, hsuper, h⟩ := except_bind_eq_ok h
      obtain ⟨role, _, h⟩ := except_bind_eq_ok h
      cases superMethod_eq_ok hsuper
      cases h
      simp [hnone]
  | animeResult =>
      obtain ⟨instance_, hsuper, h⟩ := except_bind_eq_ok h
      cases superMethod_eq_ok hsuper
      cases h
      simp [hnone]
  | commentResult =>
      obtain ⟨instance_, hsuper, h⟩ := except_bind_eq_ok h
      cases superMethod_eq_ok hsuper
      cases h
      simp [hnone]

/-- So nothing can be cached for it. -/
theorem cacheRepr_of_constructFromOrm {rt : ResultRuntime} {type : ResultType} {row : Row}
    {dto : Dto} (h : constructFromOrm rt type row = .ok dto)
    (htype : type ≠ .forumAdminResult) (mapping : List (String × Attr)) :
    cacheRepr type dto ≠ .ok mapping := by
  have hid : dto.getattr "id_" = .error .attributeError := by
    unfold Dto.getattr
    split
    · rename_i v hv
      exact absurd (mem_of_lookup hv) (id_unset_of_constructFromOrm h htype v)
    · rfl
  intro hrepr
  -- all other representations begin with the identifier
  cases type with
  | forumAdminResult => exact htype rfl
  | privateUserResult => cases hrepr
  | _ =>
      simp only [cacheRepr, ResultType.fields, userFields, List.cons_append, List.mapM_cons,
        cacheItem, hid] at hrepr
      cases hrepr

end ResourceServer
end Tenjin
