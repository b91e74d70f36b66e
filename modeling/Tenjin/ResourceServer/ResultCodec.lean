import Tenjin.Foundation.Assoc
import Tenjin.ResourceServer.CacheReads

/-!
# Results through the cache and back

`__cache_repr__`, `HSET`, `HGETALL` and `construct_from_cache` one after the other, on every
result object of every class.

* `TypedResult` is a result object whose attributes are all set, to values of their declared
  types (`ResultType.annotations`).
* `roundTrip` is the way through the cache, and `RoundTrips` the purpose.
* `constructed_lookup_iff` — what comes back under a name is the text that is stored under it.
* `resultCodec_iff` — so a field survives exactly when its name has no underscore at an end and
  its value is a text, and no result survives as a whole.
-/

namespace Tenjin
namespace ResourceServer

open Python Foundation ResourceAuxillary

/-- The annotations of the fields. -/
inductive Annotation
  | int
  | str
  | optionalStr
  | bool
  | datetime
  | optionalDatetime
  | bytes
  | adminRoles
  | listStr
  | dictStr
  deriving DecidableEq

/-- What `CACHE_TYPE_MAPPING` tells apart of them. -/
def Annotation.fieldType : Annotation → FieldType
  | .bool => .bool
  | .datetime => .datetime
  | _ => .other

/-- The values of an annotation. -/
def Annotation.Admits : Annotation → Attr → Prop
  | .int, .value (.int _) => True
  | .str, .value (.str _) => True
  | .optionalStr, .value (.str _) => True
  | .optionalStr, .value .none => True
  | .bool, .value (.bool _) => True
  | .datetime, .datetime _ => True
  | .optionalDatetime, .datetime _ => True
  | .optionalDatetime, .value .none => True
  | .bytes, .value (.bytes _) => True
  | .adminRoles, .value (.str s) => s ∈ ["ADMIN", "SUPER", "OWNER"]
  | .listStr, .value (.list items) => ∀ v ∈ items, ∃ s, v = .str s
  | .dictStr, .value (.dict items) => ∀ item ∈ items, ∃ s, item.2 = .str s
  | _, _ => False

/-- The annotated fields of `UserResult`. -/
def userAnnotations : List (String × Annotation) :=
  [("id_", .int), ("username", .str), ("aura", .int), ("total_posts", .int),
    ("total_comments", .int), ("time_joined", .datetime), ("last_login", .datetime)]

/-- The annotated fields. -/
def ResultType.annotations : ResultType → List (String × Annotation)
  | .userResult => userAnnotations
  | .privateUserResult =>
      userAnnotations ++
        [("pw_hash", .bytes), ("deleted", .bool), ("time_deleted", .optionalDatetime)]
  | .postResult =>
      [("id_", .int), ("author_id", .int), ("forum_id", .int), ("author_username", .str),
        ("score", .int), ("total_comments", .int), ("saves", .int), ("reports", .int),
        ("title", .str), ("body_text", .str), ("flair", .optionalStr), ("closed", .bool),
        ("time_posted", .datetime)]
  | .forumResult =>
      [("id_", .int), ("name_", .str), ("anime", .int), ("description", .optionalStr),
        ("subscribers", .int), ("posts", .int), ("created_at", .datetime), ("admin_count", .int)]
  | .forumAdminResult => [("forum_id", .int), ("user_id", .int), ("role", .adminRoles)]
  | .forumAdminUserResult => userAnnotations ++ [("role", .adminRoles)]
  | .animeResult =>
      [("id_", .int), ("title", .str), ("members", .int), ("synopsis", .str),
        ("genres", .listStr), ("stream_links", .dictStr)]
  | .commentResult =>
      [("id_", .int), ("author_id", .int), ("author_username", .str), ("parent_forum", .int),
        ("parent_post", .int), ("time_created", .datetime), ("body", .str), ("score", .int),
        ("reports", .int)]

/-- They are the fields that the codec goes over. -/
theorem annotations_fields (type : ResultType) :
    type.annotations.map (fun field => (field.1, field.2.fieldType)) = type.fields := by
  cases type <;> rfl

/-- A result object with a value of the declared type in every field. -/
structure TypedResult (type : ResultType) where
  dto : Dto
  typed : ∀ field ∈ type.annotations, ∃ v, dto.getattr field.1 = .ok v ∧ field.2.Admits v

section
variable (rt : ResultRuntime) (decodeResponses : Bool)

/-- The cache representation is stored as a hash, read back and made a result again. -/
def roundTrip (type : ResultType) (dto : Dto) : Except Exn Dto := do
  let items ← storedItems type dto
  constructFromCache rt type (hashReply decodeResponses items)

variable {type : ResultType}

/-- A result comes back, and a field has the value that it had. -/
def FieldSurvives (r : TypedResult type) (name : String) : Prop :=
  ∃ dto, roundTrip rt decodeResponses type r.dto = .ok dto ∧
    dto.getattr name = r.dto.getattr name

/-- The result that comes back is equal in every field. -/
def RoundTrips (r : TypedResult type) : Prop :=
  ∃ dto, roundTrip rt decodeResponses type r.dto = .ok dto ∧
    ∀ name ∈ type.fieldNames, dto.getattr name = r.dto.getattr name

end

/-- What is stored for one field. -/
def storedField (dto : Dto) (field : String × FieldType) : Except Exn (String × String) :=
  cacheItem dto field.1 field.2 >>= fun item => do
    let text ← encodeAttr item.2
    .ok (item.1, text)

section
variable {type : ResultType} {dto : Dto} {items : List (String × String)}

/-- The fields of the cache representation: an anime's leaves out two. -/
def ResultType.cachedFields : ResultType → List (String × FieldType)
  | .animeResult =>
      [("id_", .other), ("title", .other), ("members", .other), ("synopsis", .other)]
  | type => type.fields

theorem storedItems_eq_ok (h : storedItems type dto = .ok items) :
    type.cachedFields.mapM (storedField dto) = .ok items := by
  obtain ⟨mapping, hrepr, hencode⟩ := except_bind_eq_ok h
  have hfields : type.cachedFields.mapM (fun field => cacheItem dto field.1 field.2) =
      .ok mapping := by
    cases type with
    | privateUserResult => cases hrepr
    | _ => exact hrepr
  have hstored : mapping.mapM (fun item => do
      let text ← encodeAttr item.2
      .ok (item.1, text)) = .ok items := by
    unfold encodeMapping at hencode
    split at hencode
    · cases hencode
    · exact hencode
  exact mapM_bind_eq_ok_iff.mpr ⟨mapping, hfields, hstored⟩

theorem storedField_eq_ok {field : String × FieldType} {item : String × String}
    (h : storedField dto field = .ok item) :
    item.1 = stripUnderscores field.1 ∧ ∃ v w, dto.getattr field.1 = .ok v ∧
      castCacheValue field.2 v = .ok w ∧ encodeAttr w = .ok item.2 := by
  obtain ⟨cached, hcached, h⟩ := except_bind_eq_ok h
  obtain ⟨text, htext, h⟩ := except_bind_eq_ok h
  obtain ⟨v, hv, hcached⟩ := except_bind_eq_ok hcached
  obtain ⟨w, hw, hcached⟩ := except_bind_eq_ok hcached
  cases hcached
  cases h
  exact ⟨rfl, v, w, hv, hw, htext⟩

/-- The keys of the stored hash are the stripped names. -/
theorem storedItems_keys (h : storedItems type dto = .ok items) :
    items.map Prod.fst = type.cachedFields.map fun field => stripUnderscores field.1 := by
  have hall := mapM_eq_ok_iff.mp (storedItems_eq_ok h)
  clear h
  generalize type.cachedFields = fields at hall
  induction hall with
  | nil => rfl
  | cons hitem _ ih => rw [List.map_cons, ih, (storedField_eq_ok hitem).1, List.map_cons]

theorem storedItems_keys_nodup (h : storedItems type dto = .ok items) :
    (items.map Prod.fst).Nodup := by
  rw [storedItems_keys h]
  cases type <;> decide

/-- In a reply of texts, what is under a name is the text that is stored under it. -/
theorem mem_hashReply_str {name : String} {v : Attr} :
    (Reply.str name, v) ∈ hashReply true items ↔
      ∃ s, (name, s) ∈ items ∧ v = .value (.str s) := by
  unfold hashReply
  rw [List.mem_map]
  constructor
  · intro h
    obtain ⟨item, hmem, heq⟩ := h
    cases heq
    exact ⟨item.2, hmem, rfl⟩
  · intro h
    obtain ⟨s, hmem, rfl⟩ := h
    exact ⟨(name, s), hmem, rfl⟩

theorem hashReply_keys (decodeResponses : Bool) (items : List (String × String)) :
    (hashReply decodeResponses items).map Prod.fst =
      (items.map Prod.fst).map (clientReply decodeResponses) := by
  simp [hashReply]

/-- Looking a name up in that reply. -/
theorem item_hashReply_str (hkeys : (items.map Prod.fst).Nodup) {name : String} {v : Attr} :
    CacheMapping.item (hashReply true items) name = .ok v ↔
      ∃ s, (name, s) ∈ items ∧ v = .value (.str s) := by
  have hreply : ((hashReply true items).map Prod.fst).Nodup := by
    rw [hashReply_keys]
    exact hkeys.map fun _ _ h => by cases h; rfl
  rw [← mem_hashReply_str, ← lookup_eq_some_iff_mem hreply]
  unfold CacheMapping.item
  cases List.lookup (Reply.str name) (hashReply true items) <;> simp

/-- What the inherited method sets. -/
theorem abstractConstruct_lookup (hkeys : (items.map Prod.fst).Nodup) {name : String}
    (hname : name ∈ type.fieldNames) {v : Attr} :
    (abstractConstructFromCache type (hashReply true items)).lookup name = some v ↔
      ∃ s, (name, s) ∈ items ∧ v = .value (.str s) := by
  have hset : abstractConstructFromCache type (hashReply true items) =
      ((items.filter fun item => item.1 ∈ type.fieldNames).map
        fun item => (item.1, Attr.value (.str item.2))).reverse := by
    unfold abstractConstructFromCache hashReply
    rw [List.filterMap_map, List.reverse_inj, ← List.filterMap_eq_map, ← List.filterMap_eq_filter,
      List.filterMap_filterMap]
    apply List.filterMap_congr
    intro item _
    by_cases hmem : item.1 ∈ type.fieldNames <;>
      simp [hmem, clientReply, Reply.attr, Option.guard]
  have hnodup : ((abstractConstructFromCache type (hashReply true items)).map
      Prod.fst).Nodup := by
    rw [hset, List.map_reverse, List.nodup_reverse, List.map_map]
    exact hkeys.sublist (List.filter_sublist.map _)
  rw [lookup_eq_some_iff_mem hnodup, hset, List.mem_reverse, List.mem_map]
  constructor
  · intro h
    obtain ⟨item, hmem, heq⟩ := h
    cases heq
    exact ⟨item.2, List.mem_of_mem_filter hmem, rfl⟩
  · intro h
    obtain ⟨s, hmem, rfl⟩ := h
    exact ⟨(name, s), List.mem_filter.mpr ⟨hmem, decide_eq_true hname⟩, rfl⟩

/-- What `construct_from_cache` of any class sets is what is stored under the name. -/
theorem constructed_lookup_iff {rt : ResultRuntime} (htype : type ≠ .animeResult)
    (hkeys : (items.map Prod.fst).Nodup) {made : Dto}
    (h : constructFromCache rt type (hashReply true items) = .ok made) {name : String}
    (hname : name ∈ type.fieldNames) {v : Attr} :
    made.lookup name = some v ↔ ∃ s, (name, s) ∈ items ∧ v = .value (.str s) := by
  have hinherited := abstractConstruct_lookup hkeys hname (v := v)
  -- an attribute that is assigned from an item of its own name
  have hassigned : ∀ {key : String} {value : Attr} {rest : Dto},
      CacheMapping.item (hashReply true items) key = .ok value →
      (key ≠ name → (rest.lookup name = some v ↔
        ∃ s, (name, s) ∈ items ∧ v = .value (.str s))) →
      (List.lookup name ((key, value) :: rest) = some v ↔
        ∃ s, (name, s) ∈ items ∧ v = .value (.str s)) := by
    intro key value rest hitem hrest
    rw [List.lookup_cons]
    by_cases hkey : name = key
    · subst hkey
      rw [beq_self_eq_true, ← item_hashReply_str hkeys, hitem]
      simp
    · rw [beq_eq_false_iff_ne.mpr hkey]
      exact hrest fun heq => hkey heq.symm
  have hrole : ∀ {role : Attr},
      (CacheMapping.item (hashReply true items) "role" >>= adminRoles) = .ok role →
      CacheMapping.item (hashReply true items) "role" = .ok role := by
    intro role hbound
    obtain ⟨read, hread, hadmin⟩ := except_bind_eq_ok hbound
    unfold adminRoles at hadmin
    split at hadmin
    · cases hadmin
      exact hread
    · cases hadmin
  cases type with
  | animeResult => exact absurd rfl htype
  | privateUserResult => cases h
  | userResult | forumResult | commentResult =>
      cases h
      exact hinherited
  | postResult =>
      obtain ⟨instance_, hsuper, h⟩ := except_bind_eq_ok h
      obtain ⟨authorUsername, hitem, h⟩ := except_bind_eq_ok h
      cases superMethod_eq_ok hsuper
      cases h
      exact hassigned hitem fun _ => hinherited
  | forumAdminUserResult =>
      obtain ⟨instance_, hsuper, h⟩ := except_bind_eq_ok h
      obtain ⟨role, hitem, h⟩ := except_bind_eq_ok h
      cases superMethod_eq_ok hsuper
      cases h
      exact hassigned (hrole hitem) fun _ => hinherited
  | forumAdminResult =>
      obtain ⟨userId, huserId, h⟩ := except_bind_eq_ok h
      obtain ⟨forumId, hforumId, h⟩ := except_bind_eq_ok h
      obtain ⟨role, hitem, h⟩ := except_bind_eq_ok h
      cases h
      refine hassigned (hrole hitem) fun hnotRole => hassigned hforumId fun hnotForum =>
        hassigned huserId fun hnotUser => ?_
      simp only [ResultType.fieldNames, ResultType.fields, List.map_cons, List.map_nil,
        List.mem_cons, List.not_mem_nil, or_false] at hname
      rcases hname with hfield | hfield | hfield
      · exact absurd hfield.symm hnotForum
      · exact absurd hfield.symm hnotUser
      · exact absurd hfield.symm hnotRole

end

section
variable {rt : ResultRuntime} {decodeResponses : Bool} {type : ResultType}

/-- An anime's genres are read back, but they are not stored. -/
theorem roundTrip_anime (dto dto' : Dto) :
    roundTrip rt decodeResponses .animeResult dto ≠ .ok dto' := by
  intro h
  obtain ⟨items, hstored, hmade⟩ := except_bind_eq_ok h
  obtain ⟨instance_, _, hmade⟩ := except_bind_eq_ok hmade
  obtain ⟨genres, hgenres, _⟩ := except_bind_eq_ok hmade
  obtain ⟨read, hread, _⟩ := except_bind_eq_ok hgenres
  cases decodeResponses with
  | false =>
      rw [CacheMapping.item, lookup_hashReply_bytes] at hread
      cases hread
  | true =>
      obtain ⟨s, hmem, _⟩ := (item_hashReply_str (storedItems_keys_nodup hstored)).mp hread
      have hkey : "genres" ∈ items.map Prod.fst := List.mem_map_of_mem hmem
      rw [storedItems_keys hstored] at hkey
      exact absurd hkey (by decide)

/-- A reply of bytes has none of the names, so no field comes back. -/
theorem constructed_bytes {items : List (String × String)} {made : Dto}
    (h : constructFromCache rt type (hashReply false items) = .ok made) (name : String) :
    made.lookup name = none := by
  have hinherited : abstractConstructFromCache type (hashReply false items) = [] := by
    simp [abstractConstructFromCache, hashReply, List.filterMap_map, clientReply]
  have hitem : ∀ {key : String} {v : Attr},
      CacheMapping.item (hashReply false items) key ≠ .ok v := by
    intro key v hitem
    rw [CacheMapping.item, lookup_hashReply_bytes] at hitem
    cases hitem
  cases type with
  | privateUserResult => cases h
  | userResult | forumResult | commentResult =>
      cases h
      rw [hinherited]
      rfl
  | postResult =>
      obtain ⟨_, _, h⟩ := except_bind_eq_ok h
      obtain ⟨_, hread, _⟩ := except_bind_eq_ok h
      exact absurd hread hitem
  | forumAdminResult =>
      obtain ⟨_, hread, _⟩ := except_bind_eq_ok h
      exact absurd hread hitem
  | forumAdminUserResult | animeResult =>
      obtain ⟨_, _, h⟩ := except_bind_eq_ok h
      obtain ⟨_, hbound, _⟩ := except_bind_eq_ok h
      obtain ⟨_, hread, _⟩ := except_bind_eq_ok hbound
      exact absurd hread hitem

/-- A field whose stored text is its value again was a text. -/
theorem stored_text {declared : Annotation} {v w : Attr} {s : String}
    (hadmits : declared.Admits v) (hcast : castCacheValue declared.fieldType v = .ok w)
    (hencode : encodeAttr w = .ok s) : v = .value (.str s) ↔ ∃ t, v = .value (.str t) := by
  constructor
  · exact fun h => ⟨s, h⟩
  · intro h
    obtain ⟨t, rfl⟩ := h
    cases declared <;> first | exact hadmits.elim | skip
    all_goals
      cases hcast
      cases hencode
      rfl

/-- A name is the key of a field exactly when `strip` leaves it alone. -/
theorem mem_storedKeys (htype : type ≠ .animeResult) {name : String}
    (hname : name ∈ type.fieldNames) :
    (name ∈ type.cachedFields.map fun field => stripUnderscores field.1) ↔
      stripUnderscores name = name := by
  have hall : ∀ name ∈ type.fieldNames,
      (name ∈ type.cachedFields.map fun field => stripUnderscores field.1) ↔
        stripUnderscores name = name := by
    cases type with
    | animeResult => exact absurd rfl htype
    | _ => decide
  exact hall name hname

/-- Every field that has a name is annotated. -/
theorem annotated_of_fieldName {name : String} (hname : name ∈ type.fieldNames) :
    ∃ declared, (name, declared) ∈ type.annotations := by
  rw [ResultType.fieldNames, ← annotations_fields, List.map_map] at hname
  obtain ⟨field, hfield, hfst⟩ := List.mem_map.mp hname
  exact ⟨field.2, by rw [← hfst]; exact hfield⟩

/-- A field survives exactly when anything comes back, the client returns texts, the name has
no underscore at an end, and the value is a text. -/
theorem fieldSurvives_iff (r : TypedResult type) {name : String}
    (hname : name ∈ type.fieldNames) :
    FieldSurvives rt decodeResponses r name ↔
      (∃ dto, roundTrip rt decodeResponses type r.dto = .ok dto) ∧ decodeResponses = true ∧
        stripUnderscores name = name ∧ ∃ s, r.dto.getattr name = .ok (.value (.str s)) := by
  obtain ⟨declared, hannotated⟩ := annotated_of_fieldName hname
  obtain ⟨v, hv, hadmits⟩ := r.typed _ hannotated
  have hgetattr : ∀ dto : Dto, dto.getattr name = r.dto.getattr name ↔
      dto.lookup name = some v := by
    intro dto
    rw [hv, Dto.getattr]
    cases dto.lookup name <;> simp
  have hreturned : ∀ dto, roundTrip rt decodeResponses type r.dto = .ok dto →
      (dto.getattr name = r.dto.getattr name ↔ decodeResponses = true ∧
        stripUnderscores name = name ∧ ∃ s, r.dto.getattr name = .ok (.value (.str s))) := by
    intro dto hdto
    rw [hgetattr, hv]
    have htype : type ≠ .animeResult := by
      intro heq
      subst heq
      exact roundTrip_anime r.dto dto hdto
    obtain ⟨items, hstored, hmade⟩ := except_bind_eq_ok hdto
    cases decodeResponses with
    | false => simp [constructed_bytes hmade name]
    | true =>
        rw [constructed_lookup_iff htype (storedItems_keys_nodup hstored) hmade hname]
        constructor
        · intro h
          obtain ⟨s, hmem, rfl⟩ := h
          have hkey : name ∈ items.map Prod.fst := List.mem_map_of_mem hmem
          rw [storedItems_keys hstored] at hkey
          exact ⟨rfl, (mem_storedKeys htype hname).mp hkey, s, rfl⟩
        · intro h
          obtain ⟨_, hstrip, t, ht⟩ := h
          -- the text under the name is what the field was stored as
          have hfield : (name, declared.fieldType) ∈ type.cachedFields := by
            have hfields : type.cachedFields = type.fields := by
              cases type with
              | animeResult => exact absurd rfl htype
              | _ => rfl
            rw [hfields, ← annotations_fields]
            exact List.mem_map_of_mem hannotated
          obtain ⟨item, hitem, hstoredField⟩ :=
            exists_result_of_mem_mapM (storedItems_eq_ok hstored) hfield
          obtain ⟨hkey, v', w, hv', hcast, hencode⟩ := storedField_eq_ok hstoredField
          rw [hv] at hv'
          cases hv'
          refine ⟨item.2, ?_, (stored_text hadmits hcast hencode).mpr ⟨t, ?_⟩⟩
          · rw [← hstrip, ← hkey]
            exact hitem
          · exact Except.ok.inj ht
  constructor
  · intro h
    obtain ⟨dto, hdto, hsame⟩ := h
    exact ⟨⟨dto, hdto⟩, (hreturned dto hdto).mp hsame⟩
  · intro h
    obtain ⟨⟨dto, hdto⟩, hrest⟩ := h
    exact ⟨dto, hdto, (hreturned dto hdto).mpr hrest⟩

variable (rt decodeResponses) in
/-- Every class has a field that cannot survive: the identifier, or a number. -/
theorem exists_lost_field (r : TypedResult type) :
    ∃ name ∈ type.fieldNames, ¬ FieldSurvives rt decodeResponses r name := by
  by_cases htype : type = .forumAdminResult
  · subst htype
    refine ⟨"forum_id", List.mem_cons_self .., ?_⟩
    intro h
    obtain ⟨_, _, _, s, hs⟩ := (fieldSurvives_iff r (List.mem_cons_self ..)).mp h
    obtain ⟨v, hv, hadmits⟩ := r.typed ("forum_id", .int) (List.mem_cons_self ..)
    rw [hv] at hs
    cases hs
    exact hadmits
  · have hid : "id_" ∈ type.fieldNames := by
      revert htype
      cases type <;> decide
    refine ⟨"id_", hid, ?_⟩
    intro h
    obtain ⟨_, _, hstrip, _⟩ := (fieldSurvives_iff r hid).mp h
    exact absurd hstrip (by decide)

end

/-- For every class, every result object, with any client and runtime: it does not come back
from the cache as it was; of its fields, those come back whose values are texts and whose names
have no underscore at an end, if the client returns texts and anything comes back at all. -/
theorem resultCodec_iff (rt : ResultRuntime) (decodeResponses : Bool) (type : ResultType)
    (r : TypedResult type) :
    ¬ RoundTrips rt decodeResponses r ∧
      ∀ name ∈ type.fieldNames, FieldSurvives rt decodeResponses r name ↔
        (∃ dto, roundTrip rt decodeResponses type r.dto = .ok dto) ∧ decodeResponses = true ∧
          stripUnderscores name = name ∧ ∃ s, r.dto.getattr name = .ok (.value (.str s)) := by
  constructor
  · intro h
    obtain ⟨dto, hdto, hsame⟩ := h
    obtain ⟨name, hname, hlost⟩ := exists_lost_field rt decodeResponses r
    exact hlost ⟨dto, hdto, hsame name hname⟩
  · exact fun name hname => fieldSurvives_iff r hname

/-- A forum's admin. -/
def forumOwner : TypedResult .forumAdminResult where
  dto := [("role", .value (.str "OWNER")), ("forum_id", .value (.int 3)),
    ("user_id", .value (.int 7))]
  typed := by
    intro field hfield
    simp only [ResultType.annotations, List.mem_cons, List.not_mem_nil, or_false] at hfield
    rcases hfield with rfl | rfl | rfl
    · exact ⟨_, rfl, trivial⟩
    · exact ⟨_, rfl, trivial⟩
    · refine ⟨_, rfl, ?_⟩
      show "OWNER" ∈ ["ADMIN", "SUPER", "OWNER"]
      decide

/-- The ids of the forum and the user come back as texts. -/
theorem forumOwner_not_roundTrips :
    ¬ RoundTrips ⟨true, fun _ => .error .valueError⟩ true forumOwner := by
  intro h
  obtain ⟨dto, hdto, hsame⟩ := h
  have hmade : roundTrip ⟨true, fun _ => .error .valueError⟩ true .forumAdminResult
      forumOwner.dto = .ok [("role", .value (.str "OWNER")), ("forum_id", .value (.str "3")),
        ("user_id", .value (.str "7"))] := by
    rfl
  rw [hmade] at hdto
  cases hdto
  have hforum := hsame "forum_id" (List.mem_cons_self ..)
  cases hforum

end ResourceServer
end Tenjin
