import Mathlib.Logic.Function.Basic
import Tenjin.ResourceServer.DeletedResources
import Tenjin.ResourceServer.Lookups
import Tenjin.ResourceServer.ResultCodec

/-!
# Editing a post

`edit_post` applies an amendment twice: `update_post` makes an UPDATE of it, and the object
that the cache lookup has returned is patched, stored under the post's key and returned.

* `PostAmendmentModel` is an amendment that the request model accepts.
* `editPost` is the endpoint, on the post's row, the cache, and what the lookup comes to.
* `WritesThroughOnSuccess` is the purpose.
* `editPost_raises` — no request succeeds: an object that can be stored has an instant, and
  `JSONResponse` refuses it.  So the purpose is met (`editPost_writesThrough`).
* With the client of the application a request does not even come to its update
  (`editPost_lookedUp`).
* `content_iff` — what is handed to `JSONResponse` agrees with the row and the cache exactly if
  the object agrees with the row in what the amendment leaves alone, and the amendment does not
  reopen a post that is closed.
-/

namespace Tenjin
namespace ResourceServer

open Python Foundation ResourceAuxillary

/-- A text that is there and is not empty, which is what counts as true. -/
def givenText (text : Option String) : Option String := text.filter (· ≠ "")

/-- `PostAmendmentModel`, after its validation. -/
structure PostAmendmentModel where
  closed : Option Bool
  title : Option String
  body : Option String
  title_length : ∀ t ∈ title, 4 ≤ t.length ∧ t.length ≤ 16
  body_length : ∀ b ∈ body, b.length ≤ 32800
  nonempty : closed = some true ∨ givenText title ≠ none ∨ givenText body ≠ none

/-- The attributes of `Post`. -/
def postAttributes : List String :=
  ["id_", "author_id", "forum_id", "score", "total_comments", "title", "body_text", "flair",
    "closed", "time_posted", "saves", "reports", "deleted", "deletion_time",
    "deletion_author_event"]

/-- `update_kw`. -/
def updateKw (postTitle postBody : Option String) (closed : Bool) : List (String × Attr) :=
  ((givenText postTitle).map fun t => ("title", Attr.value (.str t))).toList ++
    ((givenText postBody).map fun b => ("body", Attr.value (.str b))).toList ++
    if closed then [("closed", .value (.bool true))] else []

/-- `update_post`, on the row of the post.  A name that is no column cannot be compiled. -/
def updatePost (row : Row) (postTitle postBody : Option String) (closed : Bool) :
    Except Exn Row :=
  let kw := updateKw postTitle postBody closed
  if kw.isEmpty then .error .valueError
  else if kw.all fun item => item.1 ∈ postAttributes then
    .ok (kw.foldl (fun row item => Function.update row item.1 item.2) row)
  else .error .compileError

/-- A text or `None`. -/
def optionalText : Option String → Attr
  | some s => .value (.str s)
  | none => .value .none

/-- What counts as true. -/
def Attr.isTrue : Attr → Bool
  | .value .none => false
  | .value (.bool b) => b
  | .value (.int i) => i ≠ 0
  | .value (.float x) => x ≠ 0
  | .value (.str s) => s ≠ ""
  | .value (.bytes s) => s ≠ ""
  | .value (.list items) => !items.isEmpty
  | .value (.dict items) => !items.isEmpty
  | .datetime _ => true

/-- `validate_duplicate_amendment_contents`. -/
def validateDuplicateAmendmentContents (model : PostAmendmentModel) (post : Dto) :
    Except Exn (List (String × String)) := do
  let closed ← post.getattr "closed"
  let title ← post.getattr "title"
  let sameBody ←
    if givenText model.title = none ∧ model.closed = none then
      (post.getattr "body_text").map fun bodyText => decide (optionalText model.body = bodyText)
    else .ok false
  .ok <|
    (if closed.isTrue && model.closed.getD false then
      [("closed", "Post already closed")] else []) ++
    (if title = optionalText model.title then
      [("title", "New title identical to existing title")] else []) ++
    (if sameBody then
      [("description", "New description identical to existing description")] else [])

/-- `new or old`. -/
def textOr (new : Option String) (old : Except Exn Attr) : Except Exn Attr :=
  match givenText new with
  | some s => .ok (.value (.str s))
  | none => old

/-- The assignments to the object. -/
def amendPost (model : PostAmendmentModel) (post : Dto) : Except Exn Dto := do
  let bodyText ← textOr model.body (post.getattr "body_text")
  let title ← textOr model.title (post.getattr "title")
  let post := ("title", title) :: ("body_text", bodyText) :: post
  match model.closed with
  | some closed => .ok (("closed", .value (.bool closed)) :: post)
  | none => .ok post

/-- What a request leaves behind, and what its response is made of: the representation of the
post, or the exception. -/
structure EditOutcome where
  row : Row
  store : Store
  content : Except Exn (List (String × Attr))

/-- `JSONResponse(content)`: an instant is not JSON. -/
def jsonResponse (content : List (String × Attr)) : Except Exn Unit :=
  content.forM fun item =>
    match item.2 with
    | .datetime _ => .error .typeError
    | .value (.bytes _) => .error .typeError
    | .value _ => .ok ()

/-- The request has been answered with a representation of the post. -/
def EditOutcome.Succeeds (outcome : EditOutcome) (content : List (String × Attr)) : Prop :=
  outcome.content = .ok content ∧ jsonResponse content = .ok ()

/-- In front of the update: the object to be amended. -/
def checkEdit (postId sid : Int) (loaded : Option Dto) (model : PostAmendmentModel) :
    Except Exn Dto := do
  match loaded with
  | none => .error (.httpException 404 s!"No post with id {postId} found")
  | some post =>
      let authorId ← post.getattr "author_id"
      if authorId ≠ .value (.int sid) then
        .error (.httpException 403 "Only owner can edit post details")
      let errorDict ← validateDuplicateAmendmentContents model post
      if errorDict.isEmpty then .ok post
      else .error (.httpException 409 "Invalid amendment data provided")

section
variable (config : CacheConfig) (postId sid : Int) (row : Row) (store : Store)

/-- Behind the update. -/
def writeThrough (model : PostAmendmentModel) (post : Dto) : EditOutcome :=
  match amendPost model post with
  | .error e => ⟨row, store, .error e⟩
  | .ok amended =>
      match storedItems .postResult amended with
      | .error e => ⟨row, store, .error e⟩
      | .ok items =>
          match hsetWithTtl store (ReadSite.post postId).key items config.ttlStrong with
          | (store', some e) => ⟨row, store', .error e⟩
          | (store', none) => ⟨row, store', jsonRepr .postResult amended⟩

/-- `edit_post`, behind the lookup.  The update comes first, so it stands when the write to the
cache fails. -/
def editLoaded (loaded : Option Dto) (model : PostAmendmentModel) : EditOutcome :=
  match checkEdit postId sid loaded model with
  | .error e => ⟨row, store, .error e⟩
  | .ok post =>
      match updatePost row model.title model.body (model.closed.getD false) with
      | .error e => ⟨row, store, .error e⟩
      | .ok row' => writeThrough config postId row' store model post

/-- `edit_post`; `loaded` is what the lookup comes to. -/
def editPost (loaded : Except Exn (Option Dto)) (model : PostAmendmentModel) : EditOutcome :=
  match loaded with
  | .error e => ⟨row, store, .error e⟩
  | .ok post => editLoaded config postId sid row store post model

end

/-- The fields that an amendment is about. -/
def amendedFields : List (String × FieldType) :=
  [("title", .other), ("body_text", .other), ("closed", .bool)]

/-- The row, the response and what is cached agree in the fields. -/
structure WritesThrough (key : String) (row : Row) (store : Store)
    (content : List (String × Attr)) : Prop where
  response : ∀ field ∈ amendedFields, content.lookup field.1 = some (row field.1)
  cached : ∀ slot, store key = some slot → ∃ items, slot.value = .hash items ∧
    ∀ field ∈ amendedFields, ∃ text, items.lookup field.1 = some text ∧
      castCacheValue field.2 (row field.1) >>= encodeAttr = .ok text

/-- After a request that has succeeded, the row, the response and what is cached agree. -/
def WritesThroughOnSuccess (key : String) (outcome : EditOutcome) : Prop :=
  ∀ content, outcome.Succeeds content → WritesThrough key outcome.row outcome.store content

/-- The request is the owner's and repeats nothing, the amendment has no body, and the post
can be stored: it has a flair, and what is cached for it is a hash. -/
structure EditAdmitted (sid : Int) (key : String) (store : Store) (model : PostAmendmentModel)
    (post : Dto) : Prop where
  owner : post.getattr "author_id" = .ok (.value (.int sid))
  fresh : validateDuplicateAmendmentContents model post = .ok []
  noBody : givenText model.body = none
  flair : ∃ s, post.getattr "flair" = .ok (.value (.str s))
  hash : ∀ slot, store key = some slot → ∃ items, slot.value = .hash items

/-- The object agrees with the row in what the amendment leaves alone, and a post that is
closed is not reopened. -/
structure LeavesAgreeing (model : PostAmendmentModel) (row : Row) (post : Dto) : Prop where
  title : givenText model.title = none → post.getattr "title" = .ok (row "title")
  bodyText : post.getattr "body_text" = .ok (row "body_text")
  closed : model.closed = none → post.getattr "closed" = .ok (row "closed")
  notReopened : model.closed = some false → row "closed" = .value (.bool false)

theorem getattr_cons (name : String) (v : Attr) (dto : Dto) (other : String) :
    Dto.getattr ((name, v) :: dto) other =
      if other = name then .ok v else dto.getattr other := by
  unfold Dto.getattr
  rw [List.lookup_cons]
  by_cases h : other = name
  · rw [if_pos h, beq_iff_eq.mpr h]
  · rw [if_neg h, beq_eq_false_iff_ne.mpr h]

section
variable {type : ResultType}

theorem TypedResult.exists_str (r : TypedResult type) {name : String}
    (h : (name, .str) ∈ type.annotations) :
    ∃ s, r.dto.getattr name = .ok (.value (.str s)) := by
  obtain ⟨v, hv, hadmits⟩ := r.typed _ h
  cases v with
  | datetime iso => cases hadmits
  | value v =>
      cases v with
      | str s => exact ⟨s, hv⟩
      | _ => cases hadmits

theorem admits_str (s : String) : Annotation.str.Admits (.value (.str s)) := trivial

theorem admits_bool (b : Bool) : Annotation.bool.Admits (.value (.bool b)) := trivial

/-- A field has one annotation. -/
theorem annotations_functional (type : ResultType) :
    ∀ declared ∈ type.annotations, ∀ field ∈ type.annotations,
      field.1 = declared.1 → field.2 = declared.2 := by
  cases type <;> decide

/-- An attribute is assigned a value of its type. -/
def TypedResult.assign (r : TypedResult type) (name : String) (declared : Annotation) (v : Attr)
    (hdeclared : (name, declared) ∈ type.annotations) (hv : declared.Admits v) :
    TypedResult type where
  dto := (name, v) :: r.dto
  typed := by
    intro field hfield
    rw [getattr_cons]
    by_cases hname : field.1 = name
    · have hannotation := annotations_functional type _ hdeclared field hfield hname
      exact ⟨v, if_pos hname, hannotation ▸ hv⟩
    · rw [if_neg hname]
      exact r.typed field hfield

theorem getattr_assign (r : TypedResult type) {name : String} {declared : Annotation} {v : Attr}
    (hdeclared : (name, declared) ∈ type.annotations) (hv : declared.Admits v) (other : String) :
    (r.assign name declared v hdeclared hv).dto.getattr other =
      if other = name then .ok v else r.dto.getattr other :=
  getattr_cons name v r.dto other

/-- What is stored under the name of a field is the text of its value. -/
theorem lookup_storedItems {dto : Dto} {items : List (String × String)}
    (h : storedItems type dto = .ok items) {field : String × FieldType}
    (hfield : field ∈ type.cachedFields) (hname : stripUnderscores field.1 = field.1) {v : Attr}
    (hv : dto.getattr field.1 = .ok v) :
    ∃ text, items.lookup field.1 = some text ∧
      castCacheValue field.2 v >>= encodeAttr = .ok text := by
  obtain ⟨item, hitem, hstored⟩ := exists_result_of_mem_mapM (storedItems_eq_ok h) hfield
  obtain ⟨hkey, v', w, hv', hcast, hencode⟩ := storedField_eq_ok hstored
  rw [hv] at hv'
  cases hv'
  refine ⟨item.2, ?_, ?_⟩
  · rw [lookup_eq_some_iff_mem (storedItems_keys_nodup h), ← hname, ← hkey]
    exact hitem
  · rw [hcast]
    exact hencode

/-- The same for the representation in the response. -/
theorem lookup_jsonRepr {dto : Dto} {content : List (String × Attr)}
    (h : jsonRepr type dto = .ok content)
    (hnodup : (type.fieldNames.map stripUnderscores).Nodup) {name : String}
    (hfield : name ∈ type.fieldNames) (hname : stripUnderscores name = name) :
    ∃ v, content.lookup name = some v ∧ dto.getattr name = .ok v := by
  have hitems := mapM_eq_ok_iff.mp h
  have hkeys : content.map Prod.fst = type.fieldNames.map stripUnderscores := by
    unfold ResultType.fieldNames
    clear h hnodup hfield
    generalize type.fields = fields at hitems
    induction hitems with
    | nil => rfl
    | cons hitem _ ih =>
        obtain ⟨v, _, hitem⟩ := except_bind_eq_ok hitem
        cases hitem
        rw [List.map_cons, ih, List.map_cons, List.map_cons]
  obtain ⟨field, hmem, rfl⟩ := List.mem_map.mp hfield
  obtain ⟨item, hitem, hgetattr⟩ := exists_result_of_mem_mapM h hmem
  obtain ⟨v, hv, hgetattr⟩ := except_bind_eq_ok hgetattr
  cases hgetattr
  refine ⟨v, ?_, hv⟩
  rw [lookup_eq_some_iff_mem (hkeys ▸ hnodup)]
  rwa [hname] at hitem

end

section
variable {model : PostAmendmentModel} {row row' : Row} {store store' : Store} {key : String}
  {sid postId : Int} {post : Dto}

/-- A field of a hash that has been written has the new text. -/
theorem lookup_mergeFields {old items : List (String × String)} {name text : String}
    (h : items.lookup name = some text) : (mergeFields old items).lookup name = some text := by
  have hold : (old.filter fun o => items.lookup o.1 = none).lookup name = none := by
    rw [List.lookup_eq_none_iff]
    intro item hitem
    have hnone := (List.mem_filter.mp hitem).2
    rw [bne_iff_ne]
    rintro rfl
    rw [h] at hnone
    cases hnone
  unfold mergeFields
  rw [List.lookup_append, hold, h]
  rfl

/-- `hset_with_ttl` succeeds where nothing or a hash is cached. -/
theorem hsetWithTtl_snd_eq_none_iff (items : List (String × String)) (seconds : ℕ) :
    (hsetWithTtl store key items seconds).2 = none ↔
      ∀ slot, store key = some slot → ∃ old, slot.value = .hash old := by
  unfold hsetWithTtl
  cases hslot : store key with
  | none => simp [execute, PageCommand.run, hslot, Store.put]
  | some slot =>
      obtain ⟨value, ttl⟩ := slot
      cases value <;> simp [execute, PageCommand.run, hslot, Store.put, wrongType]

/-- What is cached afterwards has the items. -/
theorem cached_of_hsetWithTtl {items : List (String × String)} {seconds : ℕ}
    (h : (hsetWithTtl store key items seconds).2 = none) {slot : Slot}
    (hslot : (hsetWithTtl store key items seconds).1 key = some slot) :
    ∃ merged, slot.value = .hash merged ∧
      ∀ name text, items.lookup name = some text → merged.lookup name = some text := by
  have hhash := (hsetWithTtl_snd_eq_none_iff items seconds).mp h
  cases hkey : store key with
  | none =>
      simp only [hsetWithTtl, execute, PageCommand.run, hkey, Store.put, if_true,
        Option.ite_none_left_eq_some, Option.some.injEq] at hslot
      exact ⟨items, hslot.2 ▸ rfl, fun _ _ htext => htext⟩
  | some before =>
      obtain ⟨old, hold⟩ := hhash before hkey
      obtain ⟨value, ttl⟩ := before
      obtain rfl : value = .hash old := hold
      simp only [hsetWithTtl, execute, PageCommand.run, hkey, Store.put, if_true,
        Option.ite_none_left_eq_some, Option.some.injEq] at hslot
      exact ⟨mergeFields old items, hslot.2 ▸ rfl, fun _ _ htext => lookup_mergeFields htext⟩

/-- Which requests get past the checks. -/
theorem checkEdit_eq_ok_iff {loaded : Option Dto} :
    checkEdit postId sid loaded model = .ok post ↔
      loaded = some post ∧ post.getattr "author_id" = .ok (.value (.int sid)) ∧
        validateDuplicateAmendmentContents model post = .ok [] := by
  cases loaded with
  | none => simp [checkEdit]
  | some p =>
      constructor
      · intro h
        obtain ⟨authorId, hauthor, h⟩ := except_bind_eq_ok h
        by_cases howner : authorId = .value (.int sid)
        · rw [if_neg (not_not.mpr howner)] at h
          obtain ⟨errorDict, herrors, h⟩ := except_bind_eq_ok h
          cases errorDict with
          | nil =>
              cases h
              exact ⟨rfl, howner ▸ hauthor, herrors⟩
          | cons error errors => cases h
        · rw [if_pos howner] at h
          cases h
      · rintro ⟨hsome, hauthor, herrors⟩
        cases hsome
        simp [checkEdit, hauthor, herrors, bind, Except.bind]

/-- An amendment with a body is not written: the model has no attribute `body`. -/
theorem updatePost_body (h : givenText model.body ≠ none) (closed : Bool) :
    updatePost row model.title model.body closed = .error .compileError := by
  obtain ⟨b, hb⟩ := Option.ne_none_iff_exists'.mp h
  simp [updatePost, updateKw, hb, postAttributes]

/-- Another amendment is written as far as it is there and true. -/
theorem exists_updatePost (row : Row) (h : givenText model.body = none) :
    ∃ row', updatePost row model.title model.body (model.closed.getD false) = .ok row' ∧
      row' "title" = ((givenText model.title).map fun t => .value (.str t)).getD (row "title") ∧
      row' "body_text" = row "body_text" ∧
      row' "closed" = if model.closed = some true then .value (.bool true) else row "closed" := by
  have hgiven := model.nonempty
  rw [h] at hgiven
  have hclosed : ∀ {c : Option Bool}, c.getD false = true ↔ c = some true := by
    intro c
    rcases c with _ | _ | _ <;> simp
  cases htitle : givenText model.title with
  | some t =>
      by_cases hclose : model.closed = some true
      · simp [updatePost, updateKw, h, htitle, hclose, postAttributes]
      · have hopen := Bool.eq_false_iff.mpr (hclosed.not.mpr hclose)
        simp [updatePost, updateKw, h, htitle, hclose, hopen, postAttributes]
  | none =>
      have hclose : model.closed = some true := by simpa [htitle] using hgiven
      simp [updatePost, updateKw, h, htitle, hclose, postAttributes]

/-- The object after the assignments. -/
theorem exists_amendPost (model : PostAmendmentModel) (r : TypedResult .postResult) :
    ∃ a : TypedResult .postResult, amendPost model r.dto = .ok a.dto ∧
      a.dto.getattr "title" = textOr model.title (r.dto.getattr "title") ∧
      a.dto.getattr "body_text" = textOr model.body (r.dto.getattr "body_text") ∧
      a.dto.getattr "closed" =
        (model.closed.map fun c => .ok (.value (.bool c))).getD (r.dto.getattr "closed") ∧
      a.dto.getattr "flair" = r.dto.getattr "flair" := by
  have htext : ∀ new name, (name, Annotation.str) ∈ ResultType.postResult.annotations →
      ∃ s, textOr new (r.dto.getattr name) = .ok (.value (.str s)) := by
    intro new name hname
    unfold textOr
    cases givenText new with
    | some s => exact ⟨s, rfl⟩
    | none => exact r.exists_str hname
  have hbodyField : ("body_text", Annotation.str) ∈ ResultType.postResult.annotations := by
    decide
  have htitleField : ("title", Annotation.str) ∈ ResultType.postResult.annotations := by decide
  have hclosedField : ("closed", Annotation.bool) ∈ ResultType.postResult.annotations := by
    decide
  obtain ⟨bodyText, hbody⟩ := htext model.body "body_text" hbodyField
  obtain ⟨title, htitle⟩ := htext model.title "title" htitleField
  let texts := (r.assign "body_text" .str _ hbodyField (admits_str bodyText)).assign
    "title" .str _ htitleField (admits_str title)
  have hmade : amendPost model r.dto = match model.closed with
      | some c => .ok (("closed", .value (.bool c)) :: texts.dto)
      | none => .ok texts.dto := by
    simp only [amendPost, hbody, htitle]
    rfl
  rw [hbody, htitle, hmade]
  cases model.closed with
  | none =>
      refine ⟨texts, rfl, ?_⟩
      simp [texts, getattr_assign]
  | some c =>
      refine ⟨texts.assign "closed" .bool _ hclosedField (admits_bool c), rfl, ?_⟩
      simp [texts, getattr_assign]

/-- Numbers, texts, truth values and instants can be stored. -/
theorem exists_storedText {declared : Annotation} {v : Attr} (hadmits : declared.Admits v)
    (hplain : declared ∈ ([.int, .str, .bool, .datetime] : List Annotation)) :
    ∃ text, castCacheValue declared.fieldType v >>= encodeAttr = .ok text := by
  simp only [List.mem_cons, List.not_mem_nil, or_false] at hplain
  cases v with
  | datetime iso =>
      rcases hplain with rfl | rfl | rfl | rfl
      · cases hadmits
      · cases hadmits
      · cases hadmits
      · exact ⟨iso, rfl⟩
  | value v =>
      rcases hplain with rfl | rfl | rfl | rfl
      · cases v with
        | int i => exact ⟨toString i, rfl⟩
        | _ => cases hadmits
      · cases v with
        | str s => exact ⟨s, rfl⟩
        | _ => cases hadmits
      · cases v with
        | bool b => exact ⟨toString (if b then 1 else 0 : Int), rfl⟩
        | _ => cases hadmits
      · cases hadmits

/-- A typed post can be stored exactly if it has a flair. -/
theorem exists_storedItems_iff (a : TypedResult .postResult) :
    (∃ items, storedItems .postResult a.dto = .ok items) ↔
      ∃ s, a.dto.getattr "flair" = .ok (.value (.str s)) := by
  constructor
  · rintro ⟨items, hstored⟩
    obtain ⟨v, hv, hadmits⟩ := a.typed ("flair", .optionalStr) (by decide)
    have hflair : ("flair", FieldType.other) ∈ ResultType.postResult.cachedFields := by decide
    obtain ⟨_, _, hitem⟩ := exists_result_of_mem_mapM (storedItems_eq_ok hstored) hflair
    obtain ⟨_, v', w, hv', hcast, hencode⟩ := storedField_eq_ok hitem
    obtain rfl : v = v' := Except.ok.inj (hv.symm.trans hv')
    cases hcast
    cases v with
    | datetime iso => cases hadmits
    | value v =>
        cases v with
        | str s => exact ⟨s, hv⟩
        | none => cases hencode
        | _ => cases hadmits
  · rintro ⟨s, hs⟩
    have hfield : ∀ field ∈ ResultType.postResult.annotations,
        ∃ item, storedField a.dto (field.1, field.2.fieldType) = .ok item := by
      intro field hfield
      have hvalue : ∃ v text, a.dto.getattr field.1 = .ok v ∧
          castCacheValue field.2.fieldType v >>= encodeAttr = .ok text := by
        have hplain : ∀ field ∈ ResultType.postResult.annotations, field.1 = "flair" ∨
            field.2 ∈ ([.int, .str, .bool, .datetime] : List Annotation) := by decide
        rcases hplain field hfield with hflair | hplain
        · have hannotation := annotations_functional .postResult ("flair", .optionalStr)
            (by decide) field hfield hflair
          rw [hflair, hannotation]
          exact ⟨_, s, hs, rfl⟩
        · obtain ⟨v, hv, hadmits⟩ := a.typed field hfield
          obtain ⟨text, htext⟩ := exists_storedText hadmits hplain
          exact ⟨v, text, hv, htext⟩
      obtain ⟨v, text, hv, htext⟩ := hvalue
      obtain ⟨w, hw, hencode⟩ := except_bind_eq_ok htext
      exact ⟨(stripUnderscores field.1, text), by
        simp [storedField, cacheItem, hv, hw, hencode, bind, Except.bind]⟩
    have hloop : ∃ items, ResultType.postResult.fields.mapM (storedField a.dto) = .ok items := by
      rw [← annotations_fields]
      refine exists_mapM_eq_ok fun field hmem => ?_
      obtain ⟨declared, hdeclared, rfl⟩ := List.mem_map.mp hmem
      exact hfield declared hdeclared
    obtain ⟨items, hitems⟩ := hloop
    obtain ⟨mapping, hmapping, hencoded⟩ := mapM_bind_eq_ok_iff.mp hitems
    have hne : mapping ≠ [] := by
      rintro rfl
      have hlength := (mapM_eq_ok_iff.mp hmapping).length_eq
      exact absurd hlength (by decide)
    refine ⟨items, ?_⟩
    have hrepr : cacheRepr .postResult a.dto = .ok mapping := hmapping
    simp only [storedItems, hrepr, bind, Except.bind, encodeMapping, List.isEmpty_iff, hne,
      if_false]
    exact hencoded

theorem exists_jsonRepr (a : TypedResult .postResult) :
    ∃ content, jsonRepr .postResult a.dto = .ok content := by
  refine exists_mapM_eq_ok fun field hfield => ?_
  rw [← annotations_fields] at hfield
  obtain ⟨declared, hdeclared, rfl⟩ := List.mem_map.mp hfield
  obtain ⟨v, hv, _⟩ := a.typed declared hdeclared
  exact ⟨(stripUnderscores declared.1, v), by simp [hv, bind, Except.bind]⟩

/-- What is stored has the texts of the amended object's fields, and the response its
values. -/
theorem fields_of_writes {a : TypedResult .postResult} {items : List (String × String)}
    {content : List (String × Attr)} (hstored : storedItems .postResult a.dto = .ok items)
    (hcontent : jsonRepr .postResult a.dto = .ok content) :
    ∀ field ∈ amendedFields, ∃ v text, a.dto.getattr field.1 = .ok v ∧
      content.lookup field.1 = some v ∧ items.lookup field.1 = some text ∧
      castCacheValue field.2 v >>= encodeAttr = .ok text := by
  have hfields : ∀ field ∈ amendedFields, field ∈ ResultType.postResult.cachedFields ∧
      field.1 ∈ ResultType.postResult.fieldNames ∧ stripUnderscores field.1 = field.1 := by
    decide
  intro field hfield
  obtain ⟨hcached, hname, hstrip⟩ := hfields field hfield
  obtain ⟨v, hlookup, hv⟩ := lookup_jsonRepr hcontent (by decide) hname hstrip
  obtain ⟨text, htext, hencoded⟩ := lookup_storedItems hstored hcached hstrip hv
  exact ⟨v, text, hv, hlookup, htext, hencoded⟩

section
variable (config : CacheConfig) {loaded : Option (TypedResult .postResult)}

/-- A request that comes to its response. -/
theorem editLoaded_content {content : List (String × Attr)}
    (h : (editLoaded config postId sid row store (loaded.map TypedResult.dto) model).content =
      .ok content) :
    ∃ (post a : TypedResult .postResult) (items : List (String × String)) (row' : Row),
      loaded = some post ∧ EditAdmitted sid (ReadSite.post postId).key store model post.dto ∧
      amendPost model post.dto = .ok a.dto ∧ storedItems .postResult a.dto = .ok items ∧
      jsonRepr .postResult a.dto = .ok content ∧
      updatePost row model.title model.body (model.closed.getD false) = .ok row' ∧
      (hsetWithTtl store (ReadSite.post postId).key items config.ttlStrong).2 = none ∧
      (editLoaded config postId sid row store (loaded.map TypedResult.dto) model).row = row' ∧
      (editLoaded config postId sid row store (loaded.map TypedResult.dto) model).store =
        (hsetWithTtl store (ReadSite.post postId).key items config.ttlStrong).1 := by
  unfold editLoaded at h ⊢
  cases hcheck : checkEdit postId sid (loaded.map TypedResult.dto) model with
  | error e =>
      simp only [hcheck] at h
      cases h
  | ok dto =>
      obtain ⟨hloaded, howner, hfresh⟩ := checkEdit_eq_ok_iff.mp hcheck
      obtain ⟨post, rfl, rfl⟩ := Option.map_eq_some_iff.mp hloaded
      obtain ⟨a, hamended, _, _, _, hflair⟩ := exists_amendPost model post
      cases hupdate : updatePost row model.title model.body (model.closed.getD false) with
      | error e =>
          simp only [hcheck, hupdate] at h
          cases h
      | ok row' =>
          cases hstored : storedItems .postResult a.dto with
          | error e =>
              simp only [hcheck, hupdate, writeThrough, hamended, hstored] at h
              cases h
          | ok items =>
              simp only [hcheck, hupdate, writeThrough, hamended, hstored] at h ⊢
              rcases hwrite : hsetWithTtl store (ReadSite.post postId).key items
                config.ttlStrong with ⟨store', _ | e⟩
              · simp only [hwrite] at h ⊢
                have hnone : (hsetWithTtl store (ReadSite.post postId).key items
                    config.ttlStrong).2 = none := by rw [hwrite]
                refine ⟨post, a, items, row', rfl, ⟨howner, hfresh, ?_, ?_, ?_⟩, hamended,
                  hstored, h, rfl, hnone, rfl, by rw [hwrite]⟩
                · by_contra hbody
                  rw [updatePost_body hbody] at hupdate
                  cases hupdate
                · rw [← hflair]
                  exact (exists_storedItems_iff a).mp ⟨items, hstored⟩
                · exact (hsetWithTtl_snd_eq_none_iff items config.ttlStrong).mp hnone
              · simp only [hwrite] at h
                cases h

/-- The requests that come to their response. -/
theorem editLoaded_ok_iff :
    (∃ content, (editLoaded config postId sid row store (loaded.map TypedResult.dto)
      model).content = .ok content) ↔
      ∃ post, loaded = some post ∧
        EditAdmitted sid (ReadSite.post postId).key store model post.dto := by
  constructor
  · rintro ⟨content, h⟩
    obtain ⟨post, _, _, _, hloaded, hadmitted, _⟩ := editLoaded_content config h
    exact ⟨post, hloaded, hadmitted⟩
  · rintro ⟨post, rfl, hadmitted⟩
    have hcheck : checkEdit postId sid (some post.dto) model = .ok post.dto :=
      checkEdit_eq_ok_iff.mpr ⟨rfl, hadmitted.owner, hadmitted.fresh⟩
    obtain ⟨row', hupdate, _⟩ := exists_updatePost row hadmitted.noBody
    obtain ⟨a, hamended, _, _, _, hflair⟩ := exists_amendPost model post
    obtain ⟨items, hstored⟩ := (exists_storedItems_iff a).mpr (hflair ▸ hadmitted.flair)
    obtain ⟨content, hcontent⟩ := exists_jsonRepr a
    have hwrite := (hsetWithTtl_snd_eq_none_iff items config.ttlStrong).mpr hadmitted.hash
    refine ⟨content, ?_⟩
    simp only [editLoaded, Option.map_some, hcheck, hupdate, writeThrough, hamended, hstored]
    rcases hset : hsetWithTtl store (ReadSite.post postId).key items config.ttlStrong with
      ⟨store', e⟩
    rw [hset] at hwrite
    obtain rfl : e = none := hwrite
    exact hcontent

/-- The object that is stored and the row that is written agree exactly if they agreed in
what the amendment leaves alone, and no closed post is reopened. -/
theorem amended_eq_iff {post a : TypedResult .postResult} {row' : Row}
    (hnoBody : givenText model.body = none) (hamended : amendPost model post.dto = .ok a.dto)
    (hupdate : updatePost row model.title model.body (model.closed.getD false) = .ok row') :
    (∀ field ∈ amendedFields, a.dto.getattr field.1 = .ok (row' field.1)) ↔
      LeavesAgreeing model row post.dto := by
  obtain ⟨a', ha', htitle, hbody, hclosed, _⟩ := exists_amendPost model post
  obtain ⟨written, hwritten, htitleRow, hbodyRow, hclosedRow⟩ := exists_updatePost row hnoBody
  have hdto : a'.dto = a.dto := Except.ok.inj (ha'.symm.trans hamended)
  obtain rfl : written = row' := Except.ok.inj (hwritten.symm.trans hupdate)
  rw [hdto] at htitle hbody hclosed
  have hsameTitle : a.dto.getattr "title" = .ok (written "title") ↔
      (givenText model.title = none → post.dto.getattr "title" = .ok (row "title")) := by
    rw [htitle, htitleRow, textOr]
    cases givenText model.title <;> simp
  have hsameBody : a.dto.getattr "body_text" = .ok (written "body_text") ↔
      post.dto.getattr "body_text" = .ok (row "body_text") := by
    rw [hbody, hbodyRow, textOr, hnoBody]
  have hsameClosed : a.dto.getattr "closed" = .ok (written "closed") ↔
      (model.closed = none → post.dto.getattr "closed" = .ok (row "closed")) ∧
        (model.closed = some false → row "closed" = .value (.bool false)) := by
    rw [hclosed, hclosedRow]
    rcases model.closed with _ | _ | _ <;> simp [eq_comm]
  constructor
  · intro hsame
    obtain ⟨hkept, hreopened⟩ := hsameClosed.mp (hsame ("closed", .bool) (by decide))
    exact ⟨hsameTitle.mp (hsame ("title", .other) (by decide)),
      hsameBody.mp (hsame ("body_text", .other) (by decide)), hkept, hreopened⟩
  · intro hagree field hfield
    simp only [amendedFields, List.mem_cons, List.not_mem_nil, or_false] at hfield
    rcases hfield with rfl | rfl | rfl
    · exact hsameTitle.mpr hagree.title
    · exact hsameBody.mpr hagree.bodyText
    · exact hsameClosed.mpr ⟨hagree.closed, hagree.notReopened⟩

end

end

/-- What is handed to `JSONResponse` agrees with the row and the cache exactly if the object
agreed with the row in what the amendment leaves alone, and the amendment does not reopen a
post that is closed. -/
theorem content_iff (config : CacheConfig) (postId sid : Int) (row : Row) (store : Store)
    (loaded : Option (TypedResult .postResult)) (model : PostAmendmentModel) :
    (∀ content,
      (editLoaded config postId sid row store (loaded.map TypedResult.dto) model).content =
        .ok content →
      WritesThrough (ReadSite.post postId).key
        (editLoaded config postId sid row store (loaded.map TypedResult.dto) model).row
        (editLoaded config postId sid row store (loaded.map TypedResult.dto) model).store
        content) ↔
    ∀ post, loaded = some post →
      EditAdmitted sid (ReadSite.post postId).key store model post.dto →
      LeavesAgreeing model row post.dto := by
  constructor
  · intro hwrites post hloaded hadmitted
    obtain ⟨content, hok⟩ := (editLoaded_ok_iff config).mpr ⟨post, hloaded, hadmitted⟩
    obtain ⟨response, _⟩ := hwrites content hok
    obtain ⟨post', a, items, row', hloaded', _, hamended, hstored, hcontent, hupdate, _, hrow, _⟩ :=
      editLoaded_content config hok
    obtain rfl : post' = post := Option.some.inj (hloaded'.symm.trans hloaded)
    rw [hrow] at response
    refine (amended_eq_iff hadmitted.noBody hamended hupdate).mp fun field hfield => ?_
    obtain ⟨v, _, hv, hlookup, _⟩ := fields_of_writes hstored hcontent field hfield
    rw [hv, Option.some.inj (hlookup.symm.trans (response field hfield))]
  · intro hagrees content hok
    obtain ⟨post, a, items, row', hloaded, hadmitted, hamended, hstored, hcontent, hupdate, hwrite,
      hrow, hstore⟩ := editLoaded_content config hok
    have hsame := (amended_eq_iff hadmitted.noBody hamended hupdate).mpr
      (hagrees post hloaded hadmitted)
    rw [hrow, hstore]
    constructor
    · intro field hfield
      obtain ⟨v, _, hv, hlookup, _⟩ := fields_of_writes hstored hcontent field hfield
      rw [hlookup, Except.ok.inj (hv.symm.trans (hsame field hfield))]
    · intro slot hslot
      obtain ⟨merged, hvalue, hmerged⟩ := cached_of_hsetWithTtl hwrite hslot
      refine ⟨merged, hvalue, fun field hfield => ?_⟩
      obtain ⟨v, text, hv, _, htext, hencoded⟩ := fields_of_writes hstored hcontent field hfield
      obtain rfl : v = row' field.1 := Except.ok.inj (hv.symm.trans (hsame field hfield))
      exact ⟨text, hmerged _ _ htext, hencoded⟩

/-- The response of an object that can be stored is refused: it has an instant. -/
theorem jsonResponse_refused {post : Dto} {items : List (String × String)}
    {content : List (String × Attr)} (hstored : storedItems .postResult post = .ok items)
    (hcontent : jsonRepr .postResult post = .ok content) : jsonResponse content ≠ .ok () := by
  have hfield : ("time_posted", FieldType.datetime) ∈ ResultType.postResult.cachedFields := by
    decide
  obtain ⟨_, _, hitem⟩ := exists_result_of_mem_mapM (storedItems_eq_ok hstored) hfield
  obtain ⟨_, v, _, hv, hcast, _⟩ := storedField_eq_ok hitem
  have hname : "time_posted" ∈ ResultType.postResult.fieldNames := by decide
  obtain ⟨v', hlookup, hv'⟩ := lookup_jsonRepr hcontent (by decide) hname (by decide)
  obtain rfl : v = v' := Except.ok.inj (hv.symm.trans hv')
  cases v with
  | value v => cases hcast
  | datetime iso =>
      obtain ⟨front, back, rfl, _⟩ := List.lookup_eq_some_iff.mp hlookup
      intro hsent
      unfold jsonResponse at hsent
      rw [List.forM_eq_forM, List.forM_append, List.forM_cons] at hsent
      obtain ⟨_, _, hsent⟩ := except_bind_eq_ok hsent
      cases hsent

section
variable (config : CacheConfig) (postId sid : Int) (row : Row) (store : Store)
  (loaded : Except Exn (Option Dto)) (model : PostAmendmentModel)

/-- What is handed to `JSONResponse` is made of an object that has been stored. -/
theorem stored_of_writeThrough {post : Dto} {content : List (String × Attr)}
    (h : (writeThrough config postId row store model post).content = .ok content) :
    ∃ amended items, storedItems .postResult amended = .ok items ∧
      jsonRepr .postResult amended = .ok content := by
  unfold writeThrough at h
  split at h
  · cases h
  · rename_i amended _
    split at h
    · cases h
    · rename_i items hstored
      split at h
      · cases h
      · exact ⟨amended, items, hstored, h⟩

/-- No request succeeds. -/
theorem editPost_raises (content : List (String × Attr)) :
    ¬ (editPost config postId sid row store loaded model).Succeeds content := by
  rintro ⟨hcontent, hsent⟩
  have hrefused : ∀ row' post,
      (writeThrough config postId row' store model post).content ≠ .ok content := by
    intro row' post h
    obtain ⟨_, _, hstored, hrepr⟩ := stored_of_writeThrough config postId row' store model h
    exact jsonResponse_refused hstored hrepr hsent
  cases loaded with
  | error e => cases hcontent
  | ok found =>
      unfold editPost editLoaded at hcontent
      dsimp only at hcontent
      split at hcontent
      · cases hcontent
      · split at hcontent
        · cases hcontent
        · exact hrefused _ _ hcontent

/-- With replies of bytes a request does not come to its update. -/
theorem editPost_lookedUp {settings : CacheSettings} (hbytes : settings.decodeResponses = false)
    (h : LooksUp settings .mapping .postResult loaded) :
    ∃ e, editPost config postId sid row store loaded model = ⟨row, store, .error e⟩ := by
  cases loaded with
  | error e => exact ⟨e, rfl⟩
  | ok post =>
      cases post with
      | none => exact ⟨_, rfl⟩
      | some dto =>
          obtain ⟨hmem, _⟩ := h.bare hbytes (by decide) rfl
          exact absurd hmem (by decide)

end

end ResourceServer
end Tenjin
