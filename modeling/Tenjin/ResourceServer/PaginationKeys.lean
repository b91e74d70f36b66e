import Tenjin.Python.Separated
import Tenjin.ResourceAuxillary.Strings

/-!
# Keys of cached pages

`derive_pagination_key` of `cache_manager.py`, the two functions that read a key back, and
what a dirty page does to the versions of the resources.

* `deriveResource_of_key` and `deriveCursor_of_key` say what the two functions return.
* `codecSound_iff` — they return what the key was made of, and a dirty page gets a new key,
  only for a resource whose name is the text of its version.
-/

namespace Tenjin
namespace ResourceServer

open Python ResourceAuxillary

/-- The hash `PAGINATION_VERSION_MAP`.  Only `HINCRBY` writes to it, so it holds numbers. -/
abbrev VersionMap := String → Option Int

/-- The key of a page, from the version that is stored for the resource.  `str.join` does
not take bytes. -/
def paginationKey (decodeResponses : Bool) (stored : Option Int) (resourceName : String)
    (cursor : Int) (args : List String) : Except Exn String :=
  match stored with
  | none => .ok (pyJoin nameSeperator ("0" :: resourceName :: toString cursor :: args))
  | some n =>
      match clientReply decodeResponses (toString n) with
      | .bytes _ => .error .typeError
      | .str version =>
          .ok (pyJoin nameSeperator (version :: resourceName :: toString cursor :: args))

/-- `CacheManager.derive_pagination_key`. -/
def derivePaginationKey (decodeResponses : Bool) (versions : VersionMap)
    (resourceName : String) (cursor : Int) (args : List String) : Except Exn String :=
  paginationKey decodeResponses (versions resourceName) resourceName cursor args

/-- `CacheManager.derive_resource_from_pagination_key`: the first piece. -/
def deriveResourceFromPaginationKey (key : String) : String := (pySplit ':' key).headD ""

/-- `CacheManager.derive_cursor_from_pagination_key`: the third piece. -/
def deriveCursorFromPaginationKey (key : String) : Except Exn String :=
  match (pySplit ':' key)[2]? with
  | some piece => .ok piece
  | none => .error .indexError

/-- `CacheManager.update_cache_version`. -/
def updateCacheVersion (versions : VersionMap) (resourceName : String) : VersionMap :=
  fun name =>
    if name = resourceName then some ((versions name).getD 0 + 1) else versions name

/-- What `_fetch_paginated_resources` does when the page at `pageKey` is dirty. -/
def bumpDirtyPage (versions : VersionMap) (pageKey : String) : VersionMap :=
  updateCacheVersion versions (deriveResourceFromPaginationKey pageKey)

/-- The version as it stands in a key. -/
def versionText (stored : Option Int) : String := (stored.map toString).getD "0"

/-- The key is read back as what it was made of; and when the page is dirty, it gets a new
key, and no key of another resource changes. -/
def CodecSound (decodeResponses : Bool) (versions : VersionMap) (resourceName : String)
    (cursor : Int) (args : List String) : Prop :=
  ∃ key, derivePaginationKey decodeResponses versions resourceName cursor args = .ok key ∧
    deriveResourceFromPaginationKey key = resourceName ∧
    deriveCursorFromPaginationKey key = .ok (toString cursor) ∧
    (∃ key', derivePaginationKey decodeResponses (bumpDirtyPage versions key) resourceName
      cursor args = .ok key' ∧ key' ≠ key) ∧
    ∀ otherName, otherName ≠ resourceName → ∀ otherCursor otherArgs,
      derivePaginationKey decodeResponses (bumpDirtyPage versions key) otherName otherCursor
          otherArgs =
        derivePaginationKey decodeResponses versions otherName otherCursor otherArgs

/-- There is no colon in a version. -/
theorem pySplit_versionText (stored : Option Int) :
    pySplit ':' (versionText stored) = [versionText stored] := by
  cases stored with
  | none => rfl
  | some n => exact pySplit_of_not_mem (colon_not_mem_toString n)

theorem pySplit_cursor (cursor : Int) : pySplit ':' (toString cursor) = [toString cursor] :=
  pySplit_of_not_mem (colon_not_mem_toString cursor)

section
variable {decodeResponses : Bool} {stored : Option Int} {resourceName key : String}
  {cursor : Int} {args : List String}

/-- A key is derived when no version is stored or the client returns strings, and it is the
parts joined with colons. -/
theorem paginationKey_eq_ok_iff :
    paginationKey decodeResponses stored resourceName cursor args = .ok key ↔
      (stored = none ∨ decodeResponses = true) ∧
      key = pyJoin nameSeperator
        (versionText stored :: resourceName :: toString cursor :: args) := by
  cases stored with
  | none => simp [paginationKey, versionText, eq_comm]
  | some n =>
      cases decodeResponses with
      | false => simp [paginationKey, clientReply]
      | true => simp [paginationKey, clientReply, versionText, eq_comm]

theorem exists_paginationKey (resourceName : String) (cursor : Int) (args : List String)
    (h : stored = none ∨ decodeResponses = true) :
    ∃ key, paginationKey decodeResponses stored resourceName cursor args = .ok key :=
  ⟨_, paginationKey_eq_ok_iff.mpr ⟨h, rfl⟩⟩

/-- The pieces of a key are the version, the pieces of the resource name, the cursor and
the pieces of the arguments. -/
theorem pySplit_of_key
    (h : paginationKey decodeResponses stored resourceName cursor args = .ok key) :
    pySplit ':' key =
      versionText stored :: (pySplit ':' resourceName ++
        toString cursor :: args.flatMap (pySplit ':')) := by
  obtain ⟨_, rfl⟩ := paginationKey_eq_ok_iff.mp h
  show pySplit ':' (pyJoin (String.singleton ':') _) = _
  rw [pySplit_pyJoin _ (by simp), List.flatMap_cons, List.flatMap_cons, List.flatMap_cons,
    pySplit_versionText, pySplit_cursor]
  rfl

/-- The version is returned for the resource. -/
theorem deriveResource_of_key
    (h : paginationKey decodeResponses stored resourceName cursor args = .ok key) :
    deriveResourceFromPaginationKey key = versionText stored := by
  rw [deriveResourceFromPaginationKey, pySplit_of_key h, List.headD_cons]

/-- For a resource name with a colon, its second piece is returned for the cursor. -/
theorem deriveCursor_of_key
    (h : paginationKey decodeResponses stored resourceName cursor args = .ok key) :
    deriveCursorFromPaginationKey key =
      .ok ((pySplit ':' resourceName)[1]?.getD (toString cursor)) := by
  rw [deriveCursorFromPaginationKey, pySplit_of_key h, List.getElem?_cons_succ]
  cases hpieces : pySplit ':' resourceName with
  | nil => exact absurd hpieces (pySplit_ne_nil _ _)
  | cons front rest =>
      cases rest with
      | nil => rfl
      | cons second rest => rfl

end

/-- Keys that are derived with different versions are different. -/
theorem paginationKey_ne_of_version {decodeResponses : Bool} {stored stored' : Option Int}
    {resourceName key key' : String} {cursor : Int} {args : List String}
    (h : paginationKey decodeResponses stored resourceName cursor args = .ok key)
    (h' : paginationKey decodeResponses stored' resourceName cursor args = .ok key')
    (hversion : versionText stored' ≠ versionText stored) : key' ≠ key := by
  rintro rfl
  rw [← deriveResource_of_key h, ← deriveResource_of_key h'] at hversion
  exact hversion rfl

/-- A bump changes the text of the version. -/
theorem versionText_bump_ne (stored : Option Int) :
    versionText (some (stored.getD 0 + 1)) ≠ versionText stored := by
  have hzero : ("0" : String) = toString (0 : Int) := rfl
  cases stored with
  | none =>
      show toString (0 + 1 : Int) ≠ "0"
      rw [hzero, ne_eq, toString_inj]
      omega
  | some n =>
      show toString (n + 1) ≠ toString n
      rw [ne_eq, toString_inj]
      omega

/-- Keys are read back, and dirty pages get new keys, exactly when the client returns
strings and the resource is named like its own version. -/
theorem codecSound_iff (decodeResponses : Bool) (versions : VersionMap)
    (resourceName : String) (cursor : Int) (args : List String) :
    CodecSound decodeResponses versions resourceName cursor args ↔
      decodeResponses = true ∧ resourceName = versionText (versions resourceName) := by
  constructor
  · rintro ⟨key, hkey, hresource, _, ⟨key', hkey', _⟩, _⟩
    have hname : resourceName = versionText (versions resourceName) := by
      rw [← deriveResource_of_key hkey, hresource]
    -- the resource has a stored version after the bump, which only a string joins
    have hbumped : bumpDirtyPage versions key resourceName ≠ none := by
      simp [bumpDirtyPage, updateCacheVersion, hresource]
    have hclient := (paginationKey_eq_ok_iff.mp hkey').1
    exact ⟨hclient.resolve_left hbumped, hname⟩
  · rintro ⟨rfl, hname⟩
    obtain ⟨key, hkey⟩ : ∃ key, derivePaginationKey true versions resourceName cursor args =
        .ok key := exists_paginationKey _ _ _ (.inr rfl)
    have hresource : deriveResourceFromPaginationKey key = resourceName := by
      rw [deriveResource_of_key hkey, ← hname]
    have hpiece : pySplit ':' resourceName = [resourceName] := by
      rw [hname, pySplit_versionText]
    have hbumped : bumpDirtyPage versions key resourceName =
        some ((versions resourceName).getD 0 + 1) := by
      simp [bumpDirtyPage, updateCacheVersion, hresource]
    refine ⟨key, hkey, hresource, ?_, ?_, ?_⟩
    · rw [deriveCursor_of_key hkey, hpiece]
      rfl
    · obtain ⟨key', hkey'⟩ : ∃ key', derivePaginationKey true (bumpDirtyPage versions key)
          resourceName cursor args = .ok key' := exists_paginationKey _ _ _ (.inr rfl)
      refine ⟨key', hkey', paginationKey_ne_of_version hkey hkey' ?_⟩
      rw [hbumped]
      exact versionText_bump_ne _
    · intro otherName hother otherCursor otherArgs
      have hsame : bumpDirtyPage versions key otherName = versions otherName := by
        simp [bumpDirtyPage, updateCacheVersion, hresource, hother]
      rw [derivePaginationKey, derivePaginationKey, hsame]

/-- The first page of the admins of forum 5: the version is taken for the resource and the
forum for the cursor. -/
theorem forumAdmins_not_codecSound :
    ¬ CodecSound true (fun _ => none) "forum_admins:5" 0 [] ∧
    deriveResourceFromPaginationKey "0:forum_admins:5:0" = "0" ∧
    deriveCursorFromPaginationKey "0:forum_admins:5:0" = .ok "5" := by
  refine ⟨fun ⟨key, hkey, hresource, _⟩ => ?_, by decide, by decide⟩
  rw [deriveResource_of_key hkey] at hresource
  exact absurd hresource (by decide)

end ResourceServer
end Tenjin
