import Mathlib.Data.List.Induction
import Mathlib.Data.List.Nodup

/-!
# Dictionaries that are built item by item

An assignment keeps the place of a key that is there, and puts a new key at the end.

* `grouped` collects the values of each key: a key has the values that come with it, in
  order, and a key that comes with none is not there (`lookup_grouped`).
* `dictOf` keeps the last value of each key: it has all the items exactly if no key comes
  twice (`dictOf_perm_iff`).
-/

namespace Tenjin
namespace Foundation

variable {κ β : Type*} [DecidableEq κ]

/-- The value of a key becomes what `f` makes of the value that it has, if any. -/
def updateItem (k : κ) (f : Option β → β) : List (κ × β) → List (κ × β)
  | [] => [(k, f none)]
  | item :: items =>
      if item.1 = k then (k, f (some item.2)) :: items else item :: updateItem k f items

/-- Each key with the values that come with it. -/
def grouped (pairs : List (κ × β)) : List (κ × List β) :=
  pairs.foldl (fun groups p => updateItem p.1 (fun old => old.getD [] ++ [p.2]) groups) []

/-- The values that come with a key. -/
def valuesOf (pairs : List (κ × β)) (k : κ) : List β :=
  (pairs.filter fun p => p.1 = k).map Prod.snd

/-- Each key with the last value that comes with it. -/
def dictOf (pairs : List (κ × β)) : List (κ × β) :=
  pairs.foldl (fun dict p => updateItem p.1 (fun _ => p.2) dict) []

variable {k : κ} {f : Option β → β} {items : List (κ × β)}

theorem lookup_updateItem (k' : κ) :
    (updateItem k f items).lookup k' =
      if k' = k then some (f (items.lookup k)) else items.lookup k' := by
  induction items with
  | nil =>
      by_cases h : k' = k
      · simp [updateItem, h]
      · simp [updateItem, List.lookup_cons, beq_eq_false_iff_ne.mpr h, h]
  | cons item items ih =>
      obtain ⟨key, v⟩ := item
      by_cases hkey : key = k
      · subst hkey
        by_cases h : k' = key
        · simp [updateItem, h]
        · simp [updateItem, List.lookup_cons, beq_eq_false_iff_ne.mpr h, h]
      · have hne : (k == key) = false := beq_eq_false_iff_ne.mpr (Ne.symm hkey)
        simp only [updateItem, hkey, if_false, List.lookup_cons, ih, hne]
        by_cases h : k' = key
        · subst h
          simp [hkey]
        · simp [beq_eq_false_iff_ne.mpr h]

theorem keys_updateItem :
    (updateItem k f items).map Prod.fst =
      if k ∈ items.map Prod.fst then items.map Prod.fst else items.map Prod.fst ++ [k] := by
  induction items with
  | nil => rfl
  | cons item items ih =>
      by_cases hkey : item.1 = k
      · simp [updateItem, hkey]
      · simp only [updateItem, hkey, if_false, List.map_cons, ih, List.mem_cons,
          Ne.symm hkey, false_or]
        split <;> rfl

/-- A new key comes at the end. -/
theorem updateItem_of_not_mem (h : k ∉ items.map Prod.fst) :
    updateItem k f items = items ++ [(k, f none)] := by
  induction items with
  | nil => rfl
  | cons item items ih =>
      rw [List.map_cons, List.mem_cons, not_or] at h
      rw [updateItem, if_neg (Ne.symm h.1), ih h.2, List.cons_append]

variable {pairs : List (κ × β)}

theorem valuesOf_append (pairs later : List (κ × β)) (k : κ) :
    valuesOf (pairs ++ later) k = valuesOf pairs k ++ valuesOf later k := by
  unfold valuesOf
  rw [List.filter_append, List.map_append]

theorem valuesOf_concat (pairs : List (κ × β)) (p : κ × β) (k : κ) :
    valuesOf (pairs ++ [p]) k =
      if k = p.1 then valuesOf pairs k ++ [p.2] else valuesOf pairs k := by
  rw [valuesOf_append]
  by_cases h : k = p.1
  · simp [valuesOf, h]
  · simp [valuesOf, h, Ne.symm h]

/-- The group of a key. -/
theorem lookup_grouped (pairs : List (κ × β)) (k : κ) :
    (grouped pairs).lookup k =
      if valuesOf pairs k = [] then none else some (valuesOf pairs k) := by
  induction pairs using List.reverseRecOn with
  | nil => rfl
  | append_singleton pairs p ih =>
      have hstep : grouped (pairs ++ [p]) =
          updateItem p.1 (fun old => old.getD [] ++ [p.2]) (grouped pairs) := by
        unfold grouped
        rw [List.foldl_concat]
      rw [hstep, lookup_updateItem, valuesOf_concat]
      by_cases hk : k = p.1
      · subst hk
        have hgroup : ((grouped pairs).lookup p.1).getD [] = valuesOf pairs p.1 := by
          rw [ih]
          split
          · rename_i hnil
            rw [hnil]
            rfl
          · rfl
        simp [hgroup]
      · simp only [hk, if_false, ih]

/-- Where rows are grouped by one of their columns. -/
theorem valuesOf_map {α : Type*} (key : α → κ) (rows : List α) (k : κ) :
    valuesOf (rows.map fun row => (key row, row)) k = rows.filter fun row => key row = k := by
  have hsnd : (Prod.snd ∘ fun row => (key row, row)) = id := rfl
  unfold valuesOf
  rw [List.filter_map, List.map_map, hsnd, List.map_id]
  rfl

/-- Where each row gives some values for its column. -/
theorem valuesOf_flatMap {α : Type*} (rows : List α) (key : α → κ) (values : α → List β)
    (k : κ) :
    valuesOf (rows.flatMap fun row => (values row).map (Prod.mk (key row))) k =
      (rows.filter fun row => key row = k).flatMap values := by
  have hrow : ∀ row, valuesOf ((values row).map (Prod.mk (key row))) k =
      if key row = k then values row else [] := by
    intro row
    by_cases h : key row = k
    · simp [valuesOf, List.filter_map, Function.comp_def, h]
    · simp [valuesOf, List.filter_map, Function.comp_def, h]
  induction rows with
  | nil => rfl
  | cons row rows ih =>
      rw [List.flatMap_cons, valuesOf_append, ih, hrow, List.filter_cons]
      by_cases h : key row = k
      · simp [h]
      · simp [h]

theorem dictOf_concat (pairs : List (κ × β)) (p : κ × β) :
    dictOf (pairs ++ [p]) = updateItem p.1 (fun _ => p.2) (dictOf pairs) := by
  unfold dictOf
  rw [List.foldl_concat]

theorem dictOf_keys_nodup (pairs : List (κ × β)) : ((dictOf pairs).map Prod.fst).Nodup := by
  induction pairs using List.reverseRecOn with
  | nil => exact .nil
  | append_singleton pairs p ih =>
      rw [dictOf_concat, keys_updateItem]
      split
      · exact ih
      · rename_i hnew
        exact List.nodup_append.mpr ⟨ih, List.nodup_singleton _, by
          rintro k hk _ hp rfl
          exact hnew (List.mem_singleton.mp hp ▸ hk)⟩

/-- Where no key comes twice, the items stay as they are. -/
theorem dictOf_eq_self (h : (pairs.map Prod.fst).Nodup) : dictOf pairs = pairs := by
  induction pairs using List.reverseRecOn with
  | nil => rfl
  | append_singleton pairs p ih =>
      rw [List.map_append, List.nodup_append] at h
      rw [dictOf_concat, ih h.1]
      refine updateItem_of_not_mem fun hmem => ?_
      exact h.2.2 _ hmem _ (List.mem_singleton_self _) rfl

/-- All items are kept exactly if no key comes twice. -/
theorem dictOf_perm_iff : (dictOf pairs).Perm pairs ↔ (pairs.map Prod.fst).Nodup := by
  constructor
  · intro h
    exact (h.map Prod.fst).nodup_iff.mp (dictOf_keys_nodup pairs)
  · intro h
    rw [dictOf_eq_self h]

end Foundation
end Tenjin
