import Mathlib.Algebra.BigOperators.Group.List.Basic
import Mathlib.Algebra.Ring.Int.Defs
import Mathlib.Data.List.Perm.Basic

/-!
# Tallies

A tally holds a number under each of finitely many keys and is changed by increments; a
key that it does not hold counts as zero.  It is the hash of counters of a key-value store,
and the store is a family of them.

* `Tally.value_incr` — an increment changes the number of its key alone.
* `Tallies.value_addAll` — after a list of increments each number has grown by their total.
* `Tallies.has_addAll_iff` — increments create exactly the keys that they name.
* `Tallies.value_take` — what is taken out of one tally are all of its numbers.
-/

namespace Tenjin
namespace Foundation

variable {κ : Type*} [DecidableEq κ]

/-- The sum of the amounts for one key. -/
def total (k : κ) (amounts : List (κ × Int)) : Int :=
  ((amounts.filter fun amount => amount.1 = k).map Prod.snd).sum

@[simp] theorem total_nil (k : κ) : total k ([] : List (κ × Int)) = 0 := rfl

theorem total_cons (k : κ) (amount : κ × Int) (amounts : List (κ × Int)) :
    total k (amount :: amounts) = (if amount.1 = k then amount.2 else 0) + total k amounts := by
  by_cases h : amount.1 = k <;> simp [total, h]

theorem total_append (k : κ) (amounts amounts' : List (κ × Int)) :
    total k (amounts ++ amounts') = total k amounts + total k amounts' := by
  simp [total]

theorem total_perm {k : κ} {amounts amounts' : List (κ × Int)} (h : amounts.Perm amounts') :
    total k amounts = total k amounts' :=
  ((h.filter _).map _).sum_eq

/-- A key that no amount is for has the total zero. -/
theorem total_eq_zero_of_not_mem {k : κ} {amounts : List (κ × Int)}
    (h : k ∉ amounts.map Prod.fst) : total k amounts = 0 := by
  have hnone : (amounts.filter fun amount => amount.1 = k) = [] := by
    rw [List.filter_eq_nil_iff]
    intro amount hmem
    simp only [decide_eq_true_eq]
    rintro rfl
    exact h (List.mem_map_of_mem hmem)
  simp [total, hnone]

/-- The total of distinct keys, each with one amount. -/
theorem total_map_of_nodup {α : Type*} [DecidableEq α] {key : α → κ}
    (hkey : Function.Injective key) (amount : α → Int) {xs : List α} (hnodup : xs.Nodup)
    (x : α) :
    total (key x) (xs.map fun y => (key y, amount y)) = if x ∈ xs then amount x else 0 := by
  induction xs with
  | nil => simp
  | cons y ys ih =>
      obtain ⟨hnot, hys⟩ := List.nodup_cons.mp hnodup
      rw [List.map_cons, total_cons, ih hys]
      by_cases hy : y = x
      · subst hy
        simp [hnot]
      · have hne : key y ≠ key x := fun h => hy (hkey h)
        simp [hne, Ne.symm hy]

/-- The entries after an increment of one key. -/
def incrEntries (k : κ) (delta : Int) : List (κ × Int) → List (κ × Int)
  | [] => [(k, delta)]
  | (j, v) :: entries =>
      if j = k then (k, v + delta) :: entries else (j, v) :: incrEntries k delta entries

theorem mem_keys_incrEntries {k j : κ} {delta : Int} {entries : List (κ × Int)} :
    j ∈ (incrEntries k delta entries).map Prod.fst ↔ j = k ∨ j ∈ entries.map Prod.fst := by
  induction entries with
  | nil => simp [incrEntries]
  | cons entry entries ih =>
      obtain ⟨i, v⟩ := entry
      by_cases h : i = k
      · subst h
        simp [incrEntries]
      · simp only [incrEntries, h, if_false, List.map_cons, List.mem_cons, ih]
        tauto

theorem incrEntries_nodup {k : κ} {delta : Int} {entries : List (κ × Int)}
    (h : (entries.map Prod.fst).Nodup) :
    ((incrEntries k delta entries).map Prod.fst).Nodup := by
  induction entries with
  | nil => simp [incrEntries]
  | cons entry entries ih =>
      obtain ⟨i, v⟩ := entry
      obtain ⟨hnot, hrest⟩ := List.nodup_cons.mp h
      by_cases hi : i = k
      · subst hi
        simpa [incrEntries] using h
      · simp only [incrEntries, hi, if_false, List.map_cons, List.nodup_cons]
        refine ⟨fun hmem => ?_, ih hrest⟩
        rcases mem_keys_incrEntries.mp hmem with heq | hold
        · exact hi heq
        · exact hnot hold

theorem total_incrEntries (k j : κ) (delta : Int) (entries : List (κ × Int)) :
    total j (incrEntries k delta entries) =
      total j entries + if k = j then delta else 0 := by
  induction entries with
  | nil => simp [incrEntries, total_cons]
  | cons entry entries ih =>
      obtain ⟨i, v⟩ := entry
      by_cases h : i = k
      · subst h
        by_cases hj : i = j <;> simp [incrEntries, total_cons, hj]
        omega
      · simp only [incrEntries, h, if_false, total_cons, ih]
        omega

/-- A number under each of finitely many keys. -/
structure Tally (κ : Type*) where
  entries : List (κ × Int)
  keys_nodup : (entries.map Prod.fst).Nodup

namespace Tally

/-- The tally without keys. -/
def empty : Tally κ := ⟨[], List.nodup_nil⟩

/-- The number under a key. -/
def get? (t : Tally κ) (k : κ) : Option Int := t.entries.lookup k

/-- The number under a key, zero where there is none. -/
def value (t : Tally κ) (k : κ) : Int := total k t.entries

/-- Add to the number under a key, which is created when it is missing. -/
def incr (t : Tally κ) (k : κ) (delta : Int) : Tally κ :=
  ⟨incrEntries k delta t.entries, incrEntries_nodup t.keys_nodup⟩

theorem get?_ne_none_iff (t : Tally κ) (k : κ) :
    t.get? k ≠ none ↔ k ∈ t.entries.map Prod.fst := by
  -- a lookup stops at the first entry of its key
  unfold get?
  induction t.entries with
  | nil => simp
  | cons entry entries ih =>
      obtain ⟨j, v⟩ := entry
      by_cases h : k = j
      · subst h
        simp
      · have hbeq : (k == j) = false := by simpa using h
        simp only [List.lookup_cons, hbeq, ih, List.map_cons, List.mem_cons, h, false_or]

@[simp] theorem value_empty (k : κ) : (empty : Tally κ).value k = 0 := rfl

@[simp] theorem get?_empty (k : κ) : (empty : Tally κ).get? k = none := rfl

theorem value_incr (t : Tally κ) (k j : κ) (delta : Int) :
    (t.incr k delta).value j = t.value j + if k = j then delta else 0 :=
  total_incrEntries k j delta t.entries

theorem get?_incr_ne_none_iff (t : Tally κ) (k j : κ) (delta : Int) :
    (t.incr k delta).get? j ≠ none ↔ j = k ∨ t.get? j ≠ none := by
  rw [get?_ne_none_iff, get?_ne_none_iff]
  exact mem_keys_incrEntries

end Tally

/-- A tally under each name. -/
abbrev Tallies (γ κ : Type*) := γ → Tally κ

namespace Tallies

variable {γ : Type*}

/-- No tally holds a key. -/
def empty : Tallies γ κ := fun _ => Tally.empty

/-- The number under a key of one tally. -/
def value (t : Tallies γ κ) (g : γ) (k : κ) : Int := (t g).value k

/-- One tally holds a key. -/
def Has (t : Tallies γ κ) (g : γ) (k : κ) : Prop := (t g).get? k ≠ none

@[simp] theorem value_empty (g : γ) (k : κ) : (empty : Tallies γ κ).value g k = 0 := rfl

@[simp] theorem not_has_empty (g : γ) (k : κ) : ¬ (empty : Tallies γ κ).Has g k :=
  fun h => h rfl

variable [DecidableEq γ]

/-- Add to the number under a key of one tally. -/
def incr (t : Tallies γ κ) (g : γ) (k : κ) (delta : Int) : Tallies γ κ :=
  Function.update t g ((t g).incr k delta)

/-- A list of increments, each for a name and a key. -/
def addAll (t : Tallies γ κ) (amounts : List ((γ × κ) × Int)) : Tallies γ κ :=
  amounts.foldl (fun t amount => t.incr amount.1.1 amount.1.2 amount.2) t

/-- Take all keys out of one tally. -/
def take (t : Tallies γ κ) (g : γ) : Tallies γ κ :=
  Function.update t g Tally.empty

theorem value_incr (t : Tallies γ κ) (g h : γ) (k j : κ) (delta : Int) :
    (t.incr g k delta).value h j = t.value h j + if (g, k) = (h, j) then delta else 0 := by
  by_cases hg : g = h
  · subst hg
    simp [value, incr, Tally.value_incr]
  · simp [value, incr, Function.update_of_ne (Ne.symm hg), hg]

theorem has_incr_iff (t : Tallies γ κ) (g h : γ) (k j : κ) (delta : Int) :
    (t.incr g k delta).Has h j ↔ (h, j) = (g, k) ∨ t.Has h j := by
  by_cases hg : h = g
  · subst hg
    simp [Has, incr, Tally.get?_incr_ne_none_iff]
  · simp [Has, incr, hg]

@[simp] theorem addAll_nil (t : Tallies γ κ) : t.addAll [] = t := rfl

theorem addAll_cons (t : Tallies γ κ) (amount : (γ × κ) × Int)
    (amounts : List ((γ × κ) × Int)) :
    t.addAll (amount :: amounts) = (t.incr amount.1.1 amount.1.2 amount.2).addAll amounts :=
  rfl

theorem addAll_append (t : Tallies γ κ) (amounts amounts' : List ((γ × κ) × Int)) :
    t.addAll (amounts ++ amounts') = (t.addAll amounts).addAll amounts' := by
  simp [addAll]

/-- After a list of increments each number has grown by their total. -/
theorem value_addAll (t : Tallies γ κ) (amounts : List ((γ × κ) × Int)) (g : γ) (k : κ) :
    (t.addAll amounts).value g k = t.value g k + total (g, k) amounts := by
  induction amounts generalizing t with
  | nil => simp
  | cons amount amounts ih =>
      rw [addAll_cons, ih, value_incr, total_cons]
      exact add_assoc ..

/-- Increments create exactly the keys that they name. -/
theorem has_addAll_iff (t : Tallies γ κ) (amounts : List ((γ × κ) × Int)) (g : γ) (k : κ) :
    (t.addAll amounts).Has g k ↔ t.Has g k ∨ (g, k) ∈ amounts.map Prod.fst := by
  induction amounts generalizing t with
  | nil => simp
  | cons amount amounts ih =>
      rw [addAll_cons, ih, has_incr_iff, List.map_cons, List.mem_cons]
      tauto

/-- The entries of one tally as increments of the family. -/
def amountsOf (g : γ) (entries : List (κ × Int)) : List ((γ × κ) × Int) :=
  entries.map fun entry => ((g, entry.1), entry.2)

theorem total_amountsOf (g h : γ) (k : κ) (entries : List (κ × Int)) :
    total (h, k) (amountsOf g entries) = if g = h then total k entries else 0 := by
  by_cases hg : g = h
  · subst hg
    induction entries with
    | nil => simp [amountsOf]
    | cons entry entries ih =>
        have htail : amountsOf g (entry :: entries) =
          ((g, entry.1), entry.2) :: amountsOf g entries := rfl
        rw [htail, total_cons, ih]
        simp [total_cons]
  · rw [if_neg hg]
    apply total_eq_zero_of_not_mem
    simp [amountsOf, hg]

omit [DecidableEq κ] [DecidableEq γ] in
theorem mem_amountsOf {g h : γ} {k : κ} {entries : List (κ × Int)} :
    (h, k) ∈ (amountsOf g entries).map Prod.fst ↔ h = g ∧ k ∈ entries.map Prod.fst := by
  simp only [amountsOf, List.map_map, List.mem_map, Function.comp_apply, Prod.mk.injEq]
  constructor
  · rintro ⟨entry, hmem, rfl, rfl⟩
    exact ⟨rfl, entry, hmem, rfl⟩
  · rintro ⟨rfl, entry, hmem, rfl⟩
    exact ⟨entry, hmem, rfl, rfl⟩

/-- What is taken out of one tally are all of its numbers. -/
theorem value_take (t : Tallies γ κ) (g h : γ) (k : κ) :
    (t.take g).value h k + total (h, k) (amountsOf g (t g).entries) = t.value h k := by
  rw [total_amountsOf]
  by_cases hg : g = h
  · subst hg
    have hnone : (t.take g).value g k = 0 := by
      simp [value, take]
    rw [hnone, if_pos rfl, zero_add]
    rfl
  · simp [value, take, Function.update_of_ne (Ne.symm hg), hg]

theorem has_of_has_take {t : Tallies γ κ} {g h : γ} {k : κ} (hk : (t.take g).Has h k) :
    t.Has h k := by
  by_cases hg : h = g
  · subst hg
    simp [Has, take] at hk
  · simpa [Has, take, Function.update_of_ne hg] using hk

end Tallies

end Foundation
end Tenjin
