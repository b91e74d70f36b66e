import Mathlib.Data.List.Nodup
import Mathlib.Data.List.Perm.Basic

/-!
# A window that is trimmed by position and a pool that evicts by choice

Two containers take the same elements and are bounded in different ways: the window keeps
the last elements that were appended to it, the pool loses one element of somebody's
choice.  `push_sameElements_iff` says when one more element leaves them with the same
content.
-/

namespace Tenjin
namespace Foundation

variable {α : Type*}

/-- The two lists hold the same elements. -/
def SameElements (xs ys : List α) : Prop := ∀ a, a ∈ xs ↔ a ∈ ys

/-- Lists without repetitions that hold the same elements are equally long. -/
theorem SameElements.length_eq {xs ys : List α} (h : SameElements xs ys)
    (hxs : xs.Nodup) (hys : ys.Nodup) : xs.length = ys.length :=
  ((List.perm_ext_iff_of_nodup hxs hys).mpr h).length_eq

/-- A new element at the end is no repetition. -/
theorem nodup_append_singleton {xs : List α} {a : α} (hxs : xs.Nodup) (ha : a ∉ xs) :
    (xs ++ [a]).Nodup := by
  rw [← List.concat_eq_append]
  exact hxs.concat ha

/-- A permutation of one side changes nothing. -/
theorem sameElements_perm_iff {xs ys ys' : List α} (h : ys.Perm ys') :
    SameElements xs ys ↔ SameElements xs ys' := by
  constructor
  · intro hsame a
    rw [← h.mem_iff]
    exact hsame a
  · intro hsame a
    rw [h.mem_iff]
    exact hsame a

/-- A new element on both sides changes nothing. -/
theorem sameElements_cons_append_iff {a : α} {xs ys : List α} (hxs : a ∉ xs) (hys : a ∉ ys) :
    SameElements (a :: xs) (ys ++ [a]) ↔ SameElements xs ys := by
  constructor
  · intro h b
    have hb := h b
    simp only [List.mem_cons, List.mem_append, List.not_mem_nil, or_false] at hb
    by_cases hba : b = a
    · subst hba
      exact iff_of_false hxs hys
    · simpa [hba] using hb
  · intro h b
    have hb := h b
    simp only [List.mem_cons, List.mem_append, List.not_mem_nil, or_false]
    rw [hb, or_comm]

/-- The first elements are all of them exactly when there are no more. -/
theorem take_sameElements_iff {xs : List α} (hxs : xs.Nodup) (n : ℕ) :
    SameElements (xs.take n) xs ↔ xs.length ≤ n := by
  constructor
  · intro h
    have hlength := h.length_eq ((List.take_sublist n xs).nodup hxs) hxs
    rw [List.length_take] at hlength
    omega
  · intro hle a
    rw [List.take_of_length_le hle]

/-- Trimming a list only if it is too long is trimming it. -/
theorem ite_take_eq_take (n : ℕ) (xs : List α) :
    (if n < xs.length then xs.take n else xs) = xs.take n := by
  split
  · rfl
  · exact (List.take_of_length_le (by omega)).symm

/-- Append an element and keep the last `capacity` elements. -/
def push (capacity : ℕ) (window : List α) (a : α) : List α :=
  let longer := window ++ [a]
  if capacity < longer.length then longer.drop (longer.length - capacity) else longer

theorem push_of_room {capacity : ℕ} {window : List α} (a : α)
    (hroom : window.length < capacity) : push capacity window a = window ++ [a] := by
  simp only [push, List.length_append, List.length_singleton]
  rw [if_neg (by omega)]

theorem push_of_full {capacity : ℕ} {window : List α} (a : α)
    (hfull : capacity ≤ window.length) :
    push capacity window a = (window ++ [a]).drop (window.length + 1 - capacity) := by
  simp only [push, List.length_append, List.length_singleton]
  rw [if_pos (by omega)]

/-- Reading the entries of a window commutes with a push. -/
theorem map_push {β : Type*} (f : α → β) (capacity : ℕ) (window : List α) (a : α) :
    (push capacity window a).map f = push capacity (window.map f) (f a) := by
  simp only [push, List.length_append, List.length_map, List.length_singleton]
  split
  · rw [List.map_drop, List.map_append, List.map_singleton]
  · rw [List.map_append, List.map_singleton]

theorem push_subset {capacity : ℕ} {window : List α} {a b : α}
    (h : b ∈ push capacity window a) : b ∈ window ∨ b = a := by
  have hmem : b ∈ window ++ [a] := by
    unfold push at h
    dsimp only at h
    split at h
    · exact List.mem_of_mem_drop h
    · exact h
  simpa using hmem

theorem push_nodup {capacity : ℕ} {window : List α} {a : α} (hw : window.Nodup)
    (ha : a ∉ window) : (push capacity window a).Nodup := by
  have hlonger : (window ++ [a]).Nodup := nodup_append_singleton hw ha
  unfold push
  dsimp only
  split
  · exact (List.drop_sublist _ _).nodup hlonger
  · exact hlonger

section
variable [DecidableEq α]

/-- Add an element, and take out the victim when the capacity is exceeded. -/
def insertEvicting (capacity : ℕ) (pool : List α) (a victim : α) : List α :=
  let larger := pool ++ [a]
  if capacity < larger.length then larger.filter (· ≠ victim) else larger

theorem insertEvicting_of_room {capacity : ℕ} {pool : List α} (a victim : α)
    (hroom : pool.length < capacity) : insertEvicting capacity pool a victim = pool ++ [a] := by
  simp only [insertEvicting, List.length_append, List.length_singleton]
  rw [if_neg (by omega)]

theorem insertEvicting_of_full {capacity : ℕ} {pool : List α} {a victim : α}
    (hfull : capacity ≤ pool.length) (hne : a ≠ victim) :
    insertEvicting capacity pool a victim = pool.filter (· ≠ victim) ++ [a] := by
  simp only [insertEvicting, List.length_append, List.length_singleton]
  rw [if_pos (by omega), List.filter_append]
  simp [hne]

/-- Taking out one of several different elements makes the list shorter by one. -/
theorem length_filter_ne {xs : List α} (hxs : xs.Nodup) {a : α} (ha : a ∈ xs) :
    (xs.filter (· ≠ a)).length + 1 = xs.length := by
  have herase : xs.filter (· ≠ a) = xs.erase a := by
    rw [List.Nodup.erase_eq_filter hxs]
    apply List.filter_congr
    intro b _
    by_cases hba : b = a <;> simp [hba]
  rw [herase, List.length_erase_of_mem ha]
  have hpos := List.length_pos_of_mem ha
  omega

/-- When the window loses its first element and the pool its victim, they keep the same
content exactly when the two are the same. -/
theorem rest_sameElements_iff {first : α} {rest pool : List α} {a victim : α}
    (hfirst : first ∉ rest) (hsame : SameElements (first :: rest) pool) (ha : a ∉ pool) :
    SameElements (rest ++ [a]) (pool.filter (· ≠ victim) ++ [a]) ↔ first = victim := by
  constructor
  · intro h
    by_contra hother
    have hpool : first ∈ pool := (hsame first).mp (List.mem_cons_self ..)
    -- the pool keeps the element that the window has lost
    have hkept : first ∈ pool.filter (· ≠ victim) ++ [a] := by
      simp [hpool, hother]
    rcases List.mem_append.mp ((h first).mpr hkept) with hrest | hnew
    · exact hfirst hrest
    · rw [List.mem_singleton.mp hnew] at hpool
      exact ha hpool
  · rintro rfl b
    have hb := hsame b
    simp only [List.mem_cons] at hb
    simp only [List.mem_append, List.mem_filter, List.mem_singleton, ne_eq,
      decide_eq_true_eq, ← hb]
    constructor
    · rintro (hrest | hnew)
      · exact .inl ⟨.inr hrest, fun heq => hfirst (heq ▸ hrest)⟩
      · exact .inr hnew
    · rintro (⟨hmem | hrest, hne⟩ | hnew)
      · exact absurd hmem hne
      · exact .inl hrest
      · exact .inr hnew

/-- A window that is trimmed to its capacity is too short for a longer pool. -/
theorem not_push_sameElements_of_over {capacity : ℕ} {window pool : List α} {a victim : α}
    (hw : window.Nodup) (hp : pool.Nodup) (hsame : SameElements window pool) (ha : a ∉ pool)
    (hvictim : victim ∈ pool) (hover : capacity < window.length) :
    ¬ SameElements (push capacity window a) (insertEvicting capacity pool a victim) := by
  intro h
  have hlength := hsame.length_eq hw hp
  have haw : a ∉ window := fun hmem => ha ((hsame a).mp hmem)
  have hne : a ≠ victim := by
    rintro rfl
    exact ha hvictim
  have hinsert : insertEvicting capacity pool a victim = pool.filter (· ≠ victim) ++ [a] :=
    insertEvicting_of_full (by omega) hne
  have hnodup : (pool.filter (· ≠ victim) ++ [a]).Nodup :=
    nodup_append_singleton (hp.filter _) fun hmem => ha (List.mem_of_mem_filter hmem)
  have hcount := h.length_eq (push_nodup hw haw) (hinsert ▸ hnodup)
  have hevicted := length_filter_ne hp hvictim
  rw [push_of_full a (by omega), hinsert] at hcount
  simp only [List.length_drop, List.length_append, List.length_singleton] at hcount
  omega

/-- A window and a pool with the same content keep it with one more element exactly when
there is room for it, or when the window is just full and its first element is the one
that the pool evicts. -/
theorem push_sameElements_iff {capacity : ℕ} {window pool : List α} {a victim : α}
    (hcapacity : 1 ≤ capacity) (hw : window.Nodup) (hp : pool.Nodup)
    (hsame : SameElements window pool) (ha : a ∉ pool)
    (hvictim : capacity ≤ pool.length → victim ∈ pool) :
    SameElements (push capacity window a) (insertEvicting capacity pool a victim) ↔
      window.length < capacity ∨
        (window.length = capacity ∧ window.head? = some victim) := by
  have hlength := hsame.length_eq hw hp
  by_cases hroom : window.length < capacity
  · -- nothing is trimmed and nothing is evicted
    rw [push_of_room a hroom, insertEvicting_of_room a victim (by omega)]
    refine iff_of_true (fun b => ?_) (.inl hroom)
    simp [hsame b]
  have hmem : victim ∈ pool := hvictim (by omega)
  by_cases hfull : window.length = capacity
  · cases window with
    | nil =>
        simp only [List.length_nil] at hfull
        omega
    -- the window loses its first element and the pool its victim
    | cons first rest =>
        have hne : a ≠ victim := by
          rintro rfl
          exact ha hmem
        have hdrop : push capacity (first :: rest) a = rest ++ [a] := by
          have hone : (first :: rest).length + 1 - capacity = 1 := by omega
          rw [push_of_full a (by omega), hone]
          rfl
        obtain ⟨hfirst, _⟩ := List.nodup_cons.mp hw
        rw [hdrop, insertEvicting_of_full (by omega) hne,
          rest_sameElements_iff hfirst hsame ha]
        simp [hfull]
  · have hover : capacity < window.length := by omega
    refine iff_of_false (not_push_sameElements_of_over hw hp hsame ha hmem hover) ?_
    rintro (hlt | ⟨heq, _⟩) <;> omega

end

end Foundation
end Tenjin
