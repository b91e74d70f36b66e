import Mathlib.Data.List.Nodup

/-!
# Association lists with distinct keys

Where the keys of an association list are distinct, looking one up is finding its pair, in
whichever order the pairs come.
-/

namespace Tenjin
namespace Foundation

variable {α β : Type*} [DecidableEq α]

/-- Looking up a key finds a value exactly when the pair is listed. -/
theorem lookup_eq_some_iff_mem {l : List (α × β)} (h : (l.map Prod.fst).Nodup) {k : α} {v : β} :
    l.lookup k = some v ↔ (k, v) ∈ l := by
  induction l with
  | nil => simp
  | cons item l ih =>
      obtain ⟨k', v'⟩ := item
      rw [List.map_cons, List.nodup_cons] at h
      rw [List.lookup_cons, List.mem_cons]
      by_cases hk : k = k'
      · subst hk
        simp only [beq_self_eq_true, Option.some.injEq, Prod.mk.injEq, true_and]
        constructor
        · exact fun hv => .inl hv.symm
        · intro hmem
          rcases hmem with hv | hrest
          · exact hv.symm
          · exact absurd (List.mem_map_of_mem hrest) h.1
      · rw [beq_eq_false_iff_ne.mpr hk]
        simp only [ih h.2, Prod.mk.injEq, hk, false_and, false_or]

end Foundation
end Tenjin
