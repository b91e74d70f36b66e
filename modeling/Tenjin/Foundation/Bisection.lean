import Mathlib.Data.List.Basic

/-!
# Isolating failures by bisection

`attempt items s` runs a list of items against a state: `some (results, s')` when it takes
effect, and `none` when it fails and leaves the state as it is.

* `bisect` attempts the items, and halves them when the attempt fails; a single item that
  fails is given up.
* `Threads` says that pieces of the items took effect one after the other.
* `bisect_threads` — whatever the attempts answer, the items are split into such pieces,
  and the results are those of the pieces, in order.
-/

namespace Tenjin
namespace Foundation

variable {α β σ : Type*}

/-- A piece of the items: it took effect with its results, or it is an item given up. -/
inductive Piece (α β : Type*)
  | effective (items : List α) (results : List β)
  | failed (item : α)

namespace Piece

/-- The items of a piece. -/
def items : Piece α β → List α
  | effective items _ => items
  | failed item => [item]

/-- The results of a piece. -/
def results : Piece α β → List β
  | effective _ results => results
  | failed _ => []

/-- The items of a piece that took effect. -/
def inserted : Piece α β → List α
  | effective items _ => items
  | failed _ => []

end Piece

/-- The pieces run one after the other, each against the state that the one before it has
left. -/
inductive Threads (attempt : List α → σ → Option (List β × σ)) :
    σ → List (Piece α β) → σ → Prop
  | nil (s : σ) : Threads attempt s [] s
  | effective {s s' t : σ} {items : List α} {results : List β} {pieces : List (Piece α β)} :
      items ≠ [] → attempt items s = some (results, s') → Threads attempt s' pieces t →
      Threads attempt s (.effective items results :: pieces) t
  | failed {s t : σ} {item : α} {pieces : List (Piece α β)} :
      attempt [item] s = none → Threads attempt s pieces t →
      Threads attempt s (.failed item :: pieces) t

/-- Attempt the items; if that fails, the two halves one after the other. -/
def bisect (attempt : List α → σ → Option (List β × σ)) (items : List α) (s : σ) :
    List β × σ :=
  match attempt items s with
  | some outcome => outcome
  | none =>
      if items.length ≤ 1 then ([], s)
      else
        let first := bisect attempt (items.take (items.length / 2)) s
        let second := bisect attempt (items.drop (items.length / 2)) first.2
        (first.1 ++ second.1, second.2)
termination_by items.length
decreasing_by
  all_goals simp only [List.length_take, List.length_drop]
  all_goals omega

variable {attempt : List α → σ → Option (List β × σ)}

theorem bisect_of_some {items : List α} {s : σ} {outcome : List β × σ}
    (h : attempt items s = some outcome) : bisect attempt items s = outcome := by
  rw [bisect, h]

theorem bisect_of_single {items : List α} {s : σ} (h : attempt items s = none)
    (hlen : items.length ≤ 1) : bisect attempt items s = ([], s) := by
  rw [bisect, h]
  simp only [hlen, if_true]

theorem bisect_of_halves {items : List α} {s : σ} (h : attempt items s = none)
    (hlen : ¬ items.length ≤ 1) :
    bisect attempt items s =
      ((bisect attempt (items.take (items.length / 2)) s).1 ++
        (bisect attempt (items.drop (items.length / 2))
          (bisect attempt (items.take (items.length / 2)) s).2).1,
      (bisect attempt (items.drop (items.length / 2))
        (bisect attempt (items.take (items.length / 2)) s).2).2) := by
  rw [bisect, h]
  simp only [hlen, if_false]

/-- The two halves of a list of two or more are not empty. -/
theorem halves_ne_nil {items : List α} (hlen : ¬ items.length ≤ 1) :
    items.take (items.length / 2) ≠ [] ∧ items.drop (items.length / 2) ≠ [] := by
  constructor
  · apply List.ne_nil_of_length_pos
    rw [List.length_take]
    omega
  · apply List.ne_nil_of_length_pos
    rw [List.length_drop]
    omega

/-- Pieces followed by pieces. -/
theorem Threads.append {s t u : σ} {pieces later : List (Piece α β)}
    (h : Threads attempt s pieces t) (hlater : Threads attempt t later u) :
    Threads attempt s (pieces ++ later) u := by
  induction h with
  | nil s => exact hlater
  | effective hne hsome _ ih => exact .effective hne hsome (ih hlater)
  | failed hnone _ ih => exact .failed hnone (ih hlater)

/-- The items are split into consecutive pieces that run one after the other, and the
results of the bisection are theirs. -/
theorem bisect_threads (items : List α) (hne : items ≠ []) (s : σ) :
    ∃ pieces, Threads attempt s pieces (bisect attempt items s).2 ∧
      (pieces.map Piece.items).flatten = items ∧
      (pieces.map Piece.results).flatten = (bisect attempt items s).1 := by
  -- on the number of items: both halves of two or more are shorter
  induction hlen : items.length using Nat.strongRecOn generalizing items s with
  | ind n ih =>
      cases hattempt : attempt items s with
      | some outcome =>
          obtain ⟨results, s'⟩ := outcome
          rw [bisect_of_some hattempt]
          refine ⟨[.effective items results], .effective hne hattempt (.nil s'), ?_, ?_⟩
          · simp [Piece.items]
          · simp [Piece.results]
      | none =>
          by_cases hsingle : items.length ≤ 1
          · rw [bisect_of_single hattempt hsingle]
            obtain ⟨item, rfl⟩ : ∃ item, items = [item] := by
              rw [← List.length_eq_one_iff]
              have hpos := List.length_pos_iff.mpr hne
              omega
            exact ⟨[.failed item], .failed hattempt (.nil s), rfl, rfl⟩
          · rw [bisect_of_halves hattempt hsingle]
            obtain ⟨hleftNe, hrightNe⟩ := halves_ne_nil hsingle
            obtain ⟨left, hleft, hleftItems, hleftResults⟩ :=
              ih _ (by rw [← hlen, List.length_take]; omega)
                (items.take (items.length / 2)) hleftNe s rfl
            obtain ⟨right, hright, hrightItems, hrightResults⟩ :=
              ih _ (by rw [← hlen, List.length_drop]; omega)
                (items.drop (items.length / 2)) hrightNe
                (bisect attempt (items.take (items.length / 2)) s).2 rfl
            refine ⟨left ++ right, hleft.append hright, ?_, ?_⟩
            · rw [List.map_append, List.flatten_append, hleftItems, hrightItems,
                List.take_append_drop]
            · rw [List.map_append, List.flatten_append, hleftResults, hrightResults]

/-- Where an attempt fails exactly for a list with an offending item, the items that took
effect are those that do not offend. -/
theorem Threads.inserted_eq {s t : σ} {pieces : List (Piece α β)} {offending : α → Bool}
    (hfails : ∀ items s, attempt items s = none ↔ ∃ item ∈ items, offending item = true)
    (h : Threads attempt s pieces t) :
    (pieces.map Piece.inserted).flatten =
      (pieces.map Piece.items).flatten.filter fun item => !offending item := by
  induction h with
  | nil s => rfl
  | @effective s s' t items results pieces hne hsome _ ih =>
      have hclean : items.filter (fun item => !offending item) = items := by
        rw [List.filter_eq_self]
        intro item hitem
        by_contra hbad
        have hnone : attempt items s = none :=
          (hfails items s).mpr ⟨item, hitem, by simpa using hbad⟩
        rw [hnone] at hsome
        cases hsome
      simp only [List.map_cons, List.flatten_cons, Piece.inserted, Piece.items,
        List.filter_append, hclean, ih]
  | @failed s t item pieces hnone _ ih =>
      have hbad : offending item = true := by
        obtain ⟨other, hother, hoffending⟩ := (hfails [item] s).mp hnone
        rw [List.mem_singleton] at hother
        exact hother ▸ hoffending
      simp only [List.map_cons, List.flatten_cons, Piece.inserted, Piece.items,
        List.filter_append, List.nil_append, ih]
      simp [hbad]

end Foundation
end Tenjin
