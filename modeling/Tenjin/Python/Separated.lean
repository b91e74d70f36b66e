import Tenjin.Python.Runtime

/-!
# Splitting a joined text, and the texts of numbers

`pyJoin` does not escape its separator: splitting a joined text gives the pieces of
its parts, one part after the other.

* `pySplit_pyJoin` — the pieces of a joined text.
* `pySplit_inj` — a text is determined by its pieces.
* `toString_inj`, `dashJoin_inj` — `str(n)`, and numbers joined with a dash.
-/

namespace Tenjin
namespace Python

theorem pySplit_ne_nil (sep : Char) (s : String) : pySplit sep s ≠ [] := by
  simp [pySplit]

/-- A text without the separator is its only piece. -/
theorem pySplit_of_not_mem {sep : Char} {s : String} (h : sep ∉ s.toList) :
    pySplit sep s = [s] := by
  simp [pySplit, List.splitOn_eq_singleton h]

/-- Joining the pieces gives the text back. -/
theorem pySplit_inj {sep : Char} {a b : String} : pySplit sep a = pySplit sep b ↔ a = b := by
  refine ⟨fun h => ?_, fun h => h ▸ rfl⟩
  have hpieces : a.toList.splitOn sep = b.toList.splitOn sep :=
    List.map_injective_iff.mpr (fun _ _ => String.ofList_inj.mp) h
  have hjoin : ∀ cs : List Char, [sep].intercalate (cs.splitOn sep) = cs :=
    fun _ => List.intercalate_splitOn sep
  have hlists : a.toList = b.toList := by
    rw [← hjoin a.toList, hpieces, hjoin]
  exact String.toList_inj.mp hlists

/-- A separator between two texts separates their pieces. -/
theorem pySplit_append (sep : Char) (front back : String) :
    pySplit sep (front ++ String.singleton sep ++ back) =
      pySplit sep front ++ pySplit sep back := by
  simp only [pySplit, String.toList_append, String.toList_singleton, List.append_assoc,
    List.singleton_append, List.splitOn_append_cons_self, List.map_append]

/-- The pieces of a joined text are the pieces of its parts. -/
theorem pySplit_pyJoin (sep : Char) {parts : List String} (h : parts ≠ []) :
    pySplit sep (pyJoin (String.singleton sep) parts) = parts.flatMap (pySplit sep) := by
  induction parts with
  | nil => exact absurd rfl h
  | cons part rest ih =>
      cases rest with
      | nil => simp [pyJoin]
      | cons next rest =>
          rw [pyJoin, String.intercalate_cons_cons, pySplit_append, List.flatMap_cons]
          exact congrArg _ (ih (by simp))

/-- The decimal digits of a natural number, as a text. -/
def digitsText (n : ℕ) : String := String.ofList (Nat.toDigits 10 n)

theorem not_mem_toDigits {c : Char} (h : c.isDigit = false) (n : ℕ) :
    c ∉ Nat.toDigits 10 n := by
  intro hc
  have hdigit : c.isDigit = true := Nat.isDigit_of_mem_toDigits (by omega) (by omega) hc
  rw [h] at hdigit
  cases hdigit

theorem digitsText_inj {m n : ℕ} : digitsText m = digitsText n ↔ m = n := by
  refine ⟨fun h => ?_, fun h => h ▸ rfl⟩
  have hdigits : Nat.toDigits 10 m = Nat.toDigits 10 n := String.ofList_inj.mp h
  rw [← Nat.ofDigitChars_ten_toDigits (n := m), hdigits, Nat.ofDigitChars_ten_toDigits]

theorem digitsText_ne_empty (n : ℕ) : digitsText n ≠ "" := by
  intro h
  have hpos : 0 < (Nat.toDigits 10 n).length := Nat.length_toDigits_pos
  have hnil : Nat.toDigits 10 n = [] := String.ofList_inj.mp h
  rw [hnil] at hpos
  cases hpos

/-- `str(n)`: a number that is not negative is its digits, and a negative one has the
minus sign in front. -/
theorem toString_toList (n : Int) : (toString n).toList =
    if 0 ≤ n then Nat.toDigits 10 n.toNat else '-' :: Nat.toDigits 10 (-n).toNat := by
  rw [Int.toString_eq_repr, Int.repr_eq_if]
  split <;> simp [Nat.toList_repr]

/-- The colon is in no number. -/
theorem colon_not_mem_toString (n : Int) : ':' ∉ (toString n).toList := by
  rw [toString_toList]
  split
  · exact not_mem_toDigits rfl _
  · rw [List.mem_cons]
    rintro (h | h)
    · cases h
    · exact not_mem_toDigits rfl _ h

/-- The pieces of a number at dashes: a negative number has an empty piece in front. -/
theorem pySplit_dash_toString (n : Int) : pySplit '-' (toString n) =
    if 0 ≤ n then [digitsText n.toNat] else ["", digitsText (-n).toNat] := by
  have hdigits : ∀ m : ℕ, (Nat.toDigits 10 m).splitOn '-' = [Nat.toDigits 10 m] :=
    fun m => List.splitOn_eq_singleton (not_mem_toDigits rfl m)
  rw [pySplit, toString_toList]
  split
  · rw [hdigits]
    rfl
  · rw [← List.nil_append ('-' :: _), List.splitOn_append_cons_self, hdigits]
    rfl

/-- The first number can be read off the pieces at dashes. -/
theorem dashPieces_cons_inj {m n : Int} {front back : List String}
    (h : pySplit '-' (toString m) ++ front = pySplit '-' (toString n) ++ back) :
    m = n ∧ front = back := by
  rw [pySplit_dash_toString, pySplit_dash_toString] at h
  split at h <;> split at h
  · simp only [List.cons_append, List.nil_append, List.cons.injEq, digitsText_inj] at h
    exact ⟨by omega, h.2⟩
  · -- the digits of a number are not the empty piece
    exact absurd (List.cons.inj h).1 (digitsText_ne_empty _)
  · exact absurd (List.cons.inj h).1.symm (digitsText_ne_empty _)
  · simp only [List.cons_append, List.nil_append, List.cons.injEq, digitsText_inj,
      true_and] at h
    exact ⟨by omega, h.2⟩

theorem toString_inj {m n : Int} : toString m = toString n ↔ m = n := by
  refine ⟨fun h => ?_, fun h => h ▸ rfl⟩
  have hpieces : pySplit '-' (toString m) ++ [] = pySplit '-' (toString n) ++ [] := by rw [h]
  exact (dashPieces_cons_inj hpieces).1

/-- The numbers can be read off the pieces at dashes. -/
theorem dashPieces_inj {xs ys : List Int}
    (h : xs.flatMap (fun n => pySplit '-' (toString n)) =
      ys.flatMap fun n => pySplit '-' (toString n)) : xs = ys := by
  induction xs generalizing ys with
  | nil =>
      cases ys with
      | nil => rfl
      | cons n ys => simp [pySplit_ne_nil] at h
  | cons m xs ih =>
      cases ys with
      | nil => simp [pySplit_ne_nil] at h
      | cons n ys =>
          obtain ⟨rfl, hrest⟩ := dashPieces_cons_inj h
          rw [ih hrest]

/-- The pieces of numbers are never a single empty piece. -/
theorem dashPieces_ne_empty {xs : List Int} (hne : xs ≠ []) :
    pyJoin "-" (xs.map toString) ≠ "" := by
  intro h
  cases xs with
  | nil => exact hne rfl
  | cons n xs =>
      have hpieces := pySplit_pyJoin '-'
        (show (n :: xs).map toString ≠ [] from by simp)
      rw [show String.singleton '-' = "-" from rfl, h, show pySplit '-' "" = [""] from rfl,
        List.map_cons, List.flatMap_cons, pySplit_dash_toString] at hpieces
      split at hpieces
      · exact digitsText_ne_empty _ (List.cons.inj hpieces).1.symm
      · simp at hpieces

/-- Numbers joined with a dash can be read off the text. -/
theorem dashJoin_inj {xs ys : List Int} :
    pyJoin "-" (xs.map toString) = pyJoin "-" (ys.map toString) ↔ xs = ys := by
  refine ⟨fun h => ?_, fun h => h ▸ rfl⟩
  by_cases hx : xs = []
  · subst hx
    by_contra hne
    exact dashPieces_ne_empty (fun hy => hne hy.symm) h.symm
  · have hy : ys ≠ [] := by
      rintro rfl
      exact dashPieces_ne_empty hx h
    have hsplit := congrArg (pySplit '-') h
    rw [show ("-" : String) = String.singleton '-' from rfl,
      pySplit_pyJoin _ (by simpa using hx), pySplit_pyJoin _ (by simpa using hy),
      List.flatMap_map, List.flatMap_map] at hsplit
    exact dashPieces_inj hsplit

end Python
end Tenjin
