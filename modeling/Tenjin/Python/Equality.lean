import Tenjin.Python.Runtime

/-!
# Equality of values, and `list.remove`

Python's `==` is not the equality of what two values are made of: numbers of different types
can be equal, and the order of a dictionary does not count.

* `PyValue.pyEq` is `==`.
* `pyRemove` is `list.remove`, which takes out the first item that is the given one or equal
  to it.
* `pyRemove_append_cons` — items in front that are not equal to it stay.
-/

namespace Tenjin
namespace Python

/-- The number that a value is, for a comparison with a number. -/
def PyValue.number? : PyValue → Option Rat
  | .bool b => some (if b then 1 else 0)
  | .int i => some i
  | .float x => some x
  | _ => .none

mutual

/-- `a == b`. -/
def PyValue.pyEq : (a b : PyValue) → Bool
  | .none, .none => true
  | .str s, .str t => s == t
  | .bytes s, .bytes t => s == t
  | .list xs, .list ys => PyValue.pyEqList xs ys
  | .dict xs, .dict ys => xs.length == ys.length && PyValue.pyEqItems xs ys
  | a, b =>
      match a.number?, b.number? with
      | some x, some y => x == y
      | _, _ => false

/-- Equality of lists, item by item. -/
def PyValue.pyEqList : (xs ys : List PyValue) → Bool
  | [], [] => true
  | x :: xs, y :: ys => x.pyEq y && PyValue.pyEqList xs ys
  | _, _ => false

/-- The items of a dictionary that another one has under the same keys. -/
def PyValue.pyEqItems : (xs ys : List (String × PyValue)) → Bool
  | [], _ => true
  | (key, x) :: xs, ys =>
      (match ys.lookup key with
        | some y => x.pyEq y
        | .none => false) && PyValue.pyEqItems xs ys

end

section
variable {α : Type} [DecidableEq α] (eq : α → α → Bool)

/-- `xs.remove(x)`: a `ValueError` if there is no such item. -/
def pyRemove (xs : List α) (x : α) : Except Exn (List α) :=
  if xs.any fun y => y = x || eq y x then .ok (xs.eraseP fun y => y = x || eq y x)
  else .error .valueError

variable {eq}

/-- The item itself goes if nothing in front of it is equal to it. -/
theorem pyRemove_append_cons {front back : List α} {x : α}
    (hfront : ∀ y ∈ front, y ≠ x ∧ eq y x = false) :
    pyRemove eq (front ++ x :: back) x = .ok (front ++ back) := by
  have hother : ∀ y ∈ front, ¬ (decide (y = x) || eq y x) = true := by
    intro y hy
    obtain ⟨hne, heq⟩ := hfront y hy
    simp [hne, heq]
  have hself : (fun y => decide (y = x) || eq y x) x = true := by simp
  have hfound : (front ++ x :: back).any (fun y => decide (y = x) || eq y x) = true :=
    List.any_eq_true.mpr ⟨x, by simp, hself⟩
  rw [pyRemove, if_pos hfound, List.eraseP_append_right _ hother, 
    List.eraseP_cons_of_pos (p := fun y => decide (y = x) || eq y x) hself]

end

example : (PyValue.dict [("a", .int 1), ("b", .none)]).pyEq
    (.dict [("b", .none), ("a", .bool true)]) = true := by decide

end Python
end Tenjin
