import Mathlib.Data.List.Basic

/-!
# Templates with named holes

A template is a list of texts and named holes; `format` fills the holes from a list of
named arguments.  An argument that no hole uses is ignored, and a hole without an
argument is an error that names it.

* `format_eq_ok_iff` — formatting succeeds exactly when every hole has an argument.
* `format_error` — the error names a hole of the template that has none.
* `format_isOk` — the same as a computation on the names of the arguments.
-/

namespace Tenjin
namespace Foundation

/-- A piece of a template. -/
inductive Segment
  | text (s : String)
  | hole (name : String)
  deriving DecidableEq

/-- Fill the holes of a template, from left to right. -/
def format (args : List (String × String)) : List Segment → Except String String
  | [] => .ok ""
  | .text s :: template =>
      match format args template with
      | .error name => .error name
      | .ok rest => .ok (s ++ rest)
  | .hole name :: template =>
      match args.lookup name with
      | none => .error name
      | some value =>
          match format args template with
          | .error name => .error name
          | .ok rest => .ok (value ++ rest)

/-- The error of a template names one of its holes, which has no argument. -/
theorem format_error {args : List (String × String)} {template : List Segment}
    {name : String} (h : format args template = .error name) :
    .hole name ∈ template ∧ args.lookup name = none := by
  induction template with
  | nil => cases h
  | cons segment template ih =>
      cases segment with
      | text s =>
          cases hrest : format args template with
          | ok rest => simp [format, hrest] at h
          | error missing =>
              have hname : missing = name := by simpa [format, hrest] using h
              subst hname
              obtain ⟨hmem, hnone⟩ := ih hrest
              exact ⟨List.mem_cons_of_mem _ hmem, hnone⟩
      | hole hname =>
          cases hlookup : args.lookup hname with
          | none =>
              have heq : hname = name := by simpa [format, hlookup] using h
              subst heq
              exact ⟨List.mem_cons_self .., hlookup⟩
          | some value =>
              cases hrest : format args template with
              | ok rest => simp [format, hlookup, hrest] at h
              | error missing =>
                  have heq : missing = name := by simpa [format, hlookup, hrest] using h
                  subst heq
                  obtain ⟨hmem, hnone⟩ := ih hrest
                  exact ⟨List.mem_cons_of_mem _ hmem, hnone⟩

/-- Formatting succeeds exactly when every hole has an argument. -/
theorem format_eq_ok_iff (args : List (String × String)) (template : List Segment) :
    (∃ out, format args template = .ok out) ↔
      ∀ name, .hole name ∈ template → args.lookup name ≠ none := by
  constructor
  · intro hok
    induction template with
    | nil =>
        intro name hmem
        cases hmem
    | cons segment template ih =>
        obtain ⟨out, hout⟩ := hok
        have hrest : ∃ rest, format args template = .ok rest := by
          cases hformat : format args template with
          | ok rest => exact ⟨rest, rfl⟩
          | error missing =>
              cases segment with
              | text s => simp [format, hformat] at hout
              | hole hname =>
                  cases hlookup : args.lookup hname <;>
                    simp [format, hformat, hlookup] at hout
        intro name hmem
        rcases List.mem_cons.mp hmem with hhead | htail
        · subst hhead
          intro hnone
          simp [format, hnone] at hout
        · exact ih hrest name htail
  · intro hall
    cases hformat : format args template with
    | ok out => exact ⟨out, rfl⟩
    | error name =>
        obtain ⟨hmem, hnone⟩ := format_error hformat
        exact absurd hnone (hall name hmem)

/-- Every hole of the template is among the names. -/
def fillable (names : List String) (template : List Segment) : Bool :=
  template.all fun
    | .text _ => true
    | .hole name => names.contains name

/-- Whether formatting succeeds depends on the names of the arguments only. -/
theorem format_isOk (args : List (String × String)) (template : List Segment) :
    (format args template).isOk = fillable (args.map Prod.fst) template := by
  have hlookup : ∀ name, args.lookup name ≠ none ↔ name ∈ args.map Prod.fst := by
    intro name
    rw [Ne, List.lookup_eq_none_iff, List.mem_map]
    constructor
    · intro h
      by_contra hnone
      push Not at hnone
      exact h fun arg hmem => bne_iff_ne.mpr (hnone arg hmem).symm
    · rintro ⟨arg, hmem, rfl⟩ hall
      simpa using hall arg hmem
  have hok : (format args template).isOk = true ↔ ∃ out, format args template = .ok out := by
    cases format args template <;> simp [Except.isOk, Except.toBool]
  rw [Bool.eq_iff_iff, hok, format_eq_ok_iff, fillable, List.all_eq_true]
  constructor
  · intro h segment hmem
    cases segment with
    | text s => rfl
    | hole name => simpa using (hlookup name).mp (h name hmem)
  · intro h name hmem
    rw [hlookup]
    simpa using h (.hole name) hmem

end Foundation
end Tenjin
