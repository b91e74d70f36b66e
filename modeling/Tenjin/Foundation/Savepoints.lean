import Mathlib.Data.List.Basic

/-!
# A database session with savepoints

The tables as they are committed and as the open transaction sees them.  A statement changes
the tables or raises, and after an exception the transaction has failed: it takes no
statement before it is rolled back to a savepoint.

* `executeAll` executes statements until one raises.
* `rollbackTo` goes back to a savepoint, if there is one with that name; a commit drops them
  all.
* `executeAll_cases` — a list of statements changes the tables of the open transaction as the
  statements do one after the other, or fails; nothing else changes.
* `rollbackTo_eq_some` — what a rollback to a savepoint restores.
-/

namespace Tenjin
namespace Foundation

variable {τ ν ε : Type*}

/-- The savepoints are listed from the last one on, each with the tables at its time. -/
structure SqlSession (τ ν : Type*) where
  committed : τ
  working : τ
  savepoints : List (ν × τ)
  failed : Bool

namespace SqlSession

/-- A session that has done nothing. -/
def connected (t : τ) : SqlSession τ ν := ⟨t, t, [], false⟩

/-- Execute a statement; `aborted` is what is raised in a transaction that has failed. -/
def execute (aborted : ε) (statement : τ → Except ε τ) (s : SqlSession τ ν) :
    Except ε Unit × SqlSession τ ν :=
  if s.failed then (.error aborted, s)
  else
    match statement s.working with
    | .ok t => (.ok (), { s with working := t })
    | .error e => (.error e, { s with failed := true })

/-- Execute statements until one raises. -/
def executeAll (aborted : ε) : List (τ → Except ε τ) → SqlSession τ ν →
    Except ε Unit × SqlSession τ ν
  | [], s => (.ok (), s)
  | statement :: statements, s =>
      match s.execute aborted statement with
      | (.ok (), s') => executeAll aborted statements s'
      | (.error e, s') => (.error e, s')

/-- `SAVEPOINT`, in a transaction that has not failed. -/
def savepoint (name : ν) (s : SqlSession τ ν) : SqlSession τ ν :=
  { s with savepoints := (name, s.working) :: s.savepoints }

/-- `ROLLBACK TO`: later savepoints go, and the one with the name stays.  There may be none. -/
def rollbackTo [DecidableEq ν] (name : ν) (s : SqlSession τ ν) : Option (SqlSession τ ν) :=
  (s.savepoints.lookup name).map fun t =>
    { s with
      working := t
      savepoints := s.savepoints.dropWhile fun p => p.1 ≠ name
      failed := false }

/-- `COMMIT`, which rolls a failed transaction back. -/
def commit (s : SqlSession τ ν) : SqlSession τ ν :=
  connected (if s.failed then s.committed else s.working)

variable {s : SqlSession τ ν} {aborted : ε}

theorem commit_of_not_failed (h : s.failed = false) : s.commit = connected s.working := by
  simp [commit, h]

theorem execute_of_ok {statement : τ → Except ε τ} {t : τ} (hs : s.failed = false)
    (h : statement s.working = .ok t) :
    s.execute aborted statement = (.ok (), { s with working := t }) := by
  simp [execute, hs, h]

theorem execute_of_error {statement : τ → Except ε τ} {e : ε} (hs : s.failed = false)
    (h : statement s.working = .error e) :
    s.execute aborted statement = (.error e, { s with failed := true }) := by
  simp [execute, hs, h]

/-- The statements are executed one after the other, or the transaction fails. -/
theorem executeAll_cases (aborted : ε) (statements : List (τ → Except ε τ))
    (hs : s.failed = false) :
    (∃ t, statements.foldlM (fun t statement => statement t) s.working = .ok t ∧
      s.executeAll aborted statements = (.ok (), { s with working := t })) ∨
    ∃ e t, statements.foldlM (fun t statement => statement t) s.working = .error e ∧
      s.executeAll aborted statements = (.error e, { s with working := t, failed := true }) := by
  induction statements generalizing s with
  | nil => exact .inl ⟨s.working, rfl, rfl⟩
  | cons statement statements ih =>
      rw [List.foldlM_cons, executeAll]
      cases hfirst : statement s.working with
      | error e =>
          rw [execute_of_error hs hfirst]
          exact .inr ⟨e, s.working, rfl, rfl⟩
      | ok t =>
          rw [execute_of_ok hs hfirst]
          exact ih (s := { s with working := t }) hs

section
variable [DecidableEq ν]

theorem lookup_savepoint (name : ν) :
    (s.savepoint name).savepoints.lookup name = some s.working := by
  simp [savepoint]

/-- A savepoint is found behind the later ones. -/
theorem lookup_dropWhile {β : Type*} (name : ν) (l : List (ν × β)) :
    (l.dropWhile fun p => p.1 ≠ name).lookup name = l.lookup name := by
  induction l with
  | nil => rfl
  | cons p l ih =>
      obtain ⟨k, b⟩ := p
      by_cases h : k = name
      · subst h
        simp
      · have hne : (name == k) = false := beq_eq_false_iff_ne.mpr (Ne.symm h)
        rw [List.dropWhile_cons_of_pos (by simpa using h), ih, List.lookup_cons, hne]

/-- The tables are those of the savepoint, which can be rolled back to again. -/
theorem rollbackTo_eq_some {name : ν} {s' : SqlSession τ ν} (h : s.rollbackTo name = some s') :
    s.savepoints.lookup name = some s'.working ∧
      s'.savepoints.lookup name = some s'.working ∧
      s'.committed = s.committed ∧ s'.failed = false := by
  obtain ⟨t, hlookup, rfl⟩ := Option.map_eq_some_iff.mp h
  exact ⟨hlookup, by rw [lookup_dropWhile]; exact hlookup, rfl, rfl⟩

/-- A rollback does not depend on what the transaction has done. -/
theorem rollbackTo_eq_none_iff {name : ν} :
    s.rollbackTo name = none ↔ s.savepoints.lookup name = none := by
  rw [rollbackTo, Option.map_eq_none_iff]

end

end SqlSession

end Foundation
end Tenjin
