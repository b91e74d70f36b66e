import Mathlib.Data.List.Basic

/-!
# A database connection with transactions and savepoints

The connection of a database driver that opens a transaction with the first
statement.  Only the writes are recorded.

* `committed` holds the writes of every committed transaction, one list for each.
* `current` holds the writes of the open transaction, `none` when the connection
  is idle.
* `transaction` is a block of statements.  On an idle connection it is a
  transaction of its own, committed when the block ends normally; inside an open
  transaction it is a savepoint.
-/

namespace Tenjin
namespace Foundation

variable {ω ε α : Type*}

/-- The writes seen by the database through one connection. -/
structure Connection (ω : Type*) where
  committed : List (List ω)
  current : Option (List ω)

namespace Connection

/-- An idle connection to a database. -/
def idle (committed : List (List ω)) : Connection ω := ⟨committed, none⟩

/-- Execute a statement that writes `ws`, opening a transaction if none is open. -/
def execute (c : Connection ω) (ws : List ω) : Connection ω :=
  { c with current := some (c.current.getD [] ++ ws) }

/-- End the open transaction and keep its writes. -/
def commit (c : Connection ω) : Connection ω :=
  match c.current with
  | none => c
  | some ws => ⟨c.committed ++ [ws], none⟩

/-- End the open transaction and drop its writes. -/
def rollback (c : Connection ω) : Connection ω :=
  { c with current := none }

/-- A block of statements.  A block that raises leaves the connection as it was. -/
def transaction (c : Connection ω)
    (body : Connection ω → Except ε α × Connection ω) : Except ε α × Connection ω :=
  match c.current with
  | none =>
      match body { c with current := some [] } with
      | (.ok a, c') => (.ok a, c'.commit)
      | (.error e, c') => (.error e, c'.rollback)
  | some ws =>
      match body c with
      | (.ok a, c') => (.ok a, c')
      | (.error e, c') => (.error e, { c' with current := some ws })

@[simp] theorem execute_committed (c : Connection ω) (ws : List ω) :
    (c.execute ws).committed = c.committed := rfl

@[simp] theorem execute_current (c : Connection ω) (ws : List ω) :
    (c.execute ws).current = some (c.current.getD [] ++ ws) := rfl

@[simp] theorem rollback_committed (c : Connection ω) :
    c.rollback.committed = c.committed := rfl

@[simp] theorem rollback_current (c : Connection ω) : c.rollback.current = none := rfl

theorem commit_committed_of_some {c : Connection ω} {ws : List ω}
    (h : c.current = some ws) : c.commit.committed = c.committed ++ [ws] := by
  simp [commit, h]

theorem commit_committed_of_none {c : Connection ω} (h : c.current = none) :
    c.commit.committed = c.committed := by
  simp [commit, h]

end Connection

end Foundation
end Tenjin
