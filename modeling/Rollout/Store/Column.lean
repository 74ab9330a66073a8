import Rollout.Store.Cell
import Rollout.Store.Error

/-!
# Columns

A column of a row holds a value of its type, or else a raw cell that a statement put there past all rules. Such a cell
may still be read as a value, though no value that is looked for is equal to it; if it cannot be read, it does no harm
until the row is read (`Column.read`).
-/

namespace Rollout

inductive Column (α : Type) where
  | value (a : α)
  /-- A cell of another kind that is read as `a`. -/
  | foreign (cell : Cell) (a : α)
  | unreadable (cell : Cell) (cause : String)
deriving DecidableEq

namespace Column

variable {α : Type}

def read (name : String) : Column α → Except DatabaseError α
  | .value a => .ok a
  | .foreign _ a => .ok a
  | .unreadable _ cause => .error (.column name cause)

/-- Whether the column is equal to `a` when it is looked for. -/
def holds [DecidableEq α] (c : Column α) (a : α) : Bool := c = .value a

end Column

end Rollout
