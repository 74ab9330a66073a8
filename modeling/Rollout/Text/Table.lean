import Rollout.Text.Hex

/-!
# Tables of characters

A long table of a property of characters is kept as lines of hexadecimal numbers with a blank between two of them. A
range of characters is its first and its last code point.
-/

namespace Rollout.Text

/-- The numbers of the lines of a table, in order. -/
def tableNumbers (lines : List String) : List Nat :=
  lines.flatMap fun line => (line.splitOn " ").filterMap fun word =>
    if word.isEmpty then none else Hex.value? word.toList

structure CharRange where
  first : Nat
  last : Nat
deriving DecidableEq, Repr

def CharRange.contains (r : CharRange) (c : Char) : Bool := r.first ≤ c.toNat && c.toNat ≤ r.last

/-- The ranges whose ends follow each other in a list of numbers. -/
def CharRange.ofNumbers : List Nat → List CharRange
  | first :: last :: rest => ⟨first, last⟩ :: ofNumbers rest
  | _ => []

def CharRange.ofTable (lines : List String) : List CharRange := ofNumbers (tableNumbers lines)

theorem CharRange.contains_iff (r : CharRange) (c : Char) :
    r.contains c = true ↔ r.first ≤ c.toNat ∧ c.toNat ≤ r.last := by
  simp [contains]

end Rollout.Text
