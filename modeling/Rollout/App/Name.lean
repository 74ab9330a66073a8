/-!
# Names of apps

A name consists of lower-case ASCII letters, digits and hyphens, with no hyphen at either end.
-/

namespace Rollout

namespace AppName

def isNameChar (c : Char) : Bool := c.isLower || c.isDigit || c = '-'

def isValid (cs : List Char) : Bool :=
  cs ≠ [] && cs.head? ≠ some '-' && cs.getLast? ≠ some '-' && cs.all isNameChar

end AppName

structure AppName where
  text : String
  valid : AppName.isValid text.toList
deriving DecidableEq

namespace AppName

instance : ToString AppName := ⟨text⟩

def ofText? (s : String) : Option AppName := if h : isValid s.toList then some ⟨s, h⟩ else none

theorem ofText?_text (n : AppName) : ofText? n.text = some n := by
  simp [ofText?, n.valid]

end AppName

end Rollout
