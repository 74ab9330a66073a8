/-!
# Environments

Every app has two environments that it can be deployed to.
-/

namespace Rollout

inductive Environment where
  | production
  | staging
deriving DecidableEq, Repr

namespace Environment

def all : List Environment := [.production, .staging]

def toText : Environment → String
  | .production => "production"
  | .staging => "staging"

instance : ToString Environment := ⟨toText⟩

def ofText? (s : String) : Option Environment := all.find? (·.toText = s)

/-- What the names of the columns that hold an environment's configuration start with. -/
def columnPrefix : Environment → String := toText

/-- The place in the list of all environments. -/
def position (e : Environment) : Nat := all.idxOf e

/-- What a pair holds for an environment. -/
def pick {β : Type} (e : Environment) (p : β × β) : β :=
  match e with
  | .production => p.1
  | .staging => p.2

def invalidMessage (s : String) : String := "Invalid environment: " ++ s

end Environment

end Rollout
