import Rollout.EntityId
import Rollout.Text.Dict
import Rollout.Time.Timestamp

/-!
# Configurations of environments

A configuration names the target that an environment is deployed to and the variables of its services. Its version tells
the resources on one target from those on another: it changes when the target does, and only then.
-/

namespace Rollout

/-- The variables of each service. -/
abbrev EnvVars := Text.Dict (Text.Dict String)

structure EnvConfig where
  target : TargetId
  version : Timestamp
  vars : Option EnvVars
deriving DecidableEq

namespace EnvConfig

/-- Whether target and variables are the same, versions aside. -/
def hasSameValues (a b : EnvConfig) : Bool := a.target = b.target && a.vars = b.vars

/-- Keeps the version of the configuration before if the target stays. -/
def consolidate (c previous : EnvConfig) : EnvConfig :=
  if c.target = previous.target then { c with version := previous.version } else c

end EnvConfig

end Rollout
