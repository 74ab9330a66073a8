import Rollout.App.EnvConfig
import Rollout.App.Error

/-!
# Requirements

A configuration that is wanted for an environment, with what the store found out about it: whether its target can be
used, and whether the app's name is free there. The empty requirement asks for nothing.
-/

namespace Rollout

structure Requirement where
  config : Option EnvConfig
  targetFound : Bool
  nameAvailable : Bool
deriving DecidableEq

namespace Requirement

def empty : Requirement := ⟨none, false, false⟩

def of (config : EnvConfig) (targetFound nameAvailable : Bool) : Requirement :=
  ⟨some config, targetFound, nameAvailable⟩

def isEmpty (r : Requirement) : Bool := r.config.isNone

/-- The configuration, if both conditions hold. A missing target counts before a taken name. -/
def met (r : Requirement) : Except AppError EnvConfig :=
  match r.config with
  | none => .error .configRequired
  | some c =>
    if !r.targetFound then .error (.targetNotFound c.target)
    else if !r.nameAvailable then .error (.nameAlreadyTaken c.target)
    else .ok c

theorem met_eq_ok_iff {r : Requirement} {c : EnvConfig} :
    r.met = .ok c ↔ r.config = some c ∧ r.targetFound = true ∧ r.nameAvailable = true := by
  obtain ⟨config, found, free⟩ := r
  cases config <;> cases found <;> cases free <;> simp [met]

end Requirement

end Rollout
