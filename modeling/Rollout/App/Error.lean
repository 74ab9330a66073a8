import Rollout.EntityId
import Rollout.Text.Quoted

/-!
# Refusals

Why a rule of the domain refuses an operation on an app or a deployment.
-/

namespace Rollout

inductive AppError where
  | invalidName (name : String)
  | nameAlreadyTaken (target : TargetId)
  | targetNotFound (target : TargetId)
  | configRequired
  | cleanupRequested
  | cleanupNotRequested
  | deploymentAlreadyStarted
  | deploymentNotRunning
  | deploymentFailed (reason : String)
deriving DecidableEq

def AppError.message : AppError → String
  | .invalidName name =>
    "invalid app name " ++ Text.quote name ++ ": use lowercase letters, digits and inner hyphens"
  | .nameAlreadyTaken target => "app name is already taken on target " ++ toString target
  | .targetNotFound target => "target " ++ toString target ++ " does not exist or is being cleaned up"
  | .configRequired => "an environment configuration is required"
  | .cleanupRequested => "app cleanup has been requested"
  | .cleanupNotRequested => "app cleanup has not been requested"
  | .deploymentAlreadyStarted => "deployment has already started"
  | .deploymentNotRunning => "deployment is not running"
  | .deploymentFailed reason => "deployment failed: " ++ reason

end Rollout
