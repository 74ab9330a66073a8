import Rollout.App.EnvConfig
import Rollout.App.Environment
import Rollout.App.Name
import Rollout.Deployment.State
import Rollout.Signature

/-!
# Events of deployments

What a deployment is started with, and what happens to it.
-/

namespace Rollout

/-- An app's configuration of an environment at the moment a deployment was asked for. -/
structure ConfigSnapshot where
  appName : AppName
  environment : Environment
  target : TargetId
  vars : Option EnvVars
deriving DecidableEq

/-- The name under which the environment of an app is deployed. -/
def projectName (name : AppName) (e : Environment) : String := name.text ++ "-" ++ e.toText

def ConfigSnapshot.projectName (c : ConfigSnapshot) : String := Rollout.projectName c.appName c.environment

inductive DeploymentEvent where
  | created (id : DeploymentId) (config : ConfigSnapshot) (state : DeploymentState) (requested : Signature)
  | stateChanged (id : DeploymentId) (state : DeploymentState)
deriving DecidableEq

namespace DeploymentEvent

def name : DeploymentEvent → String
  | .created .. => "deployment.created"
  | .stateChanged .. => "deployment.state_changed"

def id : DeploymentEvent → DeploymentId
  | .created id .. => id
  | .stateChanged id _ => id

end DeploymentEvent

end Rollout
