import Rollout.App.EnvConfig
import Rollout.App.Environment
import Rollout.App.Name
import Rollout.App.VersionControl
import Rollout.Signature

/-!
# Events of apps
-/

namespace Rollout

inductive AppEvent where
  | created (id : AppId) (name : AppName) (production staging : EnvConfig) (created : Signature)
  | envChanged (id : AppId) (environment : Environment) (config : EnvConfig)
  | versionControlConfigured (id : AppId) (config : VersionControl)
  | versionControlRemoved (id : AppId)
  | cleanupRequested (id : AppId) (requested : Signature)
  | deleted (id : AppId)
deriving DecidableEq

namespace AppEvent

def name : AppEvent → String
  | .created .. => "app.created"
  | .envChanged .. => "app.env_changed"
  | .versionControlConfigured .. => "app.version_control_configured"
  | .versionControlRemoved .. => "app.version_control_removed"
  | .cleanupRequested .. => "app.cleanup_requested"
  | .deleted .. => "app.deleted"

def id : AppEvent → AppId
  | .created id .. => id
  | .envChanged id .. => id
  | .versionControlConfigured id _ => id
  | .versionControlRemoved id => id
  | .cleanupRequested id _ => id
  | .deleted id => id

end AppEvent

end Rollout
