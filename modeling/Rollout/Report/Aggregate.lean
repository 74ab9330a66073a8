import Rollout.App
import Rollout.Codec.Domain
import Rollout.Report.Error

/-!
# Reports of apps and deployments

Apps and deployments are reported with their pending events. Of points in time only versions are told; of the others,
whether they are set.
-/

namespace Rollout.Report

def ofNumber (n : DeploymentNumber) : Json := .ofNat n.toNat

def ofRequirement (r : Requirement) : Json :=
  .object [("empty", .bool r.isEmpty), ("config", toJson r.config), ("target_found", .bool r.targetFound),
    ("name_available", .bool r.nameAvailable),
    ("met", ofResult ofAppError (fun c => .object [("ok", toJson c)]) r.met)]

def ofRequirements (r : Requirement × Requirement) : Json :=
  .object [("production", ofRequirement r.1), ("staging", ofRequirement r.2)]

def ofState (s : DeploymentState) : Json :=
  .object [("status", toJson s.status), ("error", toJson s.error), ("started", .bool s.startedAt.isSome),
    ("finished", .bool s.finishedAt.isSome)]

def ofAppEvent (e : AppEvent) : Json :=
  let more : List (String × Json) := match e with
    | .created _ name production staging created =>
      [("app_name", toJson name), ("production", toJson production), ("staging", toJson staging),
        ("by", toJson created.user)]
    | .envChanged _ environment config => [("env", toJson environment), ("config", toJson config)]
    | .versionControlConfigured _ config => [("config", toJson config)]
    | .versionControlRemoved _ => []
    | .cleanupRequested _ requested => [("by", toJson requested.user)]
    | .deleted _ => []
  .object ([("event", .string e.name), ("id", toJson e.id)] ++ more)

def ofDeploymentEvent (e : DeploymentEvent) : Json :=
  let more : List (String × Json) := match e with
    | .created _ config state requested =>
      [("project", .string config.projectName), ("state", ofState state), ("by", toJson requested.user)]
    | .stateChanged _ state => [("state", ofState state)]
  .object ([("event", .string e.name), ("number", ofNumber e.id.number)] ++ more)

def ofApp (a : App) : Json :=
  .object [("id", toJson a.id), ("name", toJson a.name), ("production", toJson a.production),
    ("staging", toJson a.staging), ("version_control", toJson a.versionControl),
    ("cleanup_requested_by", toJson (a.cleanupRequested.map (·.user))), ("created_by", toJson a.created.user),
    ("events", .array (a.events.events.map ofAppEvent))]

def ofDeployment (d : Deployment) : Json :=
  .object [("app", toJson d.id.app), ("number", ofNumber d.id.number), ("app_name", toJson d.config.appName),
    ("env", toJson d.config.environment), ("target", toJson d.config.target), ("vars", toJson d.config.vars),
    ("project", .string d.config.projectName), ("state", ofState d.state), ("has_started", .bool d.hasStarted),
    ("requested_by", toJson d.requested.user), ("events", .array (d.events.events.map ofDeploymentEvent))]

end Rollout.Report
