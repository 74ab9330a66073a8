import Rollout.App
import Rollout.Job.Dispatch

/-!
# Work that follows from events

A deployment that is created has to be carried out, and an app whose cleanup is requested has to be cleaned up. The jobs
for that have keys (`Work.deployKey`, `Work.cleanupKey`): deployments of one app environment stand for the same work,
and so do cleanups of one app.
-/

namespace Rollout

/-- What an event carries to the handlers. -/
inductive Payload where
  | app (event : AppEvent)
  | deployment (event : DeploymentEvent)
  /-- Something that no handler knows. -/
  | foreign
deriving DecidableEq

inductive Work where
  | deploy (app : AppId) (number : DeploymentNumber)
  | cleanup (app : AppId)
  /-- Something that no handler knows. -/
  | foreign (value : String)
deriving DecidableEq

inductive Command where
  | deploy (id : DeploymentId)
  | cleanup (app : AppId)
deriving DecidableEq

namespace AppEvent

def notice (e : AppEvent) : Notice Payload := ⟨e.name, .app e⟩

end AppEvent

namespace DeploymentEvent

def notice (e : DeploymentEvent) : Notice Payload := ⟨e.name, .deployment e⟩

end DeploymentEvent

namespace Work

def deployKind : String := "deployment.deploy"

def cleanupKind : String := "deployment.cleanup_app"

def foreignKind : String := "test.foreign"

def kind : Work → String
  | .deploy .. => deployKind
  | .cleanup _ => cleanupKind
  | .foreign _ => foreignKind

def deployKey (app : AppId) (project : String) : String := deployKind ++ "." ++ toString app ++ "." ++ project

def cleanupKey (app : AppId) : String := cleanupKind ++ "." ++ toString app

/-- Carries out deployments that were created. -/
def deployHandler : Handler Payload Work Command where
  claims
    | .deployment (.created ..) => true
    | _ => false
  prepare
    | .deployment (.created id config _ _) =>
      .ok ⟨.deploy id.app id.number, some (deployKey id.app config.projectName)⟩
    | _ => .error (.invalidPayload "DeploymentCreated")
  owns
    | .deploy .. => true
    | _ => false
  command job :=
    match job.data with
    | .deploy app number => .ok (.deploy ⟨app, number⟩)
    | _ => .error (.invalidPayload "DeployData")

/-- Cleans up apps when it is requested. -/
def cleanupHandler : Handler Payload Work Command where
  claims
    | .app (.cleanupRequested ..) => true
    | _ => false
  prepare
    | .app (.cleanupRequested id _) => .ok ⟨.cleanup id, some (cleanupKey id)⟩
    | _ => .error (.invalidPayload "AppCleanupRequested")
  owns
    | .cleanup _ => true
    | _ => false
  command job :=
    match job.data with
    | .cleanup app => .ok (.cleanup app)
    | _ => .error (.invalidPayload "CleanupAppData")

def registry : Registry Payload Work Command := ⟨[deployHandler, cleanupHandler], kind⟩

end Work

end Rollout
