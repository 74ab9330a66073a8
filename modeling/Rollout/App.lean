import Rollout.App.Event
import Rollout.App.Requirement
import Rollout.Deployment

/-!
# Apps

An app is deployed to a production and a staging environment. Operations check first and then raise an event, which
changes the app and waits to be written; an operation that would change nothing raises none. Once its cleanup has been
requested, an app does not change any more and can be deleted.
-/

namespace Rollout

structure App where
  id : AppId
  name : AppName
  production : EnvConfig
  staging : EnvConfig
  versionControl : Option VersionControl
  cleanupRequested : Option Signature
  created : Signature
  events : EventBuffer AppEvent
deriving DecidableEq

namespace App

/-- A new app, if what is required for both environments is met. -/
def create (id : AppId) (name : AppName) (production staging : Requirement) (created : Signature) :
    Except AppError App := do
  let production ← production.met
  let staging ← staging.met
  return {
    id, name, production, staging, versionControl := none, cleanupRequested := none, created
    events := EventBuffer.empty.record (.created id name production staging created) }

def environment (a : App) : Environment → EnvConfig
  | .production => a.production
  | .staging => a.staging

def apply (a : App) : AppEvent → App
  | .envChanged _ .production config => { a with production := config }
  | .envChanged _ .staging config => { a with staging := config }
  | .versionControlConfigured _ config => { a with versionControl := some config }
  | .versionControlRemoved _ => { a with versionControl := none }
  | .cleanupRequested _ requested => { a with cleanupRequested := some requested }
  | .created .. => a
  | .deleted _ => a

@[simp] theorem id_apply (a : App) (e : AppEvent) : (a.apply e).id = a.id := by
  cases e with
  | envChanged _ e _ => cases e <;> rfl
  | _ => rfl

@[simp] theorem name_apply (a : App) (e : AppEvent) : (a.apply e).name = a.name := by
  cases e with
  | envChanged _ e _ => cases e <;> rfl
  | _ => rfl

/-- Applies an event and records it. -/
def raise (a : App) (e : AppEvent) : App := { a.apply e with events := a.events.record e }

def ensureNotCleaningUp (a : App) : Except AppError Unit :=
  if a.cleanupRequested.isSome then .error .cleanupRequested else .ok ()

/-- Moves an environment to the required configuration; the version stays unless the target changes. -/
def updateEnvironment (a : App) (e : Environment) (required : Requirement) : Except AppError App := do
  a.ensureNotCleaningUp
  let config ← required.met
  if (a.environment e).hasSameValues config then return a
  return a.raise (.envChanged a.id e (config.consolidate (a.environment e)))

def useVersionControl (a : App) (config : VersionControl) : Except AppError App := do
  a.ensureNotCleaningUp
  if a.versionControl = some config then return a
  return a.raise (.versionControlConfigured a.id config)

def removeVersionControl (a : App) : Except AppError App := do
  a.ensureNotCleaningUp
  if a.versionControl.isNone then return a
  return a.raise (.versionControlRemoved a.id)

/-- Asks for the cleanup of the app; who asked first stays on record. -/
def requestCleanup (a : App) (requested : Signature) : App :=
  if a.cleanupRequested.isSome then a else a.raise (.cleanupRequested a.id requested)

def delete (a : App) : Except AppError App :=
  if a.cleanupRequested.isNone then .error .cleanupNotRequested else .ok (a.raise (.deleted a.id))

/-- A deployment of an environment as it is configured now. -/
def newDeployment (a : App) (number : DeploymentNumber) (e : Environment) (requested : Signature) :
    Except AppError Deployment := do
  a.ensureNotCleaningUp
  let config := a.environment e
  return Deployment.create ⟨a.id, number⟩ ⟨a.name, e, config.target, config.vars⟩ requested

/-- The events taken out, and the app without them. -/
def takeEvents (a : App) : List AppEvent × App := (a.events.drain.1, { a with events := a.events.drain.2 })

end App

end Rollout
