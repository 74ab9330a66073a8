import Rollout.Command.Error
import Rollout.Store

/-!
# Use cases

Creating and changing an app, asking for its cleanup, and asking for a deployment. Each looks at the store, lets the app
decide, and writes what the app raised. The parts are definitions of their own, since others may get at the store
between them.
-/

namespace Rollout

/-- What a new app is to be. -/
structure NewApp where
  name : AppName
  production : EnvConfig
  staging : EnvConfig
  versionControl : Option VersionControl

inductive VersionControlChange where
  | keep
  | use (config : VersionControl)
  | remove

/-- What is to change in an app. -/
structure AppChange where
  production : Option EnvConfig
  staging : Option EnvConfig
  versionControl : VersionControlChange

/-- The app itself, if what was found out about its environments allows it. -/
def NewApp.build (input : NewApp) (id : AppId) (required : Requirement × Requirement) (created : Signature) :
    Except AppError App := do
  let app ← App.create id input.name required.1 required.2 created
  match input.versionControl with
  | some config => app.useVersionControl config
  | none => return app

namespace AppChange

/-- Moves an environment, unless nothing is required of it. -/
def moveTo (app : App) (e : Environment) (required : Requirement) : Except AppError App :=
  if required.isEmpty then .ok app else app.updateEnvironment e required

/-- The app after the change, if what was found out about its environments allows it. -/
def build (input : AppChange) (app : App) (required : Requirement × Requirement) : Except AppError App := do
  let app ← moveTo app .production required.1
  let app ← moveTo app .staging required.2
  match input.versionControl with
  | .keep => return app
  | .use config => app.useVersionControl config
  | .remove => app.removeVersionControl

end AppChange

namespace Store

/-! ## Parts -/

/-- Finds out what holds for the environments of a new app. -/
def checkNew (s : Store) (input : NewApp) : Except StoreError (Requirement × Requirement) × Store :=
  s.query fun t => .ok (t.checkNaming input.name input.production input.staging)

/-- Finds out what holds for the environments that are to change. No change needs no look at the store. -/
def checkNamingById (s : Store) (id : AppId) (production staging : Option EnvConfig) :
    Except StoreError (Requirement × Requirement) × Store :=
  if production.isNone && staging.isNone then (.ok (.empty, .empty), s)
  else s.query fun t => t.checkNamingById id production staging

def loadApp (s : Store) (id : AppId) : Except StoreError App × Store := s.query fun t => t.app id

def loadDeployment (s : Store) (id : DeploymentId) : Except StoreError Deployment × Store :=
  s.query fun t => t.deployment id

def nextNumber (s : Store) (app : AppId) : Except StoreError DeploymentNumber × Store :=
  s.query fun t => t.nextNumber app

/-- Writes the events of what an aggregate came to; a refusal writes nothing. -/
def commit {A ε β : Type} [Aggregate A ε] (s : Store) (answer : β) : Except AppError A → Except CommandError β × Store
  | .error e => (.error (.rejected e), s)
  | .ok a =>
    match s.write [a] with
    | (.error e, _, s) => (.error (.store e), s)
    | (.ok _, _, s) => (.ok answer, s)

/-! ## Use cases -/

/-- Goes on with what the store answered. -/
def andThen {α β : Type} (answer : Except StoreError α × Store) (next : α → Store → Except CommandError β × Store) :
    Except CommandError β × Store :=
  match answer with
  | (.error e, s) => (.error (.store e), s)
  | (.ok a, s) => next a s

/-- Creates an app under the identifier `id`, which nothing else has. -/
def createApp (s : Store) (id : AppId) (input : NewApp) (created : Signature) : Except CommandError AppId × Store :=
  andThen (s.checkNew input) fun required s => s.commit id (input.build id required created)

def updateApp (s : Store) (id : AppId) (input : AppChange) : Except CommandError Unit × Store :=
  andThen (s.checkNamingById id input.production input.staging) fun required s =>
    andThen (s.loadApp id) fun app s => s.commit () (input.build app required)

def requestCleanup (s : Store) (id : AppId) (requested : Signature) : Except CommandError Unit × Store :=
  andThen (s.loadApp id) fun app s => s.commit () (.ok (app.requestCleanup requested))

/-- Asks for a deployment of an environment as it is configured now: the number of the deployment. -/
def queueDeployment (s : Store) (app : AppId) (e : Environment) (requested : Signature) :
    Except CommandError DeploymentNumber × Store :=
  andThen (s.loadApp app) fun a s =>
    andThen (s.nextNumber app) fun number s => s.commit number (a.newDeployment number e requested)

end Store

end Rollout
