import Rollout.App
import Rollout.Store.Column

/-!
# Rows

What the store keeps of a target, an app and a deployment, and how an app (`AppRow.toApp`) and a deployment
(`DeploymentRow.toDeployment`) are read back. The columns are read in the order of the table, the first one that does
not hold a value of its type being the failure; then the app's name has to be a valid one, and last the address of its
repository.
-/

namespace Rollout

structure TargetRow where
  id : TargetId
  /-- Whether the target is marked for cleanup. -/
  isMarked : Bool
deriving DecidableEq

/-- The columns of one environment of an app. -/
structure SlotRow where
  target : Column TargetId
  version : Column Timestamp
  vars : Column (Option EnvVars)
deriving DecidableEq

structure AppRow where
  id : Column AppId
  name : Column String
  production : SlotRow
  staging : SlotRow
  url : Column (Option String)
  token : Column (Option String)
  cleanupAt : Column (Option Timestamp)
  cleanupBy : Column (Option UserId)
  createdAt : Column Timestamp
  createdBy : Column UserId
deriving DecidableEq

structure DeploymentRow where
  app : AppId
  /-- Any cell can be stored here, but only the numbers of deployments can be read back. -/
  number : Cell
  appName : Column String
  environment : Column Environment
  target : Column TargetId
  vars : Column (Option EnvVars)
  status : Column DeploymentStatus
  error : Column (Option String)
  startedAt : Column (Option Timestamp)
  finishedAt : Column (Option Timestamp)
  requestedAt : Column Timestamp
  requestedBy : Column UserId
deriving DecidableEq

/-- A name of an app that a column holds. -/
def readName (text : String) : Except DatabaseError AppName :=
  match AppName.ofText? text with
  | some name => .ok name
  | none => .error (.decode (AppError.invalidName text).message)

/-- An address of a repository that a column holds. -/
def readUrl (text : String) : Except DatabaseError Url :=
  match Url.parse text with
  | .ok url => .ok url
  | .error e => .error (.decode e.message)

namespace SlotRow

def ofConfig (c : EnvConfig) : SlotRow := ⟨.value c.target, .value c.version, .value c.vars⟩

def toConfig (s : SlotRow) (e : Environment) : Except DatabaseError EnvConfig := do
  return {
    target := ← s.target.read (e.columnPrefix ++ "_target")
    version := ← s.version.read (e.columnPrefix ++ "_version")
    vars := ← s.vars.read (e.columnPrefix ++ "_vars") }

/-- Whether the environment is deployed to the target. -/
def isOn (s : SlotRow) (t : TargetId) : Bool := s.target.holds t

end SlotRow

namespace AppRow

/-- The row of an app that was just created. -/
def ofCreated (id : AppId) (name : AppName) (production staging : EnvConfig) (created : Signature) : AppRow :=
  { id := .value id, name := .value name.text, production := .ofConfig production, staging := .ofConfig staging
    url := .value none, token := .value none, cleanupAt := .value none, cleanupBy := .value none
    createdAt := .value created.time, createdBy := .value created.user }

def slot (r : AppRow) : Environment → SlotRow
  | .production => r.production
  | .staging => r.staging

/-- Whether one of the app's environments is deployed to the target. -/
def isOn (r : AppRow) (t : TargetId) : Bool := r.production.isOn t || r.staging.isOn t

/-- A cleanup was requested if it is known when and by whom. -/
def cleanup (time : Option Timestamp) (user : Option UserId) : Option Signature :=
  match time, user with
  | some time, some user => some ⟨time, user⟩
  | _, _ => none

def toApp (r : AppRow) : Except DatabaseError App := do
  let id ← r.id.read "id"
  let name ← r.name.read "name"
  let production ← r.production.toConfig .production
  let staging ← r.staging.toConfig .staging
  let url ← r.url.read "version_control_url"
  let token ← r.token.read "version_control_token"
  let cleanupAt ← r.cleanupAt.read "cleanup_requested_at"
  let cleanupBy ← r.cleanupBy.read "cleanup_requested_by"
  let createdAt ← r.createdAt.read "created_at"
  let createdBy ← r.createdBy.read "created_by"
  let name ← readName name
  let url ← url.mapM readUrl
  return {
    id, name, production, staging
    versionControl := url.map fun url => ⟨url, token⟩
    cleanupRequested := cleanup cleanupAt cleanupBy
    created := ⟨createdAt, createdBy⟩
    events := .empty }

end AppRow

namespace DeploymentRow

/-- The row of a deployment that was just asked for. -/
def ofCreated (id : DeploymentId) (config : ConfigSnapshot) (state : DeploymentState) (requested : Signature) :
    DeploymentRow :=
  { app := id.app, number := .integer id.number.toNat, appName := .value config.appName.text
    environment := .value config.environment, target := .value config.target, vars := .value config.vars
    status := .value state.status, error := .value state.error, startedAt := .value state.startedAt
    finishedAt := .value state.finishedAt, requestedAt := .value requested.time, requestedBy := .value requested.user }

/-- Whether this is the row of the deployment. -/
def isOf (r : DeploymentRow) (id : DeploymentId) : Bool := r.app = id.app && r.number = .integer id.number.toNat

def withState (r : DeploymentRow) (s : DeploymentState) : DeploymentRow :=
  { r with
    status := .value s.status, error := .value s.error
    startedAt := .value s.startedAt, finishedAt := .value s.finishedAt }

def numberType : String := "deployer::domains::deployment::models::deployment::DeploymentNumber"

def readNumber (c : Cell) : Except DatabaseError DeploymentNumber :=
  match c with
  | .integer n =>
    match DeploymentNumber.ofInt? n with
    | some number => .ok number
    | none => .error (.column "deployment_number" (DeploymentNumber.rangeMessage n))
  | _ => .error (.column "deployment_number" (Cell.mismatchMessage numberType "INTEGER" c.kind))

/-- The text of the app's name, and the deployment of an app of that name. -/
def readColumns (r : DeploymentRow) : Except DatabaseError (String × (AppName → Deployment)) := do
  let number ← readNumber r.number
  let appName ← r.appName.read "config_appname"
  let environment ← r.environment.read "config_environment"
  let target ← r.target.read "config_target"
  let vars ← r.vars.read "config_vars"
  let status ← r.status.read "state_status"
  let error ← r.error.read "state_error_code"
  let startedAt ← r.startedAt.read "state_started_at"
  let finishedAt ← r.finishedAt.read "state_finished_at"
  let requestedAt ← r.requestedAt.read "requested_at"
  let requestedBy ← r.requestedBy.read "requested_by"
  return (appName, fun appName => {
    id := ⟨r.app, number⟩
    config := { appName, environment, target, vars }
    state := { status, error, startedAt, finishedAt }
    requested := ⟨requestedAt, requestedBy⟩
    events := .empty })

/-- Reads the name in what the columns were read as. -/
def withName (columns : String × (AppName → Deployment)) : Except DatabaseError Deployment :=
  (readName columns.1).map columns.2

def toDeployment (r : DeploymentRow) : Except DatabaseError Deployment := r.readColumns >>= withName

/-- Several rows are read column by column first, and only then are the names looked at. -/
def toDeployments (rows : List DeploymentRow) : Except DatabaseError (List Deployment) :=
  rows.mapM readColumns >>= List.mapM withName

end DeploymentRow

end Rollout
