import Rollout.Store.Row

/-!
# Tables

The tables of targets, apps and deployments, what can be asked of them, and what an event changes in them
(`Tables.applyAppEvent`, `Tables.applyDeploymentEvent`). Apps are told apart by their ids, deployments by app and
number; a deployment belongs to a stored app and is deleted with it.
-/

namespace Rollout

structure Tables where
  targets : List TargetRow
  apps : List AppRow
  deployments : List DeploymentRow
deriving DecidableEq

namespace Tables

def empty : Tables := ⟨[], [], []⟩

/-! ## Questions -/

def app? (t : Tables) (id : AppId) : Option AppRow := t.apps.find? (·.id.holds id)

def deployment? (t : Tables) (id : DeploymentId) : Option DeploymentRow := t.deployments.find? (·.isOf id)

/-- The row that was looked for, read as what it stands for. -/
def readRow {ρ β : Type} (entity : String) (read : ρ → Except DatabaseError β) : Option ρ → Except StoreError β
  | none => .error (.notFound entity)
  | some row => (read row).mapError .database

def app (t : Tables) (id : AppId) : Except StoreError App := readRow "app" AppRow.toApp (t.app? id)

def deployment (t : Tables) (id : DeploymentId) : Except StoreError Deployment :=
  readRow "deployment" DeploymentRow.toDeployment (t.deployment? id)

/-- The waiting deployments of an app's environment with smaller numbers, by number. -/
def pendingBefore (t : Tables) (app : AppId) (e : Environment) (n : DeploymentNumber) :
    Except StoreError (List Deployment) :=
  let rows := t.deployments.filter fun r =>
    r.app = app && r.environment.holds e && r.number.isBefore (.integer n.toNat) && r.status.holds .pending
  (DeploymentRow.toDeployments (rows.mergeSort fun a b => !b.number.isBefore a.number)).mapError .database

/-- The last number of a deployment of the app. -/
def lastNumber? (t : Tables) (app : AppId) : Option Cell :=
  Cell.greatest? ((t.deployments.filter (·.app = app)).map (·.number))

/-- The number for the next deployment of the app. -/
def nextNumber (t : Tables) (app : AppId) : Except StoreError DeploymentNumber :=
  match ((t.lastNumber? app).getD (.integer 0)).successor? with
  | none => .error (.database (.result 0 (Cell.mismatchMessage "i64" "INTEGER" "REAL")))
  | some n =>
    match DeploymentNumber.ofInt? n with
    | some number => .ok number
    | none => .error (.database (.decode (DeploymentNumber.rangeMessage n)))

/-- Whether some app has an environment on the target. -/
def hasAppsOn (t : Tables) (target : TargetId) : Bool := t.apps.any (·.isOn target)

/-! ## Naming -/

/-- Whether the target exists and is not about to be cleaned up. -/
def isUsable (t : Tables) (target : TargetId) : Bool := t.targets.any fun r => r.id = target && !r.isMarked

/-- Whether no app of this name is on the target, apart from those that `except` tells. -/
def isFree (t : Tables) (except : AppRow → Bool) (name : Column String) (target : TargetId) : Bool :=
  !t.apps.any fun r => !except r && r.name = name && r.isOn target

/-- What holds for a configuration of an app of this name. -/
def requirement (t : Tables) (except : AppRow → Bool) (name : Column String) (c : EnvConfig) : Requirement :=
  .of c (t.isUsable c.target) (t.isFree except name c.target)

/-- What holds for the environments of a new app. -/
def checkNaming (t : Tables) (name : AppName) (production staging : EnvConfig) : Requirement × Requirement :=
  let check := t.requirement (fun _ => false) (.value name.text)
  (check production, check staging)

/-- What holds for the environments of a stored app that are to change; the app does not stand in its own way. -/
def checkNamingById (t : Tables) (id : AppId) (production staging : Option EnvConfig) :
    Except StoreError (Requirement × Requirement) :=
  match t.app? id with
  | none => .error (.notFound "app")
  | some row =>
    let check (c : Option EnvConfig) := match c with
      | some c => t.requirement (·.id.holds id) row.name c
      | none => .empty
    .ok (check production, check staging)

/-! ## Changes -/

def updateApp (t : Tables) (id : AppId) (f : AppRow → AppRow) : Tables :=
  { t with apps := t.apps.map fun r => if r.id.holds id then f r else r }

def insertApp (t : Tables) (row : AppRow) : Except DatabaseError Tables :=
  if t.apps.any (·.id = row.id) then .error (.uniqueViolation "apps.id") else .ok { t with apps := t.apps ++ [row] }

/-- The tables without an app and its deployments. -/
def deleteApp (t : Tables) (id : AppId) : Tables :=
  { t with apps := t.apps.filter (!·.id.holds id), deployments := t.deployments.filter (·.app ≠ id) }

def insertDeployment (t : Tables) (row : DeploymentRow) : Except DatabaseError Tables :=
  if t.deployments.any (fun r => r.app = row.app && r.number = row.number) then
    .error (.uniqueViolation "deployments.app_id, deployments.deployment_number")
  else if t.apps.any (·.id.holds row.app) then .ok { t with deployments := t.deployments ++ [row] }
  else .error .foreignKeyViolation

def updateDeployment (t : Tables) (id : DeploymentId) (f : DeploymentRow → DeploymentRow) : Tables :=
  { t with deployments := t.deployments.map fun r => if r.isOf id then f r else r }

def applyAppEvent (t : Tables) : AppEvent → Except DatabaseError Tables
  | .created id name production staging created => t.insertApp (.ofCreated id name production staging created)
  | .envChanged id .production config => .ok (t.updateApp id fun r => { r with production := .ofConfig config })
  | .envChanged id .staging config => .ok (t.updateApp id fun r => { r with staging := .ofConfig config })
  | .versionControlConfigured id config =>
    .ok (t.updateApp id fun r => { r with url := .value (some config.url.toText), token := .value config.token })
  | .versionControlRemoved id => .ok (t.updateApp id fun r => { r with url := .value none, token := .value none })
  | .cleanupRequested id requested =>
    .ok (t.updateApp id fun r =>
      { r with cleanupAt := .value (some requested.time), cleanupBy := .value (some requested.user) })
  | .deleted id => .ok (t.deleteApp id)

def applyDeploymentEvent (t : Tables) : DeploymentEvent → Except DatabaseError Tables
  | .created id config state requested => t.insertDeployment (.ofCreated id config state requested)
  | .stateChanged id state => .ok (t.updateDeployment id (·.withState state))

/-! ## Targets -/

def insertTarget (t : Tables) (id : TargetId) : Except DatabaseError Tables :=
  if t.targets.any (·.id = id) then .error (.uniqueViolation "targets.id")
  else .ok { t with targets := t.targets ++ [⟨id, false⟩] }

/-- Marks a target for cleanup. -/
def markTarget (t : Tables) (id : TargetId) : Tables :=
  { t with targets := t.targets.map fun r => if r.id = id then { r with isMarked := true } else r }

def deleteTarget (t : Tables) (id : TargetId) : Tables := { t with targets := t.targets.filter (·.id ≠ id) }

end Tables

end Rollout
