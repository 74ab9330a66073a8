import Rollout.Store.ColumnType
import Rollout.Store.Tables

/-!
# Raw cells

A single column can be set to a raw cell, past all rules of the domain (`Tables.setAppCell`,
`Tables.setDeploymentCell`). The cell becomes what the column makes of it: a column of texts turns an integer into its
digits, a column of integers turns the text of a number into the number. The rules of the tables still hold: some
columns are never empty, apps are told apart by their ids and deployments by app and number, and a deployment belongs to
a stored app.
-/

namespace Rollout

namespace AppRow

/-- Columns that are never empty. -/
def required : List String :=
  ["id", "name", "production_target", "production_version", "staging_target", "staging_version", "created_at",
   "created_by"]

/-- How the column is set, if there is a column of this name. -/
def setter? : String → Option (Cell → AppRow → AppRow)
  | "id" => some fun c r => { r with id := ColumnType.id.column c }
  | "name" => some fun c r => { r with name := ColumnType.text.column c.asText }
  | "production_target" => some fun c r => { r with production.target := ColumnType.id.column c }
  | "production_version" => some fun c r => { r with production.version := ColumnType.time.column c.asText }
  | "production_vars" => some fun c r => { r with production.vars := ColumnType.vars.optional.column c.asText }
  | "staging_target" => some fun c r => { r with staging.target := ColumnType.id.column c }
  | "staging_version" => some fun c r => { r with staging.version := ColumnType.time.column c.asText }
  | "staging_vars" => some fun c r => { r with staging.vars := ColumnType.vars.optional.column c.asText }
  | "version_control_url" => some fun c r => { r with url := ColumnType.text.optional.column c.asText }
  | "version_control_token" => some fun c r => { r with token := ColumnType.text.optional.column c.asText }
  | "cleanup_requested_at" => some fun c r => { r with cleanupAt := ColumnType.time.optional.column c.asText }
  | "cleanup_requested_by" => some fun c r => { r with cleanupBy := ColumnType.id.optional.column c }
  | "created_at" => some fun c r => { r with createdAt := ColumnType.time.column c.asText }
  | "created_by" => some fun c r => { r with createdBy := ColumnType.id.column c }
  | _ => none

end AppRow

namespace DeploymentRow

/-- Columns that are never empty. -/
def required : List String :=
  ["deployment_number", "config_appname", "config_environment", "config_target", "state_status", "requested_at",
   "requested_by"]

/-- How the column is set, if there is a column of this name apart from that of the app. -/
def setter? : String → Option (Cell → DeploymentRow → DeploymentRow)
  | "deployment_number" => some fun c r => { r with number := c.asInteger }
  | "config_appname" => some fun c r => { r with appName := ColumnType.text.column c.asText }
  | "config_environment" => some fun c r => { r with environment := ColumnType.environment.column c.asText }
  | "config_target" => some fun c r => { r with target := ColumnType.id.column c }
  | "config_vars" => some fun c r => { r with vars := ColumnType.vars.optional.column c.asText }
  | "state_status" => some fun c r => { r with status := ColumnType.status.column c.asText }
  | "state_error_code" => some fun c r => { r with error := ColumnType.text.optional.column c.asText }
  | "state_started_at" => some fun c r => { r with startedAt := ColumnType.time.optional.column c.asText }
  | "state_finished_at" => some fun c r => { r with finishedAt := ColumnType.time.optional.column c.asText }
  | "requested_at" => some fun c r => { r with requestedAt := ColumnType.time.column c.asText }
  | "requested_by" => some fun c r => { r with requestedBy := ColumnType.id.column c }
  | _ => none

end DeploymentRow

namespace Tables

/-- Puts `new` into the place of the stored app `old`. Another app must not have its id, and deployments must keep their
app. -/
def replaceApp (t : Tables) (old new : AppRow) : Except DatabaseError (Nat × Tables) :=
  if new.id = old.id then .ok (1, { t with apps := t.apps.map fun r => if r.id = old.id then new else r })
  else if t.apps.any (·.id = new.id) then .error (.uniqueViolation "apps.id")
  else if t.deployments.any fun r => old.id.holds r.app then .error .foreignKeyViolation
  else .ok (1, { t with apps := t.apps.map fun r => if r.id = old.id then new else r })

/-- Sets a column of an app: how many rows changed, and the tables. -/
def setAppCell (t : Tables) (id : AppId) (column : String) (c : Cell) : Except DatabaseError (Nat × Tables) :=
  match AppRow.setter? column, t.app? id with
  | none, _ => .error (.noSuchColumn column)
  | some _, none => .ok (0, t)
  | some set, some row =>
    if c = .null ∧ column ∈ AppRow.required then .error (.notNullViolation ("apps." ++ column))
    else t.replaceApp row (set c row)

/-- Puts `new` into the place of a stored deployment. No other one must have its app and number. -/
def replaceDeployment (t : Tables) (id : DeploymentId) (new : DeploymentRow) : Except DatabaseError (Nat × Tables) :=
  if t.deployments.any fun r => !r.isOf id && r.app = new.app && r.number = new.number then
    .error (.uniqueViolation "deployments.app_id, deployments.deployment_number")
  else if t.apps.any (·.id.holds new.app) then .ok (1, t.updateDeployment id fun _ => new)
  else .error .foreignKeyViolation

/-- Sets a column of a deployment: how many rows changed, and the tables. -/
def setDeploymentCell (t : Tables) (id : DeploymentId) (column : String) (c : Cell) :
    Except DatabaseError (Nat × Tables) :=
  if column = "app_id" then
    match t.deployment? id, c with
    | none, _ => .ok (0, t)
    | some _, .null => .error (.notNullViolation "deployments.app_id")
    | some row, .id u => t.replaceDeployment id { row with app := ⟨u⟩ }
    | some _, _ => .error .foreignKeyViolation
  else
    match DeploymentRow.setter? column, t.deployment? id with
    | none, _ => .error (.noSuchColumn column)
    | some _, none => .ok (0, t)
    | some set, some row =>
      if c = .null ∧ column ∈ DeploymentRow.required then .error (.notNullViolation ("deployments." ++ column))
      else t.replaceDeployment id (set c row)

end Tables

end Rollout
