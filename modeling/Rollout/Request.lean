import Rollout.Report.Aggregate

/-!
# Requests

What those who use the system from outside give is a JSON object with fields. A field that is missing counts as empty; a
field with a value that the domain does not admit is reported as a failure (`Request.Read`).
-/

namespace Rollout.Request

def value (j : Json) (name : String) : Json := (j.member? name).getD .null

def text? (j : Json) (name : String) : Option String := (value j name).string?

def text (j : Json) (name : String) : String := (text? j name).getD ""

def nat? (j : Json) (name : String) : Option Nat := (value j name).nat?

def nat (j : Json) (name : String) : Nat := (nat? j name).getD 0

def flag (j : Json) (name : String) : Bool := (value j name).bool?.getD false

def items (j : Json) (name : String) : List Json := (value j name).array?.getD []

def texts (j : Json) : List String := (j.array?.getD []).filterMap Json.string?

def millis (j : Json) (name : String) : Duration := .ofMillis (nat j name)

/-- What was read, or the report of why it cannot be. -/
abbrev Read := Except Json

def Read.answer : Read Json → Json
  | .ok j => j
  | .error j => j

def identifier {e : Entity} (text : String) : Read (EntityId e) :=
  match EntityId.parse? text with
  | some i => .ok i
  | none => .error (Report.failure "InvalidId")

def appName (text : String) : Read AppName :=
  match AppName.ofText? text with
  | some n => .ok n
  | none => .error (Report.ofAppError (.invalidName text))

def environment (text : String) : Read Environment :=
  match Environment.ofText? text with
  | some e => .ok e
  | none => .error (Report.failureWith "InvalidEnvironment" (Environment.invalidMessage text))

def config (j : Json) : Read EnvConfig :=
  match ofJson? j with
  | some c => .ok c
  | none => .error (Report.failure "Deserialize")

/-- A value of which null stands for none. -/
def optional {α : Type} (read : Json → Read α) : Json → Read (Option α)
  | .null => .ok none
  | j => (read j).map some

def requirement (j : Json) : Read Requirement :=
  match value j "config" with
  | .null => .ok .empty
  | c => (config c).map fun c => .of c (flag j "target_found") (flag j "name_available")

def versionControl (j : Json) : Read VersionControl :=
  match Url.parse (text j "url") with
  | .ok url => .ok ⟨url, text? j "token"⟩
  | .error e => .error (Report.failureWith "InvalidUrl" e.message)

def number (j : Json) (name : String) : DeploymentNumber := (DeploymentNumber.ofNat? (nat j name)).getD .first

/-- Asks an app for a deployment. -/
def newDeployment (a : App) (now : Timestamp) (j : Json) : Read Deployment := do
  let e ← environment (text j "env")
  let user : UserId ← identifier (text j "by")
  (a.newDeployment (number j "number") e ⟨now, user⟩).mapError Report.ofAppError

/-- Creates an app for which it is known what holds for its environments. -/
def newApp (newId : AppId) (now : Timestamp) (j : Json) : Read App := do
  let name ← appName (text j "name")
  let production ← requirement (value j "production")
  let staging ← requirement (value j "staging")
  let user : UserId ← identifier (text j "by")
  (App.create newId name production staging ⟨now, user⟩).mapError Report.ofAppError

/-- The report of an operation, and what came of it. -/
def applied {α : Type} (a : α) : Read (Except AppError α) → Json × α
  | .error e => (e, a)
  | .ok (.error e) => (Report.ofAppError e, a)
  | .ok (.ok a) => (Report.ok, a)

/-- Calls an operation of an app: the report, and the app after it. -/
def callApp (a : App) (now : Timestamp) (j : Json) : Json × App :=
  match text j "call" with
  | "update_production" => applied a <| (requirement (value j "requirement")).map (a.updateEnvironment .production)
  | "update_staging" => applied a <| (requirement (value j "requirement")).map (a.updateEnvironment .staging)
  | "use_version_control" => applied a <| (versionControl j).map a.useVersionControl
  | "remove_version_control" => applied a <| .ok a.removeVersionControl
  | "request_cleanup" => applied a <| (identifier (text j "by")).map fun user => .ok (a.requestCleanup ⟨now, user⟩)
  | "delete" => applied a <| .ok a.delete
  | "take_events" => (.array (a.takeEvents.1.map Report.ofAppEvent), a.takeEvents.2)
  | _ => (Report.failure "BadInput", a)

/-- Calls an operation of a deployment: the report, and the deployment after it. -/
def callDeployment (d : Deployment) (now : Timestamp) (j : Json) : Json × Deployment :=
  match text j "call" with
  | "running" => applied d <| .ok (d.markRunning now)
  | "succeeded" => applied d <| .ok (d.markSucceeded now)
  | "failed" => applied d <| .ok (d.markFailed now (text j "reason"))
  | "superseded" => applied d <| .ok (d.markSuperseded now (number j "number"))
  | "take_events" => (.array (d.takeEvents.1.map Report.ofDeploymentEvent), d.takeEvents.2)
  | _ => (Report.failure "BadInput", d)

end Rollout.Request
