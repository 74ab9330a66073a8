import Rollout.Artifacts
import Rollout.Deployment
import Rollout.Job.Context

/-!
# Runners

A runner builds a deployment and ships it to its target. What it does is given as a list of actions, which may depend on
the call. The build around it (`Build.runAndClose`) keeps the log and is cut short when the context stops: then what is
still buffered for the log is lost.
-/

namespace Rollout

/-- What a runner is called with. -/
structure RunnerCall where
  id : DeploymentId
  project : String
  buildDir : Path
  log : Path
  status : DeploymentStatus
deriving DecidableEq

inductive RunnerAction where
  /-- Writes a line to the log. -/
  | log (line : String)
  /-- Writes a file at a path from the build directory on, with the path as its content. -/
  | file (name : String)
  | fail (failure : Failure)
  /-- Fails if there is a reason to stop. -/
  | check
  /-- Cancels the current token. -/
  | cancel
  /-- Lets time pass, which shows when the runner waits next. -/
  | elapse (d : Duration)
  /-- Waits for nothing. -/
  | hang
deriving DecidableEq

abbrev Runner := RunnerCall → List RunnerAction

/-- A build under way. -/
structure Build where
  files : Files
  sink : LogSink
  now : Instant
  /-- What the clock will show as soon as the build waits. -/
  next : Instant
  context : Context

/-- How a build ends, if it does: by itself, or because the context stopped. -/
inductive BuildEnd where
  | finished (result : Except Failure Unit)
  | stopped (reason : Stop)
  | never

namespace Build

def writeLine (b : Build) (line : String) : Build :=
  let (sink, files) := b.sink.writeLine line b.files
  { b with sink, files }

def start (files : Files) (log : Path) (now : Instant) (context : Context) : Build :=
  ⟨files, .ofPath log, now, now, context⟩

/-- The build when it waits. -/
def waiting (b : Build) : Build := { b with now := b.next }

/--
Carries out the actions of a runner. `holds` says whether the token that `cancel` cancels is the one that the context
was made from.
-/
def perform (holds : Bool) (dir : Path) : List RunnerAction → Build → BuildEnd × Build
  | [], b => (.finished (.ok ()), b)
  | .log line :: rest, b => perform holds dir rest (b.writeLine line)
  | .file name :: rest, b =>
    match b.files.write (dir ++ .ofText name) name with
    | .ok files => perform holds dir rest { b with files }
    | .error e => (.finished (.error (.of e.message)), b)
  | .fail failure :: _, b => (.finished (.error failure), b)
  | .check :: rest, b =>
    match b.context.stop? b.now with
    | some reason => (.finished (.error (.ofStop reason)), b)
    | none => perform holds dir rest b
  | .cancel :: rest, b =>
    perform holds dir rest (if holds then { b with context := b.context.cancelAt b.now } else b)
  | .elapse d :: rest, b => perform holds dir rest { b with next := Instant.after b.next d }
  | .hang :: _, b =>
    match b.context.stopsAt b.next with
    | some (t, reason) => (.stopped reason, { b with now := t })
    | none => (.never, b.waiting)

/-- Tells the log how the runner ended and closes it. -/
def close (b : Build) (result : Except Failure Unit) : Build :=
  let b := b.writeLine (match result with
    | .ok _ => "deployment succeeded"
    | .error failure => "deployment failed: " ++ failure.fullText)
  { b with files := b.sink.close b.files }

/--
Calls the runner, closes the log after it, and waits for that. A reason to stop by then counts more than what the runner
says.
-/
def runAndClose (holds : Bool) (call : RunnerCall) (actions : List RunnerAction) (b : Build) : BuildEnd × Build :=
  match b.perform holds call.buildDir actions with
  | (.finished result, b) =>
    let b := (b.close result).waiting
    match b.context.stop? b.now with
    | some reason => (.stopped reason, b)
    | none => (.finished result, b)
  | ended => ended

def call (d : Deployment) : RunnerCall :=
  ⟨d.id, d.config.projectName, Artifacts.buildDir d.id, Artifacts.logPath d.id, d.state.status⟩

/-- The first line of the log of a deployment. -/
def heading (d : Deployment) : String :=
  "deploying " ++ d.config.projectName ++ " to target " ++ toString d.config.target

end Build

end Rollout
