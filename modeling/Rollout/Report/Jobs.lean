import Rollout.Config
import Rollout.Job.Queue
import Rollout.Report.Aggregate
import Rollout.Report.Labels
import Rollout.Runner
import Rollout.Work

/-!
# Reports of jobs

What a queue holds and what became of enqueued work, with the jobs by their labels, and what a runner was called with.
-/

namespace Rollout.Report

variable {α : Type}

def ofDuration (d : Duration) : Json := .object [("secs", .string (toString d.secs)), ("nanos", .ofNat d.subsecNanos)]

def ofStatus (s : JobStatus) : Json := .string (toString s)

def ofKey (key : Option String) : Json := .ofOption .string key

def showJob (id : JobId) : StateM SeenJobs Json := modifyGet (SeenJobs.report id)

def showEnqueued (r : EnqueueResult) : StateM SeenJobs Json := do
  match r with
  | .created id => return .object [("created", ← showJob id), ("is_created", .bool r.isCreated)]
  | .superseded id replaced =>
    let replaced ← showJob replaced
    return .object [("superseded_by", ← showJob id), ("replaced", replaced), ("is_created", .bool r.isCreated)]

/-- A job; `fields` are what is told of its data. -/
def showFields (fields : α → List (String × Json)) (job : Job α) : StateM SeenJobs (List (String × Json)) := do
  return [("job", ← showJob job.id), ("key", ofKey job.key), ("attempt", .ofNat job.attempt)] ++ fields job.data

/-- A queue; `waiting` are what is told of the data of jobs that wait, beyond `fields`. -/
def showQueue (fields waiting : α → List (String × Json)) (q : Queue α) : StateM SeenJobs Json := do
  let pending ← q.pendingJobs.mapM fun job => return .object ((← showFields fields job) ++ waiting job.data)
  let dead ← q.deadLetters.mapM fun d =>
    return .object ((← showFields fields d.job) ++ [("error", .string (withBareType d.error))])
  return .object [("pending", .array pending), ("pending_len", .ofNat q.waiting.length),
    ("running", .ofNat q.running.size), ("tracked", .ofNat q.tracked), ("dead", .array dead)]

def showTurn (id : JobId) (status : JobStatus) : StateM SeenJobs Json := do
  return .object [("job", ← showJob id), ("status", ofStatus status)]

def ofWork : Work → Json
  | .deploy app number => .object [("app", toJson app), ("number", ofNumber number)]
  | .cleanup app => .object [("app", toJson app)]
  | .foreign value => .string value

/-- What is told of the data of any job. -/
def workFields : Work → List (String × Json)
  | .foreign value => [("type", .string Work.foreignKind), ("value", .string value)]
  | work => [("type", .string work.kind)]

/-- What else is told of the data of a job that waits. -/
def waitingFields : Work → List (String × Json)
  | .deploy _ number => [("number", ofNumber number)]
  | _ => [("number", .null)]

def ofCall (dataDir : String) (c : RunnerCall) : Json :=
  .object [("app", toJson c.id.app), ("number", ofNumber c.id.number), ("project", .string c.project),
    ("build_dir", .string (Artifacts.shown dataDir c.buildDir)), ("log", .string (Artifacts.shown dataDir c.log)),
    ("status", toJson c.status)]

def ofConfig (c : Config) : Json :=
  .object [("database_url", .string c.databaseUrl), ("data_dir", .string c.dataDir),
    ("worker_concurrency", .string (toString c.concurrency)), ("worker_poll_interval", ofDuration c.pollInterval),
    ("job_timeout", .ofOption ofDuration c.jobTimeout), ("job_stop_grace", ofDuration c.stopGrace),
    ("job_max_attempts", .ofNat c.maxAttempts), ("job_retry_base_delay", ofDuration c.retryBaseDelay)]

end Rollout.Report
