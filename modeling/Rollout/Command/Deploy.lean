import Rollout.System

/-!
# Carrying out a deployment

The command loads its deployment, closes the older ones of the environment that still wait, starts its own, builds it
and records the outcome. It comes to its end in phases, and each phase looks at the store or changes it at most once
(`Deploying.step`); other commands and use cases may get at the store between two phases.

A deployment that is found running was interrupted before its outcome could be recorded, and is recorded as failed.
-/

namespace Rollout

inductive DeployPhase where
  | entered
  | loaded (d : Deployment)
  | gathered (d : Deployment) (older : List Deployment)
  | started (d : Deployment)
  /-- The build is over; `stopped` says that it failed and that there was a reason to stop. -/
  | built (d : Deployment) (outcome : Except Failure Unit) (stopped : Bool)
  | ended (result : Except CommandError Unit)
  /-- The runner never comes back. -/
  | stuck

/-- A deploy command under way. -/
structure Deploying where
  id : DeploymentId
  context : Context
  /-- Whether the context was made from the token that runners can cancel. -/
  holds : Bool
  phase : DeployPhase

namespace Deploying

def enter (id : DeploymentId) (context : Context) (holds : Bool) : Deploying := ⟨id, context, holds, .entered⟩

def goTo (p : Deploying) (phase : DeployPhase) : Deploying := { p with phase }

def fail (p : Deploying) (e : CommandError) : Deploying := p.goTo (.ended (.error e))

def interrupted : String := "deployment was interrupted"

/-- Goes on with what the store answered. -/
def andThen {β : Type} (p : Deploying) (s : System) (answer : Except StoreError β × Store) (next : β → DeployPhase) :
    Deploying × System :=
  let s := { s with store := answer.2 }
  match answer.1 with
  | .error e => (p.fail (.store e), s)
  | .ok b => (p.goTo (next b), s)

/-- Writes what deployments came to, and goes on. -/
def commit (p : Deploying) (s : System) (next : List Deployment → DeployPhase) :
    Except AppError (List Deployment) → Deploying × System
  | .error e => (p.fail (.rejected e), s)
  | .ok ds =>
    let (result, ds, store) := s.store.write ds
    p.andThen s (result, store) fun _ => next ds

/-- Loads the deployment, unless there is a reason to stop. -/
def load (p : Deploying) (s : System) : Deploying × System :=
  match p.context.stop? s.now with
  | some _ => (p.fail .cancelled, s)
  | none => p.andThen s (s.store.loadDeployment p.id) .loaded

/-- Records that a running deployment was interrupted. -/
def recordInterruption (p : Deploying) (d : Deployment) (s : System) : Deploying × System :=
  p.commit s (fun _ => .ended (.error (.rejected (.deploymentFailed interrupted))))
    ((d.markFailed s.time interrupted).map fun d => [d])

/-- Looks for the older deployments of the environment that still wait. -/
def gather (p : Deploying) (d : Deployment) (s : System) : Deploying × System :=
  p.andThen s (s.store.query fun t => t.pendingBefore p.id.app d.config.environment p.id.number) (.gathered d)

/-- The older deployments closed, and after them the deployment started. -/
def batch (p : Deploying) (d : Deployment) (older : List Deployment) (now : Timestamp) :
    Except AppError (List Deployment) := do
  let older ← older.mapM fun o => o.markSuperseded now p.id.number
  return older ++ [← d.markRunning now]

/-- Closes the older deployments and starts this one, all in one write. -/
def start (p : Deploying) (d : Deployment) (older : List Deployment) (s : System) : Deploying × System :=
  p.commit s (fun ds => .started (ds.getLast?.getD d)) (p.batch d older s.time)

/-- The build: what it came to, unless the runner never comes back, and its context and the system after it. -/
def runBuild (p : Deploying) (d : Deployment) (s : System) : Option (Except Failure Unit) × Context × System :=
  match p.context.stop? s.now with
  | some reason => (some (.error (.ofStop reason)), p.context, s)
  | none =>
    match Artifacts.prepareBuild p.context s.now s.dataDir d.id s.files with
    | (.error e, files) => (some (.error e.failure), p.context, { s with files })
    | (.ok _, files) =>
      let call := Build.call d
      let b := Build.start files call.log s.now p.context
      let (ending, b) := (b.writeLine (Build.heading d)).runAndClose p.holds call (s.runner call)
      let s := { s with files := b.files, now := b.now, calls := s.calls ++ [call] }
      match ending with
      | .finished result => (some result, b.context, s)
      | .stopped reason => (some (.error (.ofStop reason)), b.context, s)
      | .never => (none, b.context, s)

def build (p : Deploying) (d : Deployment) (s : System) : Deploying × System :=
  match p.runBuild d s with
  | (none, context, s) => ({ p with context, phase := .stuck }, s)
  | (some outcome, context, s) =>
    let stopped := !outcome.isOk && context.isCancelled s.now
    ({ p with context, phase := .built d outcome stopped }, s)

/-- Records the outcome of the build. -/
def record (p : Deploying) (d : Deployment) (outcome : Except Failure Unit) (stopped : Bool) (s : System) :
    Deploying × System :=
  match outcome with
  | .ok _ => p.commit s (fun _ => .ended (.ok ())) ((d.markSucceeded s.time).map fun d => [d])
  | .error failure =>
    let error : CommandError := if stopped then .cancelled else .rejected (.deploymentFailed failure.fullText)
    p.commit s (fun _ => .ended (.error error)) ((d.markFailed s.time failure.fullText).map fun d => [d])

/-- Goes through one phase. -/
def step (p : Deploying) (s : System) : Deploying × System :=
  match p.phase with
  | .entered => p.load s
  | .loaded d =>
    match d.state.status with
    | .pending => p.gather d s
    | .running => p.recordInterruption d s
    | _ => (p.goTo (.ended (.ok ())), s)
  | .gathered d older => p.start d older s
  | .started d => p.build d s
  | .built d outcome stopped => p.record d outcome stopped s
  | .ended _ => (p, s)
  | .stuck => (p, s)

/-- Goes through at most so many phases. -/
def run : Nat → Deploying → System → Deploying × System
  | 0, p, s => (p, s)
  | n + 1, p, s =>
    let (p, s) := p.step s
    run n p s

/-- The result of a command that has ended. -/
def result? (p : Deploying) : Option (Except CommandError Unit) :=
  match p.phase with
  | .ended result => some result
  | _ => none

end Deploying

/-- Carries out a deployment without a break: the result, unless the runner never comes back, and the system. -/
def System.deploy (s : System) (id : DeploymentId) (c : Context) (holds : Bool) :
    Option (Except CommandError Unit) × System :=
  let (p, s) := (Deploying.enter id c holds).run 5 s
  (p.result?, s)

end Rollout
