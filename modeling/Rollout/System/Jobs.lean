import Rollout.Command.Cleanup
import Rollout.Command.Deploy
import Rollout.Config

/-!
# Jobs of the system

The worker of the system takes jobs off the queue of the scheduler and runs the commands that they stand for. Handlers
look at their contexts, so that a job which is asked to stop ends by itself.
-/

namespace Rollout

/-- What a worker that asked the queue of the system for a job came to. -/
inductive JobTurn where
  | idle
  | finished (id : JobId) (status : JobStatus)
  /-- The runner never comes back. -/
  | stuck (id : JobId)
deriving DecidableEq, Repr

namespace System

/-- The system that a configuration describes, with an empty database and no files. -/
def ofConfig (c : Config) : System := .empty c.dataDir c.policy c.worker

/-- Runs a command; a runner may cancel the token of its context if `holds` says so. -/
def execute (s : System) (c : Context) (holds : Bool) : Command → Option (Except CommandError Unit) × System
  | .deploy id => s.deploy id c holds
  | .cleanup app => s.cleanup app c

/-- Runs a job. -/
def process (s : System) (job : Job Work) (c : Context) (holds : Bool) : Option (Except JobError Unit) × System :=
  match Work.registry.command job with
  | .error e => (some (.error e), s)
  | .ok command =>
    let (result, s) := s.execute c holds command
    (result.map CommandError.toJobResult, s)

/-- Runs the next ready job and marks it. The current token was cancelled at the instant `shutdown`, if at all. -/
def processNextIn (s : System) (shutdown : Option Instant) (holds : Bool) : JobTurn × System :=
  match s.queue.dequeue s.now with
  | (none, _) => (.idle, s)
  | (some job, q) =>
    match (s.withQueue q).process job (Worker.context s.worker shutdown s.now) holds with
    | (none, s) => (.stuck job.id, s)
    | (some result, s) =>
      match s.queue.mark s.now job.id result with
      | .ok (status, q) => (.finished job.id status, s.withQueue q)
      | .error _ => (.idle, s)

/-- Runs the next ready job under the current token. -/
def processNext (s : System) (shutdown : Option Instant) : JobTurn × System := s.processNextIn shutdown true

def drainFor : Nat → System → List JobTurn × System
  | 0, s => ([], s)
  | fuel + 1, s =>
    match s.processNextIn none false with
    | (.idle, s) => ([], s)
    | (.stuck id, s) => ([.stuck id], s)
    | (turn, s) =>
      let (turns, s) := drainFor fuel s
      (turn :: turns, s)

/-- Runs ready jobs one after another until none is left. -/
def drain (s : System) : List JobTurn × System := drainFor (s.queue.runsLeft + 1) s

/-- Hands an event to the subscribers of the bus, without storing it. -/
def dispatch (s : System) (n : Notice Payload) : Except DispatchError Unit × System :=
  let (result, store) := s.store.dispatch n
  (result, { s with store })

/-- Adds a recorder that refuses every event after the first `limit`: its number, and the system. -/
def addRecorder (s : System) (limit : Option Nat) (subscribed : Bool) : Nat × System :=
  let index := s.store.hub.recorders.length
  let hub := { s.store.hub with recorders := s.store.hub.recorders ++ [.withLimit limit] }
  let bus := if subscribed then s.store.bus ++ [.recorder index] else s.store.bus
  (index, { s with store := { s.store with hub, bus } })

end System

end Rollout
