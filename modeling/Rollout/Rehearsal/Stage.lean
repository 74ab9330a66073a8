import Rollout.Job.Dispatch
import Rollout.Rehearsal.Script

/-!
# The stage of a rehearsal

A queue, a bus and a worker whose handlers carry out scripts, on a virtual clock. The clock moves when it is told to, or
when everything waits: then it jumps to the next thing that happens.
-/

namespace Rollout.Rehearsal

/-- A handler of scripted jobs: it claims payloads of some kinds and owns jobs of some kinds. -/
structure Role where
  label : String
  prepares : List String
  processes : List String
  /-- Whether its jobs have keys. -/
  keyed : Bool
  /-- The failure of preparing anything. -/
  prepareError : Option JobError

namespace Role

def key (r : Role) (s : Script) : String := r.label ++ "." ++ s.kind ++ "." ++ s.value

def prepare (r : Role) (s : Script) : Except JobError (Prepared Script) :=
  match r.prepareError with
  | some e => .error e
  | none => .ok ⟨s, if r.keyed then some (r.key s) else none⟩

/-- The handler of a role; its command is the label under which the script is carried out. -/
def handler (r : Role) : Handler Script Script String :=
  { claims := fun s => r.prepares.contains s.kind
    prepare := r.prepare
    owns := fun s => r.processes.contains s.kind
    command := fun _ => .ok r.label }

end Role

def registry (roles : List Role) : Registry Script Script String := ⟨roles.map Role.handler, Script.kind⟩

structure Stage where
  config : WorkerConfig
  roles : List Role
  bus : List Subscriber
  hub : Hub Script
  now : Instant
  /-- The instant at which the current token was cancelled. -/
  cancelledAt : Option Instant
  /-- The lines logged so far, oldest first. -/
  log : List String

namespace Stage

def registry (s : Stage) : Registry Script Script String := Rehearsal.registry s.roles

/-- A line of the log: when, by whom, for which attempt at what. -/
def logLine (label : String) (job : Job Script) (now : Instant) (text : String) : String :=
  toString now.toMillis ++ " " ++ label ++ " " ++ job.data.value ++ "#" ++ toString job.attempt ++ " " ++ text

/-- The lines carry the instants of their marks once the run is over. -/
def stamp (label : String) (job : Job Script) (r : Run Script.Mark) : Run Script.Mark :=
  { r with trace := r.trace.map fun (t, m) =>
      (t, match m with
        | .line text => .line (logLine label job t text)
        | .shutdown => .shutdown) }

/-- The run of a job by the role that owns it. -/
def run (s : Stage) (holds : Bool) (job : Job Script) (c : Context) (now : Instant) : Run Script.Mark :=
  match s.registry.command job with
  | .error e => ⟨[], .returns now (.error e), c⟩
  | .ok label => stamp label job (Script.perform id holds c now (job.data.actions job.attempt))

/-- Takes what a run left behind into the log and the current token. -/
def absorb (s : Stage) (trace : List (Instant × Script.Mark)) : Stage :=
  trace.foldl (fun s (t, m) =>
    match m with
    | .line text => { s with log := s.log ++ [text] }
    | .shutdown => { s with cancelledAt := earlier s.cancelledAt (some t) }) s

def withQueue (s : Stage) (q : Queue Script) : Stage := { s with hub := { s.hub with queue := q } }

/-- Takes in a turn: what it left behind, and the instant at which it was over. -/
def afterTurn (s : Stage) : Turn Script.Mark → Stage
  | .idle => s
  | .finished _ _ t trace => { s.absorb trace with now := t }
  | .died _ t trace => { s.absorb trace with now := t }
  | .stuck _ trace => s.absorb trace

/-- Runs the next ready job under the current token. -/
def processNext (s : Stage) : Turn Script.Mark × Stage :=
  let (turn, q) := Worker.processNext s.config (s.run true) s.cancelledAt s.now s.hub.queue
  (turn, (s.withQueue q).afterTurn turn)

/-- Runs ready jobs until none is left. -/
def drain (s : Stage) : List (Turn Script.Mark) × Stage :=
  let (turns, now, q) := Worker.drain s.config (s.run false) s.now s.hub.queue
  (turns, { turns.foldl afterTurn (s.withQueue q) with now })

/-- Runs a job of its own, which no queue knows, in a context that nothing stops. -/
def process (s : Stage) (data : Script) : Except JobError Unit × Stage :=
  let r := s.run false (Job.ofPrepared 0 ⟨data, none⟩) .background s.now
  match r.completion with
  | .returns t result => (result, { s.absorb r.trace with now := t })
  | _ => (.ok (), s.absorb r.trace)

def notify (s : Stage) (event : String) (data : Script) : Except DispatchError Unit × Stage :=
  let (result, hub) := s.hub.dispatch s.registry s.bus ⟨event, data⟩
  (result, { s with hub })

def schedule (s : Stage) (event : String) (data : Script) : Except DispatchError (Option EnqueueResult) × Stage :=
  let (result, hub) := s.hub.schedule s.registry ⟨event, data⟩
  (result, { s with hub })

def enqueue (s : Stage) (p : Prepared Script) : EnqueueResult × Stage :=
  let (result, q) := s.hub.queue.enqueue p
  (result, s.withQueue q)

def subscribe (s : Stage) (b : Subscriber) : Stage := { s with bus := s.bus ++ [b] }

/-- Cancels the current token. -/
def cancel (s : Stage) : Stage := { s with cancelledAt := earlier s.cancelledAt (some s.now) }

def renewToken (s : Stage) : Stage := { s with cancelledAt := none }

def advance (s : Stage) (d : Duration) : Stage := { s with now := Instant.after s.now d }

end Stage

end Rollout.Rehearsal
