import Rollout.Job.Context
import Rollout.Job.Queue

/-!
# Workers

A worker takes a ready job off the queue, runs it in a context of its own and marks it by the result. A handler that is
asked to stop has a period of grace to come to an end by itself; after that it is abandoned, and the job fails for the
reason of the stop (`Worker.settle`).

What a handler does is given as a `Run`: what it would do from its start on if nobody abandoned it.
-/

namespace Rollout

structure WorkerConfig where
  /-- How many jobs may run at once; at least one may. -/
  concurrency : Nat
  pollInterval : Duration
  jobTimeout : Option Duration
  stopGrace : Duration

instance : Inhabited WorkerConfig := ⟨⟨4, .ofSecs 1, none, .ofSecs 30⟩⟩

/-- How the run of a handler ends. -/
inductive Completion where
  | returns (instant : Instant) (result : Except JobError Unit)
  /-- The handler takes down the loop that runs it. -/
  | dies (instant : Instant)
  | never

def Completion.instant? : Completion → Option Instant
  | .returns t _ => some t
  | .dies t => some t
  | .never => none

/-- The run of a handler: what it leaves behind and when, and how it ends. -/
structure Run (τ : Type) where
  trace : List (Instant × τ)
  completion : Completion
  /-- The context as the handler leaves it: it may have cancelled its own token. -/
  context : Context

/-- What a worker that asked the queue for a job came to. -/
inductive Turn (τ : Type) where
  | idle
  | finished (id : JobId) (status : JobStatus) (instant : Instant) (trace : List (Instant × τ))
  | died (id : JobId) (instant : Instant) (trace : List (Instant × τ))
  | stuck (id : JobId) (trace : List (Instant × τ))

namespace Worker

variable {α τ : Type}

def deadline (c : WorkerConfig) (now : Instant) : Option Instant := c.jobTimeout.map (Instant.after now)

def context (c : WorkerConfig) (shutdown : Option Instant) (now : Instant) : Context := ⟨shutdown, deadline c now⟩

/-- The end of a run that started at `now`, when the handler is abandoned at the end of its grace. -/
def settle (grace : Duration) (c : Context) (now : Instant) (completion : Completion) : Completion :=
  match c.stopsAt now with
  | none => completion
  | some (stop, reason) =>
    let limit := Instant.after stop grace
    match completion.instant? with
    | some t => if t ≤ limit then completion else .returns limit (.error (.ofStop reason))
    | none => .returns limit (.error (.ofStop reason))

/-- A run as far as the worker lets it come. -/
def settleRun (grace : Duration) (now : Instant) (r : Run τ) : Run τ :=
  let completion := settle grace r.context now r.completion
  let trace := match completion.instant? with
    | some t => r.trace.filter (·.1 ≤ t)
    | none => r.trace
  { r with trace, completion }

/-- Runs the next ready job and marks it. -/
def processNext (c : WorkerConfig) (run : Job α → Context → Instant → Run τ) (shutdown : Option Instant)
    (now : Instant) (q : Queue α) : Turn τ × Queue α :=
  match q.dequeue now with
  | (none, q) => (.idle, q)
  | (some job, q) =>
    let r := settleRun c.stopGrace now (run job (context c shutdown now) now)
    match r.completion with
    | .never => (.stuck job.id r.trace, q)
    | .dies t => (.died job.id t r.trace, q)
    | .returns t result =>
      match q.mark t job.id result with
      | .ok (status, q) => (.finished job.id status t r.trace, q)
      | .error _ => (.idle, q)

/--
Runs ready jobs one after another until none is left, under a token that is never cancelled: the turns, the instant at
the end and the queue. Each run starts when the one before has ended.
-/
def drainFor (c : WorkerConfig) (run : Job α → Context → Instant → Run τ) :
    Nat → Instant → Queue α → List (Turn τ) × Instant × Queue α
  | 0, now, q => ([], now, q)
  | fuel + 1, now, q =>
    match processNext c run none now q with
    | (.idle, q) => ([], now, q)
    | (.finished id status t trace, q) =>
      let (turns, now, q) := drainFor c run fuel t q
      (.finished id status t trace :: turns, now, q)
    | (turn, q) => ([turn], now, q)

/-- `drainFor` with as many runs as the waiting jobs can cause, and one look at the queue after them. -/
def drain (c : WorkerConfig) (run : Job α → Context → Instant → Run τ) (now : Instant) (q : Queue α) :
    List (Turn τ) × Instant × Queue α :=
  drainFor c run (q.runsLeft + 1) now q

end Worker

end Rollout
