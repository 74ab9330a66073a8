import Rollout.Rehearsal.Stage

/-!
# The pool of a rehearsal

Several loops take jobs off one queue at the same time. A loop that finds no ready job looks again after the poll
interval; once the token of the pool is cancelled, a loop ends instead of looking for another job. The token is
cancelled when the time of the pool is over, or before that by a handler (`Pool.cancel`).

The loops act one at a time, in the order of the instants at which they have something to do. Of two that are due at one
instant, a loop whose handler returned at once goes first, then the one that has waited longer, then the one with the
lower number.
-/

namespace Rollout.Rehearsal

/-- A job that a loop has in hand. -/
structure Errand where
  job : Job Script
  start : Instant
  /-- The settled run. -/
  run : Run Script.Mark
  /-- Whether a handler has the job. -/
  isOwned : Bool

/-- Whether the run cancels the token of the pool before `stop`. -/
def Errand.shutsDown (e : Errand) (stop : Instant) : Bool := e.run.trace.any fun (t, m) => m = .shutdown && t < stop

/-- The instant at which something has to be done: when the token of the pool is cancelled, or when the run is over. -/
def Errand.due (e : Errand) (stop : Instant) : Option Instant :=
  match e.run.trace.find? fun (t, m) => m = .shutdown && t < stop with
  | some (t, _) => some t
  | none => e.run.completion.instant?

/-- A loop of the pool between two of its actions. -/
structure Lane where
  /-- The instant at which the loop acts next; a loop that never does hangs. -/
  due : Option Instant
  /-- Lower ranks act first at one instant. -/
  rank : Nat
  work : Option Errand

structure Pool where
  config : WorkerConfig
  /-- The instant at which the token of the pool is cancelled. -/
  stop : Instant
  run : Job Script → Context → Instant → Run Script.Mark
  isOwned : Script → Bool
  queue : Queue Script
  lanes : List (Option Lane)
  trace : List (Instant × Script.Mark)
  /-- The most jobs that handlers had at once. -/
  peak : Nat
  /-- The instant of the last action. -/
  last : Instant

namespace Pool

/-- Whether lane `a` acts before lane `b`. -/
def before (a b : Lane) : Bool :=
  match a.due, b.due with
  | some s, some t => s < t || (s = t && a.rank < b.rank)
  | some _, none => true
  | _, _ => false

/-- The number of the lane that acts next, and the lane. -/
def next? (p : Pool) : Option (Nat × Lane) :=
  (p.lanes.zipIdx.foldl (fun best (l, i) =>
    match l, best with
    | none, _ => best
    | some l, none => some (i, l)
    | some l, some (j, b) => if before l b then some (i, l) else some (j, b)) none).filter (·.2.due.isSome)

def busy (p : Pool) : Nat :=
  (p.lanes.filter fun l => match l with
    | some ⟨_, _, some e⟩ => e.isOwned
    | _ => false).length

def setLane (p : Pool) (i : Nat) (l : Option Lane) : Pool := { p with lanes := p.lanes.set i l }

/-- The run of a job as far as the pool lets it come. -/
def runFrom (p : Pool) (job : Job Script) (start : Instant) : Run Script.Mark :=
  Worker.settleRun p.config.stopGrace start (p.run job (Worker.context p.config (some p.stop) start) start)

/-- Lane `i` looks for a job at `now`, or ends. -/
def poll (p : Pool) (i : Nat) (now : Instant) : Pool :=
  if p.stop ≤ now then p.setLane i none
  else
    match p.queue.dequeue now with
    | (none, _) =>
      let wake := Instant.after now p.config.pollInterval
      p.setLane i (some ⟨some (min wake p.stop), now + 1, none⟩)
    | (some job, queue) =>
      let e : Errand := ⟨job, now, p.runFrom job now, p.isOwned job.data⟩
      let due := e.due p.stop
      let rank := if due = some now then 0 else now + 1
      let p := { p with queue }.setLane i (some ⟨due, rank, some e⟩)
      { p with peak := max p.peak p.busy }

/-- Lane `l` after the cancellation of the token: a waiting one wakes up, and what it runs may come to another end. -/
def wake (p : Pool) (l : Lane) : Lane :=
  match l.work with
  | none => { l with due := l.due.map (min p.stop) }
  | some e =>
    let e := { e with run := p.runFrom e.job e.start }
    { l with due := e.due p.stop, work := some e }

/-- The run of lane `i` cancels the token at `now`; the run itself has known it. -/
def cancel (p : Pool) (i : Nat) (now : Instant) : Pool :=
  let p := { p with stop := now }
  { p with lanes := p.lanes.mapIdx fun j l => l.map fun l =>
      if j = i then { l with due := l.work.bind (·.due p.stop) } else p.wake l }

/--
Lane `i` acts at `now`: the run that it has in hand cancels the token, or else it marks its job and looks for another.
-/
def act (p : Pool) (i : Nat) (l : Lane) (now : Instant) : Pool :=
  let p := { p with last := now }
  match l.work with
  | none => p.poll i now
  | some e =>
    if e.shutsDown p.stop then p.cancel i now
    else
      let p := { p with trace := p.trace ++ e.run.trace }
      match e.run.completion with
      | .returns _ result =>
        match p.queue.mark now e.job.id result with
        | .ok (_, queue) => { p with queue }.poll i now
        | .error _ => p.poll i now
      | _ => p.setLane i none

def play : Nat → Pool → Pool
  | 0, p => p
  | fuel + 1, p =>
    match p.next? with
    | some (i, l) => play fuel (p.act i l (l.due.getD p.last))
    | none => p

/-- The number of actions that a pool can come to: looks at the queue, and three for each run. -/
def bound (p : Pool) (span : Duration) : Nat :=
  p.lanes.length * (span.nanos / max 1 p.config.pollInterval.nanos + 3) + 3 * p.queue.runsLeft

end Pool

/--
Runs the pool for a time under a new current token, cancels that and waits until all loops have ended: the peak of jobs
at once.
-/
def Stage.pool (s : Stage) (span : Duration) : Nat × Stage :=
  let stop := Instant.after s.now span
  let lane : Lane := ⟨some s.now, 0, none⟩
  let p : Pool :=
    { config := s.config, stop, run := s.run true, isOwned := fun d => (s.registry.processor? d).isSome
      queue := s.hub.queue, lanes := List.replicate (max 1 s.config.concurrency) (some lane), trace := [], peak := 0
      last := s.now }
  let p := p.play (p.bound span)
  let trace := p.trace.mergeSort fun a b => a.1 ≤ b.1
  (p.peak, { (s.withQueue p.queue).absorb trace with now := max stop p.last, cancelledAt := some p.stop })

end Rollout.Rehearsal
