import Rollout.Job.Queue.Linked

/-!
# The job queue

A queue whose collections agree, whatever was done to it: an operation gives the queue after it together with the proof
that its collections agree again.

The queue has no clock: an operation that depends on the time is given the instant at which it happens.
-/

namespace Rollout

structure Queue (α : Type) extends QueueState α where
  linked : toQueueState.Linked

namespace Queue

variable {α : Type}

def defaultRetention : Nat := 1024

/-- An empty queue. At least one finished job is remembered. -/
def empty (policy : RetryPolicy) (retention : Nat) : Queue α := ⟨.empty policy retention, .empty policy retention⟩

def enqueue (q : Queue α) (p : Prepared α) : EnqueueResult × Queue α :=
  ((q.toQueueState.enqueue p).1, ⟨(q.toQueueState.enqueue p).2, q.linked.enqueue p⟩)

/-- Hands out the first waiting job that is ready. -/
def dequeue (q : Queue α) (now : Instant) : Option (Job α) × Queue α :=
  ((q.toQueueState.dequeue now).1, ⟨(q.toQueueState.dequeue now).2, q.linked.dequeue now⟩)

def markSucceeded (q : Queue α) (id : JobId) : Except JobError (Queue α) :=
  (q.toQueueState.markSucceeded id).1.map fun _ => ⟨(q.toQueueState.markSucceeded id).2, q.linked.markSucceeded id⟩

/-- Marks a running job as failed: its status from now on, and the queue. -/
def markFailed (q : Queue α) (now : Instant) (id : JobId) (error : String) (kind : FailureKind) :
    Except JobError (JobStatus × Queue α) :=
  (q.toQueueState.markFailed now id error kind).1.map fun status =>
    (status, ⟨(q.toQueueState.markFailed now id error kind).2, q.linked.markFailed now id error kind⟩)

/-- Marks a running job by the result of its run. -/
def mark (q : Queue α) (now : Instant) (id : JobId) (result : Except JobError Unit) :
    Except JobError (JobStatus × Queue α) :=
  match result with
  | .ok _ => (q.markSucceeded id).map fun q => (.succeeded, q)
  | .error e => q.markFailed now id e.message e.failureKind

/-- How many more runs the waiting jobs can cause in all, whatever their results. -/
def runsLeft (q : Queue α) : Nat :=
  q.waiting.foldr (fun w n => max 1 (q.policy.maxAttempts + 1 - w.job.attempt) + n) 0

end Queue

end Rollout
