import Std.Data.HashMap
import Rollout.Job.Basic
import Rollout.Job.Error
import Rollout.Job.Retry

/-!
# The collections of a job queue

What a queue remembers is spread over collections that have to agree: the order of the waiting jobs, their entries by
id, the waiting job of each key, the running jobs, the statuses, and what is kept of the finished jobs. The operations
below change them one by one; that they stay in agreement is shown in `Linked`.

A superseding job takes the place of the one it replaces in the order. A job that was handed out is held as running
until it is marked. Of the jobs that reached a terminal status, the newest `retention` are remembered, and as many dead
letters. There is no clock: an operation that depends on the time is given the instant at which it happens.
-/

namespace Rollout

/-- A job that waits, at least until `due` if that is given. -/
structure Waiting (α : Type) where
  job : Job α
  due : Option Instant
deriving DecidableEq

structure DeadLetter (α : Type) where
  job : Job α
  error : String
deriving DecidableEq

/-- What became of enqueued work. -/
inductive EnqueueResult where
  | created (id : JobId)
  | superseded (id replaced : JobId)
deriving DecidableEq, Repr

namespace EnqueueResult

def id : EnqueueResult → JobId
  | .created id => id
  | .superseded id _ => id

def isCreated : EnqueueResult → Bool
  | .created _ => true
  | .superseded _ _ => false

end EnqueueResult

namespace Waiting

variable {α : Type}

def isReady (now : Instant) (w : Waiting α) : Bool :=
  match w.due with
  | none => true
  | some due => due ≤ now

end Waiting

structure QueueState (α : Type) where
  policy : RetryPolicy
  retention : Nat
  /-- How many jobs have been created so far. -/
  created : Nat
  /-- The ids of the waiting jobs in queue order. -/
  order : List JobId
  pending : Std.HashMap JobId (Waiting α)
  /-- The id of the job that waits under each key. -/
  byKey : Std.HashMap String JobId
  running : Std.HashMap JobId (Job α)
  /-- The remembered dead letters, oldest first. -/
  deadLetters : List (DeadLetter α)
  /-- The ids of the finished jobs that are remembered, oldest first. -/
  finished : List JobId
  statuses : Std.HashMap JobId JobStatus

namespace QueueState

variable {α : Type}

/-- An empty queue. At least one finished job is remembered. -/
def empty (policy : RetryPolicy) (retention : Nat) : QueueState α :=
  { policy, retention := max retention 1, created := 0, order := [], pending := ∅, byKey := ∅, running := ∅
    deadLetters := [], finished := [], statuses := ∅ }

/-! ## Views -/

/-- The waiting jobs in queue order. -/
def waiting (s : QueueState α) : List (Waiting α) := s.order.filterMap (s.pending[·]?)

def pendingJobs (s : QueueState α) : List (Job α) := s.waiting.map (·.job)

/-- The status of a job that waits, runs or is remembered. -/
def status? (s : QueueState α) (id : JobId) : Option JobStatus := s.statuses[id]?

/-- The number of jobs whose status is known. -/
def tracked (s : QueueState α) : Nat := s.statuses.size

/-! ## Waiting jobs -/

/-- Whether the job `id` waits and may be handed out. -/
def isReady (s : QueueState α) (now : Instant) (id : JobId) : Bool := s.pending[id]?.any (·.isReady now)

/-- The job that waits under the key of `job`. -/
def covering? (s : QueueState α) (job : Job α) : Option JobId := job.key.bind fun key => s.byKey[key]?

/-- The index with an entry for `job`, if it has a key. -/
def index (s : QueueState α) (job : Job α) : Std.HashMap String JobId :=
  match job.key with
  | none => s.byKey
  | some key => s.byKey.insert key job.id

/-- The index without the entry for `job`, if it has one. -/
def unindex (s : QueueState α) (job : Job α) : Std.HashMap String JobId :=
  match job.key with
  | none => s.byKey
  | some key => if s.byKey[key]? = some job.id then s.byKey.erase key else s.byKey

/-- The queue with `w` behind all others. -/
def append (s : QueueState α) (w : Waiting α) : QueueState α :=
  { s with
    byKey := s.index w.job
    order := s.order ++ [w.job.id]
    pending := s.pending.insert w.job.id w }

/-- The queue with `w` in the place of the job `replaced`. -/
def replace (s : QueueState α) (replaced : JobId) (w : Waiting α) : QueueState α :=
  { s with
    byKey := s.index w.job
    order := s.order.replace replaced w.job.id
    pending := (s.pending.erase replaced).insert w.job.id w }

/-- Puts `w` in the place of the job that waits with its key, or behind all others. -/
def push (s : QueueState α) (w : Waiting α) : EnqueueResult × QueueState α :=
  match s.covering? w.job with
  | some replaced => (.superseded w.job.id replaced, s.replace replaced w)
  | none => (.created w.job.id, s.append w)

/-- The queue without the waiting job `id`. -/
def remove (s : QueueState α) (id : JobId) (job : Job α) : QueueState α :=
  { s with order := s.order.erase id, pending := s.pending.erase id, byKey := s.unindex job }

/-- Takes out the first job that is ready. -/
def popReady (s : QueueState α) (now : Instant) : Option (Job α × QueueState α) := do
  let id ← s.order.find? (s.isReady now)
  let w ← s.pending[id]?
  return (w.job, s.remove id w.job)

/-! ## Finished jobs -/

/-- The newest `n` of a list that is kept oldest first. -/
def newest {β : Type} (n : Nat) (xs : List β) : List β := xs.drop (xs.length - n)

/-- What is left of a list when its newest `n` are taken away. -/
def outdated {β : Type} (n : Nat) (xs : List β) : List β := xs.take (xs.length - n)

/-- Records a terminal status, forgetting what is older than the retention allows. -/
def finish (s : QueueState α) (id : JobId) (status : JobStatus) : QueueState α :=
  let finished := s.finished ++ [id]
  { s with
    finished := newest s.retention finished
    statuses := (outdated s.retention finished).foldl .erase (s.statuses.insert id status)
    deadLetters := newest s.retention s.deadLetters }

/-! ## Operations -/

def setStatus (s : QueueState α) (id : JobId) (status : JobStatus) : QueueState α :=
  { s with statuses := s.statuses.insert id status }

def enqueue (s : QueueState α) (p : Prepared α) : EnqueueResult × QueueState α :=
  let id := s.created + 1
  let (result, s) := push { s with created := id } ⟨Job.ofPrepared id p, none⟩
  match result with
  | .superseded _ replaced => (result, (s.finish replaced .superseded).setStatus id .pending)
  | .created _ => (result, s.setStatus id .pending)

/-- Gives `job` to a worker. -/
def start (s : QueueState α) (job : Job α) : QueueState α :=
  setStatus { s with running := s.running.insert job.id job } job.id .running

/-- Hands out the first waiting job that is ready. -/
def dequeue (s : QueueState α) (now : Instant) : Option (Job α) × QueueState α :=
  match s.popReady now with
  | none => (none, s)
  | some (job, s) => (some job, s.start job)

/-- The error of marking a job that is not running. -/
def notRunning (name : String) : JobError := .infra ("job " ++ name ++ " is not running")

/-- Takes the job `id` from its worker. -/
def release (s : QueueState α) (id : JobId) : QueueState α := { s with running := s.running.erase id }

def markSucceeded (s : QueueState α) (id : JobId) : Except JobError Unit × QueueState α :=
  match s.running[id]? with
  | none => (.error (notRunning (toString id)), s)
  | some _ => (.ok (), (s.release id).finish id .succeeded)

/-- The next attempt at the work of `job`, which waits for as long as the policy says. -/
def nextAttempt (s : QueueState α) (now : Instant) (job : Job α) : Waiting α :=
  let next := job.retry (s.created + 1)
  ⟨next, some (Instant.after now (s.policy.delayFor next.attempt))⟩

/-- Puts the next attempt of `job` behind all waiting jobs. -/
def scheduleRetry (s : QueueState α) (now : Instant) (job : Job α) : QueueState α :=
  let w := s.nextAttempt now job
  (push { s with created := w.job.id } w).2.setStatus w.job.id .pending

def bury (s : QueueState α) (job : Job α) (error : String) : QueueState α :=
  { s with deadLetters := s.deadLetters ++ [⟨job, error⟩] }

/--
Marks a running job as failed. With attempts left, a retryable failure is tried again, unless a job with its key waits
already: that one covers the work. Any other failure ends among the dead letters.
-/
def markFailed (s : QueueState α) (now : Instant) (id : JobId) (error : String) (kind : FailureKind) :
    Except JobError JobStatus × QueueState α :=
  match s.running[id]? with
  | none => (.error (notRunning (toString id)), s)
  | some job =>
    let s := s.release id
    if kind = .retryable ∧ job.attempt < s.policy.maxAttempts then
      let s := s.finish id .failed
      match s.covering? job with
      | some _ => (.ok .failed, s)
      | none => (.ok .failed, s.scheduleRetry now job)
    else (.ok .deadLetter, (s.bury job error).finish id .deadLetter)

end QueueState

end Rollout
