/-!
# Failures of jobs and of dispatch

Why a job failed, whether running it again can help, and why an event did not get through to every subscriber.
-/

namespace Rollout

/-- Why a running job has to stop. -/
inductive Stop where
  | cancelled
  | deadlineExceeded
deriving DecidableEq, Repr

inductive JobError where
  | invalidPayload (expected : String)
  | noHandler (kind : String)
  | cancelled
  | deadlineExceeded
  | infra (cause : String)
deriving DecidableEq, Repr

inductive FailureKind where
  | retryable
  | nonRetryable
deriving DecidableEq, Repr

namespace JobError

def ofStop : Stop → JobError
  | .cancelled => .cancelled
  | .deadlineExceeded => .deadlineExceeded

def message : JobError → String
  | .invalidPayload expected => "invalid payload: expected " ++ expected
  | .noHandler kind => "no handler registered for job " ++ kind
  | .cancelled => "job cancelled"
  | .deadlineExceeded => "job deadline exceeded"
  | .infra cause => "infrastructure failure: " ++ cause

/-- A job that no handler can run fails for good. -/
def failureKind : JobError → FailureKind
  | .invalidPayload _ => .nonRetryable
  | .noHandler _ => .nonRetryable
  | _ => .retryable

end JobError

/-- Why the dispatch of the named event ended early. -/
inductive DispatchError where
  | prepare (event : String) (source : JobError)
  | enqueue (event : String) (source : JobError)
  | subscriber (event : String) (cause : String)
deriving DecidableEq, Repr

def DispatchError.message : DispatchError → String
  | .prepare event source => "failed to prepare job from " ++ event ++ ": " ++ source.message
  | .enqueue event source => "failed to enqueue job from " ++ event ++ ": " ++ source.message
  | .subscriber event cause => "subscriber failed on " ++ event ++ ": " ++ cause

end Rollout
