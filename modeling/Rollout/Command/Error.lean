import Rollout.App.Error
import Rollout.Failure
import Rollout.Store.Error

/-!
# Failures of commands

A command is refused by a rule of the domain, fails at the store or at the files, or is stopped. Running it again can
help only if something other than the domain's state was in the way (`CommandError.isInfra`).
-/

namespace Rollout

inductive CommandError where
  | rejected (error : AppError)
  | store (error : StoreError)
  | artifact (failure : Failure)
  | cancelled
deriving DecidableEq

namespace CommandError

def message : CommandError → String
  | .rejected error => error.message
  | .store error => error.message
  | .artifact failure => "artifact error: " ++ failure.text
  | .cancelled => "command cancelled"

def isInfra : CommandError → Bool
  | .rejected _ => false
  | .store error => !error.isNotFound
  | .artifact _ => true
  | .cancelled => false

/-- What a command's end means for the job that ran it: a refusal is an answer, and no failure of the job. -/
def toJobResult : Except CommandError Unit → Except JobError Unit
  | .ok _ => .ok ()
  | .error .cancelled => .error .cancelled
  | .error e => if e.isInfra then .error (.infra e.message) else .ok ()

end CommandError

end Rollout
