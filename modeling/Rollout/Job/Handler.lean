import Rollout.Job.Basic
import Rollout.Job.Error

/-!
# Handlers

A handler turns payloads of events into jobs and jobs into commands. The handlers of a registry are asked in order: the
first that claims a payload prepares its job, and the first that owns the data of a job says what to run for it.
-/

namespace Rollout

/-- A handler of payloads `π`, job data `α` and commands `β`. -/
structure Handler (π α β : Type) where
  claims : π → Bool
  prepare : π → Except JobError (Prepared α)
  owns : α → Bool
  command : Job α → Except JobError β

structure Registry (π α β : Type) where
  handlers : List (Handler π α β)
  /-- The name of the kind of job that has this data. -/
  kind : α → String

namespace Registry

variable {π α β : Type}

def preparer? (r : Registry π α β) (payload : π) : Option (Handler π α β) := r.handlers.find? (·.claims payload)

def processor? (r : Registry π α β) (data : α) : Option (Handler π α β) := r.handlers.find? (·.owns data)

/-- The work for a payload, or none if nobody claims it. -/
def prepare (r : Registry π α β) (payload : π) : Except JobError (Option (Prepared α)) :=
  match r.preparer? payload with
  | some h => (h.prepare payload).map some
  | none => .ok none

/-- What to run for a job. -/
def command (r : Registry π α β) (job : Job α) : Except JobError β :=
  match r.processor? job.data with
  | some h => h.command job
  | none => .error (.noHandler (r.kind job.data))

end Registry

end Rollout
