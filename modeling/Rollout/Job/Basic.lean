/-!
# Jobs

A job carries data to a handler. Jobs with one key stand for the same piece of work: at most one of them waits at any
time.
-/

namespace Rollout

/-- A queue numbers its jobs from 1 in the order in which it creates them. -/
abbrev JobId := Nat

inductive JobStatus where
  | pending
  | running
  | succeeded
  | failed
  | superseded
  | deadLetter
deriving DecidableEq, Repr

namespace JobStatus

def all : List JobStatus := [.pending, .running, .succeeded, .failed, .superseded, .deadLetter]

def isTerminal : JobStatus → Bool
  | .pending => false
  | .running => false
  | _ => true

theorem pending_or_running_or_isTerminal (status : JobStatus) :
    status = .pending ∨ status = .running ∨ status.isTerminal = true := by
  cases status with
  | pending => exact .inl rfl
  | running => exact .inr (.inl rfl)
  | succeeded | failed | superseded | deadLetter => exact .inr (.inr rfl)

instance : ToString JobStatus where
  toString
    | .pending => "pending"
    | .running => "running"
    | .succeeded => "succeeded"
    | .failed => "failed"
    | .superseded => "superseded"
    | .deadLetter => "dead_letter"

end JobStatus

/-- Work that is ready to be enqueued. -/
structure Prepared (α : Type) where
  data : α
  key : Option String
deriving DecidableEq

structure Job (α : Type) where
  id : JobId
  /-- Counts the runs of this work from 1. -/
  attempt : Nat
  data : α
  key : Option String
deriving DecidableEq

namespace Job

variable {α : Type}

def ofPrepared (id : JobId) (p : Prepared α) : Job α := ⟨id, 1, p.data, p.key⟩

/-- The next attempt at the same work. -/
def retry (id : JobId) (job : Job α) : Job α := { job with id, attempt := job.attempt + 1 }

end Job

end Rollout
