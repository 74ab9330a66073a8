import Rollout.App.Error
import Rollout.Deployment.Number
import Rollout.Time.Timestamp

/-!
# States of deployments

A deployment waits, runs, and succeeds or fails. One that a newer deployment replaces before it runs fails without ever
having started.
-/

namespace Rollout

inductive DeploymentStatus where
  | pending
  | running
  | succeeded
  | failed
deriving DecidableEq, Repr

namespace DeploymentStatus

def all : List DeploymentStatus := [.pending, .running, .succeeded, .failed]

def toText : DeploymentStatus → String
  | .pending => "pending"
  | .running => "running"
  | .succeeded => "succeeded"
  | .failed => "failed"

instance : ToString DeploymentStatus := ⟨toText⟩

def ofText? (s : String) : Option DeploymentStatus := all.find? (·.toText = s)

end DeploymentStatus

structure DeploymentState where
  status : DeploymentStatus
  error : Option String
  startedAt : Option Timestamp
  finishedAt : Option Timestamp
deriving DecidableEq

namespace DeploymentState

def initial : DeploymentState := ⟨.pending, none, none, none⟩

def started (s : DeploymentState) (now : Timestamp) : Except AppError DeploymentState :=
  if s.status = .pending then .ok { s with status := .running, startedAt := some now }
  else .error .deploymentAlreadyStarted

/-- Closed before it started, because the deployment `newer` replaced it. -/
def superseded (s : DeploymentState) (now : Timestamp) (newer : DeploymentNumber) : Except AppError DeploymentState :=
  if s.status = .pending then
    .ok { s with
      status := .failed
      error := some ("superseded by deployment " ++ toString newer)
      finishedAt := some now }
  else .error .deploymentAlreadyStarted

/-- Failed with an error, or succeeded without one. -/
def finished (s : DeploymentState) (now : Timestamp) (error : Option String) : Except AppError DeploymentState :=
  if s.status = .running then
    .ok { s with status := if error.isSome then .failed else .succeeded, error, finishedAt := some now }
  else .error .deploymentNotRunning

/-! ## Which state may follow which -/

theorem started_eq_ok_iff {s s' : DeploymentState} {now : Timestamp} :
    s.started now = .ok s' ↔ s.status = .pending ∧ s' = { s with status := .running, startedAt := some now } := by
  unfold started
  split <;> simp_all [eq_comm]

/-- What is replaced was waiting, and has failed without a start. -/
theorem superseded_eq_ok {s s' : DeploymentState} {now : Timestamp} {newer : DeploymentNumber}
    (h : s.superseded now newer = .ok s') :
    s.status = .pending ∧ s'.status = .failed ∧ s'.startedAt = s.startedAt := by
  unfold superseded at h
  split at h
  · cases h; simp_all
  · cases h

/-- What is finished was running, and has failed just if there is an error. -/
theorem finished_eq_ok {s s' : DeploymentState} {now : Timestamp} {error : Option String}
    (h : s.finished now error = .ok s') :
    s.status = .running ∧ s'.status = (if error.isSome then .failed else .succeeded) ∧ s'.error = error := by
  unfold finished at h
  split at h
  · cases h; simp_all
  · cases h

end DeploymentState

end Rollout
