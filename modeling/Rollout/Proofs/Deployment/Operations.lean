import Rollout.Deployment
import Rollout.Proofs.Results

/-!
# Operations on deployments

A status has few that may follow it (`DeploymentStatus.Next`). An operation is refused, or raises the one event that
says what the state is now (`Deployment.perform_eq_ok`).
-/

namespace Rollout

namespace DeploymentStatus

/-- Whether nothing comes after the status. -/
def isFinished : DeploymentStatus → Bool
  | .succeeded | .failed => true
  | .pending | .running => false

/-- Which status may follow which. -/
inductive Next : DeploymentStatus → DeploymentStatus → Prop where
  | start : Next .pending .running
  | close : Next .pending .failed
  | succeed : Next .running .succeeded
  | fail : Next .running .failed

theorem Next.isFinished_eq_false {s s' : DeploymentStatus} (h : s.Next s') : s.isFinished = false := by
  cases h <;> rfl

theorem next_failed {s : DeploymentStatus} (h : s.isFinished = false) : s.Next .failed := by
  cases s with
  | pending => exact .close
  | running => exact .fail
  | succeeded => cases h
  | failed => cases h

/-- Whether a deployment of the first status may have the second one later on. -/
def Comes (s s' : DeploymentStatus) : Prop := s' = s ∨ s.Next s'

theorem Comes.isFinished {s s' : DeploymentStatus} (h : s.Comes s') (hs : s.isFinished = true) :
    s'.isFinished = true := by
  rcases h with rfl | h
  · exact hs
  · exact absurd h.isFinished_eq_false (by simp [hs])

/-- What has been started does not wait again. -/
theorem Comes.ne_pending {s s' : DeploymentStatus} (h : s.Comes s') (hs : s ≠ .pending) : s' ≠ .pending := by
  rcases h with rfl | h
  · exact hs
  · cases h <;> decide

end DeploymentStatus

inductive DeploymentOperation where
  | markRunning (now : Timestamp)
  | markSucceeded (now : Timestamp)
  | markFailed (now : Timestamp) (reason : String)
  | markSuperseded (now : Timestamp) (newer : DeploymentNumber)

namespace Deployment

variable {d d' : Deployment} {o : DeploymentOperation}

def perform (d : Deployment) : DeploymentOperation → Except AppError Deployment
  | .markRunning now => d.markRunning now
  | .markSucceeded now => d.markSucceeded now
  | .markFailed now reason => d.markFailed now reason
  | .markSuperseded now newer => d.markSuperseded now newer

/-- The state that an operation comes to. -/
def stateAfter (d : Deployment) : DeploymentOperation → Except AppError DeploymentState
  | .markRunning now => d.state.started now
  | .markSucceeded now => d.state.finished now none
  | .markFailed now reason => d.state.finished now (some reason)
  | .markSuperseded now newer => d.state.superseded now newer

/-- **An accepted operation changes the state and nothing else.** -/
theorem perform_eq_ok (h : d.perform o = .ok d') :
    ∃ state, d.stateAfter o = .ok state ∧ d' = d.raise (.stateChanged d.id state) := by
  have hchange : d.changeState (d.stateAfter o) = .ok d' := by cases o <;> exact h
  obtain ⟨state, hstate, rfl⟩ := map_eq_ok.mp hchange
  exact ⟨state, hstate, rfl⟩

end Deployment

end Rollout
