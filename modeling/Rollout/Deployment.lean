import Rollout.Deployment.Event
import Rollout.Job.EventBuffer

/-!
# Deployments

A deployment keeps its state and the events that have not been written yet. An operation either changes the state and
records one event, or is refused and changes nothing.
-/

namespace Rollout

structure Deployment where
  id : DeploymentId
  config : ConfigSnapshot
  state : DeploymentState
  requested : Signature
  events : EventBuffer DeploymentEvent
deriving DecidableEq

namespace Deployment

def create (id : DeploymentId) (config : ConfigSnapshot) (requested : Signature) : Deployment :=
  { id, config, state := .initial, requested
    events := EventBuffer.empty.record (.created id config .initial requested) }

def hasStarted (d : Deployment) : Bool := d.state.status ≠ .pending

def apply (d : Deployment) : DeploymentEvent → Deployment
  | .created .. => d
  | .stateChanged _ state => { d with state }

/-- Applies an event and records it. -/
def raise (d : Deployment) (e : DeploymentEvent) : Deployment := { d.apply e with events := d.events.record e }

def changeState (d : Deployment) (state : Except AppError DeploymentState) : Except AppError Deployment :=
  state.map fun state => d.raise (.stateChanged d.id state)

def markRunning (d : Deployment) (now : Timestamp) : Except AppError Deployment := d.changeState (d.state.started now)

def markSucceeded (d : Deployment) (now : Timestamp) : Except AppError Deployment :=
  d.changeState (d.state.finished now none)

def markFailed (d : Deployment) (now : Timestamp) (reason : String) : Except AppError Deployment :=
  d.changeState (d.state.finished now (some reason))

def markSuperseded (d : Deployment) (now : Timestamp) (newer : DeploymentNumber) : Except AppError Deployment :=
  d.changeState (d.state.superseded now newer)

/-- The events taken out, and the deployment without them. -/
def takeEvents (d : Deployment) : List DeploymentEvent × Deployment :=
  (d.events.drain.1, { d with events := d.events.drain.2 })

end Deployment

end Rollout
