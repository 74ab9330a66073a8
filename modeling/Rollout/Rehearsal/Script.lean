import Rollout.Job.Worker
import Rollout.Text.Decimal

/-!
# Scripted jobs

Jobs for rehearsals: what the handler does is written down in the job, one list of actions for each attempt, and carried
out on a virtual clock (`Script.perform`). A line is logged before each action and at the end.
-/

namespace Rollout.Rehearsal

inductive Action where
  | fail (e : JobError)
  | hang
  /-- Fails if there is a reason to stop. -/
  | check
  /-- Waits for a reason to stop and fails for it. -/
  | stopped
  /-- Waits for a reason to stop and goes on. -/
  | awaitStop
  /-- Waits whether or not there is a reason to stop. -/
  | sleep (d : Duration)
  /-- Waits, but fails if there is a reason to stop. -/
  | guard (d : Duration)
  /-- Cancels the current token. -/
  | shutdown
  | panic
  | nothing
deriving DecidableEq

/-- The type of data that scripted handlers expect. -/
def dataType : String := "DynData"

/-- What stands behind the first colon of `text`, if that follows the word `w`. -/
def argument? (w text : String) : Option String :=
  let front := (w ++ ":").toList
  if front.isPrefixOf text.toList then some (String.ofList (text.toList.drop front.length)) else none

def millis (text : String) : Duration := .ofMillis ((Text.Decimal.digits? text.toList).getD 0)

/-- The action that a line of a script stands for. -/
def Action.ofText (text : String) : Action :=
  if text = "cancelled" then .fail .cancelled
  else if text = "deadline" then .fail .deadlineExceeded
  else if text = "invalid" then .fail (.invalidPayload dataType)
  else if text = "hang" then .hang
  else if text = "check" then .check
  else if text = "stopped" then .stopped
  else if text = "await_stop" then .awaitStop
  else if text = "shutdown" then .shutdown
  else if text = "panic" then .panic
  else match argument? "infra" text with
  | some cause => .fail (.infra cause)
  | none => match argument? "no_handler" text with
  | some kind => .fail (.noHandler kind)
  | none => match argument? "sleep" text with
  | some ms => .sleep (millis ms)
  | none => match argument? "guard" text with
  | some ms => .guard (millis ms)
  | none => .nothing

/-- The data of a scripted job. -/
structure Script where
  kind : String
  value : String
  /-- The actions of each attempt; the last list serves all attempts beyond it. -/
  attempts : List (List String)
deriving DecidableEq

namespace Script

def actions (s : Script) (attempt : Nat) : List String :=
  match s.attempts[attempt - 1]? with
  | some as => as
  | none => s.attempts.getLast?.getD []

/-- What a run leaves behind: lines of the log, and the cancellation of the current token. -/
inductive Mark where
  | line (text : String)
  | shutdown
deriving DecidableEq

/--
Carries out actions from `now` on. `holds` says whether the token that `shutdown` cancels is the one that the context
was made from.
-/
def perform (log : String → String) (holds : Bool) (c : Context) (now : Instant) : List String → Run Mark
  | [] => ⟨[(now, .line (log "done"))], .returns now (.ok ()), c⟩
  | text :: rest =>
    let logged (r : Run Mark) : Run Mark := { r with trace := (now, .line (log text)) :: r.trace }
    let ends (completion : Completion) : Run Mark := ⟨[], completion, c⟩
    logged <| match Action.ofText text with
    | .fail e => ends (.returns now (.error e))
    | .hang => ends .never
    | .panic => ends (.dies now)
    | .nothing => perform log holds c now rest
    | .check =>
      match c.stop? now with
      | some reason => ends (.returns now (.error (.ofStop reason)))
      | none => perform log holds c now rest
    | .stopped =>
      match c.stopsAt now with
      | some (t, reason) => ends (.returns t (.error (.ofStop reason)))
      | none => ends .never
    | .awaitStop =>
      match c.stopsAt now with
      | some (t, _) => perform log holds c t rest
      | none => ends .never
    | .sleep d => perform log holds c (Instant.after now d) rest
    | .guard d =>
      match c.guard now (some (Instant.after now d, ())) with
      | some (t, .ok _) => perform log holds c t rest
      | some (t, .error reason) => ends (.returns t (.error (.ofStop reason)))
      | none => ends .never
    | .shutdown =>
      let r := perform log holds (if holds then c.cancelAt now else c) now rest
      { r with trace := (now, .shutdown) :: r.trace }

end Script

end Rollout.Rehearsal
