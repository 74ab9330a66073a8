import Rollout.Job.Context

/-!
# Watching a context

A context on a virtual clock, with the token that it was made from and an outer token. The outer token is the same
token, an ancestor of it, or has nothing to do with it.
-/

namespace Rollout.Rehearsal

/-- What the outer token is to the token of the context. -/
inductive Kinship where
  | same
  | ancestor
  | stranger
deriving DecidableEq, Repr

structure Watch where
  kinship : Kinship
  /-- The instant at which the outer token is cancelled. -/
  outer : Option Instant
  /-- The instant at which the context's own token is cancelled, where that is another one. -/
  own : Option Instant
  deadline : Option Instant
  now : Instant

namespace Watch

def start (kinship : Kinship) (deadline : Option Instant) : Watch := ⟨kinship, none, none, deadline, 0⟩

def token (w : Watch) : Token :=
  match w.kinship with
  | .same => ⟨[w.outer]⟩
  | .ancestor => ⟨[w.own, w.outer]⟩
  | .stranger => ⟨[w.own]⟩

def context (w : Watch) : Context := .ofToken w.token w.deadline

def isTokenCancelled (w : Watch) : Bool := Context.hasPassed w.now w.token.cancelledAt

def isCancelled (w : Watch) : Bool := w.context.isCancelled w.now

/-- Cancels the outer token after a while. -/
def cancelIn (w : Watch) (d : Duration) : Watch := { w with outer := earlier w.outer (some (Instant.after w.now d)) }

/-- Cancels the context's own token. -/
def cancelOwn (w : Watch) : Watch :=
  match w.kinship with
  | .same => { w with outer := earlier w.outer (some w.now) }
  | _ => { w with own := earlier w.own (some w.now) }

def advance (w : Watch) (d : Duration) : Watch := { w with now := Instant.after w.now d }

/-- Waits under guard for something that takes a while: how it ends. -/
def guard (w : Watch) (d : Duration) : Except Stop Unit × Watch :=
  match w.context.guard w.now (some (Instant.after w.now d, ())) with
  | some (t, result) => (result, { w with now := t })
  | none => (.ok (), w)

/-- Waits for a reason to stop, if there ever is one. -/
def stopped (w : Watch) : Option Stop × Watch :=
  match w.context.stopsAt w.now with
  | some (t, reason) => (some reason, { w with now := t })
  | none => (none, w)

end Watch

end Rollout.Rehearsal
