import Rollout.Job.Handler
import Rollout.Job.Queue

/-!
# Dispatch of events

A dispatcher takes an event and may refuse it. A bus hands an event to its subscribers one after another, in the order in
which they subscribed. The first one that fails ends the dispatch, and the subscribers after it do not see the event. As
a bus is a dispatcher, it may itself subscribe to a bus.

A scheduler is the subscriber that enqueues the job which the registry prepares for an event; a recorder writes down the
names of events and may refuse some of them.
-/

namespace Rollout

/-- An event as subscribers see it. -/
structure Notice (π : Type) where
  name : String
  payload : π

/-- Takes events, and changes what it writes to. -/
abbrev Dispatcher (π σ : Type) := Notice π → σ → Except DispatchError Unit × σ

namespace Dispatcher

variable {π σ : Type}

def silent : Dispatcher π σ := fun _ h => (.ok (), h)

/-- Hands an event to one dispatcher after another until one fails. -/
def bus : List (Dispatcher π σ) → Dispatcher π σ
  | [], _, h => (.ok (), h)
  | d :: ds, n, h =>
    match d n h with
    | (.ok _, h) => bus ds n h
    | (.error e, h) => (.error e, h)

/--
Hands over events one after another. The first failure ends it: how many events got through, how many did not, the
failing one included, and why.
-/
def dispatchAll (d : Dispatcher π σ) (ns : List (Notice π)) (h : σ) : Except (Nat × Nat × DispatchError) Unit × σ :=
  go 0 ns h
where
  go (done : Nat) : List (Notice π) → σ → Except (Nat × Nat × DispatchError) Unit × σ
    | [], h => (.ok (), h)
    | n :: ns, h =>
      match d n h with
      | (.ok _, h) => go (done + 1) ns h
      | (.error e, h) => (.error (done, ns.length + 1, e), h)

end Dispatcher

structure Recorder where
  /-- The names of the accepted events, oldest first. -/
  accepted : List String
  /-- How many events came in since the recorder was cleared. -/
  seen : Nat
  /-- Whether the event that comes after so many others is refused. -/
  refuses : Nat → Bool

namespace Recorder

/-- A recorder that refuses every event after the first `limit`. -/
def withLimit (limit : Option Nat) : Recorder :=
  { accepted := [], seen := 0, refuses := fun n => match limit with
      | some limit => limit ≤ n
      | none => false }

def clear (r : Recorder) : Recorder := { r with accepted := [], seen := 0 }

def refusal : String := "recording dispatcher rejected event"

def record (r : Recorder) (name : String) : Except DispatchError Unit × Recorder :=
  let next := { r with seen := r.seen + 1 }
  if r.refuses r.seen then (.error (.subscriber name refusal), next)
  else (.ok (), { next with accepted := r.accepted ++ [name] })

end Recorder

inductive Subscriber where
  | scheduler
  /-- The recorder with this number. -/
  | recorder (index : Nat)
  | silent
  | bus (members : List Subscriber)
deriving Inhabited

/-- What subscribers write to: the queue of the schedulers, and the recorders by number. -/
structure Hub (α : Type) where
  queue : Queue α
  recorders : List Recorder

namespace Hub

variable {π α β : Type}

/-- Prepares and enqueues the job for an event, if a handler claims it. -/
def schedule (r : Registry π α β) (n : Notice π) (h : Hub α) :
    Except DispatchError (Option EnqueueResult) × Hub α :=
  match r.prepare n.payload with
  | .error e => (.error (.prepare n.name e), h)
  | .ok none => (.ok none, h)
  | .ok (some p) =>
    let (result, queue) := h.queue.enqueue p
    (.ok (some result), { h with queue })

def scheduler (r : Registry π α β) : Dispatcher π (Hub α) := fun n h =>
  let (result, h) := h.schedule r n
  (result.map fun _ => (), h)

/-- The recorder with this number. -/
def recorder (index : Nat) : Dispatcher π (Hub α) := fun n h =>
  match h.recorders[index]? with
  | none => (.ok (), h)
  | some rec =>
    let (result, rec) := rec.record n.name
    (result, { h with recorders := h.recorders.set index rec })

end Hub

section

variable {π α β : Type}

mutual

/-- What a subscriber does with an event. -/
def Subscriber.dispatcher (r : Registry π α β) : Subscriber → Dispatcher π (Hub α)
  | .scheduler => Hub.scheduler r
  | .recorder i => Hub.recorder i
  | .silent => .silent
  | .bus members => .bus (dispatchersOf r members)

def dispatchersOf (r : Registry π α β) : List Subscriber → List (Dispatcher π (Hub α))
  | [] => []
  | s :: ss => s.dispatcher r :: dispatchersOf r ss

end

/-- Hands an event to the subscribers of a bus. -/
def Hub.dispatch (r : Registry π α β) (bus : List Subscriber) (n : Notice π) (h : Hub α) :
    Except DispatchError Unit × Hub α :=
  Dispatcher.bus (dispatchersOf r bus) n h

end

end Rollout
