import Rollout.Job.Context

/-!
# Waiting under a context, look by look

A `Context` says ahead of time when its token is cancelled and when its deadline passes. Here it is met as the job does
that has it: tokens are cancelled while time goes on, and at each moment there is only so much to be seen (`Sight`).
Whoever waits asks each time it is woken, first for the cancellation, then for the deadline and then for what it waits
for, and the first of them that is ready ends the wait (`JobContext.guard`, `await`).

A token is cancelled as soon as it or one of its ancestors is.
-/

namespace Rollout

/-- A token, by the numbers of the tokens that were made on the way to it: `n :: t` is the child number `n` of `t`. -/
abbrev TokenPath := List Nat

/-- The token as its cancellations, and those of its ancestors, have left it. -/
def TokenPath.token (cancels : List (Instant × TokenPath)) : TokenPath → Token
  | [] => (cancels.filter (·.2 = [])).foldl (fun t e => t.cancel e.1) .fresh
  | n :: parent =>
    (cancels.filter (·.2 = n :: parent)).foldl (fun t e => t.cancel e.1) (TokenPath.token cancels parent).child

/-- What is to be seen at a moment: the time, and the tokens that somebody has cancelled. -/
structure Sight where
  now : Instant
  cancelled : List TokenPath

namespace Sight

def hasCancelled (s : Sight) (t : TokenPath) : Bool := s.cancelled.any (·.isSuffixOf t)

def cancel (s : Sight) (t : TokenPath) : Sight := { s with cancelled := t :: s.cancelled }

end Sight

/-- What can be waited for: what it gives at a look, if it is ready. -/
abbrev Source (β : Type) := Sight → Option β

namespace Source

variable {β γ : Type}

def map (f : β → γ) (a : Source β) : Source γ := fun s => (a s).map f

/-- Two sources of which `a` is asked first. -/
def biased (a b : Source β) : Source β := fun s => (a s).or (b s)

/-- Ready once the token is cancelled. -/
def cancellation (t : TokenPath) : Source Unit := fun s => if s.hasCancelled t then some () else none

/-- Ready from the instant on, if there is one. -/
def deadline (d : Option Instant) : Source Unit := fun s => if Context.hasPassed s.now d then some () else none

/-- Ready from the instant on at which it is done, with what it comes to. -/
def ofDone (done : Option (Instant × β)) : Source β :=
  fun s => done.bind fun d => if d.1 ≤ s.now then some d.2 else none

end Source

/-- A context as a job has it. -/
structure JobContext where
  token : TokenPath
  deadline : Option Instant

namespace JobContext

variable {β : Type}

def isCancelled (c : JobContext) (s : Sight) : Bool :=
  s.hasCancelled c.token || Context.hasPassed s.now c.deadline

def check (c : JobContext) (s : Sight) : Except Stop Unit :=
  if s.hasCancelled c.token then .error .cancelled
  else if Context.hasPassed s.now c.deadline then .error .deadlineExceeded
  else .ok ()

/-- Ready with the reason to stop. -/
def stopped (c : JobContext) : Source Stop :=
  .biased ((Source.cancellation c.token).map fun _ => .cancelled)
    ((Source.deadline c.deadline).map fun _ => .deadlineExceeded)

/-- Ready with what `source` gives, or with the reason to stop. -/
def guard (c : JobContext) (source : Source β) : Source (Except Stop β) :=
  .biased (c.stopped.map .error) (source.map .ok)

end JobContext

/-- What happens while somebody waits: a token is cancelled, or the one that waits is woken and looks. -/
inductive Happening where
  | cancel (t : TokenPath)
  | look
deriving DecidableEq

/-- Looks until the source is ready, when these tokens have been cancelled: when it is, and what it gives. -/
def await {β : Type} (source : Source β) (cancelled : List TokenPath) :
    List (Instant × Happening) → Option (Instant × β)
  | [] => none
  | (_, .cancel t) :: rest => await source (t :: cancelled) rest
  | (now, .look) :: rest =>
    match source ⟨now, cancelled⟩ with
    | some b => some (now, b)
    | none => await source cancelled rest

/-- Whoever waits under a context on `token` is woken by each of its cancellations, at the same instant. -/
def WakesOnCancel (token : TokenPath) : List (Instant × Happening) → Prop
  | [] => True
  | (t, .cancel a) :: rest => (a <:+ token → (t, .look) ∈ rest) ∧ WakesOnCancel token rest
  | (_, .look) :: rest => WakesOnCancel token rest

/--
A wait for something that is guarded by a context. Whoever waits looks at the call, and is woken by everything that it
waits for when it comes; it may be woken at any other time as well.
-/
structure GuardedWait (β : Type) where
  context : JobContext
  /-- When that which is guarded is done, and what it comes to, if it ever is. -/
  done : Option (Instant × β)
  /-- The tokens that were cancelled before the call, and when. -/
  before : List (Instant × TokenPath)
  call : Instant
  /-- What happens after the call. -/
  after : List (Instant × Happening)
  past : ∀ e ∈ before, e.1 ≤ call
  ordered : ((call, .look) :: after).Pairwise (·.1 ≤ ·.1)
  wakesOnCancel : WakesOnCancel context.token after
  wakesOnDeadline : ∀ d, context.deadline = some d → call < d → (d, .look) ∈ after
  wakesOnDone : ∀ f b, done = some (f, b) → call < f → (f, .look) ∈ after

namespace GuardedWait

variable {β : Type}

/-- When the wait ends, if it does, and with what. -/
def outcome (w : GuardedWait β) : Option (Instant × Except Stop β) :=
  await (w.context.guard (.ofDone w.done)) (w.before.map (·.2)) ((w.call, .look) :: w.after)

/-- All cancellations, and their instants. -/
def cancels (w : GuardedWait β) : List (Instant × TokenPath) :=
  w.before ++ w.after.filterMap fun
    | (t, .cancel a) => some (t, a)
    | (_, .look) => none

/-- What is to be seen at an instant when all that happens at it has happened. -/
def sightAt (w : GuardedWait β) (t : Instant) : Sight := ⟨t, (w.cancels.filter (·.1 ≤ t)).map (·.2)⟩

/-- The context, by the instants at which it stops. -/
def timed (w : GuardedWait β) : Context := .ofToken (w.context.token.token w.cancels) w.context.deadline

end GuardedWait

end Rollout
