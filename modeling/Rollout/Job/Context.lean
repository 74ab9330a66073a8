import Rollout.Job.Error
import Rollout.Time.Duration

/-!
# Contexts of running jobs

A job is asked to stop by the cancellation of a token or by a deadline, whichever comes first; at one and the same
instant cancellation counts. Both are given by the instants at which they fall: a token is cancelled from the earliest
instant at which it or one of its ancestors is.

`Context.check` is for polling, `Context.stopsAt` and `Context.guard` are for waiting.
-/

namespace Rollout

/-- The instants of a job's own token and its ancestors' at which each is cancelled, if ever. -/
structure Token where
  chain : List (Option Instant)
deriving DecidableEq, Repr

/-- The earlier of two instants that may never come. -/
def earlier : Option Instant → Option Instant → Option Instant
  | some a, some b => some (min a b)
  | some a, none => some a
  | none, b => b

namespace Token

/-- A token that is never cancelled. -/
def fresh : Token := ⟨[none]⟩

/-- A token of its own below `t`. -/
def child (t : Token) : Token := ⟨none :: t.chain⟩

def cancelledAt (t : Token) : Option Instant := t.chain.foldr earlier none

/-- A child is cancelled from when its parent is. -/
@[simp] theorem cancelledAt_child (t : Token) : t.child.cancelledAt = t.cancelledAt := rfl

/-- Cancels the token itself at `now`, which leaves its ancestors as they are. -/
def cancel (t : Token) (now : Instant) : Token :=
  match t.chain with
  | [] => ⟨[some now]⟩
  | own :: rest => ⟨earlier own (some now) :: rest⟩

end Token

structure Context where
  cancelledAt : Option Instant
  deadline : Option Instant
deriving DecidableEq, Repr

namespace Context

/-- The context of a job that nothing stops. -/
def background : Context := ⟨none, none⟩

def ofToken (t : Token) (deadline : Option Instant) : Context := ⟨t.cancelledAt, deadline⟩

def hasPassed (now : Instant) : Option Instant → Bool
  | some t => t ≤ now
  | none => false

/-- The reason to stop that holds at `now`. -/
def stop? (c : Context) (now : Instant) : Option Stop :=
  if hasPassed now c.cancelledAt then some .cancelled
  else if hasPassed now c.deadline then some .deadlineExceeded
  else none

def isCancelled (c : Context) (now : Instant) : Bool := hasPassed now c.cancelledAt || hasPassed now c.deadline

/-- The two ways of polling agree. -/
theorem isSome_stop? (c : Context) (now : Instant) : (c.stop? now).isSome = c.isCancelled now := by
  unfold stop? isCancelled
  cases hasPassed now c.cancelledAt <;> cases hasPassed now c.deadline <;> rfl

def check (c : Context) (now : Instant) : Except Stop Unit :=
  match c.stop? now with
  | some reason => .error reason
  | none => .ok ()

/-- The first instant from `now` on at which there is a reason to stop, and the reason. -/
def stopsAt (c : Context) (now : Instant) : Option (Instant × Stop) :=
  match c.stop? now with
  | some reason => some (now, reason)
  | none =>
    match c.cancelledAt, c.deadline with
    | some t, some d => if t ≤ d then some (t, .cancelled) else some (d, .deadlineExceeded)
    | some t, none => some (t, .cancelled)
    | none, some d => some (d, .deadlineExceeded)
    | none, none => none

/-- A reason that holds already stops at once. -/
theorem stopsAt_of_stop? {c : Context} {now : Instant} {reason : Stop} (h : c.stop? now = some reason) :
    c.stopsAt now = some (now, reason) := by
  simp [stopsAt, h]

theorem le_of_hasPassed {now t : Instant} (h : hasPassed now (some t) = false) : now ≤ t :=
  Nat.le_of_lt (Nat.not_le.mp (of_decide_eq_false h))

/-- A job is not asked to stop in the past. -/
theorem le_of_stopsAt {c : Context} {now t : Instant} {reason : Stop} (h : c.stopsAt now = some (t, reason)) :
    now ≤ t := by
  cases hstop : c.stop? now with
  | some r =>
    rw [stopsAt_of_stop? hstop] at h
    cases h
    exact Nat.le_refl _
  | none =>
    have hpassed : hasPassed now c.cancelledAt = false ∧ hasPassed now c.deadline = false := by
      have hcancelled := c.isSome_stop? now
      rw [hstop] at hcancelled
      exact Bool.or_eq_false_iff.mp hcancelled.symm
    obtain ⟨hcancelled, hdeadline⟩ := hpassed
    simp only [stopsAt, hstop] at h
    split at h
    · next hc hd =>
      rw [hc] at hcancelled
      rw [hd] at hdeadline
      split at h
      · cases h
        exact le_of_hasPassed hcancelled
      · cases h
        exact le_of_hasPassed hdeadline
    · next hc hd =>
      cases h
      exact le_of_hasPassed (hc ▸ hcancelled)
    · next hc hd =>
      cases h
      exact le_of_hasPassed (hd ▸ hdeadline)
    · cases h

/-- What is waited for is a reason to stop once it has come. -/
theorem stop?_of_stopsAt {c : Context} {now t : Instant} {reason : Stop}
    (h : c.stopsAt now = some (t, reason)) : c.stop? t = some reason := by
  unfold stopsAt at h
  split at h
  · next hstop =>
    cases h
    exact hstop
  · split at h
    · next hcancelled hdeadline =>
      split at h
      · cases h
        simp [stop?, hasPassed, hcancelled]
      · next hlt =>
        cases h
        simp [stop?, hasPassed, hcancelled, hdeadline, hlt]
    · next hcancelled hdeadline =>
      cases h
      simp [stop?, hasPassed, hcancelled]
    · next hcancelled hdeadline =>
      cases h
      simp [stop?, hasPassed, hcancelled, hdeadline]
    · cases h

/--
Waits for something that is done at a given instant with a given value, but no longer than until the stop. What is done
already is there at once.
-/
def guard {β : Type} (c : Context) (now : Instant) (done : Option (Instant × β)) : Option (Instant × Except Stop β) :=
  match c.stopsAt now, done with
  | none, none => none
  | none, some (f, b) => some (max now f, .ok b)
  | some (s, reason), none => some (s, .error reason)
  | some (s, reason), some (f, b) => if max now f < s then some (max now f, .ok b) else some (s, .error reason)

/-- The context after its token was cancelled at `t` at the latest. -/
def cancelAt (c : Context) (t : Instant) : Context := { c with cancelledAt := earlier c.cancelledAt (some t) }

end Context

end Rollout
