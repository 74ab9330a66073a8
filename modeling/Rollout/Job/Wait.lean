import Rollout.Job.Worker

/-!
# The waits of a worker

While a handler runs, its worker waits for it or for a reason to stop, and after a stop for it or for the end of its
grace. Both waits ask the handler first; the first of them then asks the context, and the second the clock. Here they
are made one look after the other (`Wait.look`, `Wait.looks`); `Worker.settle` tells at once where they lead.
-/

namespace Rollout

/-- What a worker waits for. -/
inductive Wait where
  | handler
  /-- The handler, which was asked to stop for this reason and may go on until `limit`. -/
  | grace (reason : Stop) (limit : Instant)
  | over (completion : Completion)

/-- Whether the run has ended by `now`. -/
def Completion.isOver (completion : Completion) (now : Instant) : Bool := Context.hasPassed now completion.instant?

namespace Wait

/-- A look at a handler that was asked to stop. -/
def lookInGrace (completion : Completion) (reason : Stop) (limit now : Instant) : Wait :=
  if completion.isOver now then .over completion
  else if limit ≤ now then .over (.returns now (.error (.ofStop reason)))
  else .grace reason limit

/-- One look, at the instant `now`. The grace that begins with it is looked at as well. -/
def look (grace : Duration) (c : Context) (completion : Completion) (now : Instant) : Wait → Wait
  | .handler =>
    if completion.isOver now then .over completion
    else
      match c.stop? now with
      | some reason => lookInGrace completion reason (Instant.after now grace) now
      | none => .handler
  | .grace reason limit => lookInGrace completion reason limit now
  | .over completion => .over completion

/-- The wait that began at `start`, looked at then and in each of the `n` instants after it. -/
def looks (grace : Duration) (c : Context) (completion : Completion) (start : Instant) : Nat → Wait
  | 0 => look grace c completion start .handler
  | n + 1 => look grace c completion (start + (n + 1)) (looks grace c completion start n)

end Wait

end Rollout
