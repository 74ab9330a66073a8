import Rollout.Job.Worker
import Rollout.Runner
import Rollout.UseCases

/-!
# The system

A store whose bus has a scheduler for its first subscriber, a tree of files below a data directory, a runner, a worker
for the queue of the scheduler, and a clock.
-/

namespace Rollout

structure System where
  store : Store
  files : Files
  dataDir : String
  now : Instant
  runner : Runner
  /-- The calls of the runner, oldest first. -/
  calls : List RunnerCall
  worker : WorkerConfig

namespace System

/-- A system with nothing in it. -/
def empty (dataDir : String) (policy : RetryPolicy) (worker : WorkerConfig) : System :=
  { store := { db := .empty, bus := [.scheduler], hub := ⟨.empty policy Queue.defaultRetention, []⟩ }
    files := .empty, dataDir, now := 0, runner := fun _ => [], calls := [], worker }

/-- The time by the system's clock. -/
def time (s : System) : Timestamp := .ofInstant s.now

def advance (s : System) (d : Duration) : System := { s with now := Instant.after s.now d }

@[simp] theorem advance_zero (s : System) : s.advance .zero = s := by
  have hzero : Duration.zero.nanos = 0 := Nat.zero_min _
  simp only [advance, Instant.after, hzero, Nat.add_zero]

def sign (s : System) (user : UserId) : Signature := ⟨s.time, user⟩

def queue (s : System) : Queue Work := s.store.hub.queue

def withQueue (s : System) (q : Queue Work) : System :=
  { s with store := { s.store with hub := { s.store.hub with queue := q } } }

end System

end Rollout
