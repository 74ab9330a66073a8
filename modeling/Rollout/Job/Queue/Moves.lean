import Rollout.Job.Queue.State

/-!
# What the operations of a queue come to

Every operation changes the collections by few moves: a new job is enlisted behind all others (`enlist`) or takes the
place of another (`supersede`), a waiting job is handed out (`handOut`), a running one is settled (`settle`). The
equations below say which moves an operation makes and when; what a move keeps is shown for the move alone.
-/

namespace Rollout.QueueState

variable {α : Type} {s : QueueState α} {now : Instant} {id : JobId} {job : Job α}

/-! ## Moves -/

/-- The queue with the new job `w` behind all others. -/
def enlist (s : QueueState α) (w : Waiting α) : QueueState α :=
  (append { s with created := w.job.id } w).setStatus w.job.id .pending

/-- The queue with the new job `w` in the place of `replaced`, which will never run. -/
def supersede (s : QueueState α) (replaced : JobId) (w : Waiting α) : QueueState α :=
  ((replace { s with created := w.job.id } replaced w).finish replaced .superseded).setStatus w.job.id .pending

/-- The queue whose waiting job `id` has been given to a worker. -/
def handOut (s : QueueState α) (id : JobId) (job : Job α) : QueueState α := (s.remove id job).start job

/-- The queue whose running job `id` has come to its end. -/
def settle (s : QueueState α) (id : JobId) (status : JobStatus) : QueueState α := (s.release id).finish id status

/-! ## Operations -/

theorem push_of_covered {w : Waiting α} {replaced : JobId} (h : s.covering? w.job = some replaced) :
    s.push w = (.superseded w.job.id replaced, s.replace replaced w) := by
  simp only [push, h]

theorem push_of_free {w : Waiting α} (h : s.covering? w.job = none) : s.push w = (.created w.job.id, s.append w) := by
  simp only [push, h]

/-- Enqueued work as it waits. -/
def entry (s : QueueState α) (p : Prepared α) : Waiting α := ⟨Job.ofPrepared (s.created + 1) p, none⟩

theorem enqueue_of_covered {p : Prepared α} {replaced : JobId} (h : s.covering? (s.entry p).job = some replaced) :
    s.enqueue p = (.superseded (s.created + 1) replaced, s.supersede replaced (s.entry p)) := by
  have hpush := push_of_covered (s := { s with created := s.created + 1 }) (w := s.entry p) h
  simp only [entry] at hpush
  simp only [enqueue, hpush]
  rfl

theorem enqueue_of_free {p : Prepared α} (h : s.covering? (s.entry p).job = none) :
    s.enqueue p = (.created (s.created + 1), s.enlist (s.entry p)) := by
  have hpush := push_of_free (s := { s with created := s.created + 1 }) (w := s.entry p) h
  simp only [entry] at hpush
  simp only [enqueue, hpush]
  rfl

theorem isReady_iff : s.isReady now id = true ↔ ∃ w, s.pending[id]? = some w ∧ w.isReady now = true := by
  simp [isReady, Option.any_eq_true]

theorem dequeue_of_find {w : Waiting α} (hid : s.order.find? (s.isReady now) = some id)
    (hw : s.pending[id]? = some w) : s.dequeue now = (some w.job, s.handOut id w.job) := by
  simp only [dequeue, popReady, hid, hw, Option.bind_eq_bind, Option.bind_some]
  rfl

theorem dequeue_of_find_none (h : s.order.find? (s.isReady now) = none) : s.dequeue now = (none, s) := by
  simp only [dequeue, popReady, h]
  rfl

/-- A queue hands out nothing because nothing is ready, or it hands out the first job that is. -/
theorem dequeue_cases (s : QueueState α) (now : Instant) :
    (s.dequeue now = (none, s) ∧ ∀ id ∈ s.order, s.isReady now id = false) ∨
    ∃ id w, s.order.find? (s.isReady now) = some id ∧ s.pending[id]? = some w ∧ w.isReady now = true ∧
      s.dequeue now = (some w.job, s.handOut id w.job) := by
  cases hid : s.order.find? (s.isReady now) with
  | none => exact .inl ⟨dequeue_of_find_none hid, by simpa using hid⟩
  | some id =>
    obtain ⟨w, hw, hready⟩ := isReady_iff.mp (List.find?_some hid)
    exact .inr ⟨id, w, rfl, hw, hready, dequeue_of_find hid hw⟩

theorem markSucceeded_of_running (h : s.running[id]? = some job) :
    s.markSucceeded id = (.ok (), s.settle id .succeeded) := by
  simp only [markSucceeded, h]
  rfl

theorem markSucceeded_of_not_running (h : s.running[id]? = none) :
    s.markSucceeded id = (.error (notRunning (toString id)), s) := by
  simp only [markSucceeded, h]

section Failed

variable {error : String} {kind : FailureKind}

theorem markFailed_of_not_running (h : s.running[id]? = none) :
    s.markFailed now id error kind = (.error (notRunning (toString id)), s) := by
  simp only [markFailed, h]

/-- Work that waits already is not tried again. -/
theorem markFailed_of_covered (h : s.running[id]? = some job)
    (hkind : kind = .retryable ∧ job.attempt < s.policy.maxAttempts) {other : JobId}
    (hc : s.covering? job = some other) : s.markFailed now id error kind = (.ok .failed, s.settle id .failed) := by
  have hc' : ((s.release id).finish id .failed).covering? job = some other := hc
  have hkind' : kind = .retryable ∧ job.attempt < (s.release id).policy.maxAttempts := hkind
  simp only [markFailed, h, if_pos hkind', hc']
  rfl

theorem scheduleRetry_of_free (h : s.covering? job = none) :
    s.scheduleRetry now job = s.enlist (s.nextAttempt now job) := by
  have hpush := push_of_free (s := { s with created := s.created + 1 }) (w := s.nextAttempt now job) h
  simp only [scheduleRetry]
  exact congrArg (fun r => r.2.setStatus (s.nextAttempt now job).job.id .pending) hpush

theorem markFailed_of_free (h : s.running[id]? = some job)
    (hkind : kind = .retryable ∧ job.attempt < s.policy.maxAttempts) (hc : s.covering? job = none) :
    s.markFailed now id error kind = (.ok .failed, (s.settle id .failed).enlist (s.nextAttempt now job)) := by
  have hc' : ((s.release id).finish id .failed).covering? job = none := hc
  have hkind' : kind = .retryable ∧ job.attempt < (s.release id).policy.maxAttempts := hkind
  simp only [markFailed, h, if_pos hkind', hc', scheduleRetry_of_free hc']
  rfl

theorem markFailed_of_final (h : s.running[id]? = some job)
    (hkind : ¬(kind = .retryable ∧ job.attempt < s.policy.maxAttempts)) :
    s.markFailed now id error kind = (.ok .deadLetter, (s.bury job error).settle id .deadLetter) := by
  have hkind' : ¬(kind = .retryable ∧ job.attempt < (s.release id).policy.maxAttempts) := hkind
  simp only [markFailed, h, if_neg hkind']
  rfl

end Failed

end Rollout.QueueState
