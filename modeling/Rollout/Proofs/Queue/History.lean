import Rollout.Job.Queue.Linked

/-!
# Histories of a queue

A queue and its clock (`Moment`) go through whatever operations its callers and workers ask for, in any order. An
`Event` is one operation with the moments around it and the answer to it; a history is the list of them.

What an operation can do to a queue is said once, by the moves it comes to (`Effect`, `Moment.effect`). The collections
of the queue agree at every moment of a history that starts so (`linked_run`), and what every such event keeps holds
throughout (`forall_mem_history`).
-/

namespace Rollout

/-- What callers and workers ask of a queue, or the passing of time. -/
inductive QueueOperation (α : Type) where
  | enqueue (p : Prepared α)
  | dequeue
  | succeed (id : JobId)
  | fail (id : JobId) (error : String) (kind : FailureKind)
  | advance (d : Duration)

inductive QueueAnswer (α : Type) where
  | enqueued (result : EnqueueResult)
  | dequeued (job : Option (Job α))
  | succeeded (result : Except JobError Unit)
  | failed (result : Except JobError JobStatus)
  | advanced

/-- A queue and the time by its clock. -/
structure Moment (α : Type) where
  now : Instant
  queue : QueueState α

/-- One operation, with the moments around it and the answer to it. -/
structure Event (α : Type) where
  before : Moment α
  operation : QueueOperation α
  answer : QueueAnswer α
  after : Moment α

/-! ## Effects -/

/-- What an operation can do to the queue `s`, and the answer to it. -/
inductive Effect {α : Type} (now : Instant) (s : QueueState α) :
    QueueOperation α → QueueAnswer α → QueueState α → Prop where
  | enlisted {p : Prepared α} (hfree : s.covering? (s.entry p).job = none) :
    Effect now s (.enqueue p) (.enqueued (.created (s.created + 1))) (s.enlist (s.entry p))
  | superseded {p : Prepared α} {replaced : JobId} (hcovered : s.covering? (s.entry p).job = some replaced) :
    Effect now s (.enqueue p) (.enqueued (.superseded (s.created + 1) replaced)) (s.supersede replaced (s.entry p))
  | idle (hnone : ∀ id ∈ s.order, s.isReady now id = false) : Effect now s .dequeue (.dequeued none) s
  | handedOut {id : JobId} {w : Waiting α} (hfirst : s.order.find? (s.isReady now) = some id)
      (hw : s.pending[id]? = some w) (hready : w.isReady now = true) :
    Effect now s .dequeue (.dequeued (some w.job)) (s.handOut id w.job)
  | notSucceeded {id : JobId} (hid : s.running[id]? = none) :
    Effect now s (.succeed id) (.succeeded (.error (QueueState.notRunning (toString id)))) s
  | succeeded {id : JobId} {job : Job α} (hid : s.running[id]? = some job) :
    Effect now s (.succeed id) (.succeeded (.ok ())) (s.settle id .succeeded)
  | notFailed {id : JobId} {error : String} {kind : FailureKind} (hid : s.running[id]? = none) :
    Effect now s (.fail id error kind) (.failed (.error (QueueState.notRunning (toString id)))) s
  | covered {id : JobId} {error : String} {kind : FailureKind} {job : Job α} {other : JobId}
      (hid : s.running[id]? = some job) (hkind : kind = .retryable ∧ job.attempt < s.policy.maxAttempts)
      (hcovered : s.covering? job = some other) :
    Effect now s (.fail id error kind) (.failed (.ok .failed)) (s.settle id .failed)
  | retried {id : JobId} {error : String} {kind : FailureKind} {job : Job α} (hid : s.running[id]? = some job)
      (hkind : kind = .retryable ∧ job.attempt < s.policy.maxAttempts) (hfree : s.covering? job = none) :
    Effect now s (.fail id error kind) (.failed (.ok .failed))
      ((s.settle id .failed).enlist (s.nextAttempt now job))
  | buried {id : JobId} {error : String} {kind : FailureKind} {job : Job α} (hid : s.running[id]? = some job)
      (hkind : ¬(kind = .retryable ∧ job.attempt < s.policy.maxAttempts)) :
    Effect now s (.fail id error kind) (.failed (.ok .deadLetter)) ((s.bury job error).settle id .deadLetter)
  | advanced {d : Duration} : Effect now s (.advance d) .advanced s

theorem Effect.policy_eq {α : Type} {now : Instant} {s s' : QueueState α} {o : QueueOperation α}
    {answer : QueueAnswer α} (he : Effect now s o answer s') : s'.policy = s.policy := by
  cases he <;> rfl

/-! ## Runs -/

namespace Moment

variable {α : Type}

/-- An empty queue at the start of its clock. -/
def start (policy : RetryPolicy) (retention : Nat) : Moment α := ⟨0, .empty policy retention⟩

def perform (m : Moment α) : QueueOperation α → QueueAnswer α × Moment α
  | .enqueue p => (.enqueued (m.queue.enqueue p).1, { m with queue := (m.queue.enqueue p).2 })
  | .dequeue => (.dequeued (m.queue.dequeue m.now).1, { m with queue := (m.queue.dequeue m.now).2 })
  | .succeed id => (.succeeded (m.queue.markSucceeded id).1, { m with queue := (m.queue.markSucceeded id).2 })
  | .fail id error kind =>
    (.failed (m.queue.markFailed m.now id error kind).1,
      { m with queue := (m.queue.markFailed m.now id error kind).2 })
  | .advance d => (.advanced, { m with now := Instant.after m.now d })

def event (m : Moment α) (o : QueueOperation α) : Event α := ⟨m, o, (m.perform o).1, (m.perform o).2⟩

/-- The moment after the operations `os`. -/
def run (m : Moment α) (os : List (QueueOperation α)) : Moment α := os.foldl (fun m o => (m.perform o).2) m

/-- What happens on the operations `os`. -/
def history (m : Moment α) : List (QueueOperation α) → List (Event α)
  | [] => []
  | o :: os => m.event o :: (m.perform o).2.history os

theorem run_cons (m : Moment α) (o : QueueOperation α) (os : List (QueueOperation α)) :
    m.run (o :: os) = (m.perform o).2.run os := rfl

theorem run_concat (m : Moment α) (os : List (QueueOperation α)) (o : QueueOperation α) :
    m.run (os ++ [o]) = ((m.run os).perform o).2 := by
  simp only [run, List.foldl_append, List.foldl_cons, List.foldl_nil]

theorem history_concat (m : Moment α) (os : List (QueueOperation α)) (o : QueueOperation α) :
    m.history (os ++ [o]) = m.history os ++ [(m.run os).event o] := by
  induction os generalizing m with
  | nil => rfl
  | cons o' os ih => rw [List.cons_append, history, ih, history, List.cons_append, run_cons]

/-- An operation has one of the effects. -/
theorem effect (m : Moment α) (o : QueueOperation α) :
    Effect m.now m.queue o (m.perform o).1 (m.perform o).2.queue := by
  cases o with
  | enqueue p =>
    cases hc : m.queue.covering? (m.queue.entry p).job with
    | none => simpa only [perform, QueueState.enqueue_of_free hc] using .enlisted hc
    | some replaced => simpa only [perform, QueueState.enqueue_of_covered hc] using .superseded hc
  | dequeue =>
    rcases m.queue.dequeue_cases m.now with ⟨heq, hnone⟩ | ⟨id, w, hfirst, hw, hready, heq⟩
    · simpa only [perform, heq] using .idle hnone
    · simpa only [perform, heq] using .handedOut hfirst hw hready
  | succeed id =>
    cases hid : m.queue.running[id]? with
    | none => simpa only [perform, QueueState.markSucceeded_of_not_running hid] using .notSucceeded hid
    | some job => simpa only [perform, QueueState.markSucceeded_of_running hid] using .succeeded hid
  | fail id error kind =>
    cases hid : m.queue.running[id]? with
    | none => simpa only [perform, QueueState.markFailed_of_not_running hid] using .notFailed hid
    | some job =>
      by_cases hkind : kind = .retryable ∧ job.attempt < m.queue.policy.maxAttempts
      · cases hc : m.queue.covering? job with
        | none => simpa only [perform, QueueState.markFailed_of_free hid hkind hc] using .retried hid hkind hc
        | some other => simpa only [perform, QueueState.markFailed_of_covered hid hkind hc] using .covered hid hkind hc
      · simpa only [perform, QueueState.markFailed_of_final hid hkind] using .buried hid hkind
  | advance d => exact .advanced

theorem linked_perform {m : Moment α} (h : m.queue.Linked) (o : QueueOperation α) : (m.perform o).2.queue.Linked := by
  cases o with
  | enqueue p => exact h.enqueue p
  | dequeue => exact h.dequeue m.now
  | succeed id => exact h.markSucceeded id
  | fail id error kind => exact h.markFailed m.now id error kind
  | advance d => exact h

theorem linked_run {m : Moment α} (h : m.queue.Linked) (os : List (QueueOperation α)) : (m.run os).queue.Linked := by
  induction os generalizing m with
  | nil => exact h
  | cons o os ih => exact ih (linked_perform h o)

/-- What holds of every event at a queue whose collections agree holds throughout a history. -/
theorem forall_mem_history {m : Moment α} (h : m.queue.Linked) {P : Event α → Prop}
    (hP : ∀ (m : Moment α) o, m.queue.Linked → P (m.event o)) (os : List (QueueOperation α)) :
    ∀ e ∈ m.history os, P e := by
  induction os generalizing m with
  | nil => simp [history]
  | cons o os ih =>
    rw [history, List.forall_mem_cons]
    exact ⟨hP m o h, ih (linked_perform h o)⟩

theorem policy_run (m : Moment α) (os : List (QueueOperation α)) : (m.run os).queue.policy = m.queue.policy := by
  induction os generalizing m with
  | nil => rfl
  | cons o os ih => exact (ih (m.perform o).2).trans (m.effect o).policy_eq

theorem linked_start (policy : RetryPolicy) (retention : Nat) : (start policy retention : Moment α).queue.Linked :=
  .empty policy retention

end Moment

end Rollout
