import Rollout.Proofs.Service.Drains
import Rollout.Proofs.Work.Grace

/-!
# Drains come to an end

A drain takes ready jobs until none is left, however long that takes (`Worker.Drains`). Each turn leaves fewer runs to
the jobs that wait (`Worker.turn_of_handsOut`): a retry has one attempt fewer than its job, and nothing else comes back
into the queue. So a drain ends as long as each of its runs does (`Worker.drains_of_ends`).
-/

namespace Rollout

namespace Queue

variable {α : Type} {q : Queue α} {now : Instant}

theorem toQueueState_of_idle (h : (q.dequeue now).1 = none) : (q.dequeue now).2.toQueueState = q.toQueueState := by
  have hnone : (q.toQueueState.dequeue now).1 = none := h
  rcases q.dequeue_cases now with ⟨hidle, -⟩ | ⟨id, w, -, -, -, hout⟩
  · exact congrArg Prod.snd hidle
  · rw [hout] at hnone
    cases hnone

/-- If nothing is handed out, everything waits for its time. -/
theorem not_ready_of_idle (h : (q.dequeue now).1 = none) {id : JobId} {w : Waiting α} (hw : q.pending[id]? = some w) :
    w.isReady now = false := by
  have hnone : (q.toQueueState.dequeue now).1 = none := h
  rcases q.dequeue_cases now with ⟨-, hwait⟩ | ⟨i, v, -, -, -, hout⟩
  · have hready := hwait id ((q.linked.indexed.mem_order_iff id).mpr (mem_of_getElem? hw))
    rwa [QueueState.isReady, hw] at hready
  · rw [hout] at hnone
    cases hnone

end Queue

namespace Worker

variable {α τ : Type}

/-! ## The loop -/

/-- Turns until the queue has nothing to hand out: where a drain from `now` and `q` leads. -/
inductive Drains (c : WorkerConfig) (run : Job α → Context → Instant → Run τ) :
    Instant → Queue α → List (Turn τ) → Instant → Queue α → Prop where
  | idle {now : Instant} {q q' : Queue α} (hidle : processNext c run none now q = (.idle, q')) :
    Drains c run now q [] now q'
  | finished {now t later : Instant} {q q₁ q' : Queue α} {id : JobId} {status : JobStatus}
      {trace : List (Instant × τ)} {turns : List (Turn τ)}
      (hturn : processNext c run none now q = (.finished id status t trace, q₁))
      (hrest : Drains c run t q₁ turns later q') :
    Drains c run now q (.finished id status t trace :: turns) later q'

/-- The run of a job ends for its worker: its handler comes to a result, or is cut off when its grace is over. -/
inductive Ends (c : WorkerConfig) (start : Instant) (r : Run τ) : Prop where
  | result {t : Instant} {result : Except JobError Unit} (hreturns : r.completion = .returns t result)
  | cutOff {s : Instant} {reason : Stop} (hstops : r.context.stopsAt start = some (s, reason))
      (hlate : ∀ t, r.completion.instant? = some t → Instant.after s c.stopGrace < t)

variable {c : WorkerConfig} {run : Job α → Context → Instant → Run τ} {now : Instant} {q q₁ : Queue α}
  {before after : List (Task α)} {task : Task α} {job : Job α} {r : Run τ}

theorem Ends.exists_settle (h : Ends c now r) :
    ∃ t result, settle c.stopGrace r.context now r.completion = .returns t result := by
  cases h with
  | cutOff hstops hlate => exact ⟨_, _, settle_of_late hstops hlate⟩
  | result hreturns =>
    rcases settle_cases c.stopGrace r.context now r.completion with ⟨hsettle, -⟩ | ⟨s, reason, -, -, hsettle⟩
    · exact ⟨_, _, hsettle.trans hreturns⟩
    · exact ⟨_, _, hsettle⟩

/-- With a job timeout, a handler that never comes back is cut off. -/
theorem ends_of_timeout {timeout : Duration} {own : Option Instant} (htimeout : c.jobTimeout = some timeout)
    (hcontext : r.context = context c own now) (hnever : r.completion = .never) : Ends c now r := by
  have hpassed : r.context.stop? (Instant.after now timeout) ≠ none := fun hnone => by
    rw [Context.stop?_eq_none_iff, hcontext, deadline_context htimeout] at hnone
    exact Bool.false_ne_true (hnone.2.symm.trans (Context.hasPassed_some.mpr le_rfl))
  obtain ⟨reason, hreason⟩ := Option.ne_none_iff_exists'.mp hpassed
  obtain ⟨s, reason, hstops, -⟩ := Context.exists_stopsAt_of_stop? (Nat.le_add_right now timeout.nanos) hreason
  exact .cutOff hstops fun t ht => by rw [hnever] at ht; cases ht

/-! ## Turns -/

theorem turn_of_idle (h : (q.dequeue now).1 = none) : processNext c run none now q = (.idle, (q.dequeue now).2) := by
  unfold processNext
  split
  · next hnone => rw [hnone]
  · next hsome =>
    rw [hsome] at h
    cases h

/-- **A turn leaves fewer runs** to what waits, as long as the run of its job ends. -/
theorem turn_of_handsOut (h : q.HandsOut now before task after job q₁)
    (hends : Ends c now (run job (context c none now) now)) :
    ∃ id status t trace q', processNext c run none now q = (.finished id status t trace, q') ∧
      q'.runsLeft < q.runsLeft := by
  obtain ⟨t, result, hsettle⟩ := hends.exists_settle
  obtain ⟨status, q', hfinishes⟩ := exists_finishes h.dequeue rfl hsettle
  obtain ⟨status', q'', hmark, hpolicy, htasks⟩ := h.mark t result
  cases hfinishes.marked.symm.trans hmark
  exact ⟨job.id, status, t, _, q', hfinishes.turn, h.runsLeft_lt hpolicy htasks⟩

theorem drainFor_of_idle {q' : Queue α} (h : processNext c run none now q = (.idle, q')) (n : Nat) :
    drainFor c run (n + 1) now q = ([], now, q') := by
  simp only [drainFor, h]

theorem drainFor_of_finished {id : JobId} {status : JobStatus} {t : Instant} {trace : List (Instant × τ)}
    {q' : Queue α} (h : processNext c run none now q = (.finished id status t trace, q')) (n : Nat) :
    drainFor c run (n + 1) now q = (.finished id status t trace :: (drainFor c run n t q').1,
      (drainFor c run n t q').2) := by
  simp only [drainFor, h]

/-- Enough fuel is all that a drain takes; the induction is on the runs that are left. -/
theorem drains_drainFor (now : Instant) (q : Queue α)
    (hends : ∀ job start, Ends c start (run job (context c none start) start)) {n : Nat} (hn : q.runsLeft < n) :
    Drains c run now q (drainFor c run n now q).1 (drainFor c run n now q).2.1 (drainFor c run n now q).2.2 ∧
      (drainFor c run n now q).1.length ≤ q.runsLeft ∧
      ∀ (id : JobId) (w : Waiting α), (drainFor c run n now q).2.2.pending[id]? = some w →
        w.isReady (drainFor c run n now q).2.1 = false := by
  induction n generalizing now q with
  | zero => exact absurd hn (Nat.not_lt_zero _)
  | succ n ih =>
    rcases q.handsOut_or_idle now with ⟨hidle, -⟩ | ⟨before, task, after, job, q₁, hout⟩
    · rw [drainFor_of_idle (turn_of_idle hidle)]
      refine ⟨.idle (turn_of_idle hidle), Nat.zero_le _, fun id w hw => ?_⟩
      rw [Queue.toQueueState_of_idle hidle] at hw
      exact Queue.not_ready_of_idle hidle hw
    · obtain ⟨id, status, t, trace, q', hturn, hless⟩ := turn_of_handsOut hout (hends job now)
      obtain ⟨hdrains, hlength, hready⟩ := ih t q' (hless.trans_le (Nat.le_of_lt_succ hn))
      rw [drainFor_of_finished hturn]
      exact ⟨.finished hturn hdrains, Nat.succ_le_of_lt (hlength.trans_lt hless), hready⟩

/--
**A drain comes to an end** if its runs do: after as many turns as there are attempts left to the jobs that wait, at
most, and then nothing that waits is ready.
-/
theorem drains_of_ends (c : WorkerConfig) (run : Job α → Context → Instant → Run τ) (now : Instant) (q : Queue α)
    (hends : ∀ job start, Ends c start (run job (context c none start) start)) :
    ∃ turns later q', Drains c run now q turns later q' ∧ drain c run now q = (turns, later, q') ∧
      turns.length ≤ (q.waiting.map fun w => max 1 (q.policy.maxAttempts + 1 - w.job.attempt)).sum ∧
      ∀ (id : JobId) (w : Waiting α), q'.pending[id]? = some w → w.isReady later = false := by
  obtain ⟨hdrains, hlength, hready⟩ := drains_drainFor now q hends (Nat.lt_succ_self q.runsLeft)
  refine ⟨_, _, _, hdrains, rfl, hlength.trans_eq ?_, hready⟩
  rw [Queue.runsLeft, List.sum_eq_foldr, List.foldr_map]

/-- Never comes back. -/
def hanging : Job String → Context → Instant → Run String := fun _ context _ => ⟨[], .never, context⟩

/-- A job that is cut off each time is tried again at once, but not more than three times in all. -/
theorem drains_hanging : ∃ turns later q', Drains hasty hanging 0 oneJob turns later q' ∧ turns.length ≤ 3 := by
  have hends (job : Job String) (start : Instant) :
      Ends hasty start (hanging job (context hasty none start) start) :=
    ends_of_timeout rfl rfl rfl
  obtain ⟨turns, later, q', hdrains, -, hlength, -⟩ := drains_of_ends hasty hanging 0 oneJob hends
  exact ⟨turns, later, q', hdrains, hlength.trans_eq (by cbv)⟩

end Worker

/-! ## The drain of a system -/

namespace System

variable {s : System}

/-- No job of a system in order enqueues anything, so that its drain comes to an end like any other. -/
theorem drainFor_ends (hs : s.InOrder) {n : Nat} (hn : s.queue.runsLeft < n) :
    (drainFor n s).1.length ≤ s.queue.runsLeft ∧
      ((∃ id, .stuck id ∈ (drainFor n s).1) ∨ ∀ (id : JobId) (w : Waiting Work),
        (drainFor n s).2.queue.pending[id]? = some w → w.isReady (drainFor n s).2.now = false) := by
  induction n generalizing s with
  | zero => exact absurd hn (Nat.not_lt_zero _)
  | succ n ih =>
    rcases s.queue.handsOut_or_idle s.now with ⟨hidle, -⟩ | ⟨before, task, after, job, q, hout⟩
    · rw [drainFor, processNextIn_of_idle hidle]
      exact ⟨Nat.zero_le _, .inr fun id w => Queue.not_ready_of_idle hidle⟩
    · rcases hrun : s.runJob q job with ⟨_ | result, s₁⟩
      · rw [drainFor, processNextIn_of_stuck hout hrun]
        obtain ⟨-, q', -, hpolicy, htasks⟩ := hout.mark s.now (.ok ())
        exact ⟨(Nat.zero_le _).trans_lt (hout.runsLeft_lt hpolicy htasks), .inl ⟨job.id, List.mem_singleton_self _⟩⟩
      · obtain ⟨status, s₂, hturn, hturned⟩ := processNextIn_of_result hs hout hrun
        obtain ⟨hlength, hends⟩ := ih hturned.inOrder (hturned.runsLeft.trans_le (Nat.le_of_lt_succ hn))
        rw [drainFor, hturn]
        refine ⟨Nat.succ_le_of_lt (hlength.trans_lt hturned.runsLeft), hends.imp_left ?_⟩
        exact Exists.imp fun _ => List.mem_cons_of_mem _

/-- **The drain of a system comes to an end**, and nothing is ready then unless a runner never came back. -/
theorem drain_ends (hs : s.InOrder) :
    s.drain.1.length ≤ s.queue.runsLeft ∧
      ((∃ id, .stuck id ∈ s.drain.1) ∨ ∀ (id : JobId) (w : Waiting Work),
        s.drain.2.queue.pending[id]? = some w → w.isReady s.drain.2.now = false) :=
  drainFor_ends hs (Nat.lt_succ_self s.queue.runsLeft)

end System

end Rollout
