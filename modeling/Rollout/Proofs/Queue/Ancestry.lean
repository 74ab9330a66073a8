import Mathlib.Data.List.Induction
import Rollout.Proofs.Queue.Arrivals

/-!
# Where jobs come from

A job that is live after an operation was live before it, is enqueued work, or is the next attempt at the work of a
running job that failed (`Origin`, `Effect.origin`). So every job that is live at the end of a history goes back to
enqueued work, by one failed attempt after another (`Lineage`, `Moment.exists_lineage`).
-/

namespace Rollout

variable {α : Type}

/-- Where a job comes from that is live after an operation on the queue `s`. -/
inductive Origin (s s' : QueueState α) (id : JobId) (job : Job α) : QueueOperation α → Prop where
  | kept {o : QueueOperation α} (hlive : s.Live id job) (hwaits : id ∈ s'.pending → id ∈ s.pending) :
    Origin s s' id job o
  | enqueued {p : Prepared α} (hid : id = s.created + 1) (hjob : job = .ofPrepared id p)
      (hcreated : s'.created = s.created + 1) : Origin s s' id job (.enqueue p)
  | retried {old : Job α} {error : String} (hold : s.running[old.id]? = some old)
      (hattempts : old.attempt < s.policy.maxAttempts) (hid : id = s.created + 1) (hjob : job = old.retry id)
      (hcreated : s'.created = s.created + 1) : Origin s s' id job (.fail old.id error .retryable)

namespace QueueState

variable {s : QueueState α} {id : JobId} {job : Job α}

/-- Of the jobs that are live after a new one was enlisted, only the new one has come to wait. -/
theorem Linked.origin_enlist (h : s.Linked) {w : Waiting α} (hnew : w.job.id = s.created + 1)
    (hl : (s.enlist w).Live id job) :
    (id = s.created + 1 ∧ job = w.job) ∨ (s.Live id job ∧ (id ∈ (s.enlist w).pending → id ∈ s.pending)) := by
  rcases live_enlist hl with ⟨hid, hjob⟩ | hlive
  · exact .inl ⟨hid.trans hnew, hjob⟩
  · refine .inr ⟨hlive, fun hm => ?_⟩
    have hm : id ∈ s.pending.insert w.job.id w := hm
    exact (mem_inserted.mp hm).resolve_left (h.ne_of_live hnew hlive)

theorem Linked.mem_pending_of_supersede (h : s.Linked) {w : Waiting α} (hnew : w.job.id = s.created + 1)
    {replaced : JobId} (hlive : s.Live id job) (hm : id ∈ (s.supersede replaced w).pending) : id ∈ s.pending := by
  have hm : id ∈ (s.pending.erase replaced).insert w.job.id w := hm
  exact (mem_erased.mp ((mem_inserted.mp hm).resolve_left (h.ne_of_live hnew hlive))).2

end QueueState

/-- Whatever is live after an operation comes from somewhere. -/
theorem Effect.origin {now : Instant} {s s' : QueueState α} {o : QueueOperation α} {answer : QueueAnswer α}
    (he : Effect now s o answer s') (h : s.Linked) {id : JobId} {job : Job α} (hl : s'.Live id job) :
    Origin s s' id job o := by
  cases he with
  | @enlisted p hfree =>
    rcases h.origin_enlist (w := s.entry p) rfl hl with ⟨hid, hjob⟩ | ⟨hlive, hwaits⟩
    · exact .enqueued hid (hid ▸ hjob) rfl
    · exact .kept hlive hwaits
  | @superseded p replaced hcovered =>
    have hl' : (s.enqueue p).2.Live id job := by rwa [QueueState.enqueue_of_covered hcovered]
    rcases h.live_enqueue hl' with ⟨hid, hjob⟩ | ⟨hlive, -⟩
    · exact .enqueued hid (hid ▸ hjob) rfl
    · exact .kept hlive (h.mem_pending_of_supersede rfl hlive)
  | @handedOut i w hfirst hw hready => exact .kept (h.live_handOut hw hl) fun hm => (mem_erased.mp hm).2
  | succeeded hid | covered hid => exact .kept (QueueState.live_settle hl) fun hm => hm
  | @buried i error kind failed hid =>
    exact .kept (QueueState.live_settle (s := s.bury failed error) hl) fun hm => hm
  | @retried failed error kind old hid hkind hfree =>
    obtain ⟨rfl, hattempts⟩ := hkind
    obtain rfl := h.id_eq failed old hid
    rcases (h.settle hid rfl).origin_enlist (w := s.nextAttempt now old) rfl hl with ⟨hnew, hjob⟩ | ⟨hlive, hwaits⟩
    · exact .retried hid hattempts hnew (hnew ▸ hjob) rfl
    · exact .kept (QueueState.live_settle hlive) hwaits
  | idle | notSucceeded | notFailed | advanced => exact .kept hl fun hm => hm

/-! ## Jobs that are handed out -/

/-- A worker is given the job. -/
def Event.HandsOut (e : Event α) (job : Job α) : Prop := e.answer = .dequeued (some job)

section HandOuts

variable {m : Moment α} {a b : Job α}

/-- What a worker is given has been waiting. -/
theorem Moment.pending_of_handsOut {o : QueueOperation α} (h : m.queue.Linked) (ha : (m.event o).HandsOut a) :
    ∃ w, m.queue.pending[a.id]? = some w ∧ w.job = a ∧ (m.perform o).2.queue = m.queue.handOut a.id a := by
  obtain ⟨-, w, hw, hjob, -, hafter⟩ := (m.effect o).of_handsOut h ha
  exact ⟨w, hw, hjob, hafter⟩

theorem Moment.pending_of_mem_history (h : m.queue.Linked) {os : List (QueueOperation α)} {e : Event α}
    (he : e ∈ m.history os) (hb : e.HandsOut b) : ∃ w, e.before.queue.pending[b.id]? = some w ∧ w.job = b := by
  refine forall_mem_history h (P := fun e => e.HandsOut b → ∃ w, e.before.queue.pending[b.id]? = some w ∧ w.job = b)
    (fun m o hm hb => ?_) os e he hb
  obtain ⟨w, hw, hjob, -⟩ := pending_of_handsOut hm hb
  exact ⟨w, hw, hjob⟩

end HandOuts

/-! ## Lineages -/

/-- The running job `old` fails in this event, and its work is to be tried again as the job `id`. -/
structure Event.Retries (e : Event α) (old : Job α) (id : JobId) : Prop where
  operation : ∃ error, e.operation = .fail old.id error .retryable
  running : e.before.queue.running[old.id]? = some old
  new : id = e.before.queue.created + 1 ∧ e.after.queue.created = id

/-- The job goes back to work that was enqueued, through the failed attempts `olds`, the latest one first. -/
inductive Lineage (es : List (Event α)) : Job α → List (Job α) → Prop where
  | enqueued {e : Event α} {p : Prepared α} {id : JobId} (he : e ∈ es) (ho : e.operation = .enqueue p) :
    Lineage es (.ofPrepared id p) []
  | retried {e : Event α} {old : Job α} {olds : List (Job α)} {id : JobId} (hold : Lineage es old olds) (he : e ∈ es)
      (hretries : e.Retries old id) : Lineage es (old.retry id) (old :: olds)

namespace Lineage

variable {es es' : List (Event α)} {job : Job α} {olds : List (Job α)}

theorem mono (h : Lineage es job olds) (hsub : es ⊆ es') : Lineage es' job olds := by
  induction h with
  | enqueued he ho => exact .enqueued (hsub he) ho
  | retried _ he hretries ih => exact .retried ih (hsub he) hretries

theorem attempt_eq (h : Lineage es job olds) : job.attempt = olds.length + 1 := by
  induction h with
  | enqueued => rfl
  | retried _ _ _ ih =>
    rw [List.length_cons, ← ih]
    rfl

/-- Each of the attempts failed in an event of the history. -/
theorem exists_retries (h : Lineage es job olds) : ∀ old ∈ olds, ∃ e ∈ es, ∃ id, e.Retries old id := by
  induction h with
  | enqueued => simp
  | retried _ he hretries ih => exact List.forall_mem_cons.mpr ⟨⟨_, he, _, hretries⟩, ih⟩

end Lineage

theorem QueueState.not_live_empty (policy : RetryPolicy) (retention : Nat) (id : JobId) (job : Job α) :
    ¬(QueueState.empty policy retention).Live id job := by
  simp [Live, empty]

/-- **Every live job goes back to enqueued work.** -/
theorem Moment.exists_lineage {m : Moment α} (h : m.queue.Linked) (hempty : ∀ id job, ¬m.queue.Live id job)
    (os : List (QueueOperation α)) {id : JobId} {job : Job α} (hl : (m.run os).queue.Live id job) :
    ∃ olds, Lineage (m.history os) job olds := by
  induction os using List.reverseRecOn generalizing id job with
  | nil => exact absurd hl (hempty id job)
  | append_singleton os o ih =>
    have hearlier : m.history os ⊆ m.history (os ++ [o]) := history_concat m os o ▸ List.subset_append_left _ _
    have hlast : (m.run os).event o ∈ m.history (os ++ [o]) := by simp [history_concat]
    rw [run_concat] at hl
    cases ((m.run os).effect o).origin (linked_run h os) hl with
    | kept hlive =>
      obtain ⟨olds, hlineage⟩ := ih hlive
      exact ⟨olds, hlineage.mono hearlier⟩
    | enqueued hid hjob =>
      rw [hjob]
      exact ⟨[], .enqueued hlast rfl⟩
    | @retried old error hold hattempts hid hjob hcreated =>
      obtain ⟨olds, hlineage⟩ := ih (.inr hold)
      rw [hjob]
      exact ⟨old :: olds, .retried (hlineage.mono hearlier) hlast ⟨⟨error, rfl⟩, hold, hid, hcreated.trans hid.symm⟩⟩

end Rollout
