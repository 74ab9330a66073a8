import Rollout.Proofs.Queue.History
import Rollout.Proofs.Queue.Live

/-!
# Where waiting jobs come from and go to

A job that waits after an operation waited before it, is enqueued work, or is the next attempt at work that failed
(`Effect.arrival`). It waits on as it is until it is handed out or superseded (`Effect.pending_cases`). What runs was
handed out, and was waiting until then (`Effect.running_cases`, `Effect.of_handsOut`).
-/

namespace Rollout

variable {α : Type} {now : Instant} {s s' : QueueState α} {o : QueueOperation α} {answer : QueueAnswer α} {id : JobId}
  {job : Job α} {w : Waiting α}

/-! ## Jobs that wait -/

/-- A job that is live is not the one that is created next. -/
theorem QueueState.Linked.ne_of_live (h : s.Linked) {new : JobId} (hnew : new = s.created + 1) (hlive : s.Live id job) :
    id ≠ new := by
  have hle : id ≤ s.created := h.id_le_created_of_live hlive
  rw [hnew]
  exact Nat.ne_of_lt (Nat.lt_succ_of_le hle)

/-- Where a job that waits after an operation comes from. -/
inductive Arrival (now : Instant) (s s' : QueueState α) (id : JobId) (w : Waiting α) : QueueOperation α → Prop where
  | kept {o : QueueOperation α} (hw : s.pending[id]? = some w) : Arrival now s s' id w o
  | enqueued {p : Prepared α} (hid : id = s.created + 1) (hw : w = s.entry p) (hcreated : s'.created = s.created + 1) :
    Arrival now s s' id w (.enqueue p)
  | retried {old : Job α} {error : String} (hold : s.running[old.id]? = some old)
      (hattempts : old.attempt < s.policy.maxAttempts) (hid : id = s.created + 1) (hw : w = s.nextAttempt now old)
      (hcreated : s'.created = s.created + 1) : Arrival now s s' id w (.fail old.id error .retryable)

theorem QueueState.pending_enlist {v : Waiting α} (hw : (s.enlist v).pending[id]? = some w) :
    (id = v.job.id ∧ w = v) ∨ s.pending[id]? = some w := by
  simp only [enlist, append, setStatus, getElem?_inserted] at hw
  split at hw
  · next hid => exact .inl ⟨hid, (Option.some.inj hw).symm⟩
  · exact .inr hw

/-- Whatever waits after an operation comes from somewhere. -/
theorem Effect.arrival (he : Effect now s o answer s') (h : s.Linked) (hw : s'.pending[id]? = some w) :
    Arrival now s s' id w o := by
  cases he with
  | @enlisted p hfree =>
    rcases QueueState.pending_enlist hw with ⟨hid, hw⟩ | hw
    · exact .enqueued hid hw rfl
    · exact .kept hw
  | @superseded p replaced hcovered =>
    have hw : ((s.pending.erase replaced).insert (s.created + 1) (s.entry p))[id]? = some w := hw
    rw [getElem?_inserted] at hw
    split at hw
    · next hid => exact .enqueued hid (Option.some.inj hw).symm rfl
    · rw [getElem?_erased] at hw
      split at hw
      · cases hw
      · exact .kept hw
  | @handedOut i v hfirst hv hready =>
    have hw : (s.pending.erase i)[id]? = some w := hw
    rw [getElem?_erased] at hw
    split at hw
    · cases hw
    · exact .kept hw
  | @retried failed error kind old hid hkind hfree =>
    obtain ⟨rfl, hattempts⟩ := hkind
    obtain rfl := h.id_eq failed old hid
    rcases QueueState.pending_enlist hw with ⟨hnew, hw⟩ | hw
    · exact .retried hid hattempts hnew hw rfl
    · exact .kept hw
  | succeeded | covered | buried | idle | notSucceeded | notFailed | advanced => exact .kept hw

/-- A job that waits is handed out, superseded, or left alone. -/
theorem Effect.pending_cases (he : Effect now s o answer s') (h : s.Linked) (hw : s.pending[id]? = some w) :
    s'.pending[id]? = some w ∨ answer = .dequeued (some w.job) ∨ ∃ new, answer = .enqueued (.superseded new id) := by
  have hne : id ≠ s.created + 1 := h.ne_of_live rfl (.inl ⟨w, hw, rfl⟩)
  cases he with
  | @enlisted p hfree => exact .inl (getElem?_inserted.trans ((if_neg hne).trans hw))
  | @retried failed error kind old hid hkind hfree => exact .inl (getElem?_inserted.trans ((if_neg hne).trans hw))
  | @superseded p replaced hcovered =>
    by_cases heq : id = replaced
    · subst heq
      exact .inr (.inr ⟨_, rfl⟩)
    · refine .inl (getElem?_inserted.trans ((if_neg hne).trans ?_))
      exact getElem?_erased.trans ((if_neg heq).trans hw)
  | @handedOut i v hfirst hv hready =>
    by_cases heq : id = i
    · subst heq
      cases hw.symm.trans hv
      exact .inr (.inl rfl)
    · exact .inl (getElem?_erased.trans ((if_neg heq).trans hw))
  | succeeded | covered | buried | idle | notSucceeded | notFailed | advanced => exact .inl hw

/-! ## Jobs that run -/

/-- What runs after an operation ran before it, or has just been handed out. -/
theorem Effect.running_cases (he : Effect now s o answer s') (hr : s'.running[id]? = some job) :
    s.running[id]? = some job ∨ (answer = .dequeued (some job) ∧ job.id = id) := by
  cases he with
  | @handedOut i v hfirst hv hready =>
    have hr : (s.running.insert v.job.id v.job)[id]? = some job := hr
    rw [getElem?_inserted] at hr
    split at hr
    · next hid =>
      cases hr
      exact .inr ⟨rfl, hid.symm⟩
    · exact .inl hr
  | succeeded | covered | buried | retried =>
    have hr := getElem?_erased.symm.trans hr
    split at hr
    · cases hr
    · exact .inl hr
  | enlisted | superseded | idle | notSucceeded | notFailed | advanced => exact .inl hr

/-- What is handed out was waiting and ready, and waits no longer. -/
theorem Effect.of_handsOut (he : Effect now s o answer s') (h : s.Linked) (ha : answer = .dequeued (some job)) :
    o = .dequeue ∧ ∃ w, s.pending[job.id]? = some w ∧ w.job = job ∧ w.isReady now = true ∧
      s' = s.handOut job.id job := by
  cases he with
  | @handedOut i v hfirst hv hready =>
    cases ha
    obtain rfl := h.indexed.id_eq i v hv
    exact ⟨rfl, v, hv, rfl, hready, rfl⟩
  | _ => cases ha

/-- Enqueued work waits under the id of the answer. -/
theorem Effect.enqueued {p : Prepared α} (he : Effect now s (.enqueue p) answer s') :
    ∃ result, answer = .enqueued result ∧ result.id = s.created + 1 ∧
      s'.pending[s.created + 1]? = some (s.entry p) := by
  cases he with
  | enlisted => exact ⟨_, rfl, rfl, getElem?_inserted.trans (if_pos rfl)⟩
  | superseded => exact ⟨_, rfl, rfl, getElem?_inserted.trans (if_pos rfl)⟩

end Rollout
