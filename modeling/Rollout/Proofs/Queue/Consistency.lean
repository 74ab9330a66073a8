import Rollout.Proofs.Queue.History

/-!
# One pending job for each key

The collections of a queue say the same of its jobs after any sequence of operations, whatever order they come in
and whether or not they name jobs that the queue knows (`consistent_run`).
-/

namespace Rollout

namespace QueueState

variable {α : Type}

/-- What the collections of a queue say of its jobs is free of contradictions and leaves nothing out. -/
structure Consistent (s : QueueState α) : Prop where
  nodup_order : s.order.Nodup
  mem_order_iff : ∀ id : JobId, id ∈ s.order ↔ id ∈ s.pending
  id_eq_of_pending : ∀ (id : JobId) (w : Waiting α), s.pending[id]? = some w → w.job.id = id
  byKey_iff : ∀ (k : String) (id : JobId),
    s.byKey[k]? = some id ↔ ∃ w : Waiting α, s.pending[id]? = some w ∧ w.job.key = some k
  one_for_each_key : ∀ (k : String) (id id' : JobId) (w w' : Waiting α), s.pending[id]? = some w →
    s.pending[id']? = some w' → w.job.key = some k → w'.job.key = some k → id = id'
  id_eq_of_running : ∀ (id : JobId) (job : Job α), s.running[id]? = some job → job.id = id
  pending_not_running : ∀ id : JobId, id ∈ s.pending → id ∉ s.running
  pending_not_finished : ∀ id : JobId, id ∈ s.pending → id ∉ s.finished
  running_not_finished : ∀ id : JobId, id ∈ s.running → id ∉ s.finished
  nodup_finished : s.finished.Nodup
  mem_statuses_iff : ∀ id : JobId, id ∈ s.statuses ↔ id ∈ s.pending ∨ id ∈ s.running ∨ id ∈ s.finished
  status_of_pending : ∀ id : JobId, id ∈ s.pending → s.statuses[id]? = some .pending
  status_of_running : ∀ id : JobId, id ∈ s.running → s.statuses[id]? = some .running
  status_of_finished : ∀ id : JobId, id ∈ s.finished →
    ∃ status : JobStatus, s.statuses[id]? = some status ∧ status.isTerminal = true

variable {s : QueueState α}

theorem Linked.consistent (h : s.Linked) : s.Consistent where
  nodup_order := h.indexed.nodup_order
  mem_order_iff := h.indexed.mem_order_iff
  id_eq_of_pending := h.indexed.id_eq
  byKey_iff := h.indexed.byKey_iff
  one_for_each_key k id id' w w' hw hw' hk hk' := by
    have hid := (h.indexed.byKey_iff k id).mpr ⟨w, hw, hk⟩
    have hid' := (h.indexed.byKey_iff k id').mpr ⟨w', hw', hk'⟩
    exact Option.some.inj (hid.symm.trans hid')
  id_eq_of_running := h.id_eq
  pending_not_running id := h.not_mem_running
  pending_not_finished id hp := h.tracked.not_mem_finished (.inl hp)
  running_not_finished id hr := h.tracked.not_mem_finished (.inr hr)
  nodup_finished := h.tracked.nodup_finished
  mem_statuses_iff id := by
    constructor
    · intro hm
      obtain ⟨status, hs⟩ := exists_getElem? hm
      rcases status.pending_or_running_or_isTerminal with rfl | rfl | ht
      · exact .inl ((h.tracked.pending_iff id).mp hs)
      · exact .inr (.inl ((h.tracked.running_iff id).mp hs))
      · exact .inr (.inr ((h.tracked.finished_iff id).mp ⟨status, hs, ht⟩))
    · rintro (hp | hr | hf)
      · exact h.mem_statuses_of_pending hp
      · exact h.mem_statuses_of_running hr
      · obtain ⟨status, hs, -⟩ := (h.tracked.finished_iff id).mpr hf
        exact mem_of_getElem? hs
  status_of_pending id := (h.tracked.pending_iff id).mpr
  status_of_running id := (h.tracked.running_iff id).mpr
  status_of_finished id := (h.tracked.finished_iff id).mpr

end QueueState

/-- **The collections of a queue never contradict each other**, after any sequence of operations. -/
theorem consistent_run {α : Type} (policy : RetryPolicy) (retention : Nat) (os : List (QueueOperation α)) :
    ((Moment.start policy retention).run os).queue.Consistent :=
  (Moment.linked_run (Moment.linked_start policy retention) os).consistent

end Rollout
