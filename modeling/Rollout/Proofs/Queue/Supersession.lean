import Mathlib.Data.List.Induction
import Mathlib.Data.List.Nodup
import Rollout.Job.Queue.Lemmas

/-!
# The newest work waits

Enqueued work waits alone under its key and leaves the other keys as they are (`QueueState.Linked.waitingFor_enqueue`).
When work is enqueued piece by piece and none is handed out, what waits under a key in the end is the work that came in
last with that key, whatever it was (`Queue.data_waitingFor_enqueueAll`).
-/

namespace Rollout

namespace QueueState

variable {α : Type} {s : QueueState α}

/-- The jobs that wait with the key `k`. -/
def waitingFor (s : QueueState α) (k : String) : List (Waiting α) := s.waiting.filter (·.job.key = some k)

namespace Linked

variable {p : Prepared α} {k : String}

theorem nodup_waiting (h : s.Linked) : s.waiting.Nodup := by
  refine List.Nodup.filterMap (fun i j w hi hj => ?_) h.indexed.nodup_order
  rw [← h.indexed.id_eq i w hi, ← h.indexed.id_eq j w hj]

/-- Jobs that wait with one key are one job. -/
theorem eq_of_key (h : s.Linked) {v w : Waiting α} (hv : v ∈ s.waiting) (hw : w ∈ s.waiting)
    (hvk : v.job.key = some k) (hwk : w.job.key = some k) : v = w := by
  have hv := h.indexed.mem_waiting_iff.mp hv
  have hw := h.indexed.mem_waiting_iff.mp hw
  have hvi := (h.indexed.byKey_iff k v.job.id).mpr ⟨v, hv, hvk⟩
  have hwi := (h.indexed.byKey_iff k w.job.id).mpr ⟨w, hw, hwk⟩
  rw [Option.some.inj (hvi.symm.trans hwi), hw] at hv
  exact (Option.some.inj hv).symm

/-- A job that waits with a key is the only one of that key. -/
theorem filter_key_eq_nil (h : s.Linked) {before after : List (Waiting α)} {old : Waiting α}
    (hwaiting : s.waiting = before ++ old :: after) (hold : old.job.key = some k) :
    (before ++ after).filter (·.job.key = some k) = [] := by
  refine List.filter_eq_nil_iff.mpr fun w hw hwk => ?_
  have hnodup := h.nodup_waiting
  rw [hwaiting, List.nodup_middle, List.nodup_cons] at hnodup
  have hmem : w ∈ s.waiting := by
    rw [hwaiting]
    simp only [List.mem_append, List.mem_cons] at hw ⊢
    exact hw.imp_right .inr
  have holdmem : old ∈ s.waiting := by simp [hwaiting]
  exact hnodup.1 (h.eq_of_key holdmem hmem hold (by simpa using hwk) ▸ hw)

theorem waitingFor_enlist (h : s.Linked) (hp : p.key = some k) (hfree : s.covering? (s.entry p).job = none)
    (k' : String) :
    (s.enlist (s.entry p)).waitingFor k' = if k' = k then [s.entry p] else s.waitingFor k' := by
  have hentry : (s.entry p).job.key = some k := hp
  rw [waitingFor, h.waiting_enlist rfl, List.filter_append, ← waitingFor]
  split
  · next heq =>
    subst heq
    have hnone : s.waitingFor k' = [] := List.filter_eq_nil_iff.mpr fun w hw hwk => by
      have hw := h.indexed.mem_waiting_iff.mp hw
      have hcovered := h.indexed.covering?_of_pending hentry hw (by simpa using hwk)
      cases hfree.symm.trans hcovered
    simp [hnone, hentry]
  · next hne => simp [hentry, Ne.symm hne]

theorem waitingFor_supersede (h : s.Linked) (hp : p.key = some k) {replaced : JobId}
    (hcovered : s.covering? (s.entry p).job = some replaced) (k' : String) :
    (s.supersede replaced (s.entry p)).waitingFor k' = if k' = k then [s.entry p] else s.waitingFor k' := by
  have hentry : (s.entry p).job.key = some k := hp
  obtain ⟨k₀, old, hk₀, hold, holdk⟩ := h.indexed.covering hcovered
  obtain rfl : k = k₀ := Option.some.inj (hentry.symm.trans hk₀)
  obtain ⟨before, after, hwaiting, hwaiting'⟩ := h.waiting_supersede (w := s.entry p) rfl hold
  rw [waitingFor, hwaiting', waitingFor, hwaiting]
  split
  · next heq =>
    subst heq
    have hothers := h.filter_key_eq_nil hwaiting holdk
    rw [List.filter_append, List.append_eq_nil_iff] at hothers
    simp [hothers.1, hothers.2, hentry]
  · next hne => simp [hentry, holdk, Ne.symm hne]

/-- **Enqueued work waits alone under its key**, and the jobs with other keys wait as before. -/
theorem waitingFor_enqueue (h : s.Linked) (hp : p.key = some k) (k' : String) :
    (s.enqueue p).2.waitingFor k' = if k' = k then [s.entry p] else s.waitingFor k' := by
  cases hc : s.covering? (s.entry p).job with
  | none => rw [enqueue_of_free hc, h.waitingFor_enlist hp hc]
  | some replaced => rw [enqueue_of_covered hc, h.waitingFor_supersede hp hc]

/-- Only the enqueued work is new among the waiting jobs. -/
theorem mem_waiting_enqueue (h : s.Linked) {w : Waiting α} (hw : w ∈ (s.enqueue p).2.waiting) :
    w = s.entry p ∨ w ∈ s.waiting := by
  cases hc : s.covering? (s.entry p).job with
  | none =>
    rw [enqueue_of_free hc, h.waiting_enlist rfl, List.mem_append, List.mem_singleton] at hw
    exact hw.symm
  | some replaced =>
    obtain ⟨k, old, -, hold, -⟩ := h.indexed.covering hc
    obtain ⟨before, after, hwaiting, hwaiting'⟩ := h.waiting_supersede (w := s.entry p) rfl hold
    rw [enqueue_of_covered hc, hwaiting', List.mem_append, List.mem_cons] at hw
    rw [hwaiting, List.mem_append, List.mem_cons]
    rcases hw with hw | rfl | hw
    · exact .inr (.inl hw)
    · exact .inl rfl
    · exact .inr (.inr (.inr hw))

end Linked

end QueueState

namespace Queue

variable {α : Type}

/-- The queue after work was enqueued piece by piece. -/
def enqueueAll (q : Queue α) (ps : List (Prepared α)) : Queue α := ps.foldl (fun q p => (q.enqueue p).2) q

theorem enqueueAll_concat (q : Queue α) (ps : List (Prepared α)) (p : Prepared α) :
    q.enqueueAll (ps ++ [p]) = ((q.enqueueAll ps).enqueue p).2 := by
  rw [enqueueAll, List.foldl_append, ← enqueueAll]
  rfl

theorem waitingFor_enqueueAll_concat (q : Queue α) (ps : List (Prepared α)) {p : Prepared α} {k : String}
    (hp : p.key = some k) (k' : String) :
    (q.enqueueAll (ps ++ [p])).waitingFor k' =
      if k' = k then [(q.enqueueAll ps).entry p] else (q.enqueueAll ps).waitingFor k' := by
  rw [enqueueAll_concat]
  exact (q.enqueueAll ps).linked.waitingFor_enqueue hp k'

/-- **Under each key the work that was enqueued last waits**, and nothing else. -/
theorem data_waitingFor_enqueueAll (q : Queue α) (ps : List (Prepared α)) (hkeyed : ∀ p ∈ ps, p.key.isSome = true)
    (k : String) :
    ((q.enqueueAll ps).waitingFor k).map (·.job.data) =
      match (ps.filter (·.key = some k)).getLast? with
      | some p => [p.data]
      | none => (q.waitingFor k).map (·.job.data) := by
  induction ps using List.reverseRecOn with
  | nil => rfl
  | append_singleton ps p ih =>
    obtain ⟨hps, hp⟩ := List.forall_mem_append.mp hkeyed
    obtain ⟨key, hkey⟩ := Option.isSome_iff_exists.mp (hp p List.mem_cons_self)
    rw [q.waitingFor_enqueueAll_concat ps hkey, List.filter_append]
    split
    · next heq => simp [hkey, heq, QueueState.entry, Job.ofPrepared]
    · next hne => simp [hkey, Ne.symm hne, ih hps]

theorem key_of_mem_waiting_enqueueAll {q : Queue α} {ps : List (Prepared α)} {w : Waiting α}
    (hw : w ∈ (q.enqueueAll ps).waiting) : (∃ p ∈ ps, w.job.key = p.key) ∨ w ∈ q.waiting := by
  induction ps using List.reverseRecOn with
  | nil => exact .inr hw
  | append_singleton ps p ih =>
    rw [enqueueAll_concat] at hw
    rcases (q.enqueueAll ps).linked.mem_waiting_enqueue hw with rfl | hw
    · exact .inl ⟨p, by simp, rfl⟩
    · exact (ih hw).imp_left fun ⟨p', hp', hkey⟩ => ⟨p', List.mem_append_left _ hp', hkey⟩

end Queue

end Rollout
