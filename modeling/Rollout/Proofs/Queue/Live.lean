import Rollout.Job.Queue

/-!
# Live jobs

A job is live while it waits or runs. Enqueued work may take the place of a job that waits with its key, and a job that
is marked leaves the queue; all other jobs stay live (`Linked.live_of_enqueue`, `live_settle_of_ne`). What a marked job
leaves behind is said once (`Marked`): nothing if it was done, and else a job that covers its work, a retry or a dead
letter.
-/

namespace Rollout

variable {α : Type}

namespace QueueState

variable {s s' : QueueState α}

/-- The job waits or runs. -/
def Live (s : QueueState α) (id : JobId) (job : Job α) : Prop :=
  (∃ w, s.pending[id]? = some w ∧ w.job = job) ∨ s.running[id]? = some job

theorem Linked.id_le_created_of_live (h : s.Linked) {id : JobId} {job : Job α} (hl : s.Live id job) :
    id ≤ s.created := by
  rcases hl with ⟨w, hw, -⟩ | hr
  · exact (h.id_le_created id (h.mem_statuses_of_pending (mem_of_getElem? hw))).2
  · exact (h.id_le_created id (h.mem_statuses_of_running (mem_of_getElem? hr))).2

theorem live_enlist {w : Waiting α} {id : JobId} {job : Job α} (hl : (s.enlist w).Live id job) :
    (id = w.job.id ∧ job = w.job) ∨ s.Live id job := by
  rcases hl with ⟨v, hv, rfl⟩ | hr
  · simp only [enlist, append, setStatus, getElem?_inserted] at hv
    split at hv
    · next heq => exact .inl ⟨heq, by rw [Option.some.inj hv]⟩
    · exact .inr (.inl ⟨v, hv, rfl⟩)
  · exact .inr (.inr hr)

theorem live_settle {id i : JobId} {status : JobStatus} {job : Job α} (hl : (s.settle id status).Live i job) :
    s.Live i job := by
  rcases hl with hw | hr
  · exact .inl hw
  · simp only [settle, release, finish, getElem?_erased] at hr
    split at hr
    · cases hr
    · exact .inr hr

theorem Linked.live_handOut (h : s.Linked) {id i : JobId} {w : Waiting α} {job : Job α}
    (hw : s.pending[id]? = some w) (hl : (s.handOut id w.job).Live i job) : s.Live i job := by
  rcases hl with ⟨v, hv, rfl⟩ | hr
  · simp only [QueueState.handOut, start, remove, setStatus, getElem?_erased] at hv
    split at hv
    · cases hv
    · exact .inl ⟨v, hv, rfl⟩
  · simp only [QueueState.handOut, start, remove, setStatus, getElem?_inserted] at hr
    split at hr
    · next heq => exact .inl ⟨w, by rw [heq, h.indexed.id_eq id w hw, hw], Option.some.inj hr⟩
    · exact .inr hr

/-- What is still live beside enqueued work runs, or has another key. -/
theorem Linked.live_enqueue (h : s.Linked) {p : Prepared α} {id : JobId} {job : Job α}
    (hl : (s.enqueue p).2.Live id job) :
    (id = s.created + 1 ∧ job = (s.entry p).job) ∨
      s.Live id job ∧ (id ∈ s.running ∨ ∀ k, p.key = some k → job.key ≠ some k) := by
  cases hc : s.covering? (s.entry p).job with
  | none =>
    rw [enqueue_of_free hc] at hl
    refine (live_enlist hl).imp_right fun hl => ⟨hl, ?_⟩
    rcases hl with ⟨w, hw, rfl⟩ | hr
    · refine .inr fun k hk hkey => ?_
      have hcovered : s.covering? (s.entry p).job = some id := h.indexed.covering?_of_pending hk hw hkey
      cases hc.symm.trans hcovered
    · exact .inl (mem_of_getElem? hr)
  | some replaced =>
    rw [enqueue_of_covered hc] at hl
    rcases hl with ⟨w, hw, rfl⟩ | hr
    · simp only [QueueState.supersede, replace, QueueState.finish, setStatus, getElem?_inserted, getElem?_erased] at hw
      split at hw
      · next heq => exact .inl ⟨heq, by rw [Option.some.inj hw]⟩
      · split at hw
        · cases hw
        · next hne =>
          refine .inr ⟨.inl ⟨w, hw, rfl⟩, .inr fun k hk hkey => hne ?_⟩
          have hcovered : s.covering? (s.entry p).job = some id := h.indexed.covering?_of_pending hk hw hkey
          exact Option.some.inj (hcovered.symm.trans hc)
    · have hr : s.running[id]? = some job := hr
      exact .inr ⟨.inr hr, .inl (mem_of_getElem? hr)⟩

/-! ## Jobs that stay live -/

theorem live_enlist_self (w : Waiting α) : (s.enlist w).Live w.job.id w.job := by
  refine .inl ⟨w, ?_, rfl⟩
  simp only [enlist, append, setStatus, getElem?_inserted, if_true]

theorem live_enlist_of_ne {w : Waiting α} {id : JobId} {job : Job α} (hl : s.Live id job) (hne : id ≠ w.job.id) :
    (s.enlist w).Live id job := by
  rcases hl with ⟨v, hv, rfl⟩ | hr
  · refine .inl ⟨v, ?_, rfl⟩
    simp only [enlist, append, setStatus, getElem?_inserted, if_neg hne, hv]
  · exact .inr hr

theorem live_settle_of_ne {id i : JobId} {status : JobStatus} {job : Job α} (hl : s.Live i job) (hne : i ≠ id) :
    (s.settle id status).Live i job := by
  rcases hl with hw | hr
  · exact .inl hw
  · refine .inr ?_
    simp only [settle, release, finish, getElem?_erased, if_neg hne, hr]

theorem Linked.live_handOut_of_live (h : s.Linked) {id i : JobId} {w : Waiting α} {job : Job α}
    (hw : s.pending[id]? = some w) (hl : s.Live i job) : (s.handOut id w.job).Live i job := by
  have hid := h.indexed.id_eq id w hw
  by_cases hi : i = id
  · subst hi
    rcases hl with ⟨v, hv, rfl⟩ | hr
    · cases hw.symm.trans hv
      refine .inr ?_
      simp only [QueueState.handOut, start, remove, setStatus, getElem?_inserted, hid, if_true]
    · exact absurd (mem_of_getElem? hr) (h.not_mem_running (mem_of_getElem? hw))
  · rcases hl with ⟨v, hv, rfl⟩ | hr
    · refine .inl ⟨v, ?_, rfl⟩
      simp only [QueueState.handOut, start, remove, setStatus, getElem?_erased, if_neg hi, hv]
    · refine .inr ?_
      simp only [QueueState.handOut, start, remove, setStatus, getElem?_inserted, hid, if_neg hi, hr]

theorem live_enqueue_self (s : QueueState α) (p : Prepared α) :
    (s.enqueue p).2.Live (s.created + 1) (s.entry p).job := by
  cases hc : s.covering? (s.entry p).job with
  | none =>
    rw [enqueue_of_free hc]
    exact live_enlist_self (s.entry p)
  | some replaced =>
    rw [enqueue_of_covered hc]
    refine .inl ⟨s.entry p, ?_, rfl⟩
    have hid : (s.entry p).job.id = s.created + 1 := rfl
    simp only [QueueState.supersede, replace, QueueState.finish, setStatus, getElem?_inserted, hid, if_true]

/-- A job stays live beside enqueued work, unless it waits with the same key. -/
theorem Linked.live_of_enqueue (h : s.Linked) (p : Prepared α) {id : JobId} {job : Job α} (hl : s.Live id job) :
    (s.enqueue p).2.Live id job ∨ ∃ k, p.key = some k ∧ job.key = some k := by
  have hne : id ≠ (s.entry p).job.id := Nat.ne_of_lt (Nat.lt_succ_of_le (h.id_le_created_of_live hl))
  cases hc : s.covering? (s.entry p).job with
  | none =>
    rw [enqueue_of_free hc]
    exact .inl (live_enlist_of_ne hl hne)
  | some replaced =>
    rw [enqueue_of_covered hc]
    rcases hl with ⟨v, hv, rfl⟩ | hr
    · by_cases hreplaced : id = replaced
      · subst hreplaced
        obtain ⟨k, w, hk, hw, hwk⟩ := h.indexed.covering hc
        cases hw.symm.trans hv
        exact .inr ⟨k, hk, hwk⟩
      · refine .inl (.inl ⟨v, ?_, rfl⟩)
        simp only [QueueState.supersede, replace, QueueState.finish, setStatus, getElem?_inserted, getElem?_erased,
          if_neg hne, if_neg hreplaced, hv]
    · exact .inl (.inr hr)

@[simp] theorem running_enqueue (s : QueueState α) (p : Prepared α) : (s.enqueue p).2.running = s.running := by
  cases hc : s.covering? (s.entry p).job with
  | none =>
    rw [enqueue_of_free hc]
    rfl
  | some replaced =>
    rw [enqueue_of_covered hc]
    rfl

/-- Jobs that wait with one key are one job. -/
theorem Linked.id_eq_of_key (h : s.Linked) {id id' : JobId} {w w' : Waiting α} {k : String}
    (hw : s.pending[id]? = some w) (hw' : s.pending[id']? = some w') (hk : w.job.key = some k)
    (hk' : w'.job.key = some k) : id = id' := by
  have hid := (h.indexed.byKey_iff k id).mpr ⟨w, hw, hk⟩
  have hid' := (h.indexed.byKey_iff k id').mpr ⟨w', hw', hk'⟩
  exact Option.some.inj (hid.symm.trans hid')

/-! ## Dead letters -/

theorem newest_ne_nil {β : Type} {n : Nat} (hn : 0 < n) {xs : List β} (hxs : xs ≠ []) : newest n xs ≠ [] := by
  have hpos := List.length_pos_iff.mpr hxs
  rw [newest, Ne, List.drop_eq_nil_iff]
  omega

theorem Linked.deadLetters_enqueue_ne_nil (h : s.Linked) (hsome : s.deadLetters ≠ []) (p : Prepared α) :
    (s.enqueue p).2.deadLetters ≠ [] := by
  cases hc : s.covering? (s.entry p).job with
  | none =>
    rw [enqueue_of_free hc]
    exact hsome
  | some replaced =>
    rw [enqueue_of_covered hc]
    exact newest_ne_nil h.retention_pos hsome

/-! ## Marked jobs -/

/-- What marking the running job by the result of its run makes of a queue. -/
inductive Marked (s : QueueState α) (job : Job α) : Except JobError Unit → QueueState α → Prop where
  | done : Marked s job (.ok ()) (s.settle job.id .succeeded)
  | covered {e : JobError} {other : JobId} (hcovered : s.covering? job = some other) :
    Marked s job (.error e) (s.settle job.id .failed)
  | retried {e : JobError} {now : Instant} (hfree : s.covering? job = none) :
    Marked s job (.error e) ((s.settle job.id .failed).enlist (s.nextAttempt now job))
  | buried {e : JobError} : Marked s job (.error e) ((s.bury job e.message).settle job.id .deadLetter)

theorem marked_markSucceeded {job : Job α} (h : s.running[job.id]? = some job) :
    (s.markSucceeded job.id).1 = .ok () ∧ s.Marked job (.ok ()) (s.markSucceeded job.id).2 := by
  rw [markSucceeded_of_running h]
  exact ⟨rfl, .done⟩

theorem marked_markFailed {job : Job α} (h : s.running[job.id]? = some job) (now : Instant) (e : JobError) :
    ∃ status, (s.markFailed now job.id e.message e.failureKind).1 = .ok status ∧
      s.Marked job (.error e) (s.markFailed now job.id e.message e.failureKind).2 := by
  by_cases hkind : e.failureKind = .retryable ∧ job.attempt < s.policy.maxAttempts
  · cases hc : s.covering? job with
    | none =>
      rw [markFailed_of_free h hkind hc]
      exact ⟨_, rfl, .retried hc⟩
    | some other =>
      rw [markFailed_of_covered h hkind hc]
      exact ⟨_, rfl, .covered hc⟩
  · rw [markFailed_of_final h hkind]
    exact ⟨_, rfl, .buried⟩

namespace Marked

variable {job : Job α} {result : Except JobError Unit}

theorem running (h : s.Marked job result s') (id : JobId) :
    s'.running[id]? = if id = job.id then none else s.running[id]? := by
  cases h <;> exact getElem?_erased

/-- Only a retry is new. -/
theorem live (h : s.Marked job result s') {id : JobId} {j : Job α} (hl : s'.Live id j) :
    s.Live id j ∨ (j.data = job.data ∧ j.key = job.key) := by
  cases h with
  | done | covered => exact .inl (live_settle hl)
  | @retried _ now _ =>
    rcases live_enlist hl with ⟨-, rfl⟩ | hl
    · exact .inr ⟨rfl, rfl⟩
    · exact .inl (live_settle hl)
  | @buried e =>
    have hburied : (s.bury job e.message).Live id j := live_settle hl
    exact .inl hburied

/-- The other jobs stay live. -/
theorem live_of_ne (h : s.Marked job result s') (hlinked : s.Linked) {id : JobId} {j : Job α} (hl : s.Live id j)
    (hne : id ≠ job.id) : s'.Live id j := by
  cases h with
  | done | covered => exact live_settle_of_ne hl hne
  | retried =>
    refine live_enlist_of_ne (live_settle_of_ne hl hne) (Nat.ne_of_lt (Nat.lt_succ_of_le ?_))
    exact hlinked.id_le_created_of_live hl
  | @buried e =>
    have hburied : (s.bury job e.message).Live id j := hl
    exact live_settle_of_ne hburied hne

/-- A job that was not done leaves another one behind, or a dead letter. -/
theorem cases_of_error (h : s.Marked job result s') (hlinked : s.Linked) (hruns : s.running[job.id]? = some job) :
    result = .ok () ∨
      (∃ id w k, s.pending[id]? = some w ∧ w.job.key = some k ∧ job.key = some k ∧ s'.Live id w.job) ∨
      (∃ id j, s'.Live id j ∧ j.data = job.data) ∨ ∃ letter ∈ s'.deadLetters, letter.job = job := by
  cases h with
  | done => exact .inl rfl
  | @covered _ other hcovered =>
    obtain ⟨k, w, hk, hw, hwk⟩ := hlinked.indexed.covering hcovered
    have hne : other ≠ job.id := fun heq =>
      hlinked.not_mem_running (mem_of_getElem? hw) (heq ▸ mem_of_getElem? hruns)
    exact .inr (.inl ⟨other, w, k, hw, hwk, hk, live_settle_of_ne (.inl ⟨w, hw, rfl⟩) hne⟩)
  | @retried _ now _ => exact .inr (.inr (.inl ⟨_, _, live_enlist_self (s.nextAttempt now job), rfl⟩))
  | @buried e =>
    refine .inr (.inr (.inr ⟨⟨job, e.message⟩, ?_, rfl⟩))
    -- the newest dead letters are kept, and at least one is
    have hpos := hlinked.retention_pos
    show _ ∈ newest s.retention (s.deadLetters ++ [⟨job, e.message⟩])
    rw [newest, List.drop_append_of_le_length (by rw [List.length_append, List.length_singleton]; omega)]
    exact List.mem_append_right _ List.mem_cons_self

theorem deadLetters_ne_nil (h : s.Marked job result s') (hlinked : s.Linked) (hsome : s.deadLetters ≠ []) :
    s'.deadLetters ≠ [] := by
  cases h with
  | done | covered | retried => exact newest_ne_nil hlinked.retention_pos hsome
  | buried => exact newest_ne_nil hlinked.retention_pos (List.append_ne_nil_of_left_ne_nil hsome _)

end Marked

end QueueState

/-- A running job is marked in one of these ways. -/
theorem Queue.exists_mark {q : Queue α} {job : Job α} (h : q.running[job.id]? = some job) (now : Instant)
    (result : Except JobError Unit) :
    ∃ status q', q.mark now job.id result = .ok (status, q') ∧ q.Marked job result q'.toQueueState := by
  cases result with
  | ok _ =>
    obtain ⟨hok, hmarked⟩ := QueueState.marked_markSucceeded h
    refine ⟨.succeeded, ⟨_, q.linked.markSucceeded job.id⟩, ?_, hmarked⟩
    rw [mark, markSucceeded, hok]
    rfl
  | error e =>
    obtain ⟨status, hstatus, hmarked⟩ := QueueState.marked_markFailed h now e
    refine ⟨status, ⟨_, q.linked.markFailed now job.id e.message e.failureKind⟩, ?_, hmarked⟩
    rw [mark, markFailed, hstatus]
    rfl

end Rollout
