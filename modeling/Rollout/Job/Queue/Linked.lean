import Rollout.Job.Queue.Moves
import Std.Data.HashMap.Lemmas

/-!
# The collections of a queue agree

- `Indexed`: the order, the entries and the index of the waiting jobs agree, so that at most one job waits under a key;
- `Tracked`: the statuses are those of the jobs that wait, run, or are remembered as finished, each in its own way;
- `Linked`: both, for a queue that created all the jobs it knows.

Each operation keeps `Linked`. Placing and removing waiting jobs concerns `Indexed` alone, finishing concerns `Tracked`
alone; in between an operation may leave a status behind that its collections have moved on from, which is why
`Tracked` is told which jobs count as waiting and running.
-/

namespace Rollout

/-! ## Entries of a map -/

section Entries

variable {β : Type} {m : Std.HashMap JobId β} {i k : JobId} {v : β}

theorem mem_of_getElem? (h : m[k]? = some v) : k ∈ m := by
  rw [Std.HashMap.mem_iff_isSome_getElem?, h]
  rfl

theorem exists_getElem? (h : k ∈ m) : ∃ v, m[k]? = some v :=
  ⟨m[k], Std.HashMap.getElem?_eq_some_getElem h⟩

theorem getElem?_inserted : (m.insert k v)[i]? = if i = k then some v else m[i]? := by
  simp only [Std.HashMap.getElem?_insert, beq_iff_eq, eq_comm (a := k)]

theorem getElem?_erased : (m.erase k)[i]? = if i = k then none else m[i]? := by
  simp only [Std.HashMap.getElem?_erase, beq_iff_eq, eq_comm (a := k)]

theorem mem_inserted : i ∈ m.insert k v ↔ i = k ∨ i ∈ m := by
  simp only [Std.HashMap.mem_insert, beq_iff_eq, eq_comm (a := k)]

theorem mem_erased : i ∈ m.erase k ↔ i ≠ k ∧ i ∈ m := by
  simp only [Std.HashMap.mem_erase, beq_eq_false_iff_ne, ne_eq, eq_comm (a := k)]

end Entries

namespace QueueState

variable {α : Type} {s : QueueState α}

/-! ## Waiting jobs -/

/-- The order, the entries and the index of the waiting jobs agree. -/
structure Indexed (s : QueueState α) : Prop where
  nodup_order : s.order.Nodup
  mem_order_iff : ∀ id : JobId, id ∈ s.order ↔ id ∈ s.pending
  id_eq : ∀ (id : JobId) (w : Waiting α), s.pending[id]? = some w → w.job.id = id
  byKey_iff : ∀ (k : String) (id : JobId),
    s.byKey[k]? = some id ↔ ∃ w : Waiting α, s.pending[id]? = some w ∧ w.job.key = some k

theorem getElem?_index (job : Job α) (k : String) :
    (s.index job)[k]? = if job.key = some k then some job.id else s.byKey[k]? := by
  unfold index
  cases job.key with
  | none => simp
  | some key => simp [Std.HashMap.getElem?_insert]

theorem getElem?_unindex (job : Job α) (k : String) :
    (s.unindex job)[k]? = if job.key = some k ∧ s.byKey[k]? = some job.id then none else s.byKey[k]? := by
  unfold unindex
  cases job.key with
  | none => simp
  | some key =>
    by_cases hkey : key = k
    · subst hkey
      by_cases hid : s.byKey[key]? = some job.id <;> simp [hid]
    · by_cases hid : s.byKey[key]? = some job.id
      · simp [hid, hkey, Std.HashMap.getElem?_erase]
      · simp [hid, hkey]

theorem covering?_eq_some_iff {job : Job α} {id : JobId} :
    s.covering? job = some id ↔ ∃ k, job.key = some k ∧ s.byKey[k]? = some id := by
  simp [covering?, Option.bind_eq_some_iff]

namespace Indexed

/-- What covers a job waits under its key. -/
theorem covering (h : s.Indexed) {job : Job α} {id : JobId} (hc : s.covering? job = some id) :
    ∃ k w, job.key = some k ∧ s.pending[id]? = some w ∧ w.job.key = some k := by
  obtain ⟨k, hk, hid⟩ := covering?_eq_some_iff.mp hc
  obtain ⟨w, hw, hwk⟩ := (h.byKey_iff k id).mp hid
  exact ⟨k, w, hk, hw, hwk⟩

/-- What waits under the key of a job covers it. -/
theorem covering?_of_pending (h : s.Indexed) {job : Job α} {id : JobId} {w : Waiting α} {k : String}
    (hk : job.key = some k) (hw : s.pending[id]? = some w) (hwk : w.job.key = some k) :
    s.covering? job = some id :=
  covering?_eq_some_iff.mpr ⟨k, hk, (h.byKey_iff k id).mpr ⟨w, hw, hwk⟩⟩

theorem not_mem_order (h : s.Indexed) {id : JobId} (hid : id ∉ s.pending) : id ∉ s.order := fun hm =>
  hid ((h.mem_order_iff id).mp hm)

theorem append (h : s.Indexed) {w : Waiting α} (hw : w.job.id ∉ s.pending)
    (hc : s.covering? w.job = none) : (s.append w).Indexed where
  nodup_order := by
    refine List.nodup_append.mpr ⟨h.nodup_order, by simp, fun a ha b hb heq => h.not_mem_order hw ?_⟩
    rwa [← List.mem_singleton.mp hb, ← heq]
  mem_order_iff id := by
    simp only [QueueState.append, List.mem_append, List.mem_singleton, mem_inserted, h.mem_order_iff]
    exact or_comm
  id_eq id v hv := by
    simp only [QueueState.append, getElem?_inserted] at hv
    split at hv
    · next heq => rw [← Option.some.inj hv, heq]
    · exact h.id_eq id v hv
  byKey_iff k id := by
    simp only [QueueState.append, getElem?_index, getElem?_inserted]
    constructor
    · intro hid
      split at hid
      · next hk => exact ⟨w, by rw [if_pos (Option.some.inj hid).symm], hk⟩
      · obtain ⟨v, hv, hvk⟩ := (h.byKey_iff k id).mp hid
        have hne : id ≠ w.job.id := fun heq => hw (heq ▸ mem_of_getElem? hv)
        exact ⟨v, by rwa [if_neg hne], hvk⟩
    · rintro ⟨v, hv, hvk⟩
      split at hv
      · next heq =>
        obtain rfl := Option.some.inj hv
        rw [if_pos hvk, heq]
      · rw [if_neg fun hk => ?_]
        · exact (h.byKey_iff k id).mpr ⟨v, hv, hvk⟩
        · have := h.covering?_of_pending hk hv hvk
          simp [hc] at this

/-- The order around a waiting job, and what replacing it does. -/
theorem order_replace (h : s.Indexed) {replaced : JobId} (hm : replaced ∈ s.pending) (id : JobId) :
    ∃ before after, s.order = before ++ replaced :: after ∧ replaced ∉ before ++ after ∧
      s.order.replace replaced id = before ++ id :: after := by
  obtain ⟨before, after, hsplit, hnot⟩ := List.eq_append_cons_of_mem ((h.mem_order_iff replaced).mpr hm)
  have hnodup := h.nodup_order
  rw [hsplit, List.perm_middle.nodup_iff, List.nodup_cons] at hnodup
  exact ⟨before, after, hsplit, hnodup.1, by rw [hsplit, List.replace_append_right hnot, List.replace_cons_self]⟩

theorem replace (h : s.Indexed) {w : Waiting α} (hw : w.job.id ∉ s.pending) {replaced : JobId}
    (hc : s.covering? w.job = some replaced) : (s.replace replaced w).Indexed := by
  obtain ⟨key, old, hkey, hold, holdkey⟩ := h.covering hc
  obtain ⟨before, after, hsplit, hnot, hreplace⟩ := h.order_replace (mem_of_getElem? hold) w.job.id
  refine ⟨?_, fun id => ?_, fun id v hv => ?_, fun k id => ?_⟩
  · have hnodup := h.nodup_order
    have hnew := h.not_mem_order hw
    rw [hsplit, List.perm_middle.nodup_iff, List.nodup_cons] at hnodup
    rw [hsplit, List.perm_middle.mem_iff, List.mem_cons, not_or] at hnew
    simp only [QueueState.replace, hreplace]
    exact List.perm_middle.nodup_iff.mpr (List.nodup_cons.mpr ⟨hnew.2, hnodup.2⟩)
  · have hid := h.mem_order_iff id
    rw [hsplit, List.perm_middle.mem_iff, List.mem_cons] at hid
    simp only [QueueState.replace, hreplace, mem_inserted, mem_erased, List.perm_middle.mem_iff, List.mem_cons, ← hid]
    refine or_congr_right ⟨fun hm => ⟨fun heq => hnot (heq ▸ hm), .inr hm⟩, fun ⟨hne, hm⟩ => hm.resolve_left hne⟩
  · simp only [QueueState.replace, getElem?_inserted, getElem?_erased] at hv
    split at hv
    · next heq => rw [← Option.some.inj hv, heq]
    · split at hv
      · cases hv
      · exact h.id_eq id v hv
  · simp only [QueueState.replace, getElem?_index, getElem?_inserted, getElem?_erased]
    constructor
    · intro hid
      split at hid
      · next hk => exact ⟨w, by rw [if_pos (Option.some.inj hid).symm], hk⟩
      · next hk =>
        obtain ⟨v, hv, hvk⟩ := (h.byKey_iff k id).mp hid
        have hne : id ≠ w.job.id := fun heq => hw (heq ▸ mem_of_getElem? hv)
        -- what was replaced waited under the key of `w`
        have hne' : id ≠ replaced := by
          rintro rfl
          obtain rfl := Option.some.inj (hold.symm.trans hv)
          exact hk (hkey.trans (holdkey.symm.trans hvk))
        exact ⟨v, by rwa [if_neg hne, if_neg hne'], hvk⟩
    · rintro ⟨v, hv, hvk⟩
      split at hv
      · next heq =>
        obtain rfl := Option.some.inj hv
        rw [if_pos hvk, heq]
      · split at hv
        · cases hv
        · next hne =>
          have hk : w.job.key ≠ some k := fun hk =>
            hne (Option.some.inj ((h.covering?_of_pending hk hv hvk).symm.trans hc))
          rw [if_neg hk]
          exact (h.byKey_iff k id).mpr ⟨v, hv, hvk⟩

theorem remove (h : s.Indexed) {id : JobId} {w : Waiting α} (hw : s.pending[id]? = some w) :
    (s.remove id w.job).Indexed where
  nodup_order := h.nodup_order.erase id
  mem_order_iff i := by
    simp only [QueueState.remove, h.nodup_order.mem_erase_iff, mem_erased, h.mem_order_iff]
  id_eq i v hv := by
    simp only [QueueState.remove, getElem?_erased] at hv
    split at hv
    · cases hv
    · exact h.id_eq i v hv
  byKey_iff k i := by
    have hid := h.id_eq id w hw
    simp only [QueueState.remove, getElem?_unindex, getElem?_erased, hid]
    constructor
    · intro hi
      split at hi
      · cases hi
      · next hnot =>
        obtain ⟨v, hv, hvk⟩ := (h.byKey_iff k i).mp hi
        have hne : i ≠ id := by
          rintro rfl
          obtain rfl := Option.some.inj (hw.symm.trans hv)
          exact hnot ⟨hvk, hi⟩
        exact ⟨v, by rwa [if_neg hne], hvk⟩
    · rintro ⟨v, hv, hvk⟩
      split at hv
      · cases hv
      · next hne =>
        have hi := (h.byKey_iff k i).mpr ⟨v, hv, hvk⟩
        rw [if_neg fun hboth => hne (Option.some.inj (hi.symm.trans hboth.2))]
        exact hi

end Indexed

/-! ## Statuses -/

theorem getElem?_foldl_erase {β : Type} (ids : List JobId) (m : Std.HashMap JobId β) (id : JobId) :
    (ids.foldl .erase m)[id]? = if id ∈ ids then none else m[id]? := by
  induction ids generalizing m with
  | nil => simp
  | cons i ids ih =>
    rw [List.foldl_cons, ih, getElem?_erased]
    by_cases hm : id ∈ ids
    · simp [hm]
    · simp [hm]

theorem outdated_append_newest {β : Type} (n : Nat) (xs : List β) : outdated n xs ++ newest n xs = xs :=
  List.take_append_drop _ _

theorem getElem?_statuses_finish (id : JobId) (status : JobStatus) (i : JobId) :
    (s.finish id status).statuses[i]? =
      if i ∈ outdated s.retention (s.finished ++ [id]) then none
      else if i = id then some status else s.statuses[i]? := by
  simp only [finish, getElem?_foldl_erase, getElem?_inserted]

/-- What has just been finished is remembered. -/
theorem not_mem_outdated {id : JobId} (h : 0 < s.retention) (hid : id ∉ s.finished) :
    id ∉ outdated s.retention (s.finished ++ [id]) := by
  intro hm
  rw [outdated, List.take_append_of_le_length (by simp; omega)] at hm
  exact hid (List.mem_of_mem_take hm)

/-- What is forgotten for it had been finished before. -/
theorem mem_finished_of_mem_outdated {id i : JobId} (h : 0 < s.retention) (hid : id ∉ s.finished)
    (hi : i ∈ outdated s.retention (s.finished ++ [id])) : i ∈ s.finished := by
  refine (List.mem_append.mp (List.mem_of_mem_take hi)).resolve_right fun heq => ?_
  exact not_mem_outdated h hid (List.mem_singleton.mp heq ▸ hi)

/-- The statuses are those of the jobs that wait, run, or are remembered as finished. -/
structure Tracked (waits runs : JobId → Prop) (s : QueueState α) : Prop where
  nodup_finished : s.finished.Nodup
  pending_iff : ∀ id : JobId, s.statuses[id]? = some .pending ↔ waits id
  running_iff : ∀ id : JobId, s.statuses[id]? = some .running ↔ runs id
  finished_iff : ∀ id : JobId,
    (∃ status : JobStatus, s.statuses[id]? = some status ∧ status.isTerminal = true) ↔ id ∈ s.finished

namespace Tracked

variable {waits runs : JobId → Prop}

theorem congr (h : s.Tracked waits runs) {waits' runs' : JobId → Prop} (hw : ∀ id, waits id ↔ waits' id)
    (hr : ∀ id, runs id ↔ runs' id) : s.Tracked waits' runs' :=
  ⟨h.nodup_finished, fun id => (h.pending_iff id).trans (hw id), fun id => (h.running_iff id).trans (hr id),
    h.finished_iff⟩

/-- A job whose status is not terminal has not been finished. -/
theorem not_mem_finished_of_status (h : s.Tracked waits runs) {id : JobId} {status : JobStatus}
    (hs : s.statuses[id]? = some status) (ht : status.isTerminal = false) : id ∉ s.finished := by
  intro hm
  obtain ⟨status', hs', ht'⟩ := (h.finished_iff id).mpr hm
  rw [Option.some.inj (hs'.symm.trans hs), ht] at ht'
  cases ht'

theorem not_mem_finished (h : s.Tracked waits runs) {id : JobId} (hid : waits id ∨ runs id) : id ∉ s.finished := by
  rcases hid with hid | hid
  · exact h.not_mem_finished_of_status ((h.pending_iff id).mpr hid) rfl
  · exact h.not_mem_finished_of_status ((h.running_iff id).mpr hid) rfl

/-- The finished jobs after one more has been finished, beside those that are forgotten for it. -/
theorem mem_finished_finish (h : s.Tracked waits runs) {id : JobId} (status : JobStatus) (hid : waits id ∨ runs id) :
    (s.finish id status).finished.Nodup ∧ ∀ i, i ∈ (s.finish id status).finished ↔
      (i ∈ s.finished ∨ i = id) ∧ i ∉ outdated s.retention (s.finished ++ [id]) := by
  have hnodup : (s.finished ++ [id]).Nodup := by
    refine List.nodup_append.mpr ⟨h.nodup_finished, by simp, fun a ha b hb heq => h.not_mem_finished hid ?_⟩
    rwa [← List.mem_singleton.mp hb, ← heq]
  have hall := outdated_append_newest s.retention (s.finished ++ [id])
  obtain ⟨-, hnewest, hdisjoint⟩ := List.nodup_append.mp (hall ▸ hnodup)
  refine ⟨hnewest, fun i => ?_⟩
  have hi : i ∈ outdated s.retention (s.finished ++ [id]) ∨ i ∈ newest s.retention (s.finished ++ [id]) ↔
      i ∈ s.finished ∨ i = id := by
    rw [← List.mem_append, hall, List.mem_append, List.mem_singleton]
  exact ⟨fun hm => ⟨hi.mp (.inr hm), fun ho => hdisjoint i ho i hm rfl⟩, fun ⟨hm, hno⟩ => (hi.mpr hm).resolve_left hno⟩

/-- Finishing a job takes away its status as a waiting or running job and no other. -/
theorem getElem?_statuses_finish_iff (h : s.Tracked waits runs) (hr : 0 < s.retention) {id : JobId}
    {status old : JobStatus} (hid : id ∉ s.finished) (ht : status.isTerminal = true) (hold : old.isTerminal = false)
    (i : JobId) : (s.finish id status).statuses[i]? = some old ↔ s.statuses[i]? = some old ∧ i ≠ id := by
  rw [getElem?_statuses_finish]
  split
  · next ho =>
    have hi := mem_finished_of_mem_outdated hr hid ho
    exact ⟨fun hs => (by cases hs), fun hs => absurd hi (h.not_mem_finished_of_status hs.1 hold)⟩
  · split
    · next heq =>
      refine ⟨fun hs => ?_, fun hs => absurd heq hs.2⟩
      rw [Option.some.inj hs, hold] at ht
      cases ht
    · next hne => exact ⟨fun hs => ⟨hs, hne⟩, And.left⟩

theorem finish (h : s.Tracked waits runs) (hr : 0 < s.retention) {id : JobId} {status : JobStatus}
    (hid : waits id ∨ runs id) (ht : status.isTerminal = true) :
    (s.finish id status).Tracked (fun i => waits i ∧ i ≠ id) (fun i => runs i ∧ i ≠ id) := by
  obtain ⟨hnodup, hmem⟩ := h.mem_finished_finish status hid
  have hnot := h.not_mem_finished hid
  refine ⟨hnodup, fun i => ?_, fun i => ?_, fun i => ?_⟩
  · exact (h.getElem?_statuses_finish_iff hr hnot ht rfl i).trans (and_congr_left' (h.pending_iff i))
  · exact (h.getElem?_statuses_finish_iff hr hnot ht rfl i).trans (and_congr_left' (h.running_iff i))
  · rw [getElem?_statuses_finish, hmem, ← h.finished_iff]
    by_cases heq : i = id
    · simp [heq, not_mem_outdated hr hnot, ht]
    · by_cases ho : i ∈ outdated s.retention (s.finished ++ [id]) <;> simp [heq, ho]

theorem getElem?_statuses_setStatus (id : JobId) (status : JobStatus) (i : JobId) :
    (s.setStatus id status).statuses[i]? = if i = id then some status else s.statuses[i]? :=
  getElem?_inserted

theorem setPending (h : s.Tracked waits runs) {id : JobId} (hid : id ∉ s.statuses) :
    (s.setStatus id .pending).Tracked (fun i => waits i ∨ i = id) runs := by
  refine ⟨h.nodup_finished, fun i => ?_, fun i => ?_, fun i => ?_⟩
  · rw [getElem?_statuses_setStatus, ← h.pending_iff]
    by_cases heq : i = id <;> simp [heq]
  · rw [getElem?_statuses_setStatus, ← h.running_iff]
    by_cases heq : i = id
    · simpa [heq] using fun hs => hid (mem_of_getElem? hs)
    · simp [heq]
  · rw [getElem?_statuses_setStatus]
    refine Iff.trans ?_ (h.finished_iff i)
    by_cases heq : i = id
    · simpa [heq, JobStatus.isTerminal] using fun status hs => absurd (mem_of_getElem? hs) hid
    · simp [heq]

theorem setRunning (h : s.Tracked waits runs) {id : JobId} (hid : waits id) :
    (s.setStatus id .running).Tracked (fun i => waits i ∧ i ≠ id) (fun i => runs i ∨ i = id) := by
  have hstatus := (h.pending_iff id).mpr hid
  refine ⟨h.nodup_finished, fun i => ?_, fun i => ?_, fun i => ?_⟩
  · rw [getElem?_statuses_setStatus, ← h.pending_iff]
    by_cases heq : i = id <;> simp [heq]
  · rw [getElem?_statuses_setStatus, ← h.running_iff]
    by_cases heq : i = id <;> simp [heq]
  · rw [getElem?_statuses_setStatus]
    refine Iff.trans ?_ (h.finished_iff i)
    by_cases heq : i = id
    · simp [heq, hstatus, JobStatus.isTerminal]
    · simp [heq]

end Tracked

/-! ## Queues -/

/-- The collections of the queue agree, and it created all the jobs it knows. -/
structure Linked (s : QueueState α) : Prop where
  indexed : s.Indexed
  id_eq : ∀ (id : JobId) (job : Job α), s.running[id]? = some job → job.id = id
  tracked : s.Tracked (· ∈ s.pending) (· ∈ s.running)
  id_le_created : ∀ id : JobId, id ∈ s.statuses → 0 < id ∧ id ≤ s.created
  retention_pos : 0 < s.retention

namespace Linked

theorem empty (policy : RetryPolicy) (retention : Nat) : (QueueState.empty policy retention : QueueState α).Linked where
  indexed := ⟨List.nodup_nil, by simp [QueueState.empty], by simp [QueueState.empty], by simp [QueueState.empty]⟩
  id_eq := by simp [QueueState.empty]
  tracked := ⟨List.nodup_nil, by simp [QueueState.empty], by simp [QueueState.empty], by simp [QueueState.empty]⟩
  id_le_created := by simp [QueueState.empty]
  retention_pos := Nat.lt_of_lt_of_le Nat.zero_lt_one (Nat.le_max_right retention 1)

/-- The next job is new. -/
theorem not_mem_statuses (h : s.Linked) {id : JobId} (hid : s.created < id) : id ∉ s.statuses := fun hm =>
  Nat.not_le.mpr hid (h.id_le_created id hm).2

theorem mem_statuses_of_pending (h : s.Linked) {id : JobId} (hid : id ∈ s.pending) : id ∈ s.statuses :=
  mem_of_getElem? ((h.tracked.pending_iff id).mpr hid)

theorem mem_statuses_of_running (h : s.Linked) {id : JobId} (hid : id ∈ s.running) : id ∈ s.statuses :=
  mem_of_getElem? ((h.tracked.running_iff id).mpr hid)

theorem not_mem_pending (h : s.Linked) {id : JobId} (hid : s.created < id) : id ∉ s.pending := fun hm =>
  h.not_mem_statuses hid (h.mem_statuses_of_pending hm)

theorem not_mem_running (h : s.Linked) {id : JobId} (hid : id ∈ s.pending) : id ∉ s.running := by
  intro hm
  have hstatus := ((h.tracked.pending_iff id).mpr hid).symm.trans ((h.tracked.running_iff id).mpr hm)
  cases hstatus

theorem id_le_created_finish (h : s.Linked) {id : JobId} (hid : id ∈ s.statuses) (status : JobStatus) (i : JobId)
    (hi : i ∈ (s.finish id status).statuses) : 0 < i ∧ i ≤ s.created := by
  obtain ⟨status', hs⟩ := exists_getElem? hi
  rw [getElem?_statuses_finish] at hs
  split at hs
  · cases hs
  · split at hs
    · next heq => exact heq ▸ h.id_le_created id hid
    · exact h.id_le_created i (mem_of_getElem? hs)

theorem bury (h : s.Linked) (job : Job α) (error : String) : (s.bury job error).Linked where
  indexed := { h.indexed with }
  id_eq := h.id_eq
  tracked := { h.tracked with }
  id_le_created := h.id_le_created
  retention_pos := h.retention_pos

theorem settle (h : s.Linked) {id : JobId} {job : Job α} (hid : s.running[id]? = some job) {status : JobStatus}
    (ht : status.isTerminal = true) : (s.settle id status).Linked where
  indexed := { h.indexed with }
  id_eq i j hj := by
    simp only [QueueState.settle, QueueState.finish, release, getElem?_erased] at hj
    split at hj
    · cases hj
    · exact h.id_eq i j hj
  tracked := by
    have hm := mem_of_getElem? hid
    have hs : (s.release id).Tracked (· ∈ s.pending) (· ∈ s.running) := { h.tracked with }
    refine (hs.finish h.retention_pos (.inr hm) ht).congr (fun i => ?_) (fun i => ?_)
    · exact ⟨And.left, fun hi => ⟨hi, fun heq => h.not_mem_running hi (heq ▸ hm)⟩⟩
    · exact and_comm.trans mem_erased.symm
  id_le_created := h.id_le_created_finish (h.mem_statuses_of_running (mem_of_getElem? hid)) status
  retention_pos := h.retention_pos

theorem enlist (h : s.Linked) {w : Waiting α} (hid : w.job.id = s.created + 1) (hc : s.covering? w.job = none) :
    (s.enlist w).Linked := by
  have hnew : s.created < w.job.id := hid ▸ Nat.lt_succ_self s.created
  refine ⟨?_, h.id_eq, ?_, fun i hi => ?_, h.retention_pos⟩
  · exact { Indexed.append (s := { s with created := w.job.id }) { h.indexed with } (h.not_mem_pending hnew) hc with }
  · have hs : (QueueState.append { s with created := w.job.id } w).Tracked (· ∈ s.pending) (· ∈ s.running) :=
      { h.tracked with }
    exact (hs.setPending (h.not_mem_statuses hnew)).congr (fun i => or_comm.trans mem_inserted.symm) fun i => Iff.rfl
  · rcases mem_inserted.mp hi with rfl | hi
    · exact ⟨Nat.zero_lt_of_lt hnew, Nat.le_refl _⟩
    · obtain ⟨hpos, hle⟩ := h.id_le_created i hi
      exact ⟨hpos, Nat.le_trans hle (Nat.le_of_lt hnew)⟩

theorem supersede (h : s.Linked) {w : Waiting α} (hid : w.job.id = s.created + 1) {replaced : JobId}
    (hc : s.covering? w.job = some replaced) : (s.supersede replaced w).Linked := by
  have hnew : s.created < w.job.id := hid ▸ Nat.lt_succ_self s.created
  obtain ⟨k, old, -, hold, -⟩ := h.indexed.covering hc
  have hpending : replaced ∈ s.pending := mem_of_getElem? hold
  have hcreated := h.id_le_created_finish (h.mem_statuses_of_pending hpending) .superseded
  refine ⟨?_, h.id_eq, ?_, fun i hi => ?_, h.retention_pos⟩
  · exact { Indexed.replace (s := { s with created := w.job.id }) { h.indexed with } (h.not_mem_pending hnew) hc with }
  · have hs : (QueueState.replace { s with created := w.job.id } replaced w).Tracked (· ∈ s.pending)
      (· ∈ s.running) := { h.tracked with }
    have hfinished := hs.finish h.retention_pos (.inl hpending) (show JobStatus.superseded.isTerminal = true from rfl)
    refine (hfinished.setPending fun hm => Nat.not_lt.mpr (hcreated _ hm).2 hnew).congr (fun i => ?_) (fun i => ?_)
    · refine or_comm.trans (Iff.trans ?_ mem_inserted.symm)
      exact or_congr_right (and_comm.trans mem_erased.symm)
    · exact ⟨And.left, fun hi => ⟨hi, fun heq => h.not_mem_running hpending (heq ▸ hi)⟩⟩
  · rcases mem_inserted.mp hi with rfl | hi
    · exact ⟨Nat.zero_lt_of_lt hnew, Nat.le_refl _⟩
    · obtain ⟨hpos, hle⟩ := hcreated i hi
      exact ⟨hpos, Nat.le_trans hle (Nat.le_of_lt hnew)⟩

theorem handOut (h : s.Linked) {id : JobId} {w : Waiting α} (hw : s.pending[id]? = some w) :
    (s.handOut id w.job).Linked := by
  have hid := h.indexed.id_eq id w hw
  have hpending : w.job.id ∈ s.pending := hid ▸ mem_of_getElem? hw
  refine ⟨{ h.indexed.remove hw with }, fun i j hj => ?_, ?_, fun i hi => ?_, h.retention_pos⟩
  · simp only [QueueState.handOut, start, QueueState.remove, setStatus, getElem?_inserted] at hj
    split at hj
    · next heq => rw [← Option.some.inj hj, heq]
    · exact h.id_eq i j hj
  · have hs : Tracked (· ∈ s.pending) (· ∈ s.running)
      { s.remove id w.job with running := s.running.insert w.job.id w.job } := { h.tracked with }
    refine (hs.setRunning hpending).congr (fun i => ?_) fun i => or_comm.trans mem_inserted.symm
    rw [hid]
    exact and_comm.trans mem_erased.symm
  · rcases mem_inserted.mp hi with rfl | hi
    · exact h.id_le_created _ (h.mem_statuses_of_pending hpending)
    · exact h.id_le_created i hi

/-! ### Operations -/

theorem enqueue (h : s.Linked) (p : Prepared α) : (s.enqueue p).2.Linked := by
  cases hc : s.covering? (s.entry p).job with
  | some replaced => rw [enqueue_of_covered hc]; exact h.supersede rfl hc
  | none => rw [enqueue_of_free hc]; exact h.enlist rfl hc

theorem dequeue (h : s.Linked) (now : Instant) : (s.dequeue now).2.Linked := by
  rcases s.dequeue_cases now with ⟨heq, -⟩ | ⟨id, w, -, hw, -, heq⟩
  · rw [heq]; exact h
  · rw [heq]; exact h.handOut hw

theorem markSucceeded (h : s.Linked) (id : JobId) : (s.markSucceeded id).2.Linked := by
  cases hid : s.running[id]? with
  | none => rw [markSucceeded_of_not_running hid]; exact h
  | some job => rw [markSucceeded_of_running hid]; exact h.settle hid rfl

theorem markFailed (h : s.Linked) (now : Instant) (id : JobId) (error : String) (kind : FailureKind) :
    (s.markFailed now id error kind).2.Linked := by
  cases hid : s.running[id]? with
  | none => rw [markFailed_of_not_running hid]; exact h
  | some job =>
    by_cases hkind : kind = .retryable ∧ job.attempt < s.policy.maxAttempts
    · have hfailed : (s.settle id .failed).Linked := h.settle hid rfl
      cases hc : s.covering? job with
      | some other => rw [markFailed_of_covered hid hkind hc]; exact hfailed
      | none => rw [markFailed_of_free hid hkind hc]; exact hfailed.enlist rfl hc
    · rw [markFailed_of_final hid hkind]
      exact (h.bury job error).settle hid rfl

end Linked

end QueueState

end Rollout
