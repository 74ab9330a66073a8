import Rollout.Job.Queue

/-!
# The waiting jobs in queue order

What the moves of a queue do to the list of its waiting jobs: a new job goes behind all others (`waiting_enlist`) or into
the place of the one that it supersedes (`waiting_supersede`), and the others keep their places when one is handed out
(`waiting_handOut`). What has been finished is trimmed to the retention after every step, which leaves the same as
trimming once at the end (`newest_append_newest`).
-/

namespace Rollout.QueueState

variable {α : Type} {s : QueueState α}

/-! ## The newest entries -/

section Newest

variable {β : Type} {n : Nat} {xs ys : List β}

theorem newest_of_length_le (h : xs.length ≤ n) : newest n xs = xs := by
  simp [newest, Nat.sub_eq_zero_of_le h]

/-- What was trimmed before makes no difference to what is trimmed now. -/
theorem newest_append_newest : newest n (newest n xs ++ ys) = newest n (xs ++ ys) := by
  by_cases h : xs.length ≤ n
  · rw [newest_of_length_le h]
  · simp only [newest, List.length_append, List.length_drop, List.drop_append, List.drop_drop]
    congr 2 <;> omega

end Newest

/-! ## Waiting jobs -/

theorem Indexed.mem_waiting_iff (h : s.Indexed) {w : Waiting α} : w ∈ s.waiting ↔ s.pending[w.job.id]? = some w := by
  simp only [waiting, List.mem_filterMap]
  constructor
  · rintro ⟨id, -, hw⟩
    rwa [h.id_eq id w hw]
  · intro hw
    exact ⟨w.job.id, (h.mem_order_iff _).mpr (mem_of_getElem? hw), hw⟩

/-- The entries of some ids, when what is not among them makes the difference. -/
theorem filterMap_entries_congr {ids : List JobId} {m m' : Std.HashMap JobId (Waiting α)}
    (h : ∀ id ∈ ids, m[id]? = m'[id]?) : ids.filterMap (m[·]?) = ids.filterMap (m'[·]?) := by
  induction ids with
  | nil => rfl
  | cons id ids ih =>
    rw [List.filterMap_cons, List.filterMap_cons, h id List.mem_cons_self,
      ih fun i hi => h i (List.mem_cons_of_mem _ hi)]

theorem filterMap_insert {ids : List JobId} {m : Std.HashMap JobId (Waiting α)} {id : JobId} {w : Waiting α}
    (h : id ∉ ids) : ids.filterMap ((m.insert id w)[·]?) = ids.filterMap (m[·]?) :=
  filterMap_entries_congr fun i hi => by
    have hne : i ≠ id := fun heq => h (heq ▸ hi)
    rw [getElem?_inserted, if_neg hne]

theorem filterMap_erase {ids : List JobId} {m : Std.HashMap JobId (Waiting α)} {id : JobId} (h : id ∉ ids) :
    ids.filterMap ((m.erase id)[·]?) = ids.filterMap (m[·]?) :=
  filterMap_entries_congr fun i hi => by
    have hne : i ≠ id := fun heq => h (heq ▸ hi)
    rw [getElem?_erased, if_neg hne]

theorem Linked.not_mem_order (h : s.Linked) {id : JobId} (hid : id = s.created + 1) : id ∉ s.order :=
  h.indexed.not_mem_order (h.not_mem_pending (hid ▸ Nat.lt_succ_self s.created))

theorem Linked.waiting_enlist (h : s.Linked) {w : Waiting α} (hid : w.job.id = s.created + 1) :
    (s.enlist w).waiting = s.waiting ++ [w] := by
  have hnew : (s.enlist w).waiting = (s.order ++ [w.job.id]).filterMap ((s.pending.insert w.job.id w)[·]?) := rfl
  rw [hnew, List.filterMap_append, filterMap_insert (h.not_mem_order hid), ← waiting]
  simp

theorem Linked.waiting_supersede (h : s.Linked) {w old : Waiting α} (hid : w.job.id = s.created + 1)
    {replaced : JobId} (hold : s.pending[replaced]? = some old) :
    ∃ before after, s.waiting = before ++ old :: after ∧ (s.supersede replaced w).waiting = before ++ w :: after := by
  obtain ⟨before, after, hsplit, hnot, hreplace⟩ := h.indexed.order_replace (mem_of_getElem? hold) w.job.id
  have hfresh := h.not_mem_order hid
  rw [hsplit, List.perm_middle.mem_iff, List.mem_cons, not_or, List.mem_append, not_or] at hfresh
  rw [List.mem_append, not_or] at hnot
  have hnew : (s.supersede replaced w).waiting =
      (s.order.replace replaced w.job.id).filterMap (((s.pending.erase replaced).insert w.job.id w)[·]?) := rfl
  refine ⟨before.filterMap (s.pending[·]?), after.filterMap (s.pending[·]?), ?_, ?_⟩
  · simp [waiting, hsplit, hold]
  · rw [hnew, hreplace, List.filterMap_append, List.filterMap_cons, filterMap_insert hfresh.2.1, filterMap_erase hnot.1,
      filterMap_insert hfresh.2.2, filterMap_erase hnot.2]
    simp

/-- What waits before and behind a job that is handed out. -/
theorem Linked.waiting_handOut_of_order (h : s.Linked) {w : Waiting α} {id : JobId} {before after : List JobId}
    (hsplit : s.order = before ++ id :: after) (hw : s.pending[id]? = some w) :
    s.waiting = before.filterMap (s.pending[·]?) ++ w :: after.filterMap (s.pending[·]?) ∧
      (s.handOut id w.job).waiting = before.filterMap (s.pending[·]?) ++ after.filterMap (s.pending[·]?) := by
  have hnodup := h.indexed.nodup_order
  rw [hsplit, List.perm_middle.nodup_iff, List.nodup_cons, List.mem_append, not_or] at hnodup
  obtain ⟨hnot, -⟩ := hnodup
  have hnew : (s.handOut id w.job).waiting = (s.order.erase id).filterMap ((s.pending.erase id)[·]?) := rfl
  constructor
  · simp [waiting, hsplit, hw]
  · rw [hnew, hsplit, List.erase_append_right _ hnot.1, List.erase_cons_head, List.filterMap_append,
      filterMap_erase hnot.1, filterMap_erase hnot.2]

theorem Linked.waiting_handOut (h : s.Linked) {w : Waiting α} {id : JobId} (hw : s.pending[id]? = some w) :
    ∃ before after, s.waiting = before ++ w :: after ∧ (s.handOut id w.job).waiting = before ++ after := by
  obtain ⟨before, after, hsplit, -, -⟩ := h.indexed.order_replace (mem_of_getElem? hw) id
  obtain ⟨hwaiting, hleft⟩ := h.waiting_handOut_of_order hsplit hw
  exact ⟨_, _, hwaiting, hleft⟩

@[simp] theorem waiting_settle (id : JobId) (status : JobStatus) : (s.settle id status).waiting = s.waiting := rfl

@[simp] theorem waiting_bury (job : Job α) (error : String) : (s.bury job error).waiting = s.waiting := rfl

end Rollout.QueueState
