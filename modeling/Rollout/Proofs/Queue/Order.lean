import Mathlib.Data.List.Induction
import Mathlib.Data.List.Nodup
import Mathlib.Logic.Relation
import Rollout.Job.Queue.Lemmas
import Rollout.Proofs.Queue.Ancestry
import Rollout.Proofs.Queue.LifeCycle

/-!
# The order of a queue

A worker is given the first job that is due. A new job takes the place of the one that it supersedes, a retry or any
other new job goes behind all others (`Event.Ordered`), and one that leaves makes no difference to the rest. So of two
jobs that wait at two moments the same one is ahead at both (`Moment.ahead_run_iff`). A job that comes later and is
handed out before one that is due has inherited its place, through jobs that superseded one another (`Inherits`), from a
job that was ahead already (`Moment.isHeirAhead_of_ahead`). All this together is `keepsOrder_run`.
-/

namespace Rollout

variable {α : Type}

/-! ## Jobs in a list -/

section Lists

variable {a b : JobId} {before after l l' xs : List JobId}

/-- Jobs are in the same order in lists that differ in other jobs. -/
theorem sublist_iff_of_filter_eq {p : JobId → Bool} (h : l'.filter p = l.filter p) (hxs : ∀ x ∈ xs, p x = true) :
    xs.Sublist l ↔ xs.Sublist l' := by
  have hfilter : xs.filter p = xs := List.filter_eq_self.mpr hxs
  constructor
  · intro hsub
    rw [← hfilter]
    exact (h ▸ hsub.filter p).trans List.filter_sublist
  · intro hsub
    rw [← hfilter]
    exact (h ▸ hsub.filter p).trans List.filter_sublist

/-- What comes after the first occurrence of a job. -/
theorem pair_sublist_iff (hb : b ∉ before) : [b, a].Sublist (before ++ b :: after) ↔ a ∈ after := by
  constructor
  · intro h
    obtain ⟨front, back, hpair, hfront, hback⟩ := List.sublist_append_iff.mp h
    cases front with
    | nil =>
      obtain rfl : [b, a] = back := hpair
      exact List.singleton_sublist.mp (List.cons_sublist_cons.mp hback)
    | cons x front =>
      obtain ⟨rfl, -⟩ := List.cons.inj hpair
      exact absurd (hfront.subset List.mem_cons_self) hb
  · intro h
    exact ((List.singleton_sublist.mpr h).cons_cons b).trans (List.sublist_append_right _ _)

end Lists

namespace QueueState

/-- The job `a` waits ahead of the job `b`. -/
def Ahead (s : QueueState α) (a b : JobId) : Prop := [a, b].Sublist s.order

/-- No job waits with this key. -/
def IsFree (s : QueueState α) (key : Option String) : Prop := ∀ w ∈ s.waiting, ∀ k, key = some k → w.job.key ≠ some k

/-- What an operation can do to the order of the jobs that wait. -/
inductive Reorders (s : QueueState α) (answer : QueueAnswer α) (s' : QueueState α) : Prop where
  | kept (h : s'.order = s.order)
  | appended (h : s'.order = s.order ++ [s.created + 1])
  | inherited {old : JobId} {before after : List JobId} (ha : answer = .enqueued (.superseded (s.created + 1) old))
      (h : s.order = before ++ old :: after) (h' : s'.order = before ++ (s.created + 1) :: after)
  | left {id : JobId} {before after : List JobId} (h : s.order = before ++ id :: after)
      (h' : s'.order = before ++ after)

end QueueState

/-! ## One operation -/

section Operations

variable {now : Instant} {s s' : QueueState α} {o : QueueOperation α} {answer : QueueAnswer α}

theorem Effect.reorders (he : Effect now s o answer s') (h : s.Linked) : s.Reorders answer s' := by
  cases he with
  | enlisted | retried => exact .appended rfl
  | superseded hcovered =>
    obtain ⟨k, old, -, hold, -⟩ := h.indexed.covering hcovered
    obtain ⟨before, after, hsplit, -, hreplace⟩ := h.indexed.order_replace (mem_of_getElem? hold) (s.created + 1)
    exact .inherited rfl hsplit hreplace
  | @handedOut id w hfirst hw =>
    obtain ⟨before, after, hsplit, hnot⟩ := List.eq_append_cons_of_mem (List.mem_of_find?_eq_some hfirst)
    refine .left hsplit (?_ : s.order.erase id = _)
    rw [hsplit, List.erase_append_right _ hnot, List.erase_cons_head]
  | idle | notSucceeded | succeeded | notFailed | covered | buried | advanced => exact .kept rfl

namespace QueueState.Reorders

variable {a b : JobId}

/-- What waits before and after an operation waits in the same order. -/
theorem filter_order (hr : s.Reorders answer s') (h : s.Linked) {p : JobId → Bool}
    (hp : ∀ id, p id = true → id ∈ s.order ∧ id ∈ s'.order) : s'.order.filter p = s.order.filter p := by
  have hnew : p (s.created + 1) = false :=
    Bool.eq_false_iff.mpr fun hid => h.not_mem_order rfl (hp _ hid).1
  have hnodup := h.indexed.nodup_order
  cases hr with
  | kept heq => rw [heq]
  | appended heq => simp [heq, hnew]
  | @inherited old before after ha hsplit heq =>
    rw [hsplit, List.nodup_middle, List.nodup_cons, List.mem_append, not_or] at hnodup
    have hold : p old = false := Bool.eq_false_iff.mpr fun hid => by
      obtain ⟨hbefore, hafter⟩ := hp old hid
      rw [heq, List.mem_append, List.mem_cons] at hafter
      rcases hafter with hm | rfl | hm
      · exact hnodup.1.1 hm
      · exact h.not_mem_order rfl hbefore
      · exact hnodup.1.2 hm
    simp [hsplit, heq, hnew, hold]
  | @left id before after hsplit heq =>
    rw [hsplit, List.nodup_middle, List.nodup_cons] at hnodup
    have hid : p id = false := Bool.eq_false_iff.mpr fun hid => hnodup.1 (heq ▸ (hp id hid).2)
    simp [hsplit, heq, hid]

theorem ahead_iff (hr : s.Reorders answer s') (h : s.Linked) (ha : a ∈ s.order) (hb : b ∈ s.order)
    (ha' : a ∈ s'.order) (hb' : b ∈ s'.order) : s.Ahead a b ↔ s'.Ahead a b := by
  refine sublist_iff_of_filter_eq (p := fun id => id ∈ s.order ∧ id ∈ s'.order) ?_ ?_
  · exact hr.filter_order h fun id hid => of_decide_eq_true hid
  · simp [ha, hb, ha', hb']

/-- **What is new ahead of a job has the place of one that was ahead of it.** -/
theorem exists_inherited (hr : s.Reorders answer s') (hb : b ∉ s.order) (hahead : s'.Ahead b a) :
    ∃ old, answer = .enqueued (.superseded b old) ∧ s.Ahead old a := by
  have hb' : b ∈ s'.order := hahead.subset List.mem_cons_self
  unfold QueueState.Ahead at hahead ⊢
  cases hr with
  | kept heq => exact absurd (heq ▸ hb') hb
  | left hsplit heq =>
    rw [heq, List.mem_append] at hb'
    rw [hsplit, List.mem_append, List.mem_cons] at hb
    exact absurd (hb'.imp_right .inr) hb
  | appended heq =>
    obtain rfl : b = s.created + 1 := by simpa [heq, hb] using hb'
    rw [heq, pair_sublist_iff hb] at hahead
    cases hahead
  | @inherited old before after hanswer hsplit heq =>
    rw [hsplit, List.mem_append, List.mem_cons, not_or, not_or] at hb
    obtain rfl : b = s.created + 1 := by simpa [heq, hb.1, hb.2.2] using hb'
    rw [heq, pair_sublist_iff hb.1] at hahead
    rw [hsplit]
    exact ⟨old, hanswer, ((List.singleton_sublist.mpr hahead).cons_cons old).trans (List.sublist_append_right _ _)⟩

end QueueState.Reorders

/-- A job that still waits has not changed. -/
theorem Effect.getElem?_pending (he : Effect now s o answer s') (h : s.Linked) {id : JobId} {w : Waiting α}
    (hw : s.pending[id]? = some w) (hid : id ∈ s'.pending) : s'.pending[id]? = some w := by
  have hnew : id ≠ s.created + 1 := fun heq =>
    h.not_mem_pending (heq ▸ Nat.lt_succ_self s.created) (mem_of_getElem? hw)
  cases he with
  | enlisted | retried => exact getElem?_inserted.trans ((if_neg hnew).trans hw)
  | @superseded p replaced =>
    have hid : id ∈ (s.pending.erase replaced).insert (s.created + 1) (s.entry p) := hid
    have hne : id ≠ replaced := (mem_erased.mp ((mem_inserted.mp hid).resolve_left hnew)).1
    exact getElem?_inserted.trans ((if_neg hnew).trans (getElem?_erased.trans ((if_neg hne).trans hw)))
  | @handedOut i =>
    have hid : id ∈ s.pending.erase i := hid
    exact getElem?_erased.trans ((if_neg (mem_erased.mp hid).1).trans hw)
  | idle | notSucceeded | succeeded | notFailed | covered | buried | advanced => exact hw

end Operations

/-! ## One event -/

namespace Event

/-- The running job fails in this event and is to be tried again, and no other work with its key waits. -/
structure TriesAgain (e : Event α) (job : Job α) : Prop where
  operation : ∃ error, e.operation = .fail job.id error .retryable
  running : e.before.queue.running[job.id]? = some job
  attempts : job.attempt < e.before.queue.policy.maxAttempts
  free : e.before.queue.IsFree job.key

/-- What an event does to the jobs that wait, in queue order. -/
structure Ordered (e : Event α) : Prop where
  /-- The first job that is due is handed out, and none only if none is due. -/
  dequeued : e.operation = .dequeue →
    e.answer = .dequeued ((e.before.queue.waiting.find? (·.isReady e.before.now)).map (·.job)) ∧
      e.after.queue.waiting = e.before.queue.waiting.eraseP (·.isReady e.before.now)
  /-- Enqueued work is a job that is not known before. -/
  enqueued : ∀ p, e.operation = .enqueue p → ∃ result, e.answer = .enqueued result ∧
    e.before.queue.stage result.id = .unborn
  /-- A superseding job takes the place of the one that it replaces, whose key it has. -/
  superseded : ∀ new old, e.answer = .enqueued (.superseded new old) → ∃ p before v after k,
    e.operation = .enqueue p ∧ p.key = some k ∧ v.job.key = some k ∧ v.job.id = old ∧
      e.before.queue.waiting = before ++ v :: after ∧
      e.after.queue.waiting = before ++ ⟨.ofPrepared new p, none⟩ :: after
  /-- Work that supersedes nothing goes behind all that wait. -/
  created : ∀ new, e.answer = .enqueued (.created new) → ∃ p, e.operation = .enqueue p ∧
    e.before.queue.IsFree p.key ∧ e.after.queue.waiting = e.before.queue.waiting ++ [⟨.ofPrepared new p, none⟩]
  /-- So does the next attempt at work that has failed. -/
  retried : ∀ job, e.TriesAgain job → ∃ new due, e.before.queue.stage new = .unborn ∧
    e.after.queue.waiting = e.before.queue.waiting ++ [⟨job.retry new, some due⟩]
  /-- Nothing else makes a difference to the jobs that wait. -/
  kept : (∀ p, e.operation ≠ .enqueue p) → e.operation ≠ .dequeue → (∀ job, ¬e.TriesAgain job) →
    e.after.queue.waiting = e.before.queue.waiting
  /-- Whatever else has come to wait is behind all that waited. -/
  appended : ∀ w ∈ e.after.queue.waiting, w.job.id ∉ e.before.queue.order →
    (∀ old, e.answer ≠ .enqueued (.superseded w.job.id old)) →
    e.after.queue.waiting = e.before.queue.waiting ++ [w]

end Event

namespace QueueState.Linked

variable {s : QueueState α}

/-- The waiting jobs around the first one that is due. -/
theorem waiting_of_first (h : s.Linked) {now : Instant} {id : JobId} {w : Waiting α}
    (hfirst : s.order.find? (s.isReady now) = some id) (hw : s.pending[id]? = some w) (hready : w.isReady now = true) :
    s.waiting.find? (·.isReady now) = some w ∧
      (s.handOut id w.job).waiting = s.waiting.eraseP (·.isReady now) := by
  obtain ⟨before, after, hsplit, hbefore⟩ := (List.find?_eq_some_iff_append.mp hfirst).2
  obtain ⟨hwaiting, hleft⟩ := h.waiting_handOut_of_order hsplit hw
  have hnone : ∀ v ∈ before.filterMap (s.pending[·]?), ¬v.isReady now = true := by
    intro v hv
    obtain ⟨i, hi, hpending⟩ := List.mem_filterMap.mp hv
    have hwaits := hbefore i hi
    rwa [isReady, hpending, Option.any_some, Bool.not_eq_true', Bool.eq_false_iff] at hwaits
  rw [hwaiting, hleft]
  constructor
  · rw [List.find?_append, List.find?_eq_none.mpr hnone, Option.none_or, List.find?_cons_of_pos hready]
  · rw [List.eraseP_append_right _ hnone, List.eraseP_cons_of_pos hready]

theorem isFree_iff (h : s.Linked) {job : Job α} : s.IsFree job.key ↔ s.covering? job = none := by
  constructor
  · intro hfree
    rw [Option.eq_none_iff_forall_ne_some]
    intro id hcovered
    obtain ⟨k, w, hk, hw, hwk⟩ := h.indexed.covering hcovered
    obtain rfl := h.indexed.id_eq id w hw
    exact hfree w (h.indexed.mem_waiting_iff.mpr hw) k hk hwk
  · intro hnone w hw k hk hwk
    cases hnone.symm.trans (h.indexed.covering?_of_pending hk (h.indexed.mem_waiting_iff.mp hw) hwk)

theorem mem_order_of_waiting (h : s.Linked) {w : Waiting α} (hw : w ∈ s.waiting) : w.job.id ∈ s.order :=
  (h.indexed.mem_order_iff _).mpr (mem_of_getElem? (h.indexed.mem_waiting_iff.mp hw))

end QueueState.Linked

section Waiting

variable {now : Instant} {s s' : QueueState α} {o : QueueOperation α} {answer : QueueAnswer α}

theorem Effect.waiting_dequeued (he : Effect now s .dequeue answer s') (h : s.Linked) :
    answer = .dequeued ((s.waiting.find? (·.isReady now)).map (·.job)) ∧
      s'.waiting = s.waiting.eraseP (·.isReady now) := by
  cases he with
  | idle hnone =>
    have hwaits : ∀ w ∈ s.waiting, ¬w.isReady now = true := by
      intro w hw
      have hid := hnone w.job.id (h.mem_order_of_waiting hw)
      rwa [QueueState.isReady, h.indexed.mem_waiting_iff.mp hw, Option.any_some, Bool.eq_false_iff] at hid
    rw [List.find?_eq_none.mpr hwaits, List.eraseP_of_forall_not hwaits]
    exact ⟨rfl, rfl⟩
  | handedOut hfirst hw hready =>
    obtain ⟨hfind, hleft⟩ := h.waiting_of_first hfirst hw hready
    rw [hfind]
    exact ⟨rfl, hleft⟩

theorem Effect.waiting_superseded {new old : JobId} (he : Effect now s o (.enqueued (.superseded new old)) s')
    (h : s.Linked) :
    ∃ p before v after k, o = .enqueue p ∧ p.key = some k ∧ v.job.key = some k ∧ v.job.id = old ∧
      s.waiting = before ++ v :: after ∧ s'.waiting = before ++ ⟨.ofPrepared new p, none⟩ :: after := by
  cases he with
  | @superseded p replaced hcovered =>
    obtain ⟨k, v, hk, hv, hvk⟩ := h.indexed.covering hcovered
    obtain ⟨before, after, hwaiting, hwaiting'⟩ := h.waiting_supersede (w := s.entry p) rfl hv
    exact ⟨p, before, v, after, k, rfl, hk, hvk, h.indexed.id_eq _ v hv, hwaiting, hwaiting'⟩

theorem Effect.waiting_created {new : JobId} (he : Effect now s o (.enqueued (.created new)) s') (h : s.Linked) :
    ∃ p, o = .enqueue p ∧ s.IsFree p.key ∧ s'.waiting = s.waiting ++ [⟨.ofPrepared new p, none⟩] := by
  cases he with
  | @enlisted p hfree => exact ⟨p, rfl, h.isFree_iff.mpr hfree, h.waiting_enlist rfl⟩

/-- The retry of a running job goes to the end of the queue. -/
theorem QueueState.Linked.waiting_retry (h : s.Linked) {id : JobId} {job : Job α} (hid : s.running[id]? = some job) :
    ((s.settle id .failed).enlist (s.nextAttempt now job)).waiting = s.waiting ++ [s.nextAttempt now job] :=
  (h.settle hid (show JobStatus.failed.isTerminal = true from rfl)).waiting_enlist rfl

theorem Effect.waiting_retried {job : Job α} {error : String}
    (he : Effect now s (.fail job.id error .retryable) answer s') (h : s.Linked)
    (hid : s.running[job.id]? = some job) (hattempts : job.attempt < s.policy.maxAttempts) (hfree : s.IsFree job.key) :
    s'.waiting = s.waiting ++ [s.nextAttempt now job] := by
  cases he with
  | notFailed hnone => cases hnone.symm.trans hid
  | covered hrunning hkind hcovered =>
    cases hid.symm.trans hrunning
    cases (h.isFree_iff.mp hfree).symm.trans hcovered
  | retried hrunning hkind =>
    cases hid.symm.trans hrunning
    exact h.waiting_retry hid
  | buried hrunning hkind =>
    cases hid.symm.trans hrunning
    exact absurd ⟨rfl, hattempts⟩ hkind

theorem Effect.waiting_kept (he : Effect now s o answer s') (h : s.Linked) (henqueue : ∀ p, o ≠ .enqueue p)
    (hdequeue : o ≠ .dequeue)
    (hfails : ∀ (job : Job α) (error : String), o = .fail job.id error .retryable → s.running[job.id]? = some job →
      job.attempt < s.policy.maxAttempts → ¬s.IsFree job.key) : s'.waiting = s.waiting := by
  cases he with
  | @enlisted p => exact absurd rfl (henqueue p)
  | @superseded p => exact absurd rfl (henqueue p)
  | idle | handedOut => exact absurd rfl hdequeue
  | @retried id error kind job hid hkind hfree =>
    obtain ⟨rfl, hattempts⟩ := hkind
    obtain rfl := h.id_eq id job hid
    exact absurd (h.isFree_iff.mpr hfree) (hfails job error rfl hid hattempts)
  | notSucceeded | succeeded | notFailed | covered | buried | advanced => rfl

/-- What has come to wait at the end of the queue. -/
theorem QueueState.eq_of_mem_concat {w new : Waiting α} {before : List (Waiting α)} (hw : w ∈ before ++ [new])
    (hnot : w ∉ before) : before ++ [new] = before ++ [w] := by
  rw [List.mem_append, List.mem_singleton] at hw
  rw [hw.resolve_left hnot]

theorem Effect.waiting_appended (he : Effect now s o answer s') (h : s.Linked) {w : Waiting α} (hw : w ∈ s'.waiting)
    (hnew : w.job.id ∉ s.order) (hnone : ∀ old, answer ≠ .enqueued (.superseded w.job.id old)) :
    s'.waiting = s.waiting ++ [w] := by
  have hnot : w ∉ s.waiting := fun hm => hnew (h.mem_order_of_waiting hm)
  cases he with
  | @enlisted p =>
    rw [h.waiting_enlist rfl] at hw ⊢
    exact QueueState.eq_of_mem_concat hw hnot
  | @retried id error kind job hid =>
    rw [h.waiting_retry hid] at hw ⊢
    exact QueueState.eq_of_mem_concat hw hnot
  | @superseded p replaced hcovered =>
    obtain ⟨k, v, -, hv, -⟩ := h.indexed.covering hcovered
    obtain ⟨before, after, hwaiting, hwaiting'⟩ := h.waiting_supersede (w := s.entry p) rfl hv
    rw [hwaiting, List.mem_append, List.mem_cons, not_or, not_or] at hnot
    rw [hwaiting', List.mem_append, List.mem_cons] at hw
    obtain rfl : w = s.entry p := by simpa [hnot.1, hnot.2.2] using hw
    exact absurd rfl (hnone replaced)
  | @handedOut id v hfirst hv hready =>
    rw [(h.waiting_of_first hfirst hv hready).2] at hw
    exact absurd (List.mem_of_mem_eraseP hw) hnot
  | idle | notSucceeded | succeeded | notFailed | covered | buried | advanced => exact absurd hw hnot

end Waiting

/-- **A worker is given the first job that is due, and new jobs go to the end or take the place of another.** -/
theorem Moment.ordered_event {m : Moment α} (h : m.queue.Linked) (o : QueueOperation α) : (m.event o).Ordered := by
  have he := m.effect o
  constructor
  case dequeued =>
    rintro rfl
    exact he.waiting_dequeued h
  case enqueued =>
    rintro p rfl
    obtain ⟨result, hanswer, hid, -⟩ := he.enqueued
    exact ⟨result, hanswer, hid ▸ h.stage_new⟩
  case superseded =>
    intro new old ha
    have ha : (m.perform o).1 = .enqueued (.superseded new old) := ha
    rw [ha] at he
    exact he.waiting_superseded h
  case created =>
    intro new ha
    have ha : (m.perform o).1 = .enqueued (.created new) := ha
    rw [ha] at he
    exact he.waiting_created h
  case retried =>
    intro job htries
    obtain ⟨error, ho⟩ := htries.operation
    obtain rfl : o = .fail job.id error .retryable := ho
    exact ⟨_, _, h.stage_new, he.waiting_retried h htries.running htries.attempts htries.free⟩
  case kept =>
    intro henqueue hdequeue htries
    refine he.waiting_kept h henqueue hdequeue fun job error ho hid hattempts hfree => ?_
    exact htries job ⟨⟨error, ho⟩, hid, hattempts, hfree⟩
  case appended => exact fun w hw hnew hnone => he.waiting_appended h hw hnew hnone

/-! ## Histories -/

theorem QueueState.Linked.mem_order_iff_rank {s : QueueState α} (h : s.Linked) {id : JobId} :
    id ∈ s.order ↔ (s.stage id).rank = 1 := by
  rw [h.indexed.mem_order_iff, ← h.stage_eq_pending_iff]
  constructor
  · intro hstage
    rw [hstage]
    rfl
  · intro hrank
    generalize s.stage id = stage at hrank ⊢
    cases stage with
    | known status => cases status <;> simp_all [Stage.rank]
    | unborn | forgotten => cases hrank

theorem Waiting.isReady_of_le (w : Waiting α) {t t' : Instant} (hle : t ≤ t') (h : w.isReady t = true) :
    w.isReady t' = true := by
  unfold Waiting.isReady at h ⊢
  split at h
  · rfl
  · exact decide_eq_true (Nat.le_trans (of_decide_eq_true h) hle)

namespace Moment

variable {m : Moment α} {a b id : JobId} {os : List (QueueOperation α)}

theorem rank_le_run (h : m.queue.Linked) (os : List (QueueOperation α)) (id : JobId) :
    (m.queue.stage id).rank ≤ ((m.run os).queue.stage id).rank := by
  induction os generalizing m with
  | nil => exact le_rfl
  | cons o os ih => exact ((m.effect o).passes h id).rank_le.trans (ih (linked_perform h o))

/-- A job that waits at two moments waits in between. -/
theorem mem_order_run (h : m.queue.Linked) (hid : id ∈ m.queue.order) {o : QueueOperation α}
    (hlater : id ∈ ((m.run os).perform o).2.queue.order) : id ∈ (m.run os).queue.order := by
  have hrun := linked_run h os
  rw [h.mem_order_iff_rank] at hid
  rw [(linked_perform hrun o).mem_order_iff_rank] at hlater
  rw [hrun.mem_order_iff_rank]
  have hbefore := rank_le_run h os id
  have hafter := (((m.run os).effect o).passes hrun id).rank_le
  omega

/-- **Two jobs that wait at two moments wait in the same order.** -/
theorem ahead_run_iff (h : m.queue.Linked) (ha : a ∈ m.queue.order) (hb : b ∈ m.queue.order)
    (ha' : a ∈ (m.run os).queue.order) (hb' : b ∈ (m.run os).queue.order) :
    m.queue.Ahead a b ↔ (m.run os).queue.Ahead a b := by
  induction os using List.reverseRecOn with
  | nil => exact Iff.rfl
  | append_singleton os o ih =>
    rw [run_concat] at ha' hb' ⊢
    have hrun := linked_run h os
    have hma := mem_order_run h ha ha'
    have hmb := mem_order_run h hb hb'
    exact (ih hma hmb).trans ((((m.run os).effect o).reorders hrun).ahead_iff hrun hma hmb ha' hb')

theorem getElem?_pending_run (h : m.queue.Linked) {w : Waiting α} (hw : m.queue.pending[id]? = some w)
    (hid : id ∈ (m.run os).queue.order) : (m.run os).queue.pending[id]? = some w := by
  induction os using List.reverseRecOn with
  | nil => exact hw
  | append_singleton os o ih =>
    rw [run_concat] at hid ⊢
    have hrun := linked_run h os
    have hmem := (h.indexed.mem_order_iff id).mpr (mem_of_getElem? hw)
    refine ((m.run os).effect o).getElem?_pending hrun (ih (mem_order_run h hmem hid)) ?_
    exact ((linked_perform hrun o).indexed.mem_order_iff id).mp hid

theorem now_le_run (m : Moment α) (os : List (QueueOperation α)) : m.now ≤ (m.run os).now := by
  induction os generalizing m with
  | nil => exact le_rfl
  | cons o os ih =>
    refine Nat.le_trans ?_ (ih (m.perform o).2)
    cases o with
    | advance d => exact Nat.le_add_right _ _
    | enqueue | dequeue | succeed | fail => exact le_rfl

/-- **A job that is due stays so.** -/
theorem isReady_run (h : m.queue.Linked) (hready : m.queue.isReady m.now id = true)
    (hid : id ∈ (m.run os).queue.order) : (m.run os).queue.isReady (m.run os).now id = true := by
  obtain ⟨w, hw, hready⟩ := QueueState.isReady_iff.mp hready
  exact QueueState.isReady_iff.mpr ⟨w, getElem?_pending_run h hw hid, w.isReady_of_le (m.now_le_run os) hready⟩

end Moment

/-! ## Inherited places -/

/-- The job has the place of another, which it superseded itself or through others. -/
def Inherits (es : List (Event α)) : JobId → JobId → Prop :=
  Relation.TransGen fun new old => ∃ e ∈ es, e.answer = .enqueued (.superseded new old)

theorem Inherits.mono {es es' : List (Event α)} {a b : JobId} (h : Inherits es a b) (hsub : es ⊆ es') :
    Inherits es' a b :=
  Relation.TransGen.mono (fun _ _ ⟨e, he, ha⟩ => ⟨e, hsub he, ha⟩) _ _ h

/-- The job `b` has inherited, through the key that it shares, a place ahead of the job `a` at the moment `m`. -/
def Moment.IsHeirAhead (m : Moment α) (es : List (Event α)) (b : Job α) (a : JobId) : Prop :=
  ∃ c w k, m.queue.Ahead c a ∧ m.queue.pending[c]? = some w ∧ w.job.key = some k ∧ b.key = some k ∧
    Inherits es b.id c

namespace Moment

variable {m : Moment α} {a : JobId} {b : Waiting α} {os : List (QueueOperation α)}

/-- **Who comes later and waits ahead of a job has inherited the place.** -/
theorem isHeirAhead_of_ahead (h : m.queue.Linked) (ha : a ∈ m.queue.order) (ha' : a ∈ (m.run os).queue.order)
    (hb : b.job.id ∉ m.queue.order) (hb' : (m.run os).queue.pending[b.job.id]? = some b)
    (hahead : (m.run os).queue.Ahead b.job.id a) : m.IsHeirAhead (m.history os) b.job a := by
  induction os using List.reverseRecOn generalizing b with
  | nil => exact absurd (hahead.subset List.mem_cons_self) hb
  | append_singleton os o ih =>
    rw [run_concat] at ha' hb' hahead
    have hrun := linked_run h os
    have he := (m.run os).effect o
    have hma := mem_order_run h ha ha'
    have hearlier : m.history os ⊆ m.history (os ++ [o]) := history_concat m os o ▸ List.subset_append_left _ _
    by_cases hmb : b.job.id ∈ (m.run os).queue.order
    · -- it was ahead already
      obtain ⟨w, hw⟩ := exists_getElem? ((hrun.indexed.mem_order_iff _).mp hmb)
      have hmem := ((linked_perform hrun o).indexed.mem_order_iff _).mp (hahead.subset List.mem_cons_self)
      obtain rfl : w = b := Option.some.inj ((he.getElem?_pending hrun hw hmem).symm.trans hb')
      have hbefore := ((he.reorders hrun).ahead_iff hrun hmb hma (hahead.subset List.mem_cons_self) ha').mpr hahead
      obtain ⟨c, v, k, hca, hv, hvk, hbk, hinherits⟩ := ih hma hb hw hbefore
      exact ⟨c, v, k, hca, hv, hvk, hbk, hinherits.mono hearlier⟩
    · -- it came in this event
      obtain ⟨old, hanswer, hold⟩ := (he.reorders hrun).exists_inherited hmb hahead
      have hreported : QueueAnswer.reported? o ((m.run os).perform o).1 = some (old, .superseded) := by
        rw [hanswer]
        rfl
      obtain ⟨new, k, v, w, hnew, -, hv, hvk, hw, hwk⟩ := he.exists_successor hrun hreported
      obtain rfl : b.job.id = new := by simpa using hanswer.symm.trans hnew
      obtain rfl : w = b := Option.some.inj (hw.symm.trans hb')
      obtain rfl : v.job.id = old := hrun.indexed.id_eq old v hv
      have hlink : Inherits (m.history (os ++ [o])) w.job.id v.job.id :=
        .single ⟨(m.run os).event o, by simp [history_concat], hanswer⟩
      by_cases hmold : v.job.id ∈ m.queue.order
      · obtain ⟨u, hu⟩ := exists_getElem? ((h.indexed.mem_order_iff _).mp hmold)
        have hrunning := hold.subset List.mem_cons_self
        obtain rfl : u = v := Option.some.inj ((getElem?_pending_run h hu hrunning).symm.trans hv)
        exact ⟨u.job.id, u, k, (ahead_run_iff h hmold ha hrunning hma).mpr hold, hu, hvk, hwk, hlink⟩
      · obtain ⟨c, u, k', hca, hu, huk, hvk', hinherits⟩ := ih hma hmold hv hold
        obtain rfl : k = k' := Option.some.inj (hvk.symm.trans hvk')
        exact ⟨c, u, k, hca, hu, huk, hwk, hlink.trans (hinherits.mono hearlier)⟩

/-- What is handed out was ahead of all else that is due. -/
theorem ahead_of_handsOut (h : m.queue.Linked) {job : Job α} (hjob : (m.event .dequeue).HandsOut job)
    (ha : a ∈ m.queue.order) (hready : m.queue.isReady m.now a = true) (hne : a ≠ job.id) :
    m.queue.Ahead job.id a := by
  have he := m.effect .dequeue
  have hjob : (m.perform .dequeue).1 = .dequeued (some job) := hjob
  generalize (m.perform .dequeue).2.queue = s' at he
  rw [hjob] at he
  cases he with
  | @handedOut id w hfirst hw =>
    obtain rfl := h.indexed.id_eq id w hw
    obtain ⟨hfound, before, after, hsplit, hbefore⟩ := List.find?_eq_some_iff_append.mp hfirst
    have hnot {i : JobId} (hi : m.queue.isReady m.now i = true) : i ∉ before := fun hmem => by
      simpa [hi] using hbefore i hmem
    rw [hsplit, List.mem_append, List.mem_cons] at ha
    rw [QueueState.Ahead, hsplit, pair_sublist_iff (hnot hfound)]
    exact (ha.resolve_left (hnot hready)).resolve_left hne

/-- How the jobs that wait at the moment `m` and later come to their turns on the operations `os`. -/
structure KeepsOrder (m : Moment α) (os : List (QueueOperation α)) : Prop where
  ordered : ∀ e ∈ m.history os, e.Ordered
  /-- Two jobs that go on waiting keep their order. -/
  ahead_iff : ∀ a b, a ∈ m.queue.order → b ∈ m.queue.order → a ∈ (m.run os).queue.order →
    b ∈ (m.run os).queue.order → (m.queue.Ahead a b ↔ (m.run os).queue.Ahead a b)
  /-- A job that is due stays so. -/
  due : ∀ a, m.queue.isReady m.now a = true → a ∈ (m.run os).queue.order →
    (m.run os).queue.isReady (m.run os).now a = true
  /-- A job that came later is handed out before one that is due only in a place that was ahead already. -/
  overtaken : ∀ a ∈ m.queue.order, a ∈ (m.run os).queue.order → (m.run os).queue.isReady (m.run os).now a = true →
    ∀ b, b.id ∉ m.queue.order → ((m.run os).event .dequeue).HandsOut b → m.IsHeirAhead (m.history os) b a

end Moment

/-- **Jobs come to their turns in the order in which their places were taken**, from any moment on. -/
theorem keepsOrder_run (policy : RetryPolicy) (retention : Nat) (earlier later : List (QueueOperation α)) :
    ((Moment.start policy retention).run earlier).KeepsOrder later := by
  have h : ((Moment.start policy retention : Moment α).run earlier).queue.Linked :=
    Moment.linked_run (Moment.linked_start policy retention) earlier
  have hrun := Moment.linked_run h later
  refine ⟨Moment.forall_mem_history h (fun _ o hm => Moment.ordered_event hm o) later,
    fun a b ha hb ha' hb' => Moment.ahead_run_iff h ha hb ha' hb', fun a hready ha' => Moment.isReady_run h hready ha',
    fun a ha ha' hready job hb hjob => ?_⟩
  obtain ⟨b, hb', rfl, -⟩ := Moment.pending_of_handsOut hrun hjob
  have hne : a ≠ b.job.id := fun heq => hb (heq ▸ ha)
  exact Moment.isHeirAhead_of_ahead h ha ha' hb hb' (Moment.ahead_of_handsOut hrun hjob ha' hready hne)

/-- The last of three jobs is handed out first, in the place of the first, whose key it has. -/
example : handedOut ((Moment.start ⟨3, .zero, .zero⟩ 16).history
    [.enqueue ⟨1, some "site"⟩, .enqueue ⟨2, none⟩, .enqueue ⟨3, some "site"⟩, .dequeue]) = [3] := by cbv

end Rollout
