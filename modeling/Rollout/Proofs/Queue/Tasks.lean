import Mathlib.Algebra.GroupWithZero.Nat
import Rollout.Job.Queue.Lemmas
import Rollout.Proofs.Queue.Live

/-!
# Tasks of a queue

What waits in a queue, without the ids and keys of the jobs, is a list of tasks in queue order (`QueueState.tasks`). A
worker is given the first task that is ready, and the others stay where they are (`Queue.handsOut_or_idle`). When its job
is marked, what is left to be tried of the task goes behind all others (`Queue.HandsOut.mark`), and fewer runs are left
than before (`Queue.HandsOut.runsLeft_lt`).
-/

namespace Rollout

variable {α : Type}

/-- What waits to be done. -/
structure Task (α : Type) where
  data : α
  attempt : Nat
  due : Option Instant
deriving DecidableEq

namespace Task

def isReady (now : Instant) (t : Task α) : Bool :=
  match t.due with
  | none => true
  | some due => due ≤ now

/-- What is left to be tried of a task that came to this result. -/
def next? (policy : RetryPolicy) (now : Instant) (t : Task α) : Except JobError Unit → Option (Task α)
  | .ok _ => none
  | .error e =>
    if e.failureKind = .retryable ∧ t.attempt < policy.maxAttempts then
      some { t with
        attempt := t.attempt + 1
        due := some (Instant.after now (policy.delayFor (t.attempt + 1))) }
    else none

/-- How many more runs a task can cause, whatever their results. -/
def runsLeft (maxAttempts : Nat) (t : Task α) : Nat := max 1 (maxAttempts + 1 - t.attempt)

/-- The first task that is ready is the first of those that matter, if it does. -/
theorem find?_filter {ready matters : Task α → Bool} {before after : List (Task α)} {t : Task α}
    (hbefore : ∀ u ∈ before, ready u = false) (hready : ready t = true) (ht : matters t = true) :
    ((before ++ t :: after).filter matters).find? ready = some t ∧
      ((before ++ t :: after).filter matters).eraseP ready = (before ++ after).filter matters := by
  have hnone : ∀ u ∈ before.filter matters, ¬ready u = true := fun u hu =>
    Bool.eq_false_iff.mp (hbefore u (List.mem_filter.mp hu).1)
  rw [List.filter_append, List.filter_cons_of_pos ht, List.filter_append]
  constructor
  · rw [List.find?_append, List.find?_eq_none.mpr hnone, Option.none_or, List.find?_cons_of_pos hready]
  · rw [List.eraseP_append_right _ hnone, List.eraseP_cons_of_pos hready]

theorem data_of_next? {policy : RetryPolicy} {now : Instant} {t t' : Task α} {result : Except JobError Unit}
    (h : t.next? policy now result = some t') : t'.data = t.data := by
  unfold next? at h
  split at h
  · cases h
  · split at h
    · rw [← Option.some.inj h]
    · cases h

/-- The next attempt can cause fewer runs. -/
theorem runsLeft_next? {policy : RetryPolicy} {now : Instant} {t t' : Task α} {result : Except JobError Unit}
    (h : t.next? policy now result = some t') : t'.runsLeft policy.maxAttempts < t.runsLeft policy.maxAttempts := by
  unfold next? at h
  split at h
  · cases h
  · split at h
    · next hretry =>
      rw [← Option.some.inj h, runsLeft, runsLeft]
      have hattempts := hretry.2
      dsimp only
      omega
    · cases h

end Task

def Waiting.task (w : Waiting α) : Task α := ⟨w.job.data, w.job.attempt, w.due⟩

namespace QueueState

variable {s : QueueState α}

/-- What waits, in queue order. -/
def tasks (s : QueueState α) : List (Task α) := s.waiting.map Waiting.task

theorem Linked.tasks_enlist (h : s.Linked) {w : Waiting α} (hid : w.job.id = s.created + 1) :
    (s.enlist w).tasks = s.tasks ++ [w.task] := by
  rw [tasks, h.waiting_enlist hid, List.map_append, ← tasks, List.map_singleton]

/-- Nobody waits under the key of a job that has just been handed out. -/
theorem Linked.covering?_handOut (h : s.Linked) {id : JobId} {w : Waiting α} (hw : s.pending[id]? = some w) :
    (s.handOut id w.job).covering? w.job = none := by
  refine Option.eq_none_iff_forall_ne_some.mpr fun other hcovered => ?_
  obtain ⟨k, v, hk, hv, hvk⟩ := (h.handOut hw).indexed.covering hcovered
  have hpending : (s.pending.erase id)[other]? = some v := hv
  rw [getElem?_erased] at hpending
  split at hpending
  · cases hpending
  · next hne => exact hne (h.id_eq_of_key hpending hw hvk hk)

section Marks

variable {job : Job α} {task : Task α} (hruns : s.running[job.id]? = some job)

include hruns

theorem tasks_markSucceeded : (s.markSucceeded job.id).1 = .ok () ∧ (s.markSucceeded job.id).2.policy = s.policy ∧
    (s.markSucceeded job.id).2.tasks = s.tasks := by
  rw [markSucceeded_of_running hruns]
  exact ⟨rfl, rfl, rfl⟩

/-- A retry is put behind all others, unless the failure is final. -/
theorem Linked.tasks_markFailed (h : s.Linked) (hfree : s.covering? job = none) (hdata : job.data = task.data)
    (hattempt : job.attempt = task.attempt) (now : Instant) (e : JobError) :
    ∃ status, (s.markFailed now job.id e.message e.failureKind).1 = .ok status ∧
      (s.markFailed now job.id e.message e.failureKind).2.policy = s.policy ∧
      (s.markFailed now job.id e.message e.failureKind).2.tasks =
        s.tasks ++ (task.next? s.policy now (.error e)).toList := by
  by_cases hkind : e.failureKind = .retryable ∧ job.attempt < s.policy.maxAttempts
  · rw [markFailed_of_free hruns hkind hfree]
    refine ⟨.failed, rfl, rfl, ?_⟩
    have hnext : task.next? s.policy now (.error e) = some ((s.settle job.id .failed).nextAttempt now job).task := by
      rw [Task.next?, if_pos (hattempt ▸ hkind), ← hdata, ← hattempt]
      rfl
    have hlinked : (s.settle job.id .failed).Linked := h.settle hruns rfl
    rw [hnext]
    exact hlinked.tasks_enlist rfl
  · rw [markFailed_of_final hruns hkind]
    refine ⟨.deadLetter, rfl, rfl, ?_⟩
    rw [Task.next?, if_neg (hattempt ▸ hkind)]
    exact (List.append_nil _).symm

end Marks

end QueueState

namespace Queue

variable {q q' : Queue α} {now : Instant} {job : Job α} {task : Task α}

theorem runsLeft_eq (q : Queue α) : q.runsLeft = (q.tasks.map (Task.runsLeft q.policy.maxAttempts)).sum := by
  rw [runsLeft, QueueState.tasks, List.map_map, List.sum_eq_foldr, List.foldr_map]
  rfl

/-- The queue gives the task to a worker as a job; before and behind the task are the others. -/
structure HandsOut (q : Queue α) (now : Instant) (before : List (Task α)) (task : Task α) (after : List (Task α))
    (job : Job α) (q' : Queue α) : Prop where
  dequeue : q.dequeue now = (some job, q')
  tasks : q.tasks = before ++ task :: after
  not_ready : ∀ t ∈ before, t.isReady now = false
  ready : task.isReady now = true
  left : q'.tasks = before ++ after
  policy : q'.policy = q.policy
  data : job.data = task.data
  attempt : job.attempt = task.attempt
  runs : q'.running[job.id]? = some job
  free : q'.covering? job = none

/-- **A queue hands out the first task that is ready**, if there is one. -/
theorem handsOut_or_idle (q : Queue α) (now : Instant) :
    ((q.dequeue now).1 = none ∧ ∀ t ∈ q.tasks, t.isReady now = false) ∨
      ∃ before task after job q', q.HandsOut now before task after job q' := by
  rcases q.dequeue_cases now with ⟨hnone, hwait⟩ | ⟨id, w, hfind, hw, hready, hdequeue⟩
  · refine .inl ⟨congrArg Prod.fst hnone, fun t ht => ?_⟩
    obtain ⟨w, hw, rfl⟩ := List.mem_map.mp ht
    obtain ⟨id, hid, hpending⟩ := List.mem_filterMap.mp hw
    have hwaits := hwait id hid
    rwa [QueueState.isReady, hpending] at hwaits
  · obtain ⟨before, after, hsplit, hbefore⟩ := (List.find?_eq_some_iff_append.mp hfind).2
    obtain ⟨hwaiting, hleft⟩ := q.linked.waiting_handOut_of_order hsplit hw
    have hid := q.linked.indexed.id_eq id w hw
    refine .inr ⟨(before.filterMap (q.pending[·]?)).map Waiting.task, w.task,
      (after.filterMap (q.pending[·]?)).map Waiting.task, w.job, ⟨q.handOut id w.job, q.linked.handOut hw⟩,
      { dequeue := ?_, tasks := ?_, not_ready := ?_, ready := hready, left := ?_, policy := rfl, data := rfl
        attempt := rfl, runs := getElem?_inserted.trans (if_pos rfl), free := q.linked.covering?_handOut hw }⟩
    · simp only [dequeue, hdequeue]
    · rw [QueueState.tasks, hwaiting, List.map_append, List.map_cons]
    · intro t ht
      obtain ⟨v, hv, rfl⟩ := List.mem_map.mp ht
      obtain ⟨i, hi, hpending⟩ := List.mem_filterMap.mp hv
      have hwaits := hbefore i hi
      rw [QueueState.isReady, hpending, Bool.not_eq_true'] at hwaits
      exact hwaits
    · rw [QueueState.tasks, hleft, List.map_append]

namespace HandsOut

variable {before after : List (Task α)}

/-- A single task has no others before or behind it. -/
theorem eq_of_single (h : q.HandsOut now before task after job q') {t : Task α} (htasks : q.tasks = [t]) :
    before = [] ∧ task = t ∧ after = [] := by
  obtain ⟨rfl, hrest⟩ | ⟨rest, -, hnil⟩ := List.cons_eq_append_iff.mp (htasks.symm.trans h.tasks)
  · obtain ⟨rfl, rfl⟩ := List.cons.inj hrest
    exact ⟨rfl, rfl, rfl⟩
  · cases (List.append_eq_nil_iff.mp hnil.symm).2

/-- **What is left to be tried goes behind all others** when the job is marked by its result. -/
theorem mark (h : q.HandsOut now before task after job q') (later : Instant) (result : Except JobError Unit) :
    ∃ status q'', q'.mark later job.id result = .ok (status, q'') ∧ q''.policy = q.policy ∧
      q''.tasks = before ++ after ++ (task.next? q.policy later result).toList := by
  rw [← h.left, ← h.policy]
  cases result with
  | ok _ =>
    obtain ⟨hok, hpolicy, htasks⟩ := QueueState.tasks_markSucceeded h.runs
    refine ⟨.succeeded, ⟨_, q'.linked.markSucceeded job.id⟩, ?_, hpolicy, htasks.trans (List.append_nil _).symm⟩
    rw [Queue.mark, markSucceeded, hok]
    rfl
  | error e =>
    obtain ⟨status, hstatus, hpolicy, htasks⟩ := q'.linked.tasks_markFailed h.runs h.free h.data h.attempt later e
    refine ⟨status, ⟨_, q'.linked.markFailed later job.id e.message e.failureKind⟩, ?_, hpolicy, htasks⟩
    rw [Queue.mark, markFailed, hstatus]
    rfl

/-- Fewer runs are left when a task has been tried once more. -/
theorem runsLeft_lt (h : q.HandsOut now before task after job q') {q'' : Queue α} (hpolicy : q''.policy = q.policy)
    {later : Instant} {result : Except JobError Unit}
    (htasks : q''.tasks = before ++ after ++ (task.next? q.policy later result).toList) :
    q''.runsLeft < q.runsLeft := by
  have hpos : 0 < task.runsLeft q.policy.maxAttempts := Nat.lt_of_lt_of_le Nat.one_pos (Nat.le_max_left 1 _)
  rw [runsLeft_eq, runsLeft_eq, htasks, hpolicy, h.tasks]
  simp only [List.map_append, List.map_cons, List.sum_append, List.sum_cons]
  cases hnext : task.next? q.policy later result with
  | none =>
    simp only [Option.toList_none, List.map_nil, List.sum_nil]
    omega
  | some next =>
    have hlt := Task.runsLeft_next? hnext
    simp only [Option.toList_some, List.map_singleton, List.sum_singleton]
    omega

end HandsOut

end Queue

end Rollout
