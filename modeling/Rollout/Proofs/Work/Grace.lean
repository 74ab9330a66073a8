import Mathlib.Order.MinMax
import Rollout.Job.Wait
import Rollout.Proofs.Queue.Tasks
import Rollout.Proofs.Work.Routing

/-!
# Stops and their grace

A run is asked to stop by a shutdown or by its deadline, whichever is first (`Worker.StopsAt`), and may go on for a
grace after that. The waits of a worker come to an end as `Worker.settle` says, and not before
(`Wait.looks_eq_over_iff`): between two looks they are where `Wait.expected` puts them. So a worker comes back with the
result of its handler if that is in time, and else with the reason of the stop (`Worker.comesBack_of_dequeue`).
-/

namespace Rollout

/-! ## The stop of a run -/

namespace Context

variable {c : Context} {now start s t : Instant} {reason : Stop}

theorem hasPassed_some {t : Instant} : hasPassed now (some t) = true ↔ t ≤ now := decide_eq_true_iff

theorem hasPassed_eq_false {o : Option Instant} (h : o = some t) (hlt : now < t) : hasPassed now o = false := by
  rw [h, Bool.eq_false_iff, Ne, hasPassed_some]
  exact Nat.not_le.mpr hlt

theorem stop?_of_cancelled (h : c.cancelledAt = some t) (hle : t ≤ now) : c.stop? now = some .cancelled := by
  rw [stop?, h, if_pos (hasPassed_some.mpr hle)]

theorem stop?_of_deadline (h : c.deadline = some t) (hle : t ≤ now) (hfirst : hasPassed now c.cancelledAt = false) :
    c.stop? now = some .deadlineExceeded := by
  rw [stop?, h, if_neg (Bool.eq_false_iff.mp hfirst), if_pos (hasPassed_some.mpr hle)]

theorem stop?_eq_none_iff :
    c.stop? now = none ↔ hasPassed now c.cancelledAt = false ∧ hasPassed now c.deadline = false := by
  rw [← Option.not_isSome_iff_eq_none, isSome_stop?, isCancelled, Bool.not_eq_true, Bool.or_eq_false_iff]

/-- What holds at some time has been a reason to stop since the stop, or another has. -/
theorem exists_stopsAt_of_stop? (hle : start ≤ t) (h : c.stop? t = some reason) :
    ∃ s r, c.stopsAt start = some (s, r) ∧ s ≤ t := by
  cases hstart : c.stop? start with
  | some r => exact ⟨start, r, stopsAt_of_stop? hstart, hle⟩
  | none =>
    have hpassed : hasPassed t c.cancelledAt = true ∨ hasPassed t c.deadline = true := by
      rw [← Bool.or_eq_true, ← isCancelled, ← isSome_stop?, h, Option.isSome_some]
    cases hcancelled : c.cancelledAt with
    | none =>
      cases hdeadline : c.deadline with
      | none => simp [hcancelled, hdeadline, hasPassed] at hpassed
      | some d =>
        refine ⟨d, .deadlineExceeded, by simp only [stopsAt, hstart, hcancelled, hdeadline], ?_⟩
        simpa [hcancelled, hdeadline, hasPassed] using hpassed
    | some a =>
      cases hdeadline : c.deadline with
      | none =>
        refine ⟨a, .cancelled, by simp only [stopsAt, hstart, hcancelled, hdeadline], ?_⟩
        simpa [hcancelled, hdeadline, hasPassed] using hpassed
      | some d =>
        simp only [stopsAt, hstart, hcancelled, hdeadline]
        rw [hcancelled, hdeadline, hasPassed_some, hasPassed_some] at hpassed
        split
        · next hfirst => exact ⟨a, _, rfl, hpassed.elim id hfirst.trans⟩
        · next hfirst => exact ⟨d, _, rfl, hpassed.elim (Nat.le_of_lt (Nat.lt_of_not_le hfirst)).trans id⟩

/-- A context stops at the first instant at which it has a reason to. -/
theorem stopsAt_of_first (hle : start ≤ t) (h : c.stop? t = some reason)
    (hfirst : ∀ u, start ≤ u → u < t → c.stop? u = none) : c.stopsAt start = some (t, reason) := by
  obtain ⟨s, r, hstops, hs⟩ := exists_stopsAt_of_stop? hle h
  have hreason := stop?_of_stopsAt hstops
  obtain hlt | rfl := Nat.lt_or_eq_of_le hs
  · cases hreason.symm.trans (hfirst s (le_of_stopsAt hstops) hlt)
  · cases hreason.symm.trans h
    exact hstops

end Context

namespace Worker

/--
When a run that started at `start` is asked to stop, and why: at its cancellation, or at once if that was before, or
when its time is up. At one and the same instant it is the cancellation that counts.
-/
inductive StopsAt (c : WorkerConfig) (cancelled : Option Instant) (start : Instant) : Instant → Stop → Prop where
  | cancelled {t : Instant} (hcancelled : cancelled = some t)
      (hfirst : ∀ timeout, c.jobTimeout = some timeout → max start t ≤ Instant.after start timeout) :
    StopsAt c cancelled start (max start t) .cancelled
  | deadlineExceeded {timeout : Duration} (htimeout : c.jobTimeout = some timeout)
      (hfirst : ∀ t, cancelled = some t → Instant.after start timeout < max start t) :
    StopsAt c cancelled start (Instant.after start timeout) .deadlineExceeded

variable {c : WorkerConfig} {cancelled : Option Instant} {start s : Instant} {reason : Stop}

theorem deadline_context {timeout : Duration} (h : c.jobTimeout = some timeout) :
    (context c cancelled start).deadline = some (Instant.after start timeout) := by
  simp only [context, deadline, h, Option.map_some]

theorem StopsAt.stopsAt (h : StopsAt c cancelled start s reason) :
    (context c cancelled start).stopsAt start = some (s, reason) := by
  cases h with
  | @cancelled t hcancelled hfirst =>
    refine Context.stopsAt_of_first (Nat.le_max_left start t)
      (Context.stop?_of_cancelled hcancelled (Nat.le_max_right start t)) fun u hle hlt => ?_
    refine Context.stop?_eq_none_iff.mpr ⟨?_, ?_⟩
    · have hut : u < t := (lt_max_iff.mp hlt).resolve_left (Nat.not_lt.mpr hle)
      exact Context.hasPassed_eq_false hcancelled hut
    · cases htimeout : c.jobTimeout with
      | none => simp only [context, deadline, htimeout, Option.map_none, Context.hasPassed]
      | some timeout =>
        exact Context.hasPassed_eq_false (deadline_context htimeout) (hlt.trans_le (hfirst timeout htimeout))
  | @deadlineExceeded timeout htimeout hfirst =>
    have hdeadline : (context c cancelled start).deadline = some (Instant.after start timeout) :=
      deadline_context htimeout
    have hrunning {u : Instant} (hle : start ≤ u) (hu : u ≤ Instant.after start timeout) :
        Context.hasPassed u cancelled = false := by
      cases hcancelled : cancelled with
      | none => rfl
      | some t =>
        have hlt := hu.trans_lt (hfirst t hcancelled)
        exact Context.hasPassed_eq_false rfl ((lt_max_iff.mp hlt).resolve_left (Nat.not_lt.mpr hle))
    refine Context.stopsAt_of_first (Nat.le_add_right start _)
      (Context.stop?_of_deadline hdeadline le_rfl (hrunning (Nat.le_add_right start _) le_rfl)) fun u hle hlt => ?_
    exact Context.stop?_eq_none_iff.mpr ⟨hrunning hle hlt.le, Context.hasPassed_eq_false hdeadline hlt⟩

theorem exists_stopsAt_of_cancelled {t : Instant} (hcancelled : cancelled = some t) :
    ∃ s reason, StopsAt c cancelled start s reason := by
  by_cases hfirst : ∀ timeout, c.jobTimeout = some timeout → max start t ≤ Instant.after start timeout
  · exact ⟨_, _, .cancelled hcancelled hfirst⟩
  · simp only [not_forall, Nat.not_le] at hfirst
    obtain ⟨timeout, htimeout, hlt⟩ := hfirst
    refine ⟨_, _, .deadlineExceeded htimeout fun t' ht' => ?_⟩
    cases hcancelled.symm.trans ht'
    exact hlt

theorem stopsAt_context_iff :
    (context c cancelled start).stopsAt start = some (s, reason) ↔ StopsAt c cancelled start s reason := by
  refine ⟨fun h => ?_, StopsAt.stopsAt⟩
  have hexists : ∃ s reason, StopsAt c cancelled start s reason := by
    cases hcancelled : cancelled with
    | some t => exact exists_stopsAt_of_cancelled rfl
    | none =>
      cases htimeout : c.jobTimeout with
      | some timeout => exact ⟨_, _, .deadlineExceeded htimeout fun t ht => by cases ht⟩
      | none =>
        have hstop := Context.stop?_of_stopsAt h
        simp [context, deadline, htimeout, hcancelled, Context.stop?, Context.hasPassed] at hstop
  obtain ⟨s', reason', hstops⟩ := hexists
  cases h.symm.trans hstops.stopsAt
  exact hstops

end Worker

/-! ## The waits -/

theorem Completion.isOver_iff {completion : Completion} {now : Instant} :
    completion.isOver now = true ↔ ∃ t, completion.instant? = some t ∧ t ≤ now := by
  cases h : completion.instant? <;> simp [isOver, h, Context.hasPassed]

namespace Wait

/-- Where the waits for a run are at `t`. -/
def expected (grace : Duration) (c : Context) (completion : Completion) (start t : Instant) : Wait :=
  let ending := Worker.settle grace c start completion
  if ending.isOver t then .over ending
  else
    match c.stopsAt start with
    | some (s, reason) => if s ≤ t then .grace reason (Instant.after s grace) else .handler
    | none => .handler

variable {grace : Duration} {c : Context} {completion : Completion} {start s t : Instant} {reason : Stop}

/-- A run that is over before its grace ends is over as it is. -/
theorem settle_of_isOver (hover : completion.isOver t = true)
    (htime : ∀ s reason, c.stopsAt start = some (s, reason) → t ≤ Instant.after s grace) :
    Worker.settle grace c start completion = completion := by
  obtain ⟨f, hf, hle⟩ := Completion.isOver_iff.mp hover
  exact Worker.settle_of_inTime fun s reason hstops => ⟨f, hf, hle.trans (htime s reason hstops)⟩

theorem expected_of_isOver (hover : completion.isOver t = true)
    (htime : ∀ s reason, c.stopsAt start = some (s, reason) → t ≤ Instant.after s grace) :
    expected grace c completion start t = .over completion := by
  rw [expected, settle_of_isOver hover htime]
  exact if_pos hover

/-- A run that is not over is settled later, unless its grace ends. -/
theorem isOver_settle_eq_false (hover : completion.isOver t = false)
    (hgrace : ∀ s reason, c.stopsAt start = some (s, reason) → t < Instant.after s grace) :
    (Worker.settle grace c start completion).isOver t = false := by
  rcases Worker.settle_cases grace c start completion with ⟨hsettle, -⟩ | ⟨s, reason, hstops, -, hsettle⟩
  · rw [hsettle, hover]
  · rw [hsettle]
    exact Context.hasPassed_eq_false rfl (hgrace s reason hstops)

/-- No look comes after the end of the grace, so that the handler is found in time if it is over. -/
theorem lookInGrace_eq (hstops : c.stopsAt start = some (s, reason)) (hs : s ≤ t) (ht : t ≤ Instant.after s grace) :
    lookInGrace completion reason (Instant.after s grace) t = expected grace c completion start t := by
  have hstop {s' : Instant} {reason' : Stop} (h : c.stopsAt start = some (s', reason')) : s' = s := by
    cases hstops.symm.trans h
    rfl
  cases hover : completion.isOver t with
  | true =>
    rw [lookInGrace, if_pos hover, expected_of_isOver hover fun s' reason' h => hstop h ▸ ht]
  | false =>
    rw [lookInGrace, hover, if_neg Bool.false_ne_true]
    by_cases hlimit : Instant.after s grace ≤ t
    · obtain rfl : t = Instant.after s grace := le_antisymm ht hlimit
      have hlate : ∀ f, completion.instant? = some f → Instant.after s grace < f := fun f hf =>
        Nat.lt_of_not_le fun hle => Bool.false_ne_true (hover.symm.trans (Completion.isOver_iff.mpr ⟨f, hf, hle⟩))
      rw [if_pos le_rfl, expected, Worker.settle_of_late hstops hlate]
      exact (if_pos (Context.hasPassed_some.mpr le_rfl)).symm
    · have hsettle : (Worker.settle grace c start completion).isOver t = false :=
        isOver_settle_eq_false hover fun s' reason' h => hstop h ▸ Nat.lt_of_not_le hlimit
      simp only [expected, hsettle, hstops, if_neg hlimit, if_pos hs, Bool.false_eq_true, if_false]

/-- While the handler is waited for, no look comes after the stop. -/
theorem look_handler_eq (hstart : start ≤ t) (hs : ∀ s reason, c.stopsAt start = some (s, reason) → t ≤ s) :
    look grace c completion t .handler = expected grace c completion start t := by
  cases hover : completion.isOver t with
  | true =>
    rw [look, if_pos hover, expected_of_isOver hover fun s reason h => (hs s reason h).trans (Nat.le_add_right _ _)]
  | false =>
    rw [look, hover, if_neg Bool.false_ne_true]
    cases hstop : c.stop? t with
    | some reason =>
      obtain ⟨s, r, hstops, hle⟩ := Context.exists_stopsAt_of_stop? hstart hstop
      obtain rfl : s = t := le_antisymm hle (hs s r hstops)
      cases (Context.stop?_of_stopsAt hstops).symm.trans hstop
      exact lookInGrace_eq hstops le_rfl (Nat.le_add_right _ _)
    | none =>
      have hlt : ∀ s reason, c.stopsAt start = some (s, reason) → t < s := fun s reason hstops =>
        Nat.lt_of_le_of_ne (hs s reason hstops) fun heq => by
          cases (Context.stop?_of_stopsAt hstops).symm.trans (heq ▸ hstop)
      have hsettle : (Worker.settle grace c start completion).isOver t = false :=
        isOver_settle_eq_false hover fun s reason h => (hlt s reason h).trans_le (Nat.le_add_right _ _)
      simp only [expected, hsettle, Bool.false_eq_true, if_false]
      cases hstops : c.stopsAt start with
      | none => rfl
      | some stop => exact (if_neg (Nat.not_le.mpr (hlt stop.1 stop.2 hstops))).symm

/-- The grace of a run that is not over has not ended. -/
theorem lt_of_isOver_settle_eq_false (hstops : c.stopsAt start = some (s, reason))
    (hover : (Worker.settle grace c start completion).isOver t = false) : t < Instant.after s grace := by
  refine Nat.lt_of_not_le fun hle => Bool.false_ne_true (hover.symm.trans (Completion.isOver_iff.mpr ?_))
  rcases Worker.settle_cases grace c start completion with ⟨hsettle, htime⟩ | ⟨s', reason', hstops', -, hsettle⟩
  · obtain ⟨f, hf, hlimit⟩ := htime s reason hstops
    exact ⟨f, (congrArg _ hsettle).trans hf, hlimit.trans hle⟩
  · cases hstops.symm.trans hstops'
    exact ⟨Instant.after s grace, hsettle ▸ rfl, hle⟩

/-- One look after the other finds the waits where they are expected. -/
theorem look_expected (hstart : start ≤ t) :
    look grace c completion (t + 1) (expected grace c completion start t) =
      expected grace c completion start (t + 1) := by
  have hlater : start ≤ t + 1 := hstart.trans (Nat.le_succ t)
  cases hover : (Worker.settle grace c start completion).isOver t with
  | true =>
    obtain ⟨f, hf, hle⟩ := Completion.isOver_iff.mp hover
    have hover' := Completion.isOver_iff.mpr ⟨f, hf, hle.trans (Nat.le_succ t)⟩
    simp only [expected, hover, hover', if_true, look]
  | false =>
    rw [expected, hover, if_neg Bool.false_ne_true]
    cases hstops : c.stopsAt start with
    | none => exact look_handler_eq hlater fun s reason h => by cases hstops.symm.trans h
    | some stop =>
      obtain ⟨s, reason⟩ := stop
      by_cases hs : s ≤ t
      · simp only [if_pos hs]
        exact lookInGrace_eq hstops (hs.trans (Nat.le_succ t)) (lt_of_isOver_settle_eq_false hstops hover)
      · simp only [if_neg hs]
        refine look_handler_eq hlater fun s' reason' h => ?_
        cases hstops.symm.trans h
        exact Nat.lt_of_not_le hs

theorem looks_eq (grace : Duration) (c : Context) (completion : Completion) (start : Instant) (n : Nat) :
    looks grace c completion start n = expected grace c completion start (start + n) := by
  induction n with
  | zero => exact look_handler_eq le_rfl fun s reason hstops => Context.le_of_stopsAt hstops
  | succ n ih =>
    rw [looks, ih]
    exact look_expected (Nat.le_add_right start n)

/-- **The waits end as the run is settled**, and at the instant at which it is. -/
theorem looks_eq_over_iff {ending : Completion} {n : Nat} :
    looks grace c completion start n = .over ending ↔
      ending = Worker.settle grace c start completion ∧ ∃ t, ending.instant? = some t ∧ t ≤ start + n := by
  rw [looks_eq, expected, ← Completion.isOver_iff]
  constructor
  · intro h
    split at h
    · next hover =>
      cases h
      exact ⟨rfl, hover⟩
    · split at h
      · split at h <;> cases h
      · cases h
  · rintro ⟨rfl, hover⟩
    exact if_pos hover

end Wait

/-! ## The mark -/

section Marks

variable {α : Type}

/-- What a queue makes of a job whose run came to a result. -/
def Job.verdict (policy : RetryPolicy) (job : Job α) : Except JobError Unit → JobStatus
  | .ok _ => .succeeded
  | .error e => if e.failureKind = .retryable ∧ job.attempt < policy.maxAttempts then .failed else .deadLetter

namespace QueueState

variable {s : QueueState α} {job : Job α}

theorem Linked.status?_settle_self (h : s.Linked) {id : JobId} (hid : id ∈ s.running) (status : JobStatus) :
    (s.settle id status).status? id = some status := by
  have hnot := not_mem_outdated h.retention_pos (h.tracked.not_mem_finished (.inr hid))
  rw [status?, QueueState.settle, getElem?_statuses_finish]
  exact (if_neg hnot).trans (if_pos rfl)

theorem running_settle_self (id : JobId) (status : JobStatus) : (s.settle id status).running[id]? = none :=
  getElem?_erased.trans (if_pos rfl)

/-- A job that failed is marked by the verdict on it, which is its status from then on. -/
theorem Linked.markFailed_verdict (h : s.Linked) (hid : s.running[job.id]? = some job) (now : Instant) (e : JobError) :
    ∃ s', s.markFailed now job.id e.message e.failureKind = (.ok (job.verdict s.policy (.error e)), s') ∧
      s'.running[job.id]? = none ∧ s'.status? job.id = some (job.verdict s.policy (.error e)) := by
  have hmem := mem_of_getElem? hid
  by_cases hkind : e.failureKind = .retryable ∧ job.attempt < s.policy.maxAttempts
  · rw [Job.verdict, if_pos hkind]
    have hstatus := h.status?_settle_self hmem .failed
    cases hc : s.covering? job with
    | some other => exact ⟨_, markFailed_of_covered hid hkind hc, running_settle_self _ _, hstatus⟩
    | none =>
      have hle := (h.id_le_created _ (h.mem_statuses_of_running hmem)).2
      have hold : job.id ≠ s.created + 1 := Nat.ne_of_lt (Nat.lt_succ_of_le hle)
      refine ⟨_, markFailed_of_free hid hkind hc, running_settle_self job.id .failed, ?_⟩
      exact (getElem?_inserted.trans (if_neg hold)).trans hstatus
  · rw [Job.verdict, if_neg hkind]
    have hstatus := (h.bury job e.message).status?_settle_self hmem .deadLetter
    exact ⟨_, markFailed_of_final hid hkind, running_settle_self job.id .deadLetter, hstatus⟩

end QueueState

namespace Queue

variable {q : Queue α} {job : Job α} {now : Instant}

theorem mark_ok {id : JobId} {s' : QueueState α} (now : Instant) (h : q.toQueueState.markSucceeded id = (.ok (), s')) :
    ∃ q', q.mark now id (.ok ()) = .ok (.succeeded, q') ∧ q'.toQueueState = s' := by
  refine ⟨⟨_, q.linked.markSucceeded id⟩, ?_, congrArg Prod.snd h⟩
  rw [mark, markSucceeded, congrArg Prod.fst h]
  rfl

theorem mark_error {id : JobId} {e : JobError} {status : JobStatus} {s' : QueueState α}
    (h : q.toQueueState.markFailed now id e.message e.failureKind = (.ok status, s')) :
    ∃ q', q.mark now id (.error e) = .ok (status, q') ∧ q'.toQueueState = s' := by
  refine ⟨⟨_, q.linked.markFailed now id e.message e.failureKind⟩, ?_, congrArg Prod.snd h⟩
  rw [mark, markFailed, congrArg Prod.fst h]
  rfl

/-- A running job is marked by the verdict on it, which is its status from then on. -/
theorem mark_of_running (h : q.running[job.id]? = some job) (now : Instant) (result : Except JobError Unit) :
    ∃ q', q.mark now job.id result = .ok (job.verdict q.policy result, q') ∧ q'.running[job.id]? = none ∧
      q'.status? job.id = some (job.verdict q.policy result) := by
  cases result with
  | ok _ =>
    obtain ⟨q', hmark, hq'⟩ := mark_ok now (QueueState.markSucceeded_of_running h)
    refine ⟨q', hmark, ?_⟩
    rw [hq']
    exact ⟨QueueState.running_settle_self _ _, q.linked.status?_settle_self (mem_of_getElem? h) _⟩
  | error e =>
    obtain ⟨s', hfailed, hmarked⟩ := q.linked.markFailed_verdict h now e
    obtain ⟨q', hmark, hq'⟩ := mark_error hfailed
    exact ⟨q', hmark, hq' ▸ hmarked⟩

/-- What does not run cannot be marked. -/
theorem mark_of_not_running {id : JobId} (h : q.running[id]? = none) (now : Instant) (result : Except JobError Unit) :
    q.mark now id result = .error (QueueState.notRunning (toString id)) := by
  cases result with
  | ok _ =>
    rw [mark, markSucceeded, congrArg Prod.fst (QueueState.markSucceeded_of_not_running h)]
    rfl
  | error e =>
    rw [mark, markFailed, congrArg Prod.fst (QueueState.markFailed_of_not_running h)]
    rfl

end Queue

end Marks

/-! ## The turn of a worker -/

namespace Worker

variable {α τ : Type}

/--
The worker is given the job `job` by the queue `q`, which is `q₁` then, and comes back with it at `t`, when the result
counts as that of its run; `q'` is the queue after that.
-/
structure Finishes (c : WorkerConfig) (run : Job α → Context → Instant → Run τ) (shutdown : Option Instant)
    (now : Instant) (q q₁ : Queue α) (job : Job α) (t : Instant) (result : Except JobError Unit) (status : JobStatus)
    (q' : Queue α) : Prop where
  /-- What the handler did by then is kept. -/
  turn : processNext c run shutdown now q =
    (.finished job.id status t ((run job (context c shutdown now) now).trace.filter (·.1 ≤ t)), q')
  verdict : status = job.verdict q.policy result
  runs : q₁.running[job.id]? = some job
  /-- The job is marked. -/
  marked : q₁.mark t job.id result = .ok (status, q')
  /-- Nobody marks it again. -/
  once : ∀ later result', q'.mark later job.id result' = .error (QueueState.notRunning (toString job.id))
  left : q'.running[job.id]? = none
  recorded : q'.status? job.id = some status

/-- How and when a worker comes back from the run `r` of a job, when its handler may have cancelled it at `own`. -/
structure ComesBack (c : WorkerConfig) (run : Job α → Context → Instant → Run τ) (shutdown own : Option Instant)
    (now : Instant) (q q₁ : Queue α) (job : Job α) (r : Run τ) : Prop where
  /-- A result that comes before the grace is over counts. -/
  inTime : ∀ f result, r.completion = .returns f result →
    (∀ s reason, StopsAt c (earlier shutdown own) now s reason → f ≤ Instant.after s c.stopGrace) →
    ∃ status q', Finishes c run shutdown now q q₁ job f result status q'
  /-- A later one does not: the job fails when the grace is over, for the reason of the stop before it. -/
  abandoned : ∀ s reason, StopsAt c (earlier shutdown own) now s reason →
    (∀ f, r.completion.instant? = some f → Instant.after s c.stopGrace < f) →
    (JobError.ofStop reason).failureKind = .retryable ∧ ∃ status q',
      Finishes c run shutdown now q q₁ job (Instant.after s c.stopGrace) (.error (.ofStop reason)) status q'
  /-- Nothing else ends a run that is never asked to stop. -/
  endless : (∀ s reason, ¬StopsAt c (earlier shutdown own) now s reason) → r.completion = .never →
    processNext c run shutdown now q = (.stuck job.id r.trace, q₁)
  /-- The waits of the worker end so, and no look before that instant ends them. -/
  waits : ∀ n ending, Wait.looks c.stopGrace r.context r.completion now n = .over ending ↔
    ending = (settleRun c.stopGrace now r).completion ∧ ∃ t, ending.instant? = some t ∧ t ≤ now + n

section Turns

variable {c : WorkerConfig} {run : Job α → Context → Instant → Run τ} {shutdown : Option Instant} {now : Instant}
  {q q₁ : Queue α} {job : Job α} {r : Run τ}

theorem runs_of_dequeue (h : q.dequeue now = (some job, q₁)) :
    q₁.policy = q.policy ∧ q₁.running[job.id]? = some job := by
  rcases q.handsOut_or_idle now with ⟨hnone, -⟩ | ⟨before, task, after, job', q', hout⟩
  · rw [h] at hnone
    cases hnone
  · cases h.symm.trans hout.dequeue
    exact ⟨hout.policy, hout.runs⟩

theorem settleRun_eq {completion : Completion} {t : Instant}
    (h : settle c.stopGrace r.context now r.completion = completion) (ht : completion.instant? = some t) :
    settleRun c.stopGrace now r = { r with completion, trace := r.trace.filter (·.1 ≤ t) } := by
  simp only [settleRun, h, ht]

/-- What a run is settled to is what its job is marked by. -/
theorem exists_finishes (hdequeue : q.dequeue now = (some job, q₁)) (hr : run job (context c shutdown now) now = r)
    {t : Instant} {result : Except JobError Unit}
    (hsettle : settle c.stopGrace r.context now r.completion = .returns t result) :
    ∃ status q', Finishes c run shutdown now q q₁ job t result status q' := by
  obtain ⟨hpolicy, hruns⟩ := runs_of_dequeue hdequeue
  obtain ⟨q', hmark, hleft, hrecorded⟩ := Queue.mark_of_running hruns t result
  rw [hpolicy] at hmark hrecorded
  refine ⟨job.verdict q.policy result, q', ?_, rfl, hruns, hmark, fun later => Queue.mark_of_not_running hleft later,
    hleft, hrecorded⟩
  simp only [processNext, hdequeue, hr, settleRun_eq hsettle rfl, hmark]

/-- **A worker comes back from a job when its handler does**, or when its grace is over. -/
theorem comesBack_of_dequeue (c : WorkerConfig) (run : Job α → Context → Instant → Run τ)
    (shutdown own : Option Instant) (now : Instant) (q q₁ : Queue α) (job : Job α)
    (hdequeue : q.dequeue now = (some job, q₁))
    (hcontext : (run job (context c shutdown now) now).context = context c (earlier shutdown own) now) :
    ComesBack c run shutdown own now q q₁ job (run job (context c shutdown now) now) where
  inTime f result hreturns htime := by
    refine exists_finishes hdequeue rfl ((settle_of_inTime fun s reason hstops => ?_).trans hreturns)
    rw [hcontext, stopsAt_context_iff] at hstops
    exact ⟨f, hreturns ▸ rfl, htime s reason hstops⟩
  abandoned s reason hstops hlate :=
    ⟨by cases reason <;> rfl, exists_finishes hdequeue rfl (settle_of_late (hcontext ▸ hstops.stopsAt) hlate)⟩
  endless hnone hnever := by
    have hsettle : settle c.stopGrace (context c (earlier shutdown own) now) now .never = .never :=
      settle_of_inTime fun s reason hstops => absurd (stopsAt_context_iff.mp hstops) (hnone s reason)
    simp only [processNext, hdequeue, settleRun, hcontext, hnever, hsettle, Completion.instant?]
  waits n ending := Wait.looks_eq_over_iff

/-! ### A handler that does not listen -/

/-- Does its work until the instant 20, whatever its context says. -/
def deaf : Job String → Context → Instant → Run String := fun job context _ =>
  ⟨[(6, job.data), (19, job.data)], .returns 20 (.ok ()), context⟩

def oneJob : Queue String := ((Queue.empty ⟨3, .zero, .zero⟩ 4).enqueue ⟨"work", none⟩).2

def hasty : WorkerConfig := ⟨1, .zero, some (.ofNanos 5), .ofNanos 3⟩

/-- The deadline is at 5, and the shutdown at 7 comes while its grace lasts. -/
theorem comesBack_of_deaf : ∃ status q',
    Finishes hasty deaf (some 7) 0 oneJob (oneJob.dequeue 0).2 ⟨1, 1, "work", none⟩ 8 (.error .deadlineExceeded)
      status q' := by
  have hdequeue : oneJob.dequeue 0 = (some ⟨1, 1, "work", none⟩, (oneJob.dequeue 0).2) := Prod.ext (by cbv) rfl
  have hstops : StopsAt hasty (some 7) 0 (Instant.after 0 (.ofNanos 5)) .deadlineExceeded :=
    .deadlineExceeded rfl fun t ht => by
      cases ht
      decide
  have hlate (f : Instant) (hf : (Completion.returns 20 (.ok ())).instant? = some f) :
      Instant.after 5 (.ofNanos 3) < f := by
    cases hf
    decide
  exact ((comesBack_of_dequeue hasty deaf (some 7) none 0 oneJob _ _ hdequeue rfl).abandoned 5 .deadlineExceeded
    hstops hlate).2

end Turns

end Worker

end Rollout
