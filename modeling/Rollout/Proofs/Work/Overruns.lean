import Rollout.Config
import Rollout.Proofs.Results
import Rollout.Proofs.Work.Grace

/-!
# Instants that a clock does not have

A clock whose seconds are counted in 63 bits has a last instant. To work out a later one takes down the loop that does
(`Instant.after?`); waits just end no later than the clock does. A worker works out the deadline of every job it is
given, and a queue the instant of every next attempt (`Worker.processNextByClock`).

A retry waits for an hour at most, but a job may be given as much time as 64 bits can say. So by a clock that is in the
first half of its range no retry is ever out of it, and a deadline is out of it just if the timeout is too long
(`Config.timely_of_ofVariables`). The job of such a deadline has been taken off the queue by then: no one runs it, and no
one marks it.
-/

namespace Rollout

/-! ## Sums -/

namespace Instant

/-- The last instant of a clock that counts its seconds in 63 bits. -/
def last : Instant := 2 ^ 63 * 1000000000 - 1

/-- The first instant of the second half of its range. -/
def halfway : Instant := 2 ^ 62 * 1000000000

/-- The whole seconds that a clock shows. -/
def seconds (t : Instant) : Nat := t / 1000000000

/-- The instant that lies `d` after `t`, if the clock has it. -/
def after? (t : Instant) (d : Duration) : Option Instant := if after t d ≤ last then some (after t d) else none

variable {t : Instant} {d : Duration}

theorem after?_of_le (h : after t d ≤ last) : after? t d = some (after t d) := if_pos h

theorem after?_eq_none_iff : after? t d = none ↔ last < after t d := by
  rw [after?, ← Nat.not_le]
  split <;> simp_all

/-- An hour is never too long by a clock that is in the first half of its range. -/
theorem after?_of_le_hour (ht : t < halfway) (hd : d.nanos ≤ (Duration.ofSecs 3600).nanos) :
    after? t d = some (after t d) := by
  have hsum {n : Nat} (hn : n < 2 ^ 62 * 1000000000) {m : Nat} (hm : m ≤ 3600 * 1000000000) :
      n + m ≤ 2 ^ 63 * 1000000000 - 1 := by omega
  exact after?_of_le (hsum ht hd)

/-- A number of seconds is too long just if there are not so many left. -/
theorem after_ofSecs_le_iff {n : Nat} (hn : n ≤ Config.limit64) :
    after t (.ofSecs n) ≤ last ↔ seconds t + n < 2 ^ 63 := by
  have hlimit : n * 1000000000 ≤ Duration.limit := by
    unfold Config.limit64 at hn
    unfold Duration.limit
    omega
  have hnanos : (Duration.ofSecs n).nanos = n * 1000000000 := Nat.min_eq_left hlimit
  have hsum (m : Nat) : m + n * 1000000000 ≤ 2 ^ 63 * 1000000000 - 1 ↔ m / 1000000000 + n < 2 ^ 63 := by omega
  rw [after, hnanos]
  exact hsum t

theorem seconds_lt (ht : t < halfway) : seconds t < 2 ^ 62 := (Nat.div_lt_iff_lt_mul (by decide)).mpr ht

/-- The latest instant of the first half. -/
theorem seconds_latest : seconds (halfway - 1) = 2 ^ 62 - 1 := rfl

end Instant

/-! ## Marks -/

namespace QueueState

variable {α : Type}

/--
`QueueState.markFailed` by a clock that has a last instant. The job is settled when it is worked out how long the next
attempt waits.
-/
def markFailedByClock (s : QueueState α) (now : Instant) (id : JobId) (error : String) (kind : FailureKind) :
    Option (Except JobError JobStatus) × QueueState α :=
  match s.running[id]? with
  | none => (some (.error (notRunning (toString id))), s)
  | some job =>
    let s := s.release id
    if kind = .retryable ∧ job.attempt < s.policy.maxAttempts then
      let s := s.finish id .failed
      match s.covering? job with
      | some _ => (some (.ok .failed), s)
      | none =>
        match Instant.after? now (s.policy.delayFor (job.attempt + 1)) with
        | none => (none, s)
        | some _ => (some (.ok .failed), s.scheduleRetry now job)
    else (some (.ok .deadLetter), (s.bury job error).finish id .deadLetter)

/-- Marks a running job by the result of its run. -/
def markByClock (s : QueueState α) (now : Instant) (id : JobId) :
    Except JobError Unit → Option (Except JobError JobStatus) × QueueState α
  | .ok _ => (some ((s.markSucceeded id).1.map fun _ => .succeeded), (s.markSucceeded id).2)
  | .error e => s.markFailedByClock now id e.message e.failureKind

variable {s : QueueState α} {now : Instant}

/-- A queue marks as it would by a clock without end as long as the clock has the instants of its retries. -/
theorem markFailedByClock_eq (h : ∀ attempt, (Instant.after? now (s.policy.delayFor attempt)).isSome) (id : JobId)
    (error : String) (kind : FailureKind) :
    s.markFailedByClock now id error kind =
      (some (s.markFailed now id error kind).1, (s.markFailed now id error kind).2) := by
  unfold markFailedByClock markFailed
  cases hid : s.running[id]? with
  | none => rfl
  | some job =>
    obtain ⟨due, hdue⟩ := Option.isSome_iff_exists.mp (h (job.attempt + 1))
    have hdue : Instant.after? now (((s.release id).finish id .failed).policy.delayFor (job.attempt + 1)) = some due :=
      hdue
    by_cases hkind : kind = .retryable ∧ job.attempt < (s.release id).policy.maxAttempts
    · simp only [if_pos hkind, hdue]
      cases ((s.release id).finish id .failed).covering? job <;> rfl
    · simp only [if_neg hkind]

end QueueState

/-- So the mark of a job is what it would be without an end. -/
theorem Queue.markByClock_of_mark {α : Type} {q q' : Queue α} {now : Instant} {id : JobId}
    {result : Except JobError Unit} {status : JobStatus}
    (h : ∀ attempt, (Instant.after? now (q.policy.delayFor attempt)).isSome)
    (hmark : q.mark now id result = .ok (status, q')) :
    q.toQueueState.markByClock now id result = (some (.ok status), q'.toQueueState) := by
  cases result with
  | ok _ =>
    simp only [mark, markSucceeded, map_eq_ok] at hmark
    obtain ⟨_, ⟨_, hok, rfl⟩, hstatus⟩ := hmark
    cases hstatus
    simp only [QueueState.markByClock, hok, Except.map]
  | error e =>
    simp only [mark, markFailed, map_eq_ok] at hmark
    obtain ⟨_, hok, hstatus⟩ := hmark
    cases hstatus
    simp only [QueueState.markByClock, QueueState.markFailedByClock_eq h, hok]

/-! ## Turns -/

namespace Worker

variable {α τ : Type}

/-- The deadline of a job that starts at `now`, if it has none or the clock has it. -/
def deadline? (c : WorkerConfig) (now : Instant) : Option (Option Instant) :=
  match c.jobTimeout with
  | none => some none
  | some timeout => (Instant.after? now timeout).map some

/--
`Worker.processNext` by a clock that has a last instant. The job has been taken off the queue when its deadline is
worked out. The grace of a handler is waited for, so that no instant is worked out for it.
-/
def processNextByClock (c : WorkerConfig) (run : Job α → Context → Instant → Run τ) (shutdown : Option Instant)
    (now : Instant) (s : QueueState α) : Turn τ × QueueState α :=
  match s.dequeue now with
  | (none, s) => (.idle, s)
  | (some job, s) =>
    match deadline? c now with
    | none => (.died job.id now [], s)
    | some deadline =>
      let r := settleRun c.stopGrace now (run job ⟨shutdown, deadline⟩ now)
      match r.completion with
      | .never => (.stuck job.id r.trace, s)
      | .dies t => (.died job.id t r.trace, s)
      | .returns t result =>
        match s.markByClock t job.id result with
        | (none, s) => (.died job.id t r.trace, s)
        | (some (.ok status), s) => (.finished job.id status t r.trace, s)
        | (some (.error _), s) => (.idle, s)

variable {c : WorkerConfig} {run : Job α → Context → Instant → Run τ} {shutdown : Option Instant} {now : Instant}
  {q q₁ : Queue α} {job : Job α}

/-- A deadline that the clock has is the one that the job has by a clock without end. -/
theorem deadline?_eq {d : Option Instant} (h : deadline? c now = some d) : d = deadline c now := by
  unfold deadline? at h
  unfold deadline
  split at h
  · next hnone => rw [hnone, ← Option.some.inj h, Option.map_none]
  · next timeout htimeout =>
    obtain ⟨_, hsum, rfl⟩ := Option.map_eq_some_iff.mp h
    unfold Instant.after? at hsum
    split at hsum
    · rw [htimeout, ← Option.some.inj hsum, Option.map_some]
    · cases hsum

theorem deadline?_eq_none_iff :
    deadline? c now = none ↔ ∃ timeout, c.jobTimeout = some timeout ∧ Instant.last < Instant.after now timeout := by
  unfold deadline?
  cases c.jobTimeout with
  | none => simp
  | some timeout => simp [Instant.after?_eq_none_iff]

/-- The loop that cannot work out a deadline goes down, and leaves the job to nobody. -/
theorem processNextByClock_of_overrun (hdequeue : q.dequeue now = (some job, q₁)) (h : deadline? c now = none) :
    processNextByClock c run shutdown now q.toQueueState = (.died job.id now [], q₁.toQueueState) := by
  have hstate : q.toQueueState.dequeue now = (some job, q₁.toQueueState) :=
    congrArg (fun r => (r.1, r.2.toQueueState)) hdequeue
  simp only [processNextByClock, hstate, h]

/-- If the clock has the deadline of a job and the instants of its retries, its end makes no difference. -/
theorem processNextByClock_eq (hdeadline : deadline? c now ≠ none)
    (hretries : ∀ job q₁ t result, q.dequeue now = (some job, q₁) →
      settle c.stopGrace (run job (context c shutdown now) now).context now
        (run job (context c shutdown now) now).completion = .returns t result →
      ∀ attempt, (Instant.after? t (q.policy.delayFor attempt)).isSome) :
    processNextByClock c run shutdown now q.toQueueState =
      ((processNext c run shutdown now q).1, (processNext c run shutdown now q).2.toQueueState) := by
  obtain ⟨d, hd⟩ := Option.ne_none_iff_exists'.mp hdeadline
  obtain rfl := deadline?_eq hd
  cases hdequeue : q.dequeue now with
  | mk answer q₁ =>
    have hstate : q.toQueueState.dequeue now = (answer, q₁.toQueueState) :=
      congrArg (fun r => (r.1, r.2.toQueueState)) hdequeue
    cases answer with
    | none => simp only [processNextByClock, hstate, processNext, hdequeue]
    | some job =>
      obtain ⟨hpolicy, hruns⟩ := runs_of_dequeue hdequeue
      simp only [processNextByClock, hstate, hd, processNext, hdequeue, context]
      cases hcompletion : (settleRun c.stopGrace now (run job ⟨shutdown, deadline c now⟩ now)).completion with
      | never | dies t => rfl
      | returns t result =>
        obtain ⟨q', hmark, -⟩ := Queue.mark_of_running hruns t result
        have hclock := Queue.markByClock_of_mark (hpolicy ▸ hretries job q₁ t result hdequeue hcompletion) hmark
        simp only [hmark, hclock]

end Worker

/-! ## The range of a configuration -/

namespace Config

variable {vars : Variables} {c : Config}

/-- The timeout of a configuration is as many seconds as its variable says. -/
theorem jobTimeout_of_ofVariables (h : ofVariables vars = .ok c) :
    ∃ secs, number? limit64 vars "JOB_TIMEOUT_SECS" = .ok secs ∧ c.worker.jobTimeout = secs.map .ofSecs := by
  simp only [ofVariables, bind_eq_ok, pure_eq_ok] at h
  obtain ⟨_, -, _, -, secs, hsecs, _, -, _, -, _, -, rfl⟩ := h
  exact ⟨secs, hsecs, rfl⟩

theorem deadline?_ne_none_iff (h : ofVariables vars = .ok c) (now : Instant) :
    Worker.deadline? c.worker now ≠ none ↔
      ∀ secs, number? limit64 vars "JOB_TIMEOUT_SECS" = .ok (some secs) → now.seconds + secs < 2 ^ 63 := by
  obtain ⟨timeout, hnumber, htimeout⟩ := jobTimeout_of_ofVariables h
  rw [Ne, Worker.deadline?_eq_none_iff, htimeout, hnumber]
  cases timeout with
  | none => simp
  | some secs =>
    have hsum := Instant.after_ofSecs_le_iff (t := now) (number?_le hnumber)
    simp only [Option.map_some, Option.some.injEq, exists_eq_left', Nat.not_lt, Except.ok.injEq, forall_eq', hsum]

theorem after?_delayFor {now : Instant} (hnow : now < Instant.halfway) (c : Config) (attempt : Nat) :
    Instant.after? now (c.policy.delayFor attempt) = some (Instant.after now (c.policy.delayFor attempt)) :=
  Instant.after?_of_le_hour hnow (c.policy.delayFor_le attempt)

/--
What the instants of a worker and a queue come to that are set up by `c`, as the variables `vars` say, by a clock that
has a last instant.
-/
structure Timely (vars : Variables) (c : Config) : Prop where
  /-- No retry is put off beyond the last instant. -/
  retries : ∀ now < Instant.halfway, ∀ attempt,
    Instant.after? now (c.policy.delayFor attempt) = some (Instant.after now (c.policy.delayFor attempt))
  /-- A deadline lies beyond it just if there is less time left than a job is given. -/
  deadlines : ∀ now, Worker.deadline? c.worker now ≠ none ↔
    ∀ secs, number? limit64 vars "JOB_TIMEOUT_SECS" = .ok (some secs) → now.seconds + secs < 2 ^ 63
  /-- The timeouts for which that never happens. -/
  admissible : (∀ now < Instant.halfway, Worker.deadline? c.worker now ≠ none) ↔
    ∀ secs, number? limit64 vars "JOB_TIMEOUT_SECS" = .ok (some secs) → secs ≤ 2 ^ 62
  /-- A job with a deadline before it comes to its mark when its run ends. -/
  marked : ∀ {α τ : Type} (run : Job α → Context → Instant → Run τ) (shutdown : Option Instant) (now : Instant)
    (q q₁ : Queue α) (job : Job α) (t : Instant) (result : Except JobError Unit),
    q.policy = c.policy → q.dequeue now = (some job, q₁) → Worker.deadline? c.worker now ≠ none →
    Worker.settle c.worker.stopGrace (run job (Worker.context c.worker shutdown now) now).context now
      (run job (Worker.context c.worker shutdown now) now).completion = .returns t result → t < Instant.halfway →
    ∃ status q', Worker.Finishes c.worker run shutdown now q q₁ job t result status q' ∧
      Worker.processNextByClock c.worker run shutdown now q.toQueueState =
        ((Worker.processNext c.worker run shutdown now q).1, q'.toQueueState)
  /-- A job with a deadline beyond it is run by nobody and stays with the worker that was given it. -/
  stranded : ∀ {α τ : Type} (run : Job α → Context → Instant → Run τ) (shutdown : Option Instant) (now : Instant)
    (q q₁ : Queue α) (job : Job α),
    q.dequeue now = (some job, q₁) → Worker.deadline? c.worker now = none →
    Worker.processNextByClock c.worker run shutdown now q.toQueueState = (.died job.id now [], q₁.toQueueState) ∧
      q₁.running[job.id]? = some job

theorem admissible_of_ofVariables (h : ofVariables vars = .ok c) :
    (∀ now < Instant.halfway, Worker.deadline? c.worker now ≠ none) ↔
      ∀ secs, number? limit64 vars "JOB_TIMEOUT_SECS" = .ok (some secs) → secs ≤ 2 ^ 62 := by
  simp only [deadline?_ne_none_iff h]
  constructor
  · intro hall secs hsecs
    -- The latest reading in the first half leaves the least time.
    have hlatest := hall (Instant.halfway - 1) (by decide) secs hsecs
    rw [Instant.seconds_latest] at hlatest
    omega
  · intro hle now hnow secs hsecs
    have hnow := Instant.seconds_lt hnow
    have hsecs := hle secs hsecs
    omega

/-- **A configuration keeps its instants in range** unless its timeout is too long. -/
theorem timely_of_ofVariables (h : ofVariables vars = .ok c) : Timely vars c where
  retries now hnow attempt := after?_delayFor hnow c attempt
  deadlines := deadline?_ne_none_iff h
  admissible := admissible_of_ofVariables h
  marked run shutdown now q q₁ job t result hpolicy hdequeue hdeadline hsettle ht := by
    obtain ⟨status, q', hfinishes⟩ := Worker.exists_finishes hdequeue rfl hsettle
    have heq := Worker.processNextByClock_eq hdeadline fun job' q₁' t' result' hdequeue' hsettle' attempt => by
      cases hdequeue.symm.trans hdequeue'
      cases hsettle.symm.trans hsettle'
      rw [hpolicy, after?_delayFor ht, Option.isSome_some]
    exact ⟨status, q', hfinishes, heq.trans (congrArg (Prod.mk _) (by rw [hfinishes.turn]))⟩
  stranded run shutdown now q q₁ job hdequeue hdeadline :=
    ⟨Worker.processNextByClock_of_overrun hdequeue hdeadline, (Worker.runs_of_dequeue hdequeue).2⟩

/-! ### Two timeouts -/

def withTimeout (secs : String) : Variables := [("JOB_TIMEOUT_SECS", secs.toList.map Char.toNat)]

theorem timely_withTimeout : ∃ c, ofVariables (withTimeout "90") = .ok c ∧
    c.worker.jobTimeout = some (.ofSecs 90) ∧ Timely (withTimeout "90") c :=
  ⟨_, rfl, rfl, timely_of_ofVariables rfl⟩

/-- The queue of a configuration, with one job in it. -/
def oneJob (c : Config) : Queue String := ((Queue.empty c.policy Queue.defaultRetention).enqueue ⟨"work", none⟩).2

/-- The longest timeout is accepted, and is too long from the start of the clock on. -/
theorem stranded_withTimeout : ∃ c, ofVariables (withTimeout "18446744073709551615") = .ok c ∧
    Worker.deadline? c.worker 0 = none ∧ ∀ run : Job String → Context → Instant → Run String, ∃ s,
      Worker.processNextByClock c.worker run none 0 c.oneJob.toQueueState = (.died 1 0 [], s) ∧
        s.running[1]? = some ⟨1, 1, "work", none⟩ := by
  obtain ⟨c, h, htimeout⟩ : ∃ c, ofVariables (withTimeout "18446744073709551615") = .ok c ∧
    c.worker.jobTimeout = some (.ofSecs 18446744073709551615) := ⟨_, rfl, rfl⟩
  have hdeadline : Worker.deadline? c.worker 0 = none := Worker.deadline?_eq_none_iff.mpr ⟨_, htimeout, by decide⟩
  have hdequeue : c.oneJob.dequeue 0 = (some ⟨1, 1, "work", none⟩, (c.oneJob.dequeue 0).2) :=
    Prod.ext (by cbv) rfl
  exact ⟨c, h, hdeadline, fun run =>
    ⟨_, Worker.processNextByClock_of_overrun hdequeue hdeadline, (Worker.runs_of_dequeue hdequeue).2⟩⟩

end Config

end Rollout
