import Mathlib.Data.List.Permutation
import Rollout.Proofs.Queue.Ancestry
import Rollout.Proofs.Queue.LifeCycle
import Rollout.System.Jobs

/-!
# What failures of commands lead to

Between a command that comes to an end and the queue that hears of it stand four decisions: which errors of a command
are failures of its job, what the worker makes of a job that was asked to stop, which failures of a job can be tried
again, and whether attempts are left. `Ending` says how a run of a job ended, and `Ending.IsRetryable` and
`Ending.IsAnswer` tell what these decisions come to: an answer ends the job, and anything else is tried again as long as
attempts are left (`routed_event`).
-/

namespace Rollout

/-! ## Endings -/

/-- How the run of a job came to its end. -/
inductive Ending where
  /-- The command of the job came to an end by itself. -/
  | command (result : Except CommandError Unit)
  /-- The worker gave up waiting for the command. -/
  | abandoned (reason : Stop)

namespace Ending

/-- What the ending means for the job. -/
def result : Ending → Except JobError Unit
  | .command result => CommandError.toJobResult result
  | .abandoned reason => .error (.ofStop reason)

/-- Something other than the state of the domain was in the way. -/
inductive IsRetryable : Ending → Prop where
  | store {e : StoreError} (h : e.isNotFound = false) : IsRetryable (.command (.error (.store e)))
  | artifact (failure : Failure) : IsRetryable (.command (.error (.artifact failure)))
  | cancelled : IsRetryable (.command (.error .cancelled))
  | abandoned (reason : Stop) : IsRetryable (.abandoned reason)

/-- The command did its work, or there is no work for it. -/
inductive IsAnswer : Ending → Prop where
  | done : IsAnswer (.command (.ok ()))
  | rejected (e : AppError) : IsAnswer (.command (.error (.rejected e)))
  | missing {e : StoreError} (h : e.isNotFound = true) : IsAnswer (.command (.error (.store e)))

variable {ending : Ending}

theorem isRetryable_or_isAnswer (ending : Ending) : ending.IsRetryable ∨ ending.IsAnswer := by
  cases ending with
  | abandoned reason => exact .inl (.abandoned reason)
  | command result =>
    cases result with
    | ok => exact .inr .done
    | error e =>
      cases e with
      | rejected e => exact .inr (.rejected e)
      | artifact failure => exact .inl (.artifact failure)
      | cancelled => exact .inl .cancelled
      | store e =>
        cases h : e.isNotFound with
        | true => exact .inr (.missing h)
        | false => exact .inl (.store h)

theorem result_of_isAnswer (h : ending.IsAnswer) : ending.result = .ok () := by
  cases h with
  | done => rfl
  | rejected e => rfl
  | missing h => simp [result, CommandError.toJobResult, CommandError.isInfra, h]

theorem result_of_isRetryable (h : ending.IsRetryable) :
    ∃ e, ending.result = .error e ∧ e.failureKind = .retryable := by
  cases h with
  | @store e h =>
    exact ⟨.infra e.message, by simp [result, CommandError.toJobResult, CommandError.isInfra, CommandError.message, h],
      rfl⟩
  | artifact failure => exact ⟨.infra _, rfl, rfl⟩
  | cancelled => exact ⟨.cancelled, rfl, rfl⟩
  | abandoned reason => cases reason with
    | cancelled => exact ⟨.cancelled, rfl, rfl⟩
    | deadlineExceeded => exact ⟨.deadlineExceeded, rfl, rfl⟩

theorem isRetryable_of_result {e : JobError} (h : ending.result = .error e) : ending.IsRetryable := by
  refine (isRetryable_or_isAnswer ending).resolve_right fun hanswer => ?_
  cases (result_of_isAnswer hanswer).symm.trans h

end Ending

/-! ## Jobs that are asked to stop -/

namespace Worker

variable {grace : Duration} {c : Context} {now : Instant} {completion : Completion}

/-- A run that ends in time ends by itself. -/
theorem settle_of_inTime (h : ∀ stop reason, c.stopsAt now = some (stop, reason) →
    ∃ t, completion.instant? = some t ∧ t ≤ Instant.after stop grace) :
    settle grace c now completion = completion := by
  cases hstop : c.stopsAt now with
  | none => simp only [settle, hstop]
  | some stop =>
    obtain ⟨t, ht, hle⟩ := h stop.1 stop.2 hstop
    simp only [settle, hstop, ht, if_pos hle]

/-- Any other run is abandoned at the end of its grace. -/
theorem settle_of_late {stop : Instant} {reason : Stop} (hstop : c.stopsAt now = some (stop, reason))
    (hlate : ∀ t, completion.instant? = some t → Instant.after stop grace < t) :
    settle grace c now completion = .returns (Instant.after stop grace) (.error (.ofStop reason)) := by
  cases ht : completion.instant? with
  | none => simp only [settle, hstop, ht]
  | some t => simp only [settle, hstop, ht, if_neg (Nat.not_le.mpr (hlate t ht))]

theorem settle_cases (grace : Duration) (c : Context) (now : Instant) (completion : Completion) :
    (settle grace c now completion = completion ∧ ∀ stop reason, c.stopsAt now = some (stop, reason) →
      ∃ t, completion.instant? = some t ∧ t ≤ Instant.after stop grace) ∨
    ∃ stop reason, c.stopsAt now = some (stop, reason) ∧
      (∀ t, completion.instant? = some t → Instant.after stop grace < t) ∧
      settle grace c now completion = .returns (Instant.after stop grace) (.error (.ofStop reason)) := by
  by_cases h : ∀ stop reason, c.stopsAt now = some (stop, reason) →
      ∃ t, completion.instant? = some t ∧ t ≤ Instant.after stop grace
  · exact .inl ⟨settle_of_inTime h, h⟩
  · simp only [not_forall, not_exists, not_and, Nat.not_le] at h
    obtain ⟨stop, reason, hstop, hlate⟩ := h
    exact .inr ⟨stop, reason, hstop, hlate, settle_of_late hstop hlate⟩

end Worker

/-! ## Attempts -/

/-- What a command does if nobody abandons it. -/
inductive Conduct where
  | ends (instant : Instant) (result : Except CommandError Unit)
  | dies (instant : Instant)
  | never

def Conduct.instant? : Conduct → Option Instant
  | .ends t _ => some t
  | .dies t => some t
  | .never => none

def Conduct.completion : Conduct → Completion
  | .ends t result => .returns t (CommandError.toJobResult result)
  | .dies t => .dies t
  | .never => .never

/-- One run of a job. -/
structure Attempt where
  context : Context
  start : Instant
  conduct : Conduct

namespace Attempt

variable {a : Attempt} {grace : Duration} {job : Job Work} {ending : Ending}

/-- The run of the handler: a job that no handler owns comes to its end at once. -/
def completion (a : Attempt) (job : Job Work) : Completion :=
  match Work.registry.command job with
  | .error e => .returns a.start (.error e)
  | .ok _ => a.conduct.completion

/-- The result by which the worker marks the job, if its run ever ends for the worker. -/
def result? (a : Attempt) (grace : Duration) (job : Job Work) : Option (Except JobError Unit) :=
  match Worker.settle grace a.context a.start (a.completion job) with
  | .returns _ result => some result
  | _ => none

/-- How the run of a job that stands for a command comes to its end for the worker. -/
inductive EndsBy (a : Attempt) (grace : Duration) : Ending → Prop where
  | command {t : Instant} {result : Except CommandError Unit} (hends : a.conduct = .ends t result)
      (htime : ∀ stop reason, a.context.stopsAt a.start = some (stop, reason) → t ≤ Instant.after stop grace) :
    EndsBy a grace (.command result)
  | abandoned {stop : Instant} {reason : Stop} (hstop : a.context.stopsAt a.start = some (stop, reason))
      (hlate : ∀ t, a.conduct.instant? = some t → Instant.after stop grace < t) :
    EndsBy a grace (.abandoned reason)

theorem completion_of_command {command : Command} (h : Work.registry.command job = .ok command) :
    a.completion job = a.conduct.completion := by
  simp only [completion, h]

theorem instant?_completion (c : Conduct) : c.completion.instant? = c.instant? := by
  cases c <;> rfl

theorem result?_of_endsBy {command : Command} (h : Work.registry.command job = .ok command)
    (hends : a.EndsBy grace ending) : a.result? grace job = some ending.result := by
  rw [result?, completion_of_command h]
  cases hends with
  | @command t result hconduct htime =>
    rw [Worker.settle_of_inTime fun stop reason hstop => ⟨t, by rw [hconduct]; rfl, htime stop reason hstop⟩, hconduct]
    rfl
  | @abandoned stop reason hstop hlate =>
    rw [Worker.settle_of_late hstop fun t ht => hlate t (instant?_completion a.conduct ▸ ht)]
    rfl

theorem exists_endsBy {command : Command} (h : Work.registry.command job = .ok command) {result : Except JobError Unit}
    (hresult : a.result? grace job = some result) : ∃ ending, a.EndsBy grace ending ∧ ending.result = result := by
  rw [result?, completion_of_command h] at hresult
  rcases Worker.settle_cases grace a.context a.start a.conduct.completion with
    ⟨hsettled, htime⟩ | ⟨stop, reason, hstop, hlate, hsettled⟩
  · rw [hsettled] at hresult
    cases hconduct : a.conduct with
    | ends t r =>
      rw [hconduct] at hresult htime
      refine ⟨.command r, .command hconduct fun stop reason hstop => ?_, Option.some.inj hresult⟩
      obtain ⟨t', ht', hle⟩ := htime stop reason hstop
      cases ht'
      exact hle
    | dies t | never =>
      rw [hconduct] at hresult
      cases hresult
  · rw [hsettled] at hresult
    exact ⟨.abandoned reason, .abandoned hstop fun t ht => hlate t ((instant?_completion a.conduct).trans ht),
      Option.some.inj hresult⟩

/-- The run of a job without a handler is over before the worker would give it up. -/
theorem result?_of_no_command {e : JobError} (h : Work.registry.command job = .error e) :
    a.result? grace job = some (.error e) := by
  have hcompletion : a.completion job = .returns a.start (.error e) := by simp only [completion, h]
  rw [result?, hcompletion, Worker.settle_of_inTime fun stop reason hstop =>
    ⟨a.start, rfl, Nat.le_trans (Context.le_of_stopsAt hstop) (Nat.le_add_right _ _)⟩]

end Attempt

/-! ## Workers at a queue -/

/-- A handler of the registry runs this work. -/
def Work.IsHandled (w : Work) : Prop := (Work.registry.processor? w).isSome = true

theorem Work.exists_command {job : Job Work} (h : job.data.IsHandled) :
    ∃ command, Work.registry.command job = .ok command := by
  obtain ⟨id, attempt, data, key⟩ := job
  cases data with
  | deploy app number => exact ⟨.deploy ⟨app, number⟩, rfl⟩
  | cleanup app => exact ⟨.cleanup app, rfl⟩
  | foreign value => cases h

theorem Work.command_of_not_isHandled {job : Job Work} (h : ¬job.data.IsHandled) :
    Work.registry.command job = .error (.noHandler (Work.kind job.data)) := by
  have hnone : Work.registry.processor? job.data = none := Option.not_isSome_iff_eq_none.mp h
  simp only [Registry.command, hnone]
  rfl

/-- Marks a job by the result of its run. -/
def QueueOperation.mark {α : Type} (id : JobId) : Except JobError Unit → QueueOperation α
  | .ok _ => .succeed id
  | .error e => .fail id e.message e.failureKind

/-- This is how a worker marks a job. -/
theorem Queue.queue_mark {α : Type} {q q' : Queue α} {now : Instant} {id : JobId} {result : Except JobError Unit}
    {status : JobStatus} (h : q.mark now id result = .ok (status, q')) :
    ((⟨now, q.toQueueState⟩ : Moment α).perform (.mark id result)).2.queue = q'.toQueueState := by
  cases result with
  | ok =>
    simp only [mark, markSucceeded] at h
    cases hmarked : (q.toQueueState.markSucceeded id).1 with
    | error e => simp [hmarked, Except.map] at h
    | ok =>
      simp only [hmarked, Except.map, Except.ok.injEq, Prod.mk.injEq] at h
      rw [← h.2]
      rfl
  | error e =>
    simp only [mark, markFailed] at h
    cases hmarked : (q.toQueueState.markFailed now id e.message e.failureKind).1 with
    | error e => simp [hmarked, Except.map] at h
    | ok =>
      simp only [hmarked, Except.map, Except.ok.injEq, Prod.mk.injEq] at h
      rw [← h.2]
      rfl

/-- What callers and workers do. -/
inductive PoolAction where
  | enqueue (p : Prepared Work)
  | take
  /-- The worker of a job marks it, if its run has come to an end. -/
  | finish (id : JobId)
  | advance (d : Duration)

/--
Any number of workers: how long they wait for jobs that were asked to stop, and how the jobs are run. A job is handed
out at most once, so that it is run at most once.
-/
structure Crew where
  grace : Duration
  attempts : JobId → Attempt

namespace Crew

/-- What an action asks of the queue. -/
def operation (c : Crew) (s : QueueState Work) : PoolAction → QueueOperation Work
  | .enqueue p => .enqueue p
  | .take => .dequeue
  | .finish id =>
    match s.running[id]? with
    | none => .advance .zero
    | some job =>
      match (c.attempts id).result? c.grace job with
      | some result => .mark id result
      | none => .advance .zero
  | .advance d => .advance d

def operations (c : Crew) : Moment Work → List PoolAction → List (QueueOperation Work)
  | _, [] => []
  | m, a :: as => c.operation m.queue a :: c.operations (m.perform (c.operation m.queue a)).2 as

/-- The run of the job comes to an end after which it can be tried again. -/
def FailsRetryably (c : Crew) (id : JobId) : Prop :=
  ∃ ending, (c.attempts id).EndsBy c.grace ending ∧ ending.IsRetryable

variable {c : Crew} {s : QueueState Work} {a : PoolAction} {id : JobId} {job : Job Work}

/-- A job is marked as failed only for a result of its run. -/
theorem result?_of_fail {error : String} {kind : FailureKind} (ho : c.operation s a = .fail id error kind)
    (hid : s.running[id]? = some job) :
    a = .finish id ∧ ∃ e, (c.attempts id).result? c.grace job = some (.error e) ∧ e.message = error ∧
      e.failureKind = kind := by
  cases a with
  | finish i =>
    simp only [operation] at ho
    split at ho
    · cases ho
    · next job' hi =>
      split at ho
      · next result hresult =>
        cases result with
        | ok => cases ho
        | error e =>
          cases ho
          cases hi.symm.trans hid
          exact ⟨rfl, e, hresult, rfl, rfl⟩
      · cases ho
  | enqueue | take | advance => cases ho

theorem operation_finish {result : Except JobError Unit} (hid : s.running[id]? = some job)
    (hresult : (c.attempts id).result? c.grace job = some result) :
    c.operation s (.finish id) = .mark id result := by
  simp only [operation, hid, hresult]

/-- Why a job is marked as failed. -/
theorem of_fail {error : String} {kind : FailureKind} (ho : c.operation s a = .fail id error kind)
    (hid : s.running[id]? = some job) :
    (job.data.IsHandled ∧ c.FailsRetryably id ∧ kind = .retryable) ∨
      (¬job.data.IsHandled ∧ kind = .nonRetryable) := by
  obtain ⟨-, e, hresult, -, hkind⟩ := result?_of_fail ho hid
  by_cases hhandled : job.data.IsHandled
  · obtain ⟨command, hcommand⟩ := Work.exists_command hhandled
    obtain ⟨ending, hends, hresult⟩ := Attempt.exists_endsBy hcommand hresult
    have hretryable := Ending.isRetryable_of_result hresult
    obtain ⟨e', hresult', hkind'⟩ := Ending.result_of_isRetryable hretryable
    cases hresult'.symm.trans hresult
    exact .inl ⟨hhandled, ⟨ending, hends, hretryable⟩, hkind.symm.trans hkind'⟩
  · rw [Attempt.result?_of_no_command (Work.command_of_not_isHandled hhandled)] at hresult
    cases hresult
    exact .inr ⟨hhandled, hkind.symm⟩

theorem exists_action {m : Moment Work} (as : List PoolAction) {e : Event Work}
    (he : e ∈ m.history (c.operations m as)) : ∃ a, e.operation = c.operation e.before.queue a := by
  induction as generalizing m with
  | nil => simp [operations, Moment.history] at he
  | cons a as ih =>
    rcases List.mem_cons.mp he with rfl | he
    · exact ⟨a, rfl⟩
    · exact ih he

/-- Only after a failure that can be tried again a job is tried again. -/
theorem of_retries {m : Moment Work} {as : List PoolAction} {e : Event Work} (he : e ∈ m.history (c.operations m as))
    {old : Job Work} (hretries : e.Retries old id) : old.data.IsHandled ∧ c.FailsRetryably old.id := by
  obtain ⟨a, ha⟩ := exists_action as he
  obtain ⟨error, ho⟩ := hretries.operation
  rcases of_fail (ha.symm.trans ho) hretries.running with ⟨hhandled, hfails, -⟩ | ⟨-, hkind⟩
  · exact ⟨hhandled, hfails⟩
  · cases hkind

end Crew

/-! ## Where failures lead to -/

/-- How one action carries on the work at a queue, when the events `es` were before it. -/
structure Routed (c : Crew) (policy : RetryPolicy) (es : List (Event Work)) (a : PoolAction) (e : Event Work) :
    Prop where
  /-- What is handled runs a command, and what the command comes to is the ending. -/
  handled : ∀ job : Job Work, job.data.IsHandled → ∃ command, ∀ (s : System) context holds,
    s.process job context holds =
      ((s.execute context holds command).1.map fun result => (Ending.command result).result,
        (s.execute context holds command).2)
  /-- What is handed out again has failed before, in a way that can be tried again. -/
  again : ∀ job : Job Work, e.HandsOut job → job.attempt ≠ 1 → job.data.IsHandled ∧
    ∃ old : Job Work, job = old.retry job.id ∧ (∃ e' ∈ es, e'.Retries old job.id) ∧ c.FailsRetryably old.id
  /-- An answer ends the job, and nothing is tried again. -/
  answered : ∀ (job : Job Work) (ending : Ending), a = .finish job.id →
    e.before.queue.running[job.id]? = some job → job.data.IsHandled →
    (c.attempts job.id).EndsBy c.grace ending → ending.IsAnswer →
    e.Marks job.id .succeeded ∧ e.after.queue.pending = e.before.queue.pending
  /-- What is given up has been tried as often as the policy says, and each of its attempts failed. -/
  buried : ∀ job : Job Work, e.before.queue.running[job.id]? = some job → job.data.IsHandled →
    e.Marks job.id .deadLetter → policy.maxAttempts ≤ job.attempt ∧
      ∃ olds, Lineage es job olds ∧ job.attempt = olds.length + 1 ∧ ∀ j ∈ job :: olds, c.FailsRetryably j.id
  /-- What nobody handles is given up after its first attempt, which runs nothing. -/
  unhandled : ∀ job : Job Work, e.before.queue.running[job.id]? = some job → ¬job.data.IsHandled →
    job.attempt = 1 ∧ (a = .finish job.id → e.Marks job.id .deadLetter) ∧
      ∀ (s : System) context holds,
        s.process job context holds = (some (.error (.noHandler (Work.kind job.data))), s)

/-- What is given up cannot be tried again, or has no attempts left. -/
theorem Effect.of_deadLetter {α : Type} {now : Instant} {s s' : QueueState α} {o : QueueOperation α}
    {answer : QueueAnswer α} {id : JobId} (he : Effect now s o answer s')
    (hr : answer.reported? o = some (id, .deadLetter)) :
    ∃ job error kind, o = .fail id error kind ∧ s.running[id]? = some job ∧
      ¬(kind = .retryable ∧ job.attempt < s.policy.maxAttempts) := by
  cases he with
  | @buried failed error kind job hid hkind =>
    obtain rfl : failed = id := by simpa [QueueAnswer.reported?] using hr
    exact ⟨job, error, kind, rfl, hid, hkind⟩
  | _ => simp [QueueAnswer.reported?] at hr

section Events

variable {c : Crew} {m : Moment Work} {as : List PoolAction} {a : PoolAction} {job : Job Work}

/-- What is live is at its first attempt, or the next attempt at handled work that failed. -/
theorem Crew.attempt_of_lineage {olds : List (Job Work)} (h : Lineage (m.history (c.operations m as)) job olds) :
    (job.attempt = 1 ∧ olds = []) ∨
      (job.data.IsHandled ∧ ∃ old : Job Work, job = old.retry job.id ∧
        (∃ e ∈ m.history (c.operations m as), e.Retries old job.id) ∧ c.FailsRetryably old.id) := by
  cases h with
  | enqueued => exact .inl ⟨rfl, rfl⟩
  | @retried e old olds id hold he hretries =>
    obtain ⟨hhandled, hfails⟩ := of_retries he hretries
    exact .inr ⟨hhandled, old, rfl, ⟨e, he, hretries⟩, hfails⟩

theorem Crew.failsRetryably_of_lineage {olds : List (Job Work)}
    (h : Lineage (m.history (c.operations m as)) job olds) : ∀ old ∈ olds, c.FailsRetryably old.id := by
  intro old hold
  obtain ⟨e, he, id, hretries⟩ := h.exists_retries old hold
  exact (of_retries he hretries).2

/-- A run that ends in an answer ends its job. -/
theorem Crew.marks_of_isAnswer (h : m.queue.Linked) (hid : m.queue.running[job.id]? = some job)
    (hhandled : job.data.IsHandled) {ending : Ending} (hends : (c.attempts job.id).EndsBy c.grace ending)
    (hanswer : ending.IsAnswer) :
    let e := m.event (c.operation m.queue (.finish job.id))
    e.Marks job.id .succeeded ∧ e.after.queue.pending = m.queue.pending := by
  intro e
  obtain ⟨command, hcommand⟩ := Work.exists_command hhandled
  have hresult : (c.attempts job.id).result? c.grace job = some (.ok ()) :=
    (Attempt.result?_of_endsBy hcommand hends).trans (congrArg some (Ending.result_of_isAnswer hanswer))
  have he : e = m.event (.succeed job.id) := congrArg m.event (operation_finish hid hresult)
  have hperform : m.perform (.succeed job.id) =
      (.succeeded (.ok ()), { m with queue := m.queue.settle job.id .succeeded }) := by
    simp only [Moment.perform, QueueState.markSucceeded_of_running hid]
  rw [he]
  refine ⟨((m.effect (.succeed job.id)).marks_iff h (by simp) job.id).mpr ?_, ?_⟩
  · rw [hperform]
    rfl
  · show (m.perform (.succeed job.id)).2.queue.pending = m.queue.pending
    rw [hperform]
    rfl

/-- The run of a job that nobody handles ends among the dead letters. -/
theorem Crew.marks_of_not_isHandled (h : m.queue.Linked) (hid : m.queue.running[job.id]? = some job)
    (hhandled : ¬job.data.IsHandled) : (m.event (c.operation m.queue (.finish job.id))).Marks job.id .deadLetter := by
  have hcommand := Work.command_of_not_isHandled hhandled
  have hop := operation_finish (c := c) hid (Attempt.result?_of_no_command hcommand)
  rw [hop, QueueOperation.mark]
  refine ((m.effect _).marks_iff h (by simp) job.id).mpr ?_
  have hfinal : ¬((JobError.noHandler (Work.kind job.data)).failureKind = .retryable ∧
      job.attempt < m.queue.policy.maxAttempts) := fun hkind => by cases hkind.1
  simp only [Moment.perform, QueueState.markFailed_of_final hid hfinal]
  rfl

/-- A handled job that is given up has failed once more, with no attempts left. -/
theorem Crew.of_buried (h : m.queue.Linked) (hid : m.queue.running[job.id]? = some job) (hhandled : job.data.IsHandled)
    (hm : (m.event (c.operation m.queue a)).Marks job.id .deadLetter) :
    m.queue.policy.maxAttempts ≤ job.attempt ∧ c.FailsRetryably job.id := by
  have he := m.effect (c.operation m.queue a)
  obtain ⟨job', error, kind, ho, hid', hfinal⟩ := he.of_deadLetter ((he.marks_iff h (by simp) job.id).mp hm)
  cases hid'.symm.trans hid
  rcases of_fail ho hid with ⟨-, hfails, rfl⟩ | ⟨hnot, -⟩
  · exact ⟨Nat.not_lt.mp fun hlt => hfinal ⟨rfl, hlt⟩, hfails⟩
  · exact absurd hhandled hnot

/-- **Failures of commands lead where they should**, whatever the commands come to and whoever takes the jobs. -/
theorem routed_event (c : Crew) (policy : RetryPolicy) (retention : Nat) (as : List PoolAction) (a : PoolAction) :
    let m := Moment.start policy retention
    let now := m.run (c.operations m as)
    Routed c policy (m.history (c.operations m as)) a (now.event (c.operation now.queue a)) := by
  intro m now
  have hlinked : now.queue.Linked := Moment.linked_run (Moment.linked_start policy retention) _
  have hlineage {id : JobId} {job : Job Work} (hl : now.queue.Live id job) :
      ∃ olds, Lineage (m.history (c.operations m as)) job olds :=
    Moment.exists_lineage (Moment.linked_start policy retention) (QueueState.not_live_empty policy retention) _ hl
  refine ⟨fun job hhandled => ?_, fun job hout hagain => ?_, fun job ending ha hid hhandled hends hanswer => ?_,
    fun job hid hhandled hm => ?_, fun job hid hhandled => ⟨?_, fun ha => ?_, fun s context holds => ?_⟩⟩
  · obtain ⟨command, hcommand⟩ := Work.exists_command hhandled
    exact ⟨command, fun s context holds => by simp only [System.process, hcommand]; rfl⟩
  · obtain ⟨w, hw, hjob, -⟩ := Moment.pending_of_handsOut hlinked hout
    obtain ⟨olds, holds⟩ := hlineage (.inl ⟨w, hw, hjob⟩)
    exact (Crew.attempt_of_lineage holds).resolve_left fun hfirst => hagain hfirst.1
  · rw [ha]
    exact Crew.marks_of_isAnswer hlinked hid hhandled hends hanswer
  · obtain ⟨hattempts, hfails⟩ := Crew.of_buried hlinked hid hhandled hm
    obtain ⟨olds, holds⟩ := hlineage (.inr hid)
    rw [Moment.policy_run] at hattempts
    exact ⟨hattempts, olds, holds, holds.attempt_eq,
      List.forall_mem_cons.mpr ⟨hfails, Crew.failsRetryably_of_lineage holds⟩⟩
  · obtain ⟨olds, holds⟩ := hlineage (.inr hid)
    rcases Crew.attempt_of_lineage holds with ⟨hfirst, -⟩ | ⟨hhandled', -⟩
    · exact hfirst
    · exact absurd hhandled' hhandled
  · rw [ha]
    exact Crew.marks_of_not_isHandled hlinked hid hhandled
  · simp only [System.process, Work.command_of_not_isHandled hhandled]

end Events

/-! ## An outage -/

/-- The first attempt at a job hangs until its deadline and is abandoned, and all others are cancelled. -/
def outage : Crew where
  grace := .zero
  attempts id := if id = 1 then ⟨⟨none, some 10⟩, 0, .never⟩ else ⟨.background, 0, .ends 0 (.error .cancelled)⟩

/-- The work is tried once, and a second time. -/
def outageActions : List PoolAction := [.enqueue ⟨.cleanup default, some "cleanup"⟩, .take, .finish 1, .take]

def outageJob (attempt : Nat) : Job Work := ⟨attempt, attempt, .cleanup default, some "cleanup"⟩

def outageStart : Moment Work := .start ⟨2, .zero, .zero⟩ 16

theorem operations_outage : outage.operations outageStart outageActions =
    [.enqueue ⟨.cleanup default, some "cleanup"⟩, .dequeue, .fail 1 "job deadline exceeded" .retryable, .dequeue] := by
  have hruns : (outageStart.run [.enqueue ⟨.cleanup default, some "cleanup"⟩, .dequeue]).queue.running[1]? =
      some (outageJob 1) := by cbv
  have hresult : (outage.attempts 1).result? outage.grace (outageJob 1) = some (.error .deadlineExceeded) := by cbv
  have hfinish := Crew.operation_finish hruns hresult
  simp only [Moment.run, List.foldl_cons, List.foldl_nil] at hfinish
  simp only [outageActions, Crew.operations, Crew.operation] at hfinish ⊢
  rw [hfinish]
  rfl

/-- After the second attempt the job is among the dead letters, and both attempts have failed in ways that can be tried
again. -/
theorem routed_event_outage :
    let es := outageStart.history (outage.operations outageStart outageActions)
    2 ≤ (outageJob 2).attempt ∧ ∃ olds, Lineage es (outageJob 2) olds ∧ (outageJob 2).attempt = olds.length + 1 ∧
      ∀ j ∈ outageJob 2 :: olds, outage.FailsRetryably j.id := by
  intro es
  let now := outageStart.run (outage.operations outageStart outageActions)
  have hruns : now.queue.running[2]? = some (outageJob 2) := by
    simp only [now, operations_outage]
    cbv
  have hresult : (outage.attempts 2).result? outage.grace (outageJob 2) = some (.error .cancelled) := by cbv
  have hfinish : outage.operation now.queue (.finish 2) = .fail 2 "job cancelled" .retryable :=
    Crew.operation_finish hruns hresult
  have hmarks : (now.event (outage.operation now.queue (.finish 2))).Marks 2 .deadLetter := by
    rw [hfinish]
    simp only [now, operations_outage]
    cbv
    exact ⟨by simp, trivial⟩
  exact (routed_event outage ⟨2, .zero, .zero⟩ 16 outageActions (.finish 2)).buried (outageJob 2) hruns rfl hmarks

end Rollout
