import Rollout.Proofs.Command.Cleaning
import Rollout.Proofs.Command.Undisturbed
import Rollout.Proofs.UseCases.Enqueuing
import Rollout.System.Jobs

/-!
# A service and its worker

A service is a system with one worker on duty. The worker takes a job off the queue, enters the command that the job
stands for, goes through its phases and marks the job, one step at a time (`Service.work`); calls of use cases come in
between any two steps. The worker may give up what it is at, and everything but the queue and the rows of apps and
deployments may be exchanged at any time (`Surroundings`).

If nothing comes in between, the steps of the worker are a turn of it (`Service.exists_works`).
-/

namespace Rollout

/-- What a worker is at. -/
inductive Duty where
  | idle
  /-- The job has been handed out, and the command is not entered yet. -/
  | holding (job : Job Work) (context : Context) (holds : Bool)
  | deploying (job : Job Work) (p : Deploying)
  | cleaning (job : Job Work) (p : CleaningUp)
  /-- The job is over, and not marked yet. -/
  | returning (job : Job Work) (result : Except JobError Unit)

namespace Duty

def job? : Duty → Option (Job Work)
  | .idle => none
  | .holding job .. | .deploying job _ | .cleaning job _ | .returning job _ => some job

/-- Enters the command of a job. -/
def enter (job : Job Work) (context : Context) (holds : Bool) : Duty :=
  match Work.registry.command job with
  | .error e => .returning job (.error e)
  | .ok (.deploy id) => .deploying job (.enter id context holds)
  | .ok (.cleanup app) => .cleaning job (.enter app context)

/-- Gives up what the worker is at. -/
def giveUp (reason : Stop) : Duty → Duty
  | .holding job .. | .deploying job _ | .cleaning job _ => .returning job (.error (.ofStop reason))
  | duty => duty

end Duty

/-- A system with its worker, and the identifiers under which apps have been created. -/
structure Service where
  system : System
  duty : Duty
  issued : List AppId

/-- What is around the queue and the rows of apps and deployments. -/
structure Surroundings where
  targets : List TargetRow
  isClosed : Bool
  /-- The failures of the coming accesses to the database. -/
  faults : List (Option DatabaseError)
  /-- The subscribers after the scheduler. -/
  bystanders : List { b : Subscriber // b.isAside = true }
  recorders : List Recorder
  files : Files
  now : Instant
  runner : Runner
  worker : WorkerConfig

inductive Incident where
  | call (u : UseCase)
  /-- The worker takes its next step. The current token was cancelled at the instant `shutdown`, if at all. -/
  | work (shutdown : Option Instant) (holds : Bool)
  | giveUp (reason : Stop)
  | surround (w : Surroundings)

def System.surround (s : System) (w : Surroundings) : System :=
  { s with
    store := {
      db := ⟨{ s.store.db.tables with targets := w.targets }, w.isClosed, w.faults⟩
      bus := .scheduler :: w.bystanders.map (·.val)
      hub := { s.store.hub with recorders := w.recorders } }
    files := w.files, now := w.now, runner := w.runner, worker := w.worker }

namespace Service

def tables (s : Service) : Tables := s.system.tables

def queue (s : Service) : Queue Work := s.system.queue

/-- A service with nothing in it. -/
def ofConfig (c : Config) : Service := ⟨.ofConfig c, .idle, []⟩

/-- A call of a use case. There is none under an identifier that has been issued, and none whose events do not get
through to all subscribers. -/
def call (s : Service) (u : UseCase) : Service :=
  let (result, store) := u.run s.system.store
  if u.takes.any s.issued.contains || isUndispatched result then s
  else { s with system := { s.system with store }, issued := u.takes ++ s.issued }

/-- Takes a job off the queue. -/
def take (s : Service) (shutdown : Option Instant) (holds : Bool) : Service :=
  match s.system.queue.dequeue s.system.now with
  | (none, _) => s
  | (some job, q) =>
    { s with
      system := s.system.withQueue q
      duty := .holding job (Worker.context s.system.worker shutdown s.system.now) holds }

/-- Marks the job of the worker. -/
def mark (s : Service) (job : Job Work) (result : Except JobError Unit) : Service :=
  match s.system.queue.mark s.system.now job.id result with
  | .ok (_, q) => { s with system := s.system.withQueue q, duty := .idle }
  | .error _ => { s with duty := .idle }

/-- One step of the worker. -/
def work (s : Service) (shutdown : Option Instant) (holds : Bool) : Service :=
  match s.duty with
  | .idle => s.take shutdown holds
  | .holding job context holds => { s with duty := .enter job context holds }
  | .deploying job p =>
    match p.result? with
    | some result => { s with duty := .returning job (CommandError.toJobResult result) }
    | none => { s with system := (p.step s.system).2, duty := .deploying job (p.step s.system).1 }
  | .cleaning job p =>
    match p.result? with
    | some result => { s with duty := .returning job (CommandError.toJobResult result) }
    | none => { s with system := (p.step s.system).2, duty := .cleaning job (p.step s.system).1 }
  | .returning job result => s.mark job result

def perform (s : Service) : Incident → Service
  | .call u => s.call u
  | .work shutdown holds => s.work shutdown holds
  | .giveUp reason => { s with duty := s.duty.giveUp reason }
  | .surround w => { s with system := s.system.surround w }

/-- The service after some incidents. -/
def run (s : Service) (is : List Incident) : Service := is.foldl perform s

theorem run_append (s : Service) (is is' : List Incident) : s.run (is ++ is') = (s.run is).run is' := List.foldl_append

theorem run_concat (s : Service) (is : List Incident) (i : Incident) : s.run (is ++ [i]) = (s.run is).perform i :=
  run_append s is [i]

/-- **What every incident keeps holds at all times.** -/
theorem run_induction {I : Service → Prop} (hperform : ∀ s i, I s → I (s.perform i)) {s : Service} (h : I s)
    (is : List Incident) : I (s.run is) := by
  induction is generalizing s with
  | nil => exact h
  | cons i is ih => exact ih (hperform s i h)

/-! ## Turns of the worker -/

section Turns

variable (shutdown : Option Instant) (holds : Bool)

/-- The service after `n` steps of the worker, with nothing in between. -/
def works (s : Service) (n : Nat) : Service := s.run (List.replicate n (.work shutdown holds))

theorem works_succ (s : Service) (n : Nat) :
    s.works shutdown holds (n + 1) = (s.work shutdown holds).works shutdown holds n := rfl

theorem works_works (s : Service) (m n : Nat) :
    (s.works shutdown holds m).works shutdown holds n = s.works shutdown holds (m + n) := by
  rw [works, works, works, ← run_append, List.replicate_append_replicate]

/-- The steps of a command are run one after another until it has ended. -/
theorem exists_works_of_run {π : Type} {duty : π → Duty} {step : π → System → π × System}
    {run : Nat → π → System → π × System} {result? : π → Option (Except CommandError Unit)}
    (hzero : ∀ p s, run 0 p s = (p, s)) (hsucc : ∀ n p s, run (n + 1) p s = run n (step p s).1 (step p s).2)
    (hended : ∀ p s, (result? p).isSome = true → step p s = (p, s))
    (hwork : ∀ p s issued, result? p = none →
      (Service.mk s (duty p) issued).work shutdown holds = ⟨(step p s).2, duty (step p s).1, issued⟩)
    (issued : List AppId) (n : Nat) (p : π) (s : System) :
    ∃ k, (Service.mk s (duty p) issued).works shutdown holds k = ⟨(run n p s).2, duty (run n p s).1, issued⟩ := by
  induction n generalizing p s with
  | zero => exact ⟨0, by rw [hzero]; rfl⟩
  | succ n ih =>
    rw [hsucc]
    cases hresult : result? p with
    | some result =>
      rw [hended p s (by rw [hresult]; rfl)]
      exact ih p s
    | none =>
      obtain ⟨k, hk⟩ := ih (step p s).1 (step p s).2
      exact ⟨k + 1, by rw [works_succ, hwork p s issued hresult, hk]⟩

/-- The worker has come to the result of its job, or is stuck with it. -/
def Settles (job : Job Work) (s : Service) (result : Option (Except JobError Unit) × System) (issued : List AppId) :
    Prop :=
  ∃ k duty, s.works shutdown holds k = ⟨result.2, duty, issued⟩ ∧ ∀ r, result.1 = some r → duty = .returning job r

variable {shutdown holds} {s : System} {job : Job Work} {issued : List AppId}

/-- A command that has ended is left with its result. -/
theorem settles_of_works {s₀ : Service} {duty : Duty} {result : Option (Except CommandError Unit)} {k : Nat}
    (hworks : s₀.works shutdown holds k = ⟨s, duty, issued⟩)
    (hresult : ∀ r, result = some r →
      (Service.mk s duty issued).work shutdown holds = ⟨s, .returning job (CommandError.toJobResult r), issued⟩) :
    Settles shutdown holds job s₀ (result.map CommandError.toJobResult, s) issued := by
  cases result with
  | none => exact ⟨k, duty, hworks, fun r hr => by cases hr⟩
  | some r =>
    refine ⟨k + 1, .returning job (CommandError.toJobResult r), ?_, fun _ hr => by cases hr; rfl⟩
    rw [← works_works, hworks]
    exact hresult r rfl

theorem settles_deploying (s : System) (id : DeploymentId) (c : Context) :
    Settles shutdown holds job ⟨s, .deploying job (.enter id c holds), issued⟩
      ((s.deploy id c holds).1.map CommandError.toJobResult, (s.deploy id c holds).2) issued := by
  have hended (p : Deploying) (s : System) (h : p.result?.isSome = true) : p.step s = (p, s) := by
    obtain ⟨id, context, holds, phase⟩ := p
    cases phase <;> first | rfl | cases h
  have hwork (p : Deploying) (s : System) (issued : List AppId) (h : p.result? = none) :
      (Service.mk s (.deploying job p) issued).work shutdown holds =
        ⟨(p.step s).2, .deploying job (p.step s).1, issued⟩ := by
    simp only [work, h]
  obtain ⟨k, hk⟩ := @exists_works_of_run shutdown holds Deploying (.deploying job) Deploying.step Deploying.run
    Deploying.result? (fun _ _ => rfl) (fun _ _ _ => rfl) hended hwork issued 5 (.enter id c holds) s
  refine settles_of_works hk fun r hr => ?_
  have hresult : ((Deploying.enter id c holds).run 5 s).1.result? = some r := hr
  simp only [work, hresult]

theorem settles_cleaning (s : System) (app : AppId) (c : Context) :
    Settles shutdown holds job ⟨s, .cleaning job (.enter app c), issued⟩
      ((s.cleanup app c).1.map CommandError.toJobResult, (s.cleanup app c).2) issued := by
  have hended (p : CleaningUp) (s : System) (h : p.result?.isSome = true) : p.step s = (p, s) := by
    obtain ⟨app, context, phase⟩ := p
    cases phase <;> first | rfl | cases h
  have hwork (p : CleaningUp) (s : System) (issued : List AppId) (h : p.result? = none) :
      (Service.mk s (.cleaning job p) issued).work shutdown holds =
        ⟨(p.step s).2, .cleaning job (p.step s).1, issued⟩ := by
    simp only [work, h]
  obtain ⟨k, hk⟩ := @exists_works_of_run shutdown holds CleaningUp (.cleaning job) CleaningUp.step CleaningUp.run
    CleaningUp.result? (fun _ _ => rfl) (fun _ _ _ => rfl) hended hwork issued 3 (.enter app c) s
  refine settles_of_works hk fun r hr => ?_
  have hresult : ((CleaningUp.enter app c).run 3 s).1.result? = some r := hr
  simp only [work, hresult]

/-- A job that has been handed out is processed. -/
theorem settles_holding (s : System) (job : Job Work) (c : Context) :
    Settles shutdown holds job ⟨s, .holding job c holds, issued⟩ (s.process job c holds) issued := by
  obtain ⟨k, duty, hworks, hresult⟩ : Settles shutdown holds job ⟨s, .enter job c holds, issued⟩
      (s.process job c holds) issued := by
    rcases hcommand : Work.registry.command job with e | id | app
    · simp only [Duty.enter, System.process, hcommand]
      exact ⟨0, _, rfl, fun r hr => by cases hr; rfl⟩
    · simp only [Duty.enter, System.process, hcommand]
      exact settles_deploying s id c
    · simp only [Duty.enter, System.process, hcommand]
      exact settles_cleaning s app c
  exact ⟨k + 1, duty, hworks, hresult⟩

/-- **The steps of a worker are a turn of it**, if nothing comes in between. -/
theorem exists_works (s : System) (issued : List AppId) (shutdown : Option Instant) (holds : Bool) :
    ∃ n duty, (Service.mk s .idle issued).works shutdown holds n =
        ⟨(s.processNextIn shutdown holds).2, duty, issued⟩ ∧
      ((∀ id, (s.processNextIn shutdown holds).1 ≠ .stuck id) → duty = .idle) := by
  unfold System.processNextIn
  rcases hdequeue : s.queue.dequeue s.now with ⟨_ | job, q⟩
  · exact ⟨0, .idle, rfl, fun _ => rfl⟩
  · have htake : (Service.mk s .idle issued).work shutdown holds =
        ⟨s.withQueue q, .holding job (Worker.context s.worker shutdown s.now) holds, issued⟩ := by
      simp only [work, take, hdequeue]
    obtain ⟨k, duty, hworks, hresult⟩ : Settles shutdown holds job ⟨s.withQueue q, .holding job _ holds, issued⟩ _
        issued := settles_holding (s.withQueue q) job (Worker.context s.worker shutdown s.now)
    rw [← htake, ← works_succ] at hworks
    dsimp only
    rcases hprocess : (s.withQueue q).process job (Worker.context s.worker shutdown s.now) holds with ⟨_ | r, s₁⟩
    · rw [hprocess] at hworks
      exact ⟨k + 1, duty, hworks, fun h => absurd rfl (h job.id)⟩
    · rw [hprocess] at hworks hresult
      obtain rfl := hresult r rfl
      refine ⟨k + 1 + 1, .idle, ?_, fun _ => rfl⟩
      rw [← works_works, hworks]
      show (Service.mk s₁ (.returning job r) issued).mark job r = _
      cases hmark : s₁.queue.mark s₁.now job.id r <;> simp only [mark, hmark]

end Turns

end Service

end Rollout
