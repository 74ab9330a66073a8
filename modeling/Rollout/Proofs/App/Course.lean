import Rollout.Proofs.App.Operations

/-!
# The course of an app

Operations are called on an app in any order, and from time to time the events that wait are taken out
(`AppCourse.step`). Those that were taken out and those that still wait are all that were ever recorded
(`AppCourse.recorded`).

An operation that is refused changes nothing, and it is known which ones are (`App.Refuses`). One that is accepted
raises an event just if it changes a field (`App.Raises.fields_ne`), a deletion apart, which changes none. Once the
cleanup has been requested only deletions are raised (`App.Raises.of_requested`), so that the fields stand still from
the first request on, and no deletion is raised before it (`AppCourse.lawful`).
-/

namespace Rollout

/-- Values that differ still differ once the configuration is consolidated. -/
theorem EnvConfig.hasSameValues_consolidate (c previous : EnvConfig) :
    previous.hasSameValues (c.consolidate previous) = previous.hasSameValues c := by
  unfold consolidate
  split <;> rfl

namespace App

variable {a a' : App} {o : AppOperation} {e : AppEvent}

/-! ## Refusals -/

/-- Why an operation is refused. A request for cleanup never is. -/
inductive Refuses (a : App) : AppOperation → AppError → Prop where
  | moving {e : Environment} {required : Requirement} (hrequested : a.cleanupRequested.isSome = true) :
    Refuses a (.updateEnvironment e required) .cleanupRequested
  | unmet {e : Environment} {required : Requirement} {error : AppError} (hopen : a.cleanupRequested = none)
      (hunmet : required.met = .error error) : Refuses a (.updateEnvironment e required) error
  | configuring {config : VersionControl} (hrequested : a.cleanupRequested.isSome = true) :
    Refuses a (.useVersionControl config) .cleanupRequested
  | removing (hrequested : a.cleanupRequested.isSome = true) : Refuses a .removeVersionControl .cleanupRequested
  | deleting (hopen : a.cleanupRequested = none) : Refuses a .delete .cleanupNotRequested

theorem ensureNotCleaningUp_eq_error {x : AppError} :
    a.ensureNotCleaningUp = .error x ↔ a.cleanupRequested.isSome = true ∧ x = .cleanupRequested := by
  unfold ensureNotCleaningUp
  cases a.cleanupRequested <;> simp [eq_comm]

/-- What is left of an operation after its checks is not refused. -/
theorem ite_pure_ne_error {c : Prop} [Decidable c] {x : AppError} :
    (if c then pure a else pure a' : Except AppError App) ≠ .error x := by
  split <;> nofun

theorem perform_eq_error {x : AppError} : a.perform o = .error x ↔ a.Refuses o x := by
  constructor
  · intro h
    cases o with
    | updateEnvironment e required =>
      rcases bind_eq_error.mp h with h | ⟨_, hopen, h⟩
      · obtain ⟨hrequested, rfl⟩ := ensureNotCleaningUp_eq_error.mp h
        exact .moving hrequested
      · rcases bind_eq_error.mp h with h | ⟨config, -, h⟩
        · exact .unmet (ensureNotCleaningUp_eq_ok.mp hopen) h
        · exact absurd h ite_pure_ne_error
    | useVersionControl config =>
      rcases bind_eq_error.mp h with h | ⟨_, -, h⟩
      · obtain ⟨hrequested, rfl⟩ := ensureNotCleaningUp_eq_error.mp h
        exact .configuring hrequested
      · exact absurd h ite_pure_ne_error
    | removeVersionControl =>
      rcases bind_eq_error.mp h with h | ⟨_, -, h⟩
      · obtain ⟨hrequested, rfl⟩ := ensureNotCleaningUp_eq_error.mp h
        exact .removing hrequested
      · exact absurd h ite_pure_ne_error
    | requestCleanup requested => cases h
    | delete =>
      have h : a.delete = .error x := h
      unfold delete at h
      split at h
      · next hopen =>
        cases h
        exact .deleting (Option.isNone_iff_eq_none.mp hopen)
      · cases h
  · intro h
    cases h with
    | moving hrequested | configuring hrequested | removing hrequested =>
      exact bind_eq_error.mpr (.inl (ensureNotCleaningUp_eq_error.mpr ⟨hrequested, rfl⟩))
    | unmet hopen hunmet =>
      exact bind_eq_error.mpr (.inr ⟨(), ensureNotCleaningUp_eq_ok.mpr hopen, bind_eq_error.mpr (.inl hunmet)⟩)
    | deleting hopen => exact if_pos (by rw [hopen]; rfl)

/-- An app whose cleanup has been requested cannot be deployed. -/
theorem newDeployment_eq_error {number : DeploymentNumber} {e : Environment} {requested : Signature} {x : AppError} :
    a.newDeployment number e requested = .error x ↔ a.cleanupRequested.isSome = true ∧ x = .cleanupRequested := by
  simp only [newDeployment, bind_eq_error, ensureNotCleaningUp_eq_error]
  exact or_iff_left nofun

/-! ## Events and fields -/

/-- An app apart from the events that wait. -/
def fields (a : App) : App := a.takeEvents.2

/-- What is new is in the event. -/
theorem fields_raise (a : App) (e : AppEvent) : (a.raise e).fields = a.fields.apply e := by
  cases e with
  | envChanged _ e _ => cases e <;> rfl
  | _ => rfl

theorem environment_envChanged (a : App) (id : AppId) (e : Environment) (config : EnvConfig) :
    (a.apply (.envChanged id e config)).environment e = config := by
  cases e <;> rfl

/-- A deletion changes no field. -/
theorem fields_deleted (a : App) (id : AppId) : (a.raise (.deleted id)).fields = a.fields := rfl

/-- **Whatever else is raised changes a field.** -/
theorem Raises.fields_ne (h : a.Raises o e) (ho : o ≠ .delete) : (a.raise e).fields ≠ a.fields := by
  intro heq
  rw [fields_raise] at heq
  cases h with
  | @envChanged e required config _ _ hnew =>
    have henvironment : a.fields.environment e = a.environment e := by cases e <;> rfl
    have hsame : config.consolidate (a.environment e) = a.environment e := by
      rw [← environment_envChanged a.fields a.id e (config.consolidate (a.environment e)), heq, henvironment]
    have hvalues := EnvConfig.hasSameValues_consolidate config (a.environment e)
    rw [hsame, hnew] at hvalues
    simp [EnvConfig.hasSameValues] at hvalues
  | versionControlConfigured _ hnew => exact hnew (congrArg App.versionControl heq).symm
  | versionControlRemoved _ hsome =>
    have hnone : none = a.versionControl := congrArg App.versionControl heq
    rw [← hnone] at hsome
    cases hsome
  | @cleanupRequested requested hopen =>
    have hsome : some requested = a.cleanupRequested := congrArg App.cleanupRequested heq
    cases hsome.trans hopen
  | deleted _ => exact ho rfl

/-- Once the cleanup has been requested nothing but a deletion is raised. -/
theorem Raises.of_requested (h : a.Raises o e) (hrequested : a.cleanupRequested.isSome = true) :
    o = .delete ∧ e = .deleted a.id := by
  have hnot (hopen : a.cleanupRequested = none) : False := by
    rw [hopen] at hrequested
    cases hrequested
  cases h with
  | envChanged hopen | versionControlConfigured hopen | versionControlRemoved hopen | cleanupRequested hopen =>
    exact (hnot hopen).elim
  | deleted _ => exact ⟨rfl, rfl⟩

end App

/-! ## Courses -/

/-- What is done with an app. -/
inductive AppStep where
  | operate (o : AppOperation)
  | takeEvents

def AppStep.isDelete : AppStep → Bool
  | .operate .delete => true
  | _ => false

/-- An app, and the events that were taken out of it, oldest first. -/
structure AppCourse where
  app : App
  taken : List AppEvent

namespace AppCourse

def step (c : AppCourse) : AppStep → AppCourse
  | .operate o =>
    match c.app.perform o with
    | .ok a => { c with app := a }
    | .error _ => c
  | .takeEvents => ⟨c.app.takeEvents.2, c.taken ++ c.app.takeEvents.1⟩

def run (c : AppCourse) (steps : List AppStep) : AppCourse := steps.foldl step c

/-- All events that were recorded, oldest first. -/
def recorded (c : AppCourse) : List AppEvent := c.taken ++ c.app.events.events

variable {c : AppCourse} {o : AppOperation} {r : Signature} {steps before after : List AppStep}

theorem run_append (c : AppCourse) (before after : List AppStep) :
    c.run (before ++ after) = (c.run before).run after :=
  List.foldl_append

theorem step_of_ok {a : App} (h : c.app.perform o = .ok a) : c.step (.operate o) = { c with app := a } := by
  simp only [step, h]

theorem step_of_error {x : AppError} (h : c.app.perform o = .error x) : c.step (.operate o) = c := by
  simp only [step, h]

theorem recorded_raise (c : AppCourse) (e : AppEvent) :
    recorded { c with app := c.app.raise e } = c.recorded ++ [e] := by
  show c.taken ++ (c.app.events.events ++ [e]) = c.taken ++ c.app.events.events ++ [e]
  rw [List.append_assoc]

theorem recorded_takeEvents (c : AppCourse) : (c.step .takeEvents).recorded = c.recorded :=
  List.append_nil _

/-- What an accepted operation does to the course. -/
theorem accepted_cases {a : App} (h : c.app.perform o = .ok a) :
    (a = c.app ∧ o ≠ .delete ∧ c.step (.operate o) = c) ∨
      ∃ e, c.app.Raises o e ∧ a = c.app.raise e ∧ (c.step (.operate o)).recorded = c.recorded ++ [e] := by
  rw [step_of_ok h]
  rcases App.perform_eq_ok h with ⟨rfl, ho⟩ | ⟨e, hraises, rfl⟩
  · exact .inl ⟨rfl, ho, rfl⟩
  · exact .inr ⟨e, hraises, rfl, c.recorded_raise e⟩

/-! ## After the request -/

/-- **Once the cleanup has been requested a step changes no field**, and records nothing but a deletion. -/
theorem step_of_requested (h : c.app.cleanupRequested = some r) (m : AppStep) :
    (c.step m).app.fields = c.app.fields ∧
      (c.step m).recorded = c.recorded ++ if m.isDelete then [.deleted c.app.id] else [] := by
  have hrequested : c.app.cleanupRequested.isSome = true := by rw [h]; rfl
  cases m with
  | takeEvents => exact ⟨rfl, c.recorded_takeEvents.trans (List.append_nil _).symm⟩
  | operate o =>
    cases hperform : c.app.perform o with
    | error x =>
      have ho : (AppStep.operate o).isDelete = false := by
        cases App.perform_eq_error.mp hperform with
        | deleting hopen => cases h.symm.trans hopen
        | moving | unmet | configuring | removing => rfl
      rw [step_of_error hperform, ho]
      exact ⟨rfl, (List.append_nil _).symm⟩
    | ok a =>
      rcases accepted_cases hperform with ⟨-, ho, hstep⟩ | ⟨e, hraises, rfl, hrecorded⟩
      · have ho : (AppStep.operate o).isDelete = false := by
          cases o with
          | delete => exact absurd rfl ho
          | updateEnvironment | useVersionControl | removeVersionControl | requestCleanup => rfl
        rw [hstep, ho]
        exact ⟨rfl, (List.append_nil _).symm⟩
      · obtain ⟨rfl, rfl⟩ := hraises.of_requested hrequested
        exact ⟨by rw [step_of_ok hperform, c.app.fields_deleted], hrecorded⟩

theorem run_of_requested (h : c.app.cleanupRequested = some r) (steps : List AppStep) :
    (c.run steps).app.fields = c.app.fields ∧
      (c.run steps).recorded = c.recorded ++ List.replicate (steps.countP (·.isDelete)) (.deleted c.app.id) := by
  induction steps generalizing c with
  | nil => exact ⟨rfl, (List.append_nil _).symm⟩
  | cons m steps ih =>
    obtain ⟨hfields, hrecorded⟩ := step_of_requested h m
    have hid : (c.step m).app.id = c.app.id := (congrArg App.id hfields :)
    have hafter : (c.step m).app.cleanupRequested = some r := (congrArg App.cleanupRequested hfields).trans h
    obtain ⟨hfields', hrecorded'⟩ := ih hafter
    refine ⟨hfields'.trans hfields, hrecorded'.trans ?_⟩
    rw [hrecorded, hid, List.append_assoc]
    cases hm : m.isDelete <;> simp [hm, List.replicate_succ]

/-! ## Before the request -/

/-- **Before the cleanup is requested no deletion is recorded.** -/
theorem step_of_open (h : c.app.cleanupRequested = none) {m : AppStep}
    (hm : ∀ r, m ≠ .operate (.requestCleanup r)) :
    (c.step m).app.cleanupRequested = none ∧
      ∃ es, (c.step m).recorded = c.recorded ++ es ∧ ∀ id, AppEvent.deleted id ∉ es := by
  cases m with
  | takeEvents => exact ⟨h, [], c.recorded_takeEvents.trans (List.append_nil _).symm, fun _ => List.not_mem_nil⟩
  | operate o =>
    cases hperform : c.app.perform o with
    | error x =>
      rw [step_of_error hperform]
      exact ⟨h, [], (List.append_nil _).symm, fun _ => List.not_mem_nil⟩
    | ok a =>
      rcases accepted_cases hperform with ⟨-, -, hstep⟩ | ⟨e, hraises, rfl, hrecorded⟩
      · rw [hstep]
        exact ⟨h, [], (List.append_nil _).symm, fun _ => List.not_mem_nil⟩
      · rw [hrecorded, step_of_ok hperform]
        cases hraises with
        | @envChanged e _ _ _ _ _ => exact ⟨by cases e <;> exact h, _, rfl, by simp⟩
        | versionControlConfigured | versionControlRemoved => exact ⟨h, _, rfl, by simp⟩
        | cleanupRequested => exact absurd rfl (hm _)
        | deleted hrequested =>
          rw [h] at hrequested
          cases hrequested

theorem run_of_open (h : c.app.cleanupRequested = none) (hsteps : ∀ r, .operate (.requestCleanup r) ∉ steps) :
    (c.run steps).app.cleanupRequested = none ∧
      ∃ es, (c.run steps).recorded = c.recorded ++ es ∧ ∀ id, AppEvent.deleted id ∉ es := by
  induction steps generalizing c with
  | nil => exact ⟨h, [], (List.append_nil _).symm, fun _ => List.not_mem_nil⟩
  | cons m steps ih =>
    obtain ⟨hopen, es, hrecorded, hes⟩ := step_of_open h fun r hm => hsteps r (hm ▸ List.mem_cons_self)
    obtain ⟨hopen', es', hrecorded', hes'⟩ := ih hopen fun r hm => hsteps r (List.mem_cons_of_mem _ hm)
    refine ⟨hopen', es ++ es', ?_, fun id hid => (List.mem_append.mp hid).elim (hes id) (hes' id)⟩
    show ((c.step m).run steps).recorded = _
    rw [hrecorded', hrecorded, List.append_assoc]

/-- Who asks first stays on record. -/
theorem cleanupRequested_run (h : c.app.cleanupRequested = none)
    (hbefore : ∀ r, .operate (.requestCleanup r) ∉ before) :
    (c.run (before ++ .operate (.requestCleanup r) :: after)).app.cleanupRequested = some r := by
  have hopen := (run_of_open h hbefore).1
  have hrequest : ((c.run before).step (.operate (.requestCleanup r))).app.cleanupRequested = some r := by
    have hperform : (c.run before).app.perform (.requestCleanup r) = .ok ((c.run before).app.requestCleanup r) := rfl
    rw [step_of_ok hperform, App.requestCleanup, if_neg (by rw [hopen]; nofun)]
    rfl
  rw [run_append]
  exact (congrArg App.cleanupRequested (run_of_requested hrequest after).1).trans hrequest

/-! ## All courses -/

/-- What holds of an app at any point of its course. -/
structure Lawful (c : AppCourse) : Prop where
  /-- It is known what is refused and why, and that leaves everything as it is. -/
  refused : ∀ o x, c.app.perform o = .error x ↔ c.app.Refuses o x
  kept : ∀ o x, c.app.perform o = .error x → c.step (.operate o) = c
  /-- One event is recorded and brings what is new, or nothing is new and none is. -/
  minimal : ∀ o a, c.app.perform o = .ok a → o ≠ .delete →
    (∃ e, a.fields ≠ c.app.fields ∧ a.fields = c.app.fields.apply e ∧
        (c.step (.operate o)).recorded = c.recorded ++ [e]) ∨
      (a.fields = c.app.fields ∧ (c.step (.operate o)).recorded = c.recorded)
  /-- Events are handed out once, all that wait at a time. -/
  taken : (c.step .takeEvents).app = c.app.fields ∧ (c.step .takeEvents).taken = c.recorded ∧
    (c.step .takeEvents).recorded = c.recorded
  /-- After the request for cleanup the fields stand still, and deletions are all that is recorded. -/
  frozen : ∀ r, c.app.cleanupRequested = some r → ∀ steps,
    (c.run steps).app.fields = c.app.fields ∧ (c.run steps).app.cleanupRequested = some r ∧
      (c.run steps).recorded = c.recorded ++ List.replicate (steps.countP (·.isDelete)) (.deleted c.app.id) ∧
      ∀ number e requested, (c.run steps).app.newDeployment number e requested = .error .cleanupRequested
  /-- As long as nobody has asked for it, no deletion is recorded, and the app can be deployed. -/
  waiting : c.app.cleanupRequested = none → ∀ steps, (∀ r, .operate (.requestCleanup r) ∉ steps) →
    (c.run steps).app.cleanupRequested = none ∧
      (∃ es, (c.run steps).recorded = c.recorded ++ es ∧ ∀ id, AppEvent.deleted id ∉ es) ∧
      ∀ number e requested, ∃ d, (c.run steps).app.newDeployment number e requested = .ok d
  /-- The one who asks first stays on record. -/
  first : c.app.cleanupRequested = none → ∀ before r after, (∀ r, .operate (.requestCleanup r) ∉ before) →
    (c.run (before ++ .operate (.requestCleanup r) :: after)).app.cleanupRequested = some r

/-- **An app is moved by its events alone and stands still once its cleanup has been requested.** -/
theorem lawful (c : AppCourse) : c.Lawful where
  refused o x := App.perform_eq_error
  kept o x h := step_of_error h
  minimal o a h ho := by
    rcases accepted_cases h with ⟨rfl, -, hstep⟩ | ⟨e, hraises, rfl, hrecorded⟩
    · exact .inr ⟨rfl, by rw [hstep]⟩
    · exact .inl ⟨e, hraises.fields_ne ho, App.fields_raise _ e, hrecorded⟩
  taken := ⟨rfl, rfl, c.recorded_takeEvents⟩
  frozen r h steps := by
    obtain ⟨hfields, hrecorded⟩ := run_of_requested h steps
    have hrequested : (c.run steps).app.cleanupRequested = some r := (congrArg App.cleanupRequested hfields).trans h
    exact ⟨hfields, hrequested, hrecorded, fun number e requested =>
      App.newDeployment_eq_error.mpr ⟨by rw [hrequested]; rfl, rfl⟩⟩
  waiting h steps hsteps := by
    obtain ⟨hopen, hrecorded⟩ := run_of_open h hsteps
    refine ⟨hopen, hrecorded, fun number e requested => ?_⟩
    cases hdeploy : (c.run steps).app.newDeployment number e requested with
    | ok d => exact ⟨d, rfl⟩
    | error x =>
      have hrequested := (App.newDeployment_eq_error.mp hdeploy).1
      rw [hopen] at hrequested
      cases hrequested
  first h before r after hbefore := cleanupRequested_run h hbefore

end AppCourse

end Rollout
