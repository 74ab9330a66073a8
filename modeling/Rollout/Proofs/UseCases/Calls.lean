import Rollout.Proofs.Interleaving
import Rollout.Proofs.UseCases.Naming
import Rollout.Proofs.UseCases.Outcomes

/-!
# Calls that create and change apps

A call takes its steps one at a time, so that others can come between them: it looks at the names in use, loads the app
that is to change, and writes what the app came to. Without a break its steps are the use case
(`AppCall.steps_of_create`, `AppCall.steps_of_update`). What one step can do is said once (`AppCall.Effect`).
-/

namespace Rollout

inductive AppRequest where
  | create (input : NewApp) (created : Signature)
  | update (input : AppChange)

/-- What is asked of an app. -/
structure AppErrand where
  app : AppId
  request : AppRequest

/-- A write of an app that has been stored. -/
structure AppWrite where
  app : AppId
  /-- The targets that the call asked for. -/
  targets : List TargetId
  /-- How many writes had been stored when the call looked at the names. -/
  seen : Nat
deriving DecidableEq

/-- A store with the writes that calls have stored in it, oldest first. -/
structure Site where
  store : Store
  writes : List AppWrite

def Site.tables (s : Site) : Tables := s.store.db.tables

inductive AppPhase where
  | entered (request : AppRequest)
  | checked (input : AppChange) (required : Requirement × Requirement)
  | ready (required : Requirement × Requirement) (built : Except AppError App)
  | ended (result : Except CommandError Unit)

structure AppCall where
  app : AppId
  /-- How many writes had been stored when the call looked at the names. -/
  seen : Nat
  phase : AppPhase

namespace AppCall

def enter (e : AppErrand) : AppCall := ⟨e.app, 0, .entered e.request⟩

/-- Goes on with what the store answered. -/
def andThen {β : Type} (p : AppCall) (s : Site) (answer : Except StoreError β × Store) (next : β → AppCall) :
    AppCall × Site :=
  match answer with
  | (.error e, store) => ({ p with phase := .ended (.error (.store e)) }, { s with store })
  | (.ok b, store) => (next b, { s with store })

/-- Whether a call with this result has stored its write. -/
def hasWritten : Except CommandError Unit → Bool
  | .ok _ => true
  | .error (.store e) => wasStored (.error e)
  | .error _ => false

/-- One access to the store. -/
def step (p : AppCall) (s : Site) : AppCall × Site :=
  match p.phase with
  | .entered (.create input created) =>
    p.andThen s (s.store.checkNew input) fun required =>
      ⟨p.app, s.writes.length, .ready required (input.build p.app required created)⟩
  | .entered (.update input) =>
    p.andThen s (s.store.checkNamingById p.app input.production input.staging) fun required =>
      ⟨p.app, s.writes.length, .checked input required⟩
  | .checked input required =>
    p.andThen s (s.store.loadApp p.app) fun app => { p with phase := .ready required (input.build app required) }
  | .ready required built =>
    let (result, store) := s.store.commit () built
    let writes := if hasWritten result then s.writes ++ [⟨p.app, askedTargets required, p.seen⟩] else s.writes
    ({ p with phase := .ended result }, ⟨store, writes⟩)
  | .ended _ => (p, s)

/-! ## Steps without a break -/

/-- The call and the site after `n` steps. -/
def steps : Nat → AppCall → Site → AppCall × Site
  | 0, p, s => (p, s)
  | n + 1, p, s => steps n (p.step s).1 (p.step s).2

variable {s s' : Site} {p p' : AppCall}

/-- A call for a new app that is not interrupted creates it. -/
theorem steps_of_create (id : AppId) (input : NewApp) (created : Signature) (s : Site) :
    ((enter ⟨id, .create input created⟩).steps 2 s).1.phase =
        .ended ((s.store.createApp id input created).1.map fun _ => ()) ∧
      ((enter ⟨id, .create input created⟩).steps 2 s).2.store = (s.store.createApp id input created).2 := by
  rcases hcheck : s.store.checkNew input with ⟨e | required, store⟩
  · simp [steps, enter, step, andThen, hcheck, Store.createApp, Store.andThen, Except.map]
  · simp [steps, enter, step, andThen, hcheck, Store.createApp, Store.andThen, Store.commit_map store id]

/-- A call for a change of an app that is not interrupted makes the change. -/
theorem steps_of_update (id : AppId) (input : AppChange) (s : Site) :
    ((enter ⟨id, .update input⟩).steps 3 s).1.phase = .ended (s.store.updateApp id input).1 ∧
      ((enter ⟨id, .update input⟩).steps 3 s).2.store = (s.store.updateApp id input).2 := by
  rcases hcheck : s.store.checkNamingById id input.production input.staging with ⟨e | required, store⟩
  · simp [steps, enter, step, andThen, hcheck, Store.updateApp, Store.andThen]
  · rcases hload : store.loadApp id with ⟨e | a, store'⟩
    · simp [steps, enter, step, andThen, hcheck, hload, Store.updateApp, Store.andThen]
    · simp [steps, enter, step, andThen, hcheck, hload, Store.updateApp, Store.andThen]

/-! ## What a step can do -/

/-- What a step can make of a call, the tables and the writes. -/
inductive Effect (p : AppCall) (t : Tables) (ws : List AppWrite) : AppCall → Tables → List AppWrite → Prop where
  | ends {p' : AppCall} {result : Except CommandError Unit} (hphase : p'.phase = .ended result) : Effect p t ws p' t ws
  | checksNew {input : NewApp} {created : Signature} {required : Requirement × Requirement}
      (hrequired : t.checkNaming input.name input.production input.staging = required) :
    Effect p t ws ⟨p.app, ws.length, .ready required (input.build p.app required created)⟩ t ws
  | checks {input : AppChange} {required : Requirement × Requirement}
      (hrequired : required = (.empty, .empty) ∨
        t.checkNamingById p.app input.production input.staging = .ok required) :
    Effect p t ws ⟨p.app, ws.length, .checked input required⟩ t ws
  | loads {input : AppChange} {required : Requirement × Requirement} {a : App}
      (hphase : p.phase = .checked input required) (ha : t.app p.app = .ok a) :
    Effect p t ws { p with phase := .ready required (input.build a required) } t ws
  | writes {required : Requirement × Requirement} {a : App} {p' : AppCall} {t' : Tables}
      {result : Except CommandError Unit} (hphase : p.phase = .ready required (.ok a))
      (hwritten : (Aggregate.pending a).foldlM Tables.applyAppEvent t = .ok t') (hphase' : p'.phase = .ended result) :
    Effect p t ws p' t' (ws ++ [⟨p.app, askedTargets required, p.seen⟩])

theorem andThen_cases {β : Type} {question : Tables → Except StoreError β} {next : β → AppCall}
    (h : p.andThen s (s.store.query question) next = (p', s')) :
    s'.tables = s.tables ∧ s'.writes = s.writes ∧
      ((∃ result, p'.phase = .ended result) ∨ ∃ b, question s.tables = .ok b ∧ p' = next b) := by
  rcases s.store.query_cases question with ⟨error, store, hquery, htables⟩ | ⟨b, store, hquery, hanswer, htables⟩
  · simp only [andThen, hquery] at h
    cases h
    exact ⟨htables, rfl, .inl ⟨_, rfl⟩⟩
  · simp only [andThen, hquery] at h
    cases h
    exact ⟨htables, rfl, .inr ⟨b, hanswer, rfl⟩⟩

/-- A commit stores nothing, or the events of what was built. -/
theorem commit_cases (s : Store) (built : Except AppError App) :
    (hasWritten (s.commit () built).1 = false ∧ (s.commit () built).2.db.tables = s.db.tables) ∨
    ∃ a, built = .ok a ∧ hasWritten (s.commit () built).1 = true ∧
      (Aggregate.pending a).foldlM Tables.applyAppEvent s.db.tables = .ok (s.commit () built).2.db.tables := by
  cases built with
  | error e => exact .inl ⟨rfl, rfl⟩
  | ok a =>
    rcases s.write_cases [a] with ⟨error, k, hwrite⟩ | ⟨result, tables, k, hub, happlied, hstored, hwrite⟩
    · simp only [Store.commit, hwrite]
      exact .inl ⟨rfl, Database.tables_skip⟩
    · rw [pendingEvents, List.flatMap_singleton] at happlied
      refine .inr ⟨a, rfl, ?_⟩
      cases result with
      | error e =>
        simp only [Store.commit, hwrite]
        exact ⟨hstored, happlied⟩
      | ok _ =>
        simp only [Store.commit, hwrite]
        exact ⟨rfl, happlied⟩

/-- **A step has one of the effects.** -/
theorem effect_of_step (h : p.step s = (p', s')) : Effect p s.tables s.writes p' s'.tables s'.writes := by
  unfold step at h
  split at h
  case h_1 input created hphase =>
    obtain ⟨htables, hwrites, ⟨result, hended⟩ | ⟨required, hrequired, rfl⟩⟩ := andThen_cases h
    · rw [htables, hwrites]
      exact .ends hended
    · rw [htables, hwrites]
      exact .checksNew (Except.ok.inj hrequired)
  case h_2 input hphase =>
    unfold Store.checkNamingById at h
    split at h
    · cases h
      exact .checks (.inl rfl)
    · obtain ⟨htables, hwrites, ⟨result, hended⟩ | ⟨required, hrequired, rfl⟩⟩ := andThen_cases h
      · rw [htables, hwrites]
        exact .ends hended
      · rw [htables, hwrites]
        exact .checks (.inr hrequired)
  case h_3 input required hphase =>
    obtain ⟨htables, hwrites, ⟨result, hended⟩ | ⟨a, ha, rfl⟩⟩ := andThen_cases h
    · rw [htables, hwrites]
      exact .ends hended
    · rw [htables, hwrites]
      exact .loads hphase ha
  case h_4 required built hphase =>
    have hcases := commit_cases s.store built
    rcases hcommit : s.store.commit () built with ⟨result, store⟩
    simp only [hcommit] at h hcases
    cases h
    rcases hcases with ⟨hnot, htables⟩ | ⟨a, rfl, hwritten, happlied⟩
    · rw [if_neg (by simp [hnot]), Site.tables, Site.tables, htables]
      exact .ends rfl
    · rw [if_pos hwritten]
      exact .writes hphase happlied rfl
  case h_5 result hphase =>
    cases h
    exact .ends hphase

end AppCall

end Rollout
