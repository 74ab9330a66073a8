import Rollout.Proofs.Command.Interruption
import Rollout.Proofs.Command.Leftovers

/-!
# What a cleanup command comes to

A run of the command pauses before each of its phases for as long as it likes (`CleanupRun`), so that its context may
stop between two of them. It removes the files of its app first and deletes the app after that, and what was in the way
of either is its result (`System.CleansUp`). A run that could not delete the app leaves that to a later one, and nothing
of other apps is ever changed (`System.Spares`).
-/

namespace Rollout

/-- A context that has not stopped has not stopped before. -/
theorem Context.stop?_of_le {c : Context} {t t' : Instant} (hle : t ≤ t') (h : c.stop? t' = none) :
    c.stop? t = none := by
  have hpassed (o : Option Instant) (ho : hasPassed t o = true) : hasPassed t' o = true := by
    cases o with
    | none => cases ho
    | some u => exact decide_eq_true (Nat.le_trans (of_decide_eq_true ho) hle)
  rw [← Option.not_isSome_iff_eq_none, isSome_stop?, isCancelled, Bool.or_eq_true] at h ⊢
  exact fun hstopped => h (hstopped.imp (hpassed _) (hpassed _))

/-! ## Runs -/

/-- A run of a cleanup command: its context, and the pauses before its phases. -/
structure CleanupRun where
  context : Context
  toLoad : Duration
  toClear : Duration
  toDelete : Duration

namespace CleanupRun

variable (r : CleanupRun) (s : System)

/-- The instant at which the app is looked up. -/
def loadsAt : Instant := Instant.after s.now r.toLoad

/-- The instant at which the files are removed, if it comes to that. -/
def clearsAt : Instant := Instant.after (r.loadsAt s) r.toClear

def endsAt : Instant := Instant.after (r.clearsAt s) r.toDelete

/-- The run is not stopped at its start, and finds an app whose cleanup was requested. -/
structure GoesOn (app : AppId) (a : App) : Prop where
  goes : r.context.stop? (r.loadsAt s) = none
  found : s.tables.app app = .ok a
  requested : a.cleanupRequested.isSome = true

end CleanupRun

namespace System

/-- Cleans up an app with pauses. -/
def runCleanup (s : System) (app : AppId) (r : CleanupRun) : Option (Except CommandError Unit) × System :=
  let (p, s) := (CleaningUp.enter app r.context).step (s.advance r.toLoad)
  let (p, s) := p.step (s.advance r.toClear)
  let (p, s) := p.step (s.advance r.toDelete)
  (p.result?, s)

/-- Cleans up an app again and again. -/
def runCleanups (s : System) (app : AppId) (rs : List CleanupRun) : System :=
  rs.foldl (fun s r => (s.runCleanup app r).2) s

/-- A cleanup without a break is a run without pauses. -/
theorem cleanup_eq_runCleanup (s : System) (app : AppId) (c : Context) :
    s.cleanup app c = s.runCleanup app ⟨c, .zero, .zero, .zero⟩ := by
  simp only [cleanup, runCleanup, advance_zero]
  rfl

end System

/-! ## Other apps -/

/-- Nothing is changed but what is of the app. -/
structure System.Spares (app : AppId) (s s' : System) : Prop where
  targets : s'.tables.targets = s.tables.targets
  apps : s'.tables.apps.filter (!·.id.holds app) = s.tables.apps.filter (!·.id.holds app)
  deployments : s'.tables.deployments.filter (·.app ≠ app) = s.tables.deployments.filter (·.app ≠ app)
  files : ∀ q, ¬Artifacts.appDir app <+: q → s'.files.node? q = s.files.node? q

namespace System.Spares

variable {app other : AppId} {s s' s'' : System}

theorem refl (s : System) : s.Spares app s := ⟨rfl, rfl, rfl, fun _ _ => rfl⟩

theorem advance (s : System) (d : Duration) : s.Spares app (s.advance d) := ⟨rfl, rfl, rfl, fun _ _ => rfl⟩

theorem trans (h : s.Spares app s') (h' : s'.Spares app s'') : s.Spares app s'' where
  targets := h'.targets.trans h.targets
  apps := h'.apps.trans h.apps
  deployments := h'.deployments.trans h.deployments
  files q hq := (h'.files q hq).trans (h.files q hq)

theorem of_tables (htables : s'.tables = s.tables ∨ s'.tables = s.tables.deleteApp app)
    (hfiles : ∀ q, ¬Artifacts.appDir app <+: q → s'.files.node? q = s.files.node? q) : s.Spares app s' := by
  rcases htables with htables | htables
  · exact ⟨by rw [htables], by rw [htables], by rw [htables], hfiles⟩
  · refine ⟨by rw [htables]; rfl, ?_, ?_, hfiles⟩
    · simp only [htables, Tables.deleteApp, List.filter_filter, Bool.and_self]
    · simp only [htables, Tables.deleteApp, List.filter_filter, Bool.and_self]

/-- The row of another app is what it was. -/
theorem app? (h : s.Spares app s') (hne : other ≠ app) : s'.tables.app? other = s.tables.app? other := by
  have hdeleted : (s'.tables.deleteApp app).app? other = (s.tables.deleteApp app).app? other := by
    simp only [Tables.app?, Tables.deleteApp, h.apps]
  rwa [Tables.app?_deleteApp, Tables.app?_deleteApp, if_neg hne, if_neg hne] at hdeleted

theorem deployments_of_ne (h : s.Spares app s') (hne : other ≠ app) :
    s'.tables.deployments.filter (·.app = other) = s.tables.deployments.filter (·.app = other) := by
  have hsame (rows : List DeploymentRow) :
      rows.filter (·.app = other) = (rows.filter (·.app ≠ app)).filter (·.app = other) := by
    rw [List.filter_filter]
    refine List.filter_congr fun r _ => ?_
    by_cases hr : r.app = other <;> simp [hr, hne]
  rw [hsame, h.deployments, ← hsame]

/-- What is in the directory of another app is what it was. -/
theorem node? (h : s.Spares app s') (hne : other ≠ app) {q : Path} (hq : Artifacts.appDir other <+: q) :
    s'.files.node? q = s.files.node? q :=
  h.files q (Artifacts.not_prefix_of_ne hne hq)

end System.Spares

/-! ## Phases -/

/-- The lookup of the app succeeds, or finds that the app is not there. -/
def Store.LooksUp (s : Store) (app : AppId) : Prop := ∀ e, (s.loadApp app).1 = .error e → e.isNotFound = true

namespace Store.LooksUp

variable {s : Store} {app : AppId}

theorem of_granted (hgrants : s.db.Grants 1) (happ : ∀ e, s.db.tables.app app = .error e → e.isNotFound = true) :
    s.LooksUp app := by
  have hload : s.loadApp app = (s.db.tables.app app, s.skip 1) := by
    rw [loadApp, query, Database.query, Database.access_of_granted (hgrants 0 Nat.one_pos)]
    simp only [Database.tables_skip]
    rfl
  rwa [LooksUp, hload]

/-- The answer is that of the tables. -/
theorem loadApp_eq (h : s.LooksUp app) : s.loadApp app = (s.db.tables.app app, s.skip 1) := by
  rcases s.query_eq fun t => t.app app with ⟨error, hquery⟩ | hquery
  · cases h (.database error) (congrArg Prod.fst hquery)
  · exact hquery

/-- An app with a row is found. -/
theorem exists_app (h : s.LooksUp app) (hstored : s.db.tables.app? app ≠ none) : ∃ a, s.db.tables.app app = .ok a := by
  cases ha : s.db.tables.app app with
  | ok a => exact ⟨a, rfl⟩
  | error e =>
    have hnotFound : e.isNotFound = true := h e (by rw [h.loadApp_eq, ha])
    exact absurd (Tables.app?_of_isNotFound ha hnotFound) hstored

end Store.LooksUp

namespace CleaningUp

variable {p : CleaningUp} {s : System} {a : App} {app : AppId} {c : Context}

theorem step_enter_of_stop (hstop : (c.stop? s.now).isSome = true) :
    (enter app c).step s = ((enter app c).fail .cancelled, s) := by
  obtain ⟨reason, hstop⟩ := Option.isSome_iff_exists.mp hstop
  simp only [enter, step, load, hstop]

theorem step_enter_of_none (hlook : s.store.LooksUp app) (hgo : c.stop? s.now = none)
    (hnone : s.tables.app? app = none) :
    (enter app c).step s = ((enter app c).goTo (.ended (.ok ())), { s with store := s.store.skip 1 }) := by
  have happ : s.store.db.tables.app app = .error (.notFound "app") := Tables.app_of_app?_eq_none hnone
  have hload : s.store.loadApp app = (.error (.notFound "app"), s.store.skip 1) := by rw [hlook.loadApp_eq, happ]
  simp only [enter, step, load, hgo, hload, StoreError.isNotFound, if_true]

theorem step_enter_of_app (hlook : s.store.LooksUp app) (hgo : c.stop? s.now = none)
    (ha : s.tables.app app = .ok a) :
    (enter app c).step s = ((enter app c).goTo (.loaded a), { s with store := s.store.skip 1 }) := by
  have ha : s.store.db.tables.app app = .ok a := ha
  have hload : s.store.loadApp app = (.ok a, s.store.skip 1) := by rw [hlook.loadApp_eq, ha]
  simp only [enter, step, load, hgo, hload]

theorem clear_of_open (hopen : a.cleanupRequested = none) :
    p.clear a s = (p.fail (.rejected .cleanupNotRequested), s) := by
  rw [clear, if_pos (by rw [hopen]; rfl)]

section Requested

variable (hrequested : a.cleanupRequested.isSome = true) {files : Files}

include hrequested

theorem clear_of_ok (hcleanup : Artifacts.cleanup p.context s.now s.dataDir p.app s.files = (.ok (), files)) :
    p.clear a s = (p.goTo (.cleared a), { s with files }) := by
  rw [clear, if_neg (by simpa using Option.isSome_iff_ne_none.mp hrequested), hcleanup]

theorem clear_of_error {e : ArtifactError}
    (hcleanup : Artifacts.cleanup p.context s.now s.dataDir p.app s.files = (.error e, files)) :
    p.clear a s =
      (p.fail (if p.context.isCancelled s.now then .cancelled else .artifact e.failure), { s with files }) := by
  rw [clear, if_neg (by simpa using Option.isSome_iff_ne_none.mp hrequested), hcleanup]

theorem files_clear :
    (p.clear a s).2.files = (Artifacts.cleanup p.context s.now s.dataDir p.app s.files).2 := by
  rcases hcleanup : Artifacts.cleanup p.context s.now s.dataDir p.app s.files with ⟨e | _, files⟩
  · rw [clear_of_error hrequested hcleanup]
  · rw [clear_of_ok hrequested hcleanup]

theorem delete_of_requested :
    p.delete a s = (p.goTo (.ended ((s.store.write [a.raise (.deleted a.id)]).1.mapError .store)),
      { s with store := (s.store.write [a.raise (.deleted a.id)]).2.2 }) := by
  have hdelete : a.delete = .ok (a.raise (.deleted a.id)) := by
    rw [App.delete, if_neg (by simpa using Option.isSome_iff_ne_none.mp hrequested)]
  rw [delete, hdelete]
  dsimp only
  rcases s.store.write [a.raise (.deleted a.id)] with ⟨_ | _, as, store⟩ <;> rfl

end Requested

theorem files_of_step {q : Path} (hapart : ¬Artifacts.appDir p.app <+: q) :
    (p.step s).2.files.node? q = s.files.node? q := by
  unfold step
  split
  · rw [load_aside.1]
  · next a _ =>
    cases hrequested : a.cleanupRequested with
    | none => rw [clear_of_open hrequested]
    | some requested =>
      rw [files_clear (by rw [hrequested]; rfl)]
      exact Artifacts.node?_cleanup_of_not_prefix hapart
  · rw [(delete_aside _).1]
  · rfl

/-- **A step spares all but its app.** -/
theorem spares_of_step (hinformed : p.Informed) : s.Spares p.app (p.step s).2 := by
  cases hover : p.isOver with
  | true =>
    rw [step_of_isOver hover]
    exact .refl s
  | false =>
    exact .of_tables ((effect_of_step hinformed hover rfl).1.tables_cases hinformed) fun q hq => files_of_step hq

end CleaningUp

/-! ## What runs come to -/

namespace System

/-- Nothing is left of the app: no row of it, none of its deployments, and nothing at or below its directory. -/
structure IsClearOf (s : System) (app : AppId) : Prop where
  row : s.tables.app? app = none
  deployments : ∀ r ∈ s.tables.deployments, r.app ≠ app
  files : ∀ q, Artifacts.appDir app <+: q → s.files.node? q = none

/-- The app has been cleaned up, though perhaps not every subscriber has taken note. -/
structure Removes (app : AppId) (result : Option (Except CommandError Unit)) (s' : System) : Prop where
  stored : ∃ stored, wasStored stored = true ∧ result = some (stored.mapError .store)
  clear : s'.IsClearOf app

/--
What a run of a cleanup command comes to, by what it meets first: a reason to stop, no app, no request for the cleanup,
files that cannot be removed, a transaction that fails.
-/
structure CleansUp (s : System) (app : AppId) (r : CleanupRun) (result : Option (Except CommandError Unit))
    (s' : System) : Prop where
  stopped : (r.context.stop? (r.loadsAt s)).isSome = true →
    result = some (.error .cancelled) ∧ s'.store = s.store ∧ s'.files = s.files
  missing : r.context.stop? (r.loadsAt s) = none → s.tables.app? app = none →
    result = some (.ok ()) ∧ s'.store = s.store.skip 1 ∧ s'.files = s.files
  unrequested : ∀ a, r.context.stop? (r.loadsAt s) = none → s.tables.app app = .ok a → a.cleanupRequested = none →
    result = some (.error (.rejected .cleanupNotRequested)) ∧ s'.store = s.store.skip 1 ∧ s'.files = s.files
  obstructed : ∀ a e files, r.GoesOn s app a →
    Artifacts.cleanup r.context (r.clearsAt s) s.dataDir app s.files = (.error e, files) →
      result = some (.error (if r.context.isCancelled (r.clearsAt s) then .cancelled else .artifact e.failure)) ∧
        s'.store = s.store.skip 1 ∧ s'.files = files
  /-- The app is left with its cleanup requested and without files, and a later run that meets nothing removes it. -/
  undone : ∀ a files error, r.GoesOn s app a →
    Artifacts.cleanup r.context (r.clearsAt s) s.dataDir app s.files = (.ok (), files) →
    (s.store.skip 1).db.Refuses Tables.applyAppEvent [.deleted app] error →
      result = some (.error (.store (.database error))) ∧ s'.tables = s.tables ∧ s'.tables.app app = .ok a ∧
        s'.files = files ∧ (∀ q, Artifacts.appDir app <+: q → files.node? q = none) ∧
        ∀ (s₁ : System) (r₁ : CleanupRun), s₁.tables = s'.tables → s₁.files = s'.files →
          r₁.context.stop? (r₁.clearsAt s₁) = none → s₁.store.db.Grants 4 →
            Removes app (s₁.runCleanup app r₁).1 (s₁.runCleanup app r₁).2
  removed : ∀ a files, r.GoesOn s app a →
    Artifacts.cleanup r.context (r.clearsAt s) s.dataDir app s.files = (.ok (), files) →
    (∀ error, ¬(s.store.skip 1).db.Refuses Tables.applyAppEvent [.deleted app] error) → Removes app result s'
  succeeded : result = some (.ok ()) → s.tables.app? app ≠ none → s'.IsClearOf app
  /-- More runs on an app that is not stored do nothing, and succeed if they are not stopped. -/
  repeated : s.tables.app? app = none → ∀ rs, (s.runCleanups app rs).tables = s.tables ∧
    (s.runCleanups app rs).files = s.files ∧ ∀ r₁ : CleanupRun,
      r₁.context.stop? (r₁.loadsAt (s.runCleanups app rs)) = none → (s.runCleanups app rs).store.LooksUp app →
        ((s.runCleanups app rs).runCleanup app r₁).1 = some (.ok ())
  spares : s.Spares app s'
  apps : ∀ other, other ≠ app → s'.tables.app? other = s.tables.app? other
  deployments : ∀ other, other ≠ app →
    s'.tables.deployments.filter (·.app = other) = s.tables.deployments.filter (·.app = other)
  directories : ∀ other, other ≠ app → ∀ q, Artifacts.appDir other <+: q → s'.files.node? q = s.files.node? q

variable {s : System} {app : AppId} {r : CleanupRun} {a : App}

/-- The system after a run that is over, with what it has made of the store and the files. -/
def afterRun (s : System) (r : CleanupRun) (store : Store) (files : Files) : System :=
  { s with now := r.endsAt s, store, files }

theorem runCleanup_of_steps {p₁ p₂ p₃ : CleaningUp} {s₁ s₂ s₃ : System}
    (hload : (CleaningUp.enter app r.context).step (s.advance r.toLoad) = (p₁, s₁))
    (hclear : p₁.step (s₁.advance r.toClear) = (p₂, s₂)) (hdelete : p₂.step (s₂.advance r.toDelete) = (p₃, s₃)) :
    s.runCleanup app r = (p₃.result?, s₃) := by
  simp only [runCleanup, hload, hclear, hdelete]

theorem runCleanup_of_stop (hstop : (r.context.stop? (r.loadsAt s)).isSome = true) :
    s.runCleanup app r = (some (.error .cancelled), s.afterRun r s.store s.files) :=
  runCleanup_of_steps (CleaningUp.step_enter_of_stop hstop) rfl rfl

theorem runCleanup_of_none (hlook : s.store.LooksUp app) (hgo : r.context.stop? (r.loadsAt s) = none)
    (hnone : s.tables.app? app = none) :
    s.runCleanup app r = (some (.ok ()), s.afterRun r (s.store.skip 1) s.files) :=
  runCleanup_of_steps (CleaningUp.step_enter_of_none hlook hgo hnone) rfl rfl

theorem runCleanup_of_open (hlook : s.store.LooksUp app) (hgo : r.context.stop? (r.loadsAt s) = none)
    (ha : s.tables.app app = .ok a) (hopen : a.cleanupRequested = none) :
    s.runCleanup app r =
      (some (.error (.rejected .cleanupNotRequested)), s.afterRun r (s.store.skip 1) s.files) :=
  runCleanup_of_steps (CleaningUp.step_enter_of_app hlook hgo ha) (CleaningUp.clear_of_open hopen) rfl

/-- The files cannot be removed. -/
theorem runCleanup_of_error (hlook : s.store.LooksUp app) (hgoes : r.GoesOn s app a) {e : ArtifactError}
    {files : Files} (hcleanup : Artifacts.cleanup r.context (r.clearsAt s) s.dataDir app s.files = (.error e, files)) :
    s.runCleanup app r =
      (some (.error (if r.context.isCancelled (r.clearsAt s) then .cancelled else .artifact e.failure)),
        s.afterRun r (s.store.skip 1) files) :=
  runCleanup_of_steps (CleaningUp.step_enter_of_app hlook hgoes.goes hgoes.found)
    (CleaningUp.clear_of_error hgoes.requested hcleanup) rfl

/-- The files are removed, and what comes of that is up to the store. -/
theorem runCleanup_of_ok (hlook : s.store.LooksUp app) (hgoes : r.GoesOn s app a) {files : Files}
    (hcleanup : Artifacts.cleanup r.context (r.clearsAt s) s.dataDir app s.files = (.ok (), files)) :
    s.runCleanup app r =
      (some (((s.store.skip 1).write [a.raise (.deleted a.id)]).1.mapError .store),
        s.afterRun r ((s.store.skip 1).write [a.raise (.deleted a.id)]).2.2 files) :=
  runCleanup_of_steps (CleaningUp.step_enter_of_app hlook hgoes.goes hgoes.found)
    (CleaningUp.clear_of_ok hgoes.requested hcleanup) (CleaningUp.delete_of_requested hgoes.requested)

/-- Nothing is done for an app that is not stored, be it that the lookup fails. -/
theorem runCleanup_of_gone (hnone : s.tables.app? app = none) :
    ∃ result k, s.runCleanup app r = (some result, s.afterRun r (s.store.skip k) s.files) := by
  cases hstop : r.context.stop? (r.loadsAt s) with
  | some reason =>
    refine ⟨.error .cancelled, 0, ?_⟩
    rw [Store.skip_zero]
    exact runCleanup_of_stop (by rw [hstop]; rfl)
  | none =>
    rcases s.store.query_eq fun t => t.app app with ⟨error, hquery⟩ | hquery
    · have hload : (CleaningUp.enter app r.context).step (s.advance r.toLoad) =
          ((CleaningUp.enter app r.context).fail (.store (.database error)),
            { s.advance r.toLoad with store := s.store.skip 1 }) := by
        have hquery : (s.advance r.toLoad).store.loadApp app = (.error (.database error), s.store.skip 1) := hquery
        have hgo : r.context.stop? (s.advance r.toLoad).now = none := hstop
        simp only [CleaningUp.enter, CleaningUp.step, CleaningUp.load, hgo, hquery]
        rfl
      exact ⟨_, 1, runCleanup_of_steps hload rfl rfl⟩
    · have happ : s.store.db.tables.app app = .error (.notFound "app") := Tables.app_of_app?_eq_none hnone
      have hlook : s.store.LooksUp app := by
        intro e he
        rw [Store.loadApp, hquery, happ] at he
        cases he
        rfl
      exact ⟨_, 1, runCleanup_of_none hlook hstop hnone⟩

/-- More runs on an app that is not stored leave it so. -/
theorem runCleanups_of_gone (hnone : s.tables.app? app = none) (rs : List CleanupRun) :
    (s.runCleanups app rs).tables = s.tables ∧ (s.runCleanups app rs).files = s.files := by
  induction rs generalizing s with
  | nil => exact ⟨rfl, rfl⟩
  | cons r rs ih =>
    obtain ⟨result, k, hrun⟩ := runCleanup_of_gone (r := r) hnone
    have htables : (s.runCleanup app r).2.tables = s.tables := by
      rw [hrun]
      exact Store.tables_skip k
    have hfiles : (s.runCleanup app r).2.files = s.files := by rw [hrun]; rfl
    obtain ⟨htables', hfiles'⟩ := ih (s := (s.runCleanup app r).2) (htables ▸ hnone)
    exact ⟨htables'.trans htables, hfiles'.trans hfiles⟩

/-- **A run spares all but its app.** -/
theorem spares_runCleanup (s : System) (app : AppId) (r : CleanupRun) : s.Spares app (s.runCleanup app r).2 := by
  have hstep (p : CleaningUp) (s : System) (d : Duration) (happ : p.app = app) (hinformed : p.Informed) :
      s.Spares app (p.step (s.advance d)).2 ∧ (p.step (s.advance d)).1.app = app ∧
        (p.step (s.advance d)).1.Informed := by
    have hspares : s.Spares p.app (p.step (s.advance d)).2 :=
      (Spares.advance s d).trans (CleaningUp.spares_of_step hinformed)
    exact ⟨happ ▸ hspares, (CleaningUp.app_of_step hinformed).trans happ, CleaningUp.informed_of_step hinformed⟩
  obtain ⟨hload, happ₁, hinformed₁⟩ := hstep (.enter app r.context) s r.toLoad rfl (.of_copy?_eq_none rfl)
  obtain ⟨hclear, happ₂, hinformed₂⟩ := hstep _ _ r.toClear happ₁ hinformed₁
  obtain ⟨hdelete, -, -⟩ := hstep _ _ r.toDelete happ₂ hinformed₂
  exact (hload.trans hclear).trans hdelete

/-- All that is written of an app that was found is its deletion. -/
theorem pendingEvents_of_found (ha : s.tables.app app = .ok a) :
    pendingEvents [a.raise (.deleted a.id)] = [.deleted app] := by
  obtain ⟨row, hrow, hshows⟩ := Tables.app_eq_ok.mp ha
  rw [pendingEvents_raise hshows.events, Tables.id_of_app?_shows hrow hshows]

section

variable (hlook : s.store.LooksUp app) (hgoes : r.GoesOn s app a) {files : Files}
  (hcleanup : Artifacts.cleanup r.context (r.clearsAt s) s.dataDir app s.files = (.ok (), files))

include hlook hgoes hcleanup

/-- If the deletion is refused, only the files are gone. -/
theorem runCleanup_of_refuses {error : DatabaseError}
    (hrefuses : (s.store.skip 1).db.Refuses Tables.applyAppEvent [.deleted app] error) :
    ∃ k, s.runCleanup app r =
      (some (.error (.store (.database error))), s.afterRun r (s.store.skip k) files) := by
  have hpending := pendingEvents_of_found hgoes.found
  have hrefuses : (s.store.skip 1).db.Refuses (Aggregate.apply App) (pendingEvents [a.raise (.deleted a.id)]) error :=
    hpending ▸ hrefuses
  obtain ⟨k, hwrite⟩ := Store.write_of_refuses hrefuses
  refine ⟨1 + k, ?_⟩
  rw [runCleanup_of_ok hlook hgoes hcleanup, hwrite, Store.skip_skip]
  rfl

/-- If the deletion is not refused, nothing is left of the app. -/
theorem removes_of_not_refuses (hfiles : s.files.IsTree)
    (hgranted : ∀ error, ¬(s.store.skip 1).db.Refuses Tables.applyAppEvent [.deleted app] error) :
    Removes app (s.runCleanup app r).1 (s.runCleanup app r).2 := by
  have hpending := pendingEvents_of_found hgoes.found
  have hgranted : ∀ error, ¬(s.store.skip 1).db.Refuses (Aggregate.apply App)
      (pendingEvents [a.raise (.deleted a.id)]) error := hpending ▸ hgranted
  obtain ⟨hstored, happlied⟩ := Store.write_of_not_refuses hgranted
  rw [hpending] at happlied
  have htables : (s.runCleanup app r).2.tables = s.tables.deleteApp app := by
    rw [runCleanup_of_ok hlook hgoes hcleanup]
    refine (Except.ok.inj happlied).symm.trans ?_
    rw [Store.tables_skip]
    rfl
  have hremoved : (s.runCleanup app r).2.files = files := by
    rw [runCleanup_of_ok hlook hgoes hcleanup]
    rfl
  refine ⟨⟨_, hstored, by rw [runCleanup_of_ok hlook hgoes hcleanup]⟩, ?_, ?_, ?_⟩
  · rw [htables, Tables.app?_deleteApp, if_pos rfl]
  · rw [htables]
    intro row hrow
    exact of_decide_eq_true (List.mem_filter.mp hrow).2
  · rw [hremoved]
    exact fun q => Artifacts.node?_of_cleanup hfiles hcleanup

end

/-- A run that is not stopped and is granted its accesses removes an app whose files can be removed. -/
theorem removes_of_grants (hfiles : s.files.IsTree) (ha : s.tables.app app = .ok a)
    (hrequested : a.cleanupRequested.isSome = true) {files : Files}
    (hclear : Artifacts.clear (Artifacts.appDir app) s.files = (.ok (), files))
    (hgo : r.context.stop? (r.clearsAt s) = none) (hgrants : s.store.db.Grants 4) :
    Removes app (s.runCleanup app r).1 (s.runCleanup app r).2 := by
  have hlook : s.store.LooksUp app := by
    refine .of_granted (fun k hk => hgrants k (Nat.lt_of_lt_of_le hk (by decide))) fun e he => ?_
    cases ha.symm.trans he
  have hgoes : r.GoesOn s app a := ⟨Context.stop?_of_le (Nat.le_add_right _ _) hgo, ha, hrequested⟩
  have hgranted : (s.store.skip 1).db.Grants ([AppEvent.deleted app].length + 2) :=
    Database.Grants.skip (k := 1) hgrants
  exact removes_of_not_refuses hlook hgoes (Artifacts.cleanup_eq_ok.mpr ⟨hgo, hclear⟩) hfiles (hgranted.not_refuses rfl)

/-- A run with success has left nothing of its app, if the app was stored. -/
theorem isClearOf_of_ok (hfiles : s.files.IsTree) (hlook : s.store.LooksUp app)
    (hsucceeded : (s.runCleanup app r).1 = some (.ok ())) (hstored : s.tables.app? app ≠ none) :
    (s.runCleanup app r).2.IsClearOf app := by
  cases hstop : r.context.stop? (r.loadsAt s) with
  | some reason =>
    rw [runCleanup_of_stop (by rw [hstop]; rfl)] at hsucceeded
    cases hsucceeded
  | none =>
    obtain ⟨a, ha⟩ := hlook.exists_app hstored
    cases hrequested : a.cleanupRequested with
    | none =>
      rw [runCleanup_of_open hlook hstop ha hrequested] at hsucceeded
      cases hsucceeded
    | some requested =>
      have hgoes : r.GoesOn s app a := ⟨hstop, ha, by rw [hrequested]; rfl⟩
      rcases hcleanup : Artifacts.cleanup r.context (r.clearsAt s) s.dataDir app s.files with ⟨e | _, files⟩
      · rw [runCleanup_of_error hlook hgoes hcleanup] at hsucceeded
        cases hsucceeded
      · refine (removes_of_not_refuses hlook hgoes hcleanup hfiles fun error hrefuses => ?_).clear
        obtain ⟨k, hrun⟩ := runCleanup_of_refuses hlook hgoes hcleanup hrefuses
        rw [hrun] at hsucceeded
        cases hsucceeded

/-- **What a cleanup command comes to** whatever is stored and filed, as long as the lookup of the app does not fail. -/
theorem cleansUp_runCleanup (hfiles : s.files.IsTree) (hlook : s.store.LooksUp app) (r : CleanupRun) :
    s.CleansUp app r (s.runCleanup app r).1 (s.runCleanup app r).2 where
  stopped hstop := by
    rw [runCleanup_of_stop hstop]
    exact ⟨rfl, rfl, rfl⟩
  missing hgo hnone := by
    rw [runCleanup_of_none hlook hgo hnone]
    exact ⟨rfl, rfl, rfl⟩
  unrequested a hgo ha hopen := by
    rw [runCleanup_of_open hlook hgo ha hopen]
    exact ⟨rfl, rfl, rfl⟩
  obstructed a e files hgoes hcleanup := by
    rw [runCleanup_of_error hlook hgoes hcleanup]
    exact ⟨rfl, rfl, rfl⟩
  undone a files error hgoes hcleanup hrefuses := by
    obtain ⟨k, hrun⟩ := runCleanup_of_refuses hlook hgoes hcleanup hrefuses
    have htables : (s.runCleanup app r).2.tables = s.tables := by
      rw [hrun]
      exact Store.tables_skip k
    have hremoved : (s.runCleanup app r).2.files = files := by rw [hrun]; rfl
    have hagain : Artifacts.clear (Artifacts.appDir app) files = (.ok (), files) :=
      Files.clear_of_clear (Artifacts.isPlain_appDir app) (List.cons_ne_nil _ _)
        (Artifacts.cleanup_eq_ok.mp hcleanup).2
    have htree : files.IsTree := by
      have htree : (Artifacts.cleanup r.context (r.clearsAt s) s.dataDir app s.files).2.IsTree :=
        Artifacts.isTree_cleanup hfiles
      rwa [hcleanup] at htree
    refine ⟨by rw [hrun], htables, htables ▸ hgoes.found, hremoved, ?_, fun s₁ r₁ htables₁ hfiles₁ hgo hgrants => ?_⟩
    · exact fun q => Artifacts.node?_of_cleanup hfiles hcleanup
    · rw [hremoved] at hfiles₁
      rw [htables] at htables₁
      exact removes_of_grants (hfiles₁ ▸ htree) (htables₁ ▸ hgoes.found) hgoes.requested (hfiles₁ ▸ hagain) hgo hgrants
  removed a files hgoes hcleanup hgranted := removes_of_not_refuses hlook hgoes hcleanup hfiles hgranted
  succeeded hsucceeded hstored := isClearOf_of_ok hfiles hlook hsucceeded hstored
  repeated hnone rs := by
    obtain ⟨htables, hkept⟩ := runCleanups_of_gone hnone rs
    refine ⟨htables, hkept, fun r₁ hgo hlook₁ => ?_⟩
    rw [runCleanup_of_none hlook₁ hgo (htables ▸ hnone)]
  spares := spares_runCleanup s app r
  apps other hne := (spares_runCleanup s app r).app? hne
  deployments other hne := (spares_runCleanup s app r).deployments_of_ne hne
  directories other hne q hq := (spares_runCleanup s app r).node? hne hq

end System

/-! ## A cleanup that is taken up again -/

namespace Leaving

open Straying (app)

/-- An app with a deployment and directories, whose cleanup is requested. The database fails its first deletion. -/
def system : System :=
  { Straying.system with
    store := { Straying.system.store with
      db := { Straying.system.store.db with faults := [none, none, some (.protocol "connection reset")] } }
    files := (Artifacts.prepareBuild .background 0 "data" Straying.waiting .empty).2 }

/-- The files are removed a second after the app has been looked up. -/
def run : CleanupRun := ⟨.background, .zero, .ofSecs 1, .zero⟩

theorem cleansUp_runCleanup_leaving : system.files.IsTree ∧ system.store.LooksUp app ∧
    system.CleansUp app run (system.runCleanup app run).1 (system.runCleanup app run).2 := by
  have htree : system.files.IsTree := Artifacts.isTree_prepareBuild Files.isTree_empty
  have hlook : system.store.LooksUp app := fun e he => by
    have hfound : (system.store.loadApp app).1.isOk = true := by decide +kernel
    rw [he] at hfound
    cases hfound
  exact ⟨htree, hlook, System.cleansUp_runCleanup htree hlook run⟩

/-- The app is still there, without its files, and the next command removes it. -/
example : (system.runCleanup app run).1 = some (.error (.store (.database (.protocol "connection reset")))) ∧
    ((system.runCleanups app [run]).tables.app? app).isSome = true ∧
      ((system.runCleanups app [run]).cleanup app .background).1 = some (.ok ()) ∧
        ((system.runCleanups app [run]).cleanup app .background).2.tables.app? app = none := by
  decide +kernel

end Leaving

end Rollout
