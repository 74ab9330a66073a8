import Rollout.Proofs.UseCases.Enqueuing
import Rollout.Proofs.UseCases.NamingGuard

/-!
# Use cases as a whole

A use case carries out all that it is asked for, or nothing (`Store.use_cases_whole`). If it fails, then the tables, the
queue and the subscribers are as before, whatever the app had accepted until then; only events that were stored and did
not get through to all subscribers are an exception. If it succeeds, then the rows are as they were asked to be, no
other row has changed, and just the work that follows is enqueued.

What is asked for is said of rows (`NewApp.row`, `AppChange.IsIn`). The events by which an app changes are known from
the app and the change (`AppChange.events`).
-/

namespace Rollout

/-! ## What is asked for -/

/-- The row of an app that has just been created. -/
def NewApp.row (input : NewApp) (id : AppId) (created : Signature) : AppRow :=
  { AppRow.ofCreated id input.name input.production input.staging created with
    url := .value (input.versionControl.map (·.url.toText))
    token := .value (input.versionControl.bind (·.token)) }

/-- The version control of the row `r` has been changed to that of `r'`. What is removed goes with its token. -/
def VersionControlChange.IsIn (r r' : AppRow) : VersionControlChange → Prop
  | .keep => r'.url = r.url ∧ r'.token = r.token
  | .use config =>
    (∃ text, r'.url.read "version_control_url" = .ok (some text) ∧
      (text = config.url.toText ∨ Url.parse text = .ok config.url)) ∧
    r'.token.read "version_control_token" = .ok config.token
  | .remove => r'.url.read "version_control_url" = .ok none ∧
    (r.url.read "version_control_url" ≠ .ok none → r'.token.read "version_control_token" = .ok none) ∧
    (r.url.read "version_control_url" = .ok none → r'.url = r.url ∧ r'.token = r.token)

/-- The configuration that is wanted for an environment. -/
def AppChange.config? (input : AppChange) : Environment → Option EnvConfig
  | .production => input.production
  | .staging => input.staging

/-- The row `r` of the app `a` has been changed to `r'`. -/
structure AppChange.IsIn (input : AppChange) (a : App) (r r' : AppRow) : Prop where
  moved : ∀ e c, input.config? e = some c → (r'.slot e).Shows e (c.consolidate (a.environment e))
  kept : ∀ e, input.config? e = none → r'.slot e = r.slot e
  versionControl : input.versionControl.IsIn r r'
  rest : r' = { r with production := r'.production, staging := r'.staging, url := r'.url, token := r'.token }

/-- The row of an app whose cleanup has been requested. -/
def AppRow.marked (r : AppRow) (requested : Signature) : AppRow :=
  { r with cleanupAt := .value (some requested.time), cleanupBy := .value (some requested.user) }

/-! ## The events of a change -/

namespace App

variable {a : App} {es : List AppEvent} {e : Environment}

/-- The app after it has raised some events. -/
def raiseAll (a : App) (es : List AppEvent) : App := es.foldl raise a

/-- The event that moves an environment, unless it is there already. -/
def eventsOfMove (a : App) (e : Environment) : Option EnvConfig → List AppEvent
  | none => []
  | some c =>
    if (a.environment e).hasSameValues c then [] else [.envChanged a.id e (c.consolidate (a.environment e))]

def eventsOfVersionControl (a : App) : VersionControlChange → List AppEvent
  | .keep => []
  | .use config => if a.versionControl = some config then [] else [.versionControlConfigured a.id config]
  | .remove => if a.versionControl.isNone then [] else [.versionControlRemoved a.id]

theorem raiseAll_append (es es' : List AppEvent) : a.raiseAll (es ++ es') = (a.raiseAll es).raiseAll es' :=
  List.foldl_append

theorem pending_raiseAll (es : List AppEvent) : Aggregate.pending (a.raiseAll es) = Aggregate.pending a ++ es := by
  induction es generalizing a with
  | nil => exact (List.append_nil _).symm
  | cons e es ih =>
    have hfirst : Aggregate.pending (a.raise e) = Aggregate.pending a ++ [e] := rfl
    have hrest := @ih (a.raise e)
    rw [hfirst, List.append_assoc] at hrest
    exact hrest

/-- An environment that moves leaves the other one and the version control alone. -/
theorem raiseAll_eventsOfMove (c? : Option EnvConfig) :
    (a.raiseAll (a.eventsOfMove e c?)).id = a.id ∧
      (∀ e', e' ≠ e → (a.raiseAll (a.eventsOfMove e c?)).environment e' = a.environment e') ∧
      (a.raiseAll (a.eventsOfMove e c?)).versionControl = a.versionControl := by
  cases c? with
  | none => exact ⟨rfl, fun _ _ => rfl, rfl⟩
  | some c =>
    rw [eventsOfMove]
    split
    · exact ⟨rfl, fun _ _ => rfl, rfl⟩
    · refine ⟨id_apply .., fun e' hne => ?_, ?_⟩
      · cases e <;> cases e' <;> first | rfl | exact absurd rfl hne
      · cases e <;> rfl

end App

namespace AppChange

variable {a a' : App} {input : AppChange} {required : Requirement × Requirement} {e : Environment} {q : Requirement}

/-- The events that the change raises if it is accepted. -/
def events (input : AppChange) (a : App) : List AppEvent :=
  a.eventsOfMove .production input.production ++
    (a.eventsOfMove .staging input.staging ++ a.eventsOfVersionControl input.versionControl)

theorem eq_of_moveTo (h : moveTo a e q = .ok a') : a' = a.raiseAll (a.eventsOfMove e q.config) := by
  rw [moveTo, Requirement.isEmpty] at h
  split at h
  · next hnone =>
    cases h
    rw [Option.isNone_iff_eq_none.mp hnone]
    rfl
  · obtain ⟨-, c, hmet, rfl⟩ := App.updateEnvironment_eq_ok.mp h
    rw [(Requirement.met_eq_ok_iff.mp hmet).1, App.eventsOfMove]
    split <;> rfl

theorem eq_of_changeVersionControl
    (h : (match input.versionControl with
      | .keep => return a
      | .use config => a.useVersionControl config
      | .remove => a.removeVersionControl) = .ok a') :
    a' = a.raiseAll (a.eventsOfVersionControl input.versionControl) := by
  cases hinput : input.versionControl with
  | keep =>
    rw [hinput] at h
    exact (pure_eq_ok.mp h).symm
  | use config =>
    rw [hinput] at h
    obtain ⟨-, rfl⟩ := App.useVersionControl_eq_ok.mp h
    rw [App.eventsOfVersionControl]
    split <;> rfl
  | remove =>
    rw [hinput] at h
    obtain ⟨-, rfl⟩ := App.removeVersionControl_eq_ok.mp h
    rw [App.eventsOfVersionControl]
    split <;> rfl

/-- **A change that is accepted raises its events**, one after another. -/
theorem eq_of_build (h : input.build a required = .ok a') (hproduction : required.1.config = input.production)
    (hstaging : required.2.config = input.staging) : a' = a.raiseAll (input.events a) := by
  simp only [build, bind_eq_ok] at h
  obtain ⟨a₁, h₁, a₂, h₂, h⟩ := h
  have h₁ := eq_of_moveTo h₁
  have h₂ := eq_of_moveTo h₂
  have h := eq_of_changeVersionControl h
  rw [hproduction] at h₁
  rw [hstaging] at h₂
  -- what a later part raises goes by what the parts before it have left alone
  obtain ⟨hid₁, henvironment₁, hversionControl₁⟩ := @App.raiseAll_eventsOfMove a .production input.production
  obtain ⟨hid₂, -, hversionControl₂⟩ := @App.raiseAll_eventsOfMove a₁ .staging input.staging
  rw [← h₁] at hid₁ henvironment₁ hversionControl₁
  rw [← h₂] at hid₂ hversionControl₂
  have hmove : a₁.eventsOfMove .staging input.staging = a.eventsOfMove .staging input.staging := by
    have hother := henvironment₁ .staging (by decide)
    cases input.staging with
    | none => rfl
    | some c => simp only [App.eventsOfMove, hother, hid₁]
  have hchange : a₂.eventsOfVersionControl input.versionControl = a.eventsOfVersionControl input.versionControl := by
    cases input.versionControl with
    | keep => rfl
    | use config => simp only [App.eventsOfVersionControl, hid₂, hid₁, hversionControl₂, hversionControl₁]
    | remove => simp only [App.eventsOfVersionControl, hid₂, hid₁, hversionControl₂, hversionControl₁]
  rw [h, hchange, h₂, hmove, h₁, events, App.raiseAll_append, App.raiseAll_append]

end AppChange

/-! ## The rows after a change -/

theorem EnvConfig.consolidate_of_hasSameValues {c previous : EnvConfig} (h : previous.hasSameValues c = true) :
    c.consolidate previous = previous := by
  obtain ⟨target, version, vars⟩ := previous
  simp only [hasSameValues, Bool.and_eq_true, decide_eq_true_eq] at h
  obtain ⟨rfl, rfl⟩ := h
  simp [consolidate]

namespace AppRow

variable {r : AppRow} {a : App} {e : Environment}

def withSlot (r : AppRow) : Environment → SlotRow → AppRow
  | .production, s => { r with production := s }
  | .staging, s => { r with staging := s }

/-- The row after some events. -/
def projectAll (r : AppRow) (es : List AppEvent) : AppRow := es.foldl project r

theorem projectAll_append (es es' : List AppEvent) : r.projectAll (es ++ es') = (r.projectAll es).projectAll es' :=
  List.foldl_append

theorem projectAll_eventsOfMove (hslot : (r.slot e).Shows e (a.environment e)) (c? : Option EnvConfig) :
    ∃ s, r.projectAll (a.eventsOfMove e c?) = r.withSlot e s ∧ (c? = none → s = r.slot e) ∧
      ∀ c, c? = some c → s.Shows e (c.consolidate (a.environment e)) := by
  have hsame : r = r.withSlot e (r.slot e) := by cases e <;> rfl
  cases c? with
  | none => exact ⟨r.slot e, hsame, fun _ => rfl, nofun⟩
  | some c =>
    rw [App.eventsOfMove]
    split
    · next hvalues =>
      refine ⟨r.slot e, hsame, nofun, ?_⟩
      rintro _ ⟨⟩
      rwa [EnvConfig.consolidate_of_hasSameValues hvalues]
    · refine ⟨.ofConfig (c.consolidate (a.environment e)), by cases e <;> rfl, nofun, ?_⟩
      rintro _ ⟨⟩
      exact SlotRow.shows_ofConfig ..

theorem mapM_readUrl_eq_ok {text : String} {url : Option Url} :
    (some text).mapM readUrl = .ok url ↔ ∃ u, Url.parse text = .ok u ∧ url = some u := by
  simp only [← readUrl_eq_ok]
  cases hread : readUrl text <;> simp [hread, eq_comm]

theorem projectAll_eventsOfVersionControl (hr : r.Shows a) (input : VersionControlChange) :
    ∃ url token, ∀ r₁ : AppRow, r₁.url = r.url → r₁.token = r.token →
      r₁.projectAll (a.eventsOfVersionControl input) = { r₁ with url, token } ∧
        input.IsIn r { r₁ with url, token } := by
  obtain ⟨text, token, url, hurl, htoken, hread, hshown⟩ := hr.versionControl
  -- nothing is raised, and the columns stay as they are
  have hstays (r₁ : AppRow) (h₁ : r₁.url = r.url) (h₂ : r₁.token = r.token) :
      r₁.projectAll [] = { r₁ with url := r.url, token := r.token } := by rw [← h₁, ← h₂]; rfl
  cases input with
  | keep => exact ⟨r.url, r.token, fun r₁ h₁ h₂ => ⟨hstays r₁ h₁ h₂, rfl, rfl⟩⟩
  | use config =>
    rw [App.eventsOfVersionControl]
    split
    · next hsame =>
      rw [hshown, Option.map_eq_some_iff] at hsame
      obtain ⟨address, rfl, rfl⟩ := hsame
      cases text with
      | none => cases hread
      | some text =>
        obtain ⟨_, hparsed, ⟨⟩⟩ := mapM_readUrl_eq_ok.mp hread
        exact ⟨r.url, r.token, fun r₁ h₁ h₂ => ⟨hstays r₁ h₁ h₂, ⟨text, hurl, .inr hparsed⟩, htoken⟩⟩
    · exact ⟨.value (some config.url.toText), .value config.token,
        fun r₁ _ _ => ⟨rfl, ⟨config.url.toText, rfl, .inl rfl⟩, rfl⟩⟩
  | remove =>
    rw [App.eventsOfVersionControl]
    split
    · next hnone =>
      rw [hshown, Option.isNone_iff_eq_none, Option.map_eq_none_iff] at hnone
      cases text with
      | none => exact ⟨r.url, r.token, fun r₁ h₁ h₂ => ⟨hstays r₁ h₁ h₂, hurl, (absurd hurl ·), fun _ => ⟨rfl, rfl⟩⟩⟩
      | some text =>
        rw [hnone] at hread
        obtain ⟨_, -, ⟨⟩⟩ := mapM_readUrl_eq_ok.mp hread
    · next hsome =>
      have hstored : r.url.read "version_control_url" ≠ .ok none := by
        intro hnone
        cases hurl.symm.trans hnone
        cases hread
        exact hsome (by rw [hshown]; rfl)
      exact ⟨.value none, .value none, fun r₁ _ _ => ⟨rfl, rfl, fun _ => rfl, (absurd · hstored)⟩⟩

/-- The row after its app has changed is as it was asked to be. -/
theorem isIn_projectAll (hr : r.Shows a) (input : AppChange) : input.IsIn a r (r.projectAll (input.events a)) := by
  have hproduction : (r.slot .production).Shows .production (a.environment .production) := hr.production
  obtain ⟨s₁, hrow₁, hkept₁, hmoved₁⟩ := projectAll_eventsOfMove hproduction input.production
  have hstaging : ((r.withSlot .production s₁).slot .staging).Shows .staging (a.environment .staging) := hr.staging
  obtain ⟨s₂, hrow₂, hkept₂, hmoved₂⟩ := projectAll_eventsOfMove hstaging input.staging
  obtain ⟨url, token, hlast⟩ := projectAll_eventsOfVersionControl hr input.versionControl
  obtain ⟨hrow₃, hversionControl⟩ := hlast ((r.withSlot .production s₁).withSlot .staging s₂) rfl rfl
  rw [AppChange.events, projectAll_append, hrow₁, projectAll_append, hrow₂, hrow₃]
  refine ⟨fun e c hc => ?_, fun e hnone => ?_, hversionControl, rfl⟩
  · cases e with
    | production => exact hmoved₁ c hc
    | staging => exact hmoved₂ c hc
  · cases e with
    | production => exact hkept₁ hnone
    | staging => exact hkept₂ hnone

end AppRow

namespace Tables

variable {t t' : Tables} {id : AppId} {es : List AppEvent} {a a' : App}

theorem updateApp_updateApp {f g : AppRow → AppRow} (hf : ∀ r, (f r).id = r.id) :
    (t.updateApp id f).updateApp id g = t.updateApp id fun r => g (f r) := by
  simp only [updateApp, List.map_map]
  congr 1
  refine List.map_congr_left fun r _ => ?_
  simp only [Function.comp]
  by_cases hid : r.id.holds id = true
  · simp [hid, hf]
  · simp [hid]

theorem updateApp_id : t.updateApp id (fun r => r) = t := by
  simp [updateApp]

/-- Changes of an app change the row of it. -/
theorem foldlM_revisions (hes : ∀ e ∈ es, e.id = id ∧ e.founded = none ∧ e.deletes = false) :
    es.foldlM applyAppEvent t = .ok (t.updateApp id (·.projectAll es)) := by
  induction es generalizing t with
  | nil => exact congrArg Except.ok updateApp_id.symm
  | cons e es ih =>
    obtain ⟨⟨hid, hnew, hkept⟩, hes⟩ := List.forall_mem_cons.mp hes
    rw [Database.foldlM_cons_of_ok (applyAppEvent_of_change hnew hkept), ih hes, hid,
      updateApp_updateApp fun r => r.id_project e]
    rfl

end Tables

namespace App

variable {a : App}

theorem revises_of_mem_eventsOfMove {e : Environment} {c? : Option EnvConfig} :
    ∀ ev ∈ a.eventsOfMove e c?, ev.id = a.id ∧ ev.isRevision = true := by
  cases c? with
  | none => exact List.forall_mem_nil _
  | some c =>
    rw [eventsOfMove]
    split
    · exact List.forall_mem_nil _
    · exact List.forall_mem_singleton.mpr ⟨rfl, rfl⟩

theorem revises_of_mem_eventsOfVersionControl {input : VersionControlChange} :
    ∀ ev ∈ a.eventsOfVersionControl input, ev.id = a.id ∧ ev.isRevision = true := by
  cases input with
  | keep => exact List.forall_mem_nil _
  | use config =>
    rw [eventsOfVersionControl]
    split
    · exact List.forall_mem_nil _
    · exact List.forall_mem_singleton.mpr ⟨rfl, rfl⟩
  | remove =>
    rw [eventsOfVersionControl]
    split
    · exact List.forall_mem_nil _
    · exact List.forall_mem_singleton.mpr ⟨rfl, rfl⟩

theorem revises_of_mem_events {input : AppChange} : ∀ ev ∈ input.events a, ev.id = a.id ∧ ev.isRevision = true :=
  List.forall_mem_append.mpr ⟨revises_of_mem_eventsOfMove,
    List.forall_mem_append.mpr ⟨revises_of_mem_eventsOfMove, revises_of_mem_eventsOfVersionControl⟩⟩

end App

/-! ## The use cases -/

/-- The app has been created: its row comes after the others. -/
def NewApp.IsCreated (input : NewApp) (id : AppId) (created : Signature) (t t' : Tables) : Prop :=
  t' = { t with apps := t.apps ++ [input.row id created] }

/-- The app has been changed: nothing differs but its row. -/
def AppChange.IsMade (input : AppChange) (id : AppId) (t t' : Tables) : Prop :=
  ∃ r a change, t.app? id = some r ∧ r.Shows a ∧ t' = t.updateApp id change ∧ input.IsIn a r (change r)

/-- The cleanup of the app has been requested, now or before, and the first request stays on record. -/
def AppId.IsMarked (id : AppId) (requested : Signature) (t t' : Tables) (work : List (Prepared Work)) : Prop :=
  ∃ r a, t.app? id = some r ∧ r.Shows a ∧
    if a.cleanupRequested.isSome then t' = t ∧ work = []
    else t' = t.updateApp id (·.marked requested) ∧ work = [Work.ofCleanup id]

/-- The deployment has been asked for: its row, with the configuration of its app, comes after the others. -/
def DeploymentId.IsAskedFor (id : DeploymentId) (e : Environment) (requested : Signature) (t t' : Tables)
    (work : List (Prepared Work)) : Prop :=
  ∃ r a, t.app? id.app = some r ∧ r.Shows a ∧
    let config : ConfigSnapshot := ⟨a.name, e, (a.environment e).target, (a.environment e).vars⟩
    t' = { t with deployments := t.deployments ++ [.ofCreated id config .initial requested] } ∧
      work = [Work.ofDeployment id config]

namespace Store

/-- The call has done nothing, or all that `Done` tells of the answer, the tables and the work. -/
structure Whole {β : Type} (s : Store) (Done : β → Tables → List (Prepared Work) → Prop)
    (outcome : Except CommandError β × Store) : Prop where
  nothing : ∀ e, outcome.1 = .error e → isUndispatched outcome.1 = false →
    outcome.2.db.tables = s.db.tables ∧ outcome.2.hub = s.hub ∧ outcome.2.bus = s.bus
  all : ∀ answer, outcome.1 = .ok answer → ∃ work, Done answer outcome.2.db.tables work ∧
    outcome.2.hub.queue = s.hub.queue.enqueueAll work

variable {A ε β : Type} [Aggregate A ε] {s : Store} {result : Except CommandError β}
  {Builds : β → Except AppError A → Prop} {Done : β → Tables → List (Prepared Work) → Prop}
  {outcome : Except CommandError β × Store}

theorem Comes.whole (hs : s.IsWired) (h : Comes s Builds outcome.1 outcome.2)
    (hdone : ∀ answer a t', Builds answer (.ok a) →
      (Aggregate.pending a).foldlM (Aggregate.apply A) s.db.tables = .ok t' →
        Done answer t' (workOf A (Aggregate.pending a))) : s.Whole Done outcome := by
  constructor
  · rintro e he hall
    rcases h.cases_of_dispatched hall with ⟨e, k, -, hskip⟩ | ⟨answer, a, hok, -⟩
    · rw [hskip]
      exact ⟨tables_skip k, rfl, rfl⟩
    · cases he.symm.trans hok
  · rintro answer hanswer
    have hall : isUndispatched outcome.1 = false := by rw [hanswer]; rfl
    rcases h.cases_of_dispatched hall with ⟨e, k, hfailed, -⟩ | ⟨answer', a, hok, hbuilds, -, hwritten, hqueue⟩
    · cases hanswer.symm.trans hfailed
    · cases hanswer.symm.trans hok
      exact ⟨_, hdone answer a _ hbuilds hwritten, hqueue hs⟩

end Store

section UseCases

variable {t t' : Tables} {id : AppId} {a : App} {required : Requirement × Requirement}

theorem Tables.shows_of_app (ha : t.app id = .ok a) :
    ∃ r, t.app? id = some r ∧ r.Shows a ∧ a.id = id ∧ Aggregate.pending a = [] := by
  obtain ⟨r, hr, hshows⟩ := Tables.app_eq_ok.mp ha
  exact ⟨r, hr, hshows, Tables.id_of_app?_shows hr hshows, congrArg EventBuffer.events hshows.events⟩

theorem workOf_of_revisions {es : List AppEvent} (h : ∀ e ∈ es, e.isRevision = true) : workOf App es = [] :=
  List.flatMap_eq_nil_iff.mpr fun e he => by rw [AppEvent.work?_of_isRevision (h e he)]; rfl

/-- The events of a new app, if it is accepted. -/
theorem NewApp.pending_of_build {input : NewApp} {created : Signature} (h : input.build id required created = .ok a)
    (hproduction : required.1.config = some input.production) (hstaging : required.2.config = some input.staging) :
    Aggregate.pending a = .created id input.name input.production input.staging created ::
      input.versionControl.toList.map (.versionControlConfigured id) := by
  rw [NewApp.build, bind_eq_ok] at h
  obtain ⟨a₀, happ, h⟩ := h
  obtain ⟨p, s, hp, hs, rfl⟩ := App.create_eq_ok.mp happ
  cases hproduction.symm.trans (Requirement.met_eq_ok_iff.mp hp).1
  cases hstaging.symm.trans (Requirement.met_eq_ok_iff.mp hs).1
  cases hinput : input.versionControl with
  | none =>
    rw [hinput] at h
    cases pure_eq_ok.mp h
    rfl
  | some config =>
    rw [hinput] at h
    obtain ⟨-, rfl⟩ := App.useVersionControl_eq_ok.mp h
    rfl

theorem NewApp.isCreated_of_build {input : NewApp} {created : Signature}
    (h : input.build id (t.checkNaming input.name input.production input.staging) created = .ok a)
    (hwritten : (Aggregate.pending a).foldlM Tables.applyAppEvent t = .ok t') :
    input.IsCreated id created t t' ∧ workOf App (Aggregate.pending a) = [] := by
  have hpending := NewApp.pending_of_build h rfl rfl
  rw [hpending] at hwritten ⊢
  constructor
  · obtain ⟨t₁, hinsert, hrest⟩ := Database.exists_of_foldlM_cons hwritten
    obtain ⟨hfree, rfl⟩ := Tables.insertApp_eq_ok.mp hinsert
    have hrevisions : ∀ e ∈ input.versionControl.toList.map (AppEvent.versionControlConfigured id),
        e.id = id ∧ e.founded = none ∧ e.deletes = false := by
      intro e he
      obtain ⟨config, -, rfl⟩ := List.mem_map.mp he
      exact ⟨rfl, rfl, rfl⟩
    rw [Tables.foldlM_revisions hrevisions] at hrest
    cases hrest
    -- the rows that were there are of other apps
    have hothers : (t.apps.map fun r => if r.id.holds id then
        r.projectAll (input.versionControl.toList.map (.versionControlConfigured id)) else r) = t.apps := by
      refine (List.map_congr_left fun r hr => ?_).trans (List.map_id _)
      exact if_neg fun hid => hfree r hr (Column.holds_iff.mp hid)
    have hnew : (AppRow.ofCreated id input.name input.production input.staging created).id.holds id = true :=
      Column.holds_iff.mpr rfl
    rw [NewApp.IsCreated, Tables.updateApp, List.map_append, hothers, List.map_singleton, if_pos hnew, NewApp.row]
    cases input.versionControl <;> rfl
  · cases input.versionControl <;> rfl

theorem AppChange.isMade_of_build {input : AppChange} {base : App} (htold : Store.Told t id input required)
    (hbase : t.app id = .ok base) (h : input.build base required = .ok a)
    (hwritten : (Aggregate.pending a).foldlM Tables.applyAppEvent t = .ok t') :
    input.IsMade id t t' ∧ workOf App (Aggregate.pending a) = [] := by
  obtain ⟨r, hr, hshows, rfl, hnothing⟩ := Tables.shows_of_app hbase
  have hconfig (except : AppRow → Bool) (name : Column String) (c? : Option EnvConfig) :
      (t.required except name c?).config = c? := by cases c? <;> rfl
  have hrequired := Tables.eq_of_told hr htold
  have ha := AppChange.eq_of_build h (by rw [hrequired]; exact hconfig ..) (by rw [hrequired]; exact hconfig ..)
  have hpending : Aggregate.pending a = input.events base := by rw [ha, App.pending_raiseAll, hnothing, List.nil_append]
  have hevents := @App.revises_of_mem_events base input
  rw [hpending] at hwritten ⊢
  rw [Tables.foldlM_revisions fun e he => ⟨(hevents e he).1, AppEvent.founded_of_isRevision (hevents e he).2,
    AppEvent.deletes_of_isRevision (hevents e he).2⟩] at hwritten
  cases hwritten
  exact ⟨⟨r, base, _, hr, hshows, rfl, r.isIn_projectAll hshows input⟩,
    workOf_of_revisions fun e he => (hevents e he).2⟩

theorem AppId.isMarked_of_requestCleanup {requested : Signature} (ha : t.app id = .ok a)
    (hwritten : (Aggregate.pending (a.requestCleanup requested)).foldlM Tables.applyAppEvent t = .ok t') :
    id.IsMarked requested t t' (workOf App (Aggregate.pending (a.requestCleanup requested))) := by
  obtain ⟨r, hr, hshows, rfl, hnothing⟩ := Tables.shows_of_app ha
  refine ⟨r, a, hr, hshows, ?_⟩
  by_cases hmarked : a.cleanupRequested.isSome = true
  · rw [App.requestCleanup, if_pos hmarked, hnothing] at hwritten
    rw [App.requestCleanup, if_pos hmarked, if_pos hmarked, hnothing]
    cases hwritten
    exact ⟨rfl, rfl⟩
  · have hpending : Aggregate.pending (a.requestCleanup requested) = [.cleanupRequested a.id requested] := by
      rw [App.requestCleanup, if_neg hmarked]
      exact congrArg (· ++ [_]) hnothing
    rw [hpending] at hwritten ⊢
    rw [if_neg hmarked]
    cases hwritten
    exact ⟨rfl, rfl⟩

theorem DeploymentId.isAskedFor_of_newDeployment {n : DeploymentNumber} {e : Environment} {requested : Signature}
    {d : Deployment} (ha : t.app id = .ok a) (hd : a.newDeployment n e requested = .ok d)
    (hwritten : (Aggregate.pending d).foldlM Tables.applyDeploymentEvent t = .ok t') :
    DeploymentId.IsAskedFor ⟨id, n⟩ e requested t t' (workOf Deployment (Aggregate.pending d)) := by
  obtain ⟨r, hr, hshows, rfl, -⟩ := Tables.shows_of_app ha
  rw [App.newDeployment, bind_eq_ok] at hd
  obtain ⟨-, -, hd⟩ := hd
  cases pure_eq_ok.mp hd
  obtain ⟨t₁, hinsert, hrest⟩ := Database.exists_of_foldlM_cons hwritten
  cases hrest
  obtain ⟨-, -, rfl⟩ := Tables.insertDeployment_eq_ok.mp hinsert
  exact ⟨r, a, hr, hshows, rfl, rfl⟩

end UseCases

namespace Store

/-- **A use case carries out all that it is asked for, or nothing**, unless what it has stored does not get through to
all subscribers. -/
theorem use_cases_whole (s : Store) (hs : s.IsWired) :
    (∀ id input created, s.Whole
      (fun answer t' work => answer = id ∧ input.IsCreated id created s.db.tables t' ∧ work = [])
      (s.createApp id input created)) ∧
    (∀ id input, s.Whole (fun _ t' work => input.IsMade id s.db.tables t' ∧ work = []) (s.updateApp id input)) ∧
    (∀ id requested, s.Whole (fun _ t' work => id.IsMarked requested s.db.tables t' work)
      (s.requestCleanup id requested)) ∧
    ∀ app e requested, s.Whole
      (fun n t' work => DeploymentId.IsAskedFor ⟨app, n⟩ e requested s.db.tables t' work)
      (s.queueDeployment app e requested) := by
  refine ⟨fun id input created => (comes_of_createApp rfl).whole hs ?_,
    fun id input => (comes_of_updateApp rfl).whole hs ?_,
    fun id requested => (comes_of_requestCleanup rfl).whole hs ?_,
    fun app e requested => (comes_of_queueDeployment rfl).whole hs ?_⟩
  · rintro answer a t' ⟨rfl, ha⟩ hwritten
    exact ⟨rfl, NewApp.isCreated_of_build ha.symm hwritten⟩
  · rintro - a t' ⟨required, base, htold, hbase, ha⟩ hwritten
    exact AppChange.isMade_of_build htold hbase ha.symm hwritten
  · rintro - a t' ⟨base, hbase, ha⟩ hwritten
    cases ha
    exact AppId.isMarked_of_requestCleanup hbase hwritten
  · rintro n d t' ⟨a, ha, -, hd⟩ hwritten
    exact DeploymentId.isAskedFor_of_newDeployment ha hd.symm hwritten

/-! ## A change that is refused halfway -/

namespace HalfMove

def east : TargetId := default

def west : TargetId := ⟨⟨1⟩⟩

def nowhere : TargetId := ⟨⟨2⟩⟩

def config (target : TargetId) : EnvConfig := ⟨target, default, none⟩

def app : AppId := default

theorem isValid_cafe : AppName.isValid "cafe".toList := by decide

def input : NewApp := ⟨⟨"cafe", isValid_cafe⟩, config east, config east, none⟩

/-- Two targets and no apps, with a scheduler. -/
def site : Store :=
  ⟨⟨⟨[⟨east, false⟩, ⟨west, false⟩], [], []⟩, false, []⟩, [.scheduler], ⟨.empty ⟨1, .zero, .zero⟩ 1, []⟩⟩

/-- The store once the app has been created. -/
def shop : Store := (site.createApp app input ⟨default, default⟩).2

/-- Production is to move to a target that is there, and staging to one that is not. -/
def move : AppChange := ⟨some (config west), some (config nowhere), .keep⟩

end HalfMove

open HalfMove in
/-- Production could move alone, but it does not as staging cannot; a deployment is asked for then. -/
theorem use_cases_whole_halfMove :
    shop.IsWired ∧ (shop.updateApp app { move with staging := none }).1 = .ok () ∧
      (shop.updateApp app move).1 = .error (.rejected (.targetNotFound nowhere)) ∧
      (shop.updateApp app move).2.db.tables = shop.db.tables ∧ (shop.updateApp app move).2.hub = shop.hub ∧
      (shop.queueDeployment app .production ⟨default, default⟩).1 = .ok ⟨1⟩ ∧
      ∃ work, DeploymentId.IsAskedFor ⟨app, ⟨1⟩⟩ .production ⟨default, default⟩ shop.db.tables
          (shop.queueDeployment app .production ⟨default, default⟩).2.db.tables work ∧
        (shop.queueDeployment app .production ⟨default, default⟩).2.hub.queue = shop.hub.queue.enqueueAll work := by
  have hsite : site.IsWired := ⟨[], rfl, List.forall_mem_nil _⟩
  have hcreated : isUndispatched (site.createApp app input ⟨default, default⟩).1 = false := by decide +kernel
  have hcomes := comes_of_createApp (rfl : site.createApp app input ⟨default, default⟩ = (_, _))
  have hwired : shop.IsWired := ⟨[], (hcomes.dispatched hsite hcreated).1, List.forall_mem_nil _⟩
  obtain ⟨-, hupdate, -, hqueue⟩ := use_cases_whole shop hwired
  have hmoved : (shop.updateApp app { move with staging := none }).1 = .ok () := by decide +kernel
  have hrefused : (shop.updateApp app move).1 = .error (.rejected (.targetNotFound nowhere)) := by decide +kernel
  have hqueued : (shop.queueDeployment app .production ⟨default, default⟩).1 = .ok ⟨1⟩ := by decide +kernel
  obtain ⟨htables, hhub, -⟩ := (hupdate app move).nothing _ hrefused (by rw [hrefused]; rfl)
  exact ⟨hwired, hmoved, hrefused, htables, hhub, hqueued,
    (hqueue app .production ⟨default, default⟩).all _ hqueued⟩

end Store

end Rollout
