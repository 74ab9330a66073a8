import Rollout.Proofs.UseCases.Calls
import Rollout.Proofs.UseCases.Requests
import Rollout.Proofs.Work.Scheduling

/-!
# What use cases enqueue

A call of a use case takes its steps without a break (`UseCase.run`). On a wired store, if its events get through to all
subscribers, it creates or changes an app and enqueues nothing, marks an app for its cleanup and enqueues that, or asks
for a deployment and enqueues that (`UseCase.effect_of_run`).
-/

namespace Rollout

/-! ## Changes of apps -/

/-- The event changes an app that stays, and there is nothing else to do about it. -/
def AppEvent.isRevision : AppEvent → Bool
  | .envChanged .. | .versionControlConfigured .. | .versionControlRemoved _ => true
  | _ => false

namespace AppEvent

variable {e : AppEvent}

theorem deletes_of_isRevision (h : e.isRevision = true) : e.deletes = false := by cases e <;> first | rfl | cases h

theorem founded_of_isRevision (h : e.isRevision = true) : e.founded = none := by cases e <;> first | rfl | cases h

theorem work?_of_isRevision (h : e.isRevision = true) : (Aggregate.notice App e).payload.work? = none := by
  cases e <;> first | rfl | cases h

end AppEvent

/-- `a'` has come from `a` by some changes. -/
def App.Revised (a a' : App) : Prop :=
  ∃ es, Aggregate.pending a' = Aggregate.pending a ++ es ∧ ∀ e ∈ es, e.isRevision = true

namespace App.Revised

variable {a b a' : App} {required : Requirement × Requirement} {o : AppOperation}

theorem refl (a : App) : a.Revised a := ⟨[], (List.append_nil _).symm, List.forall_mem_nil _⟩

theorem trans (h : a.Revised b) (h' : b.Revised a') : a.Revised a' := by
  obtain ⟨es, hes, hrevisions⟩ := h
  obtain ⟨es', hes', hrevisions'⟩ := h'
  exact ⟨es ++ es', by rw [hes', hes, List.append_assoc], List.forall_mem_append.mpr ⟨hrevisions, hrevisions'⟩⟩

theorem of_perform (ho : o.IsCleared required) (h : a.perform o = .ok a') : a.Revised a' := by
  rcases App.perform_eq_ok h with ⟨rfl, -⟩ | ⟨e, hraises, rfl⟩
  · exact .refl a'
  · refine ⟨[e], rfl, List.forall_mem_singleton.mpr ?_⟩
    cases hraises with
    | envChanged | versionControlConfigured | versionControlRemoved => rfl
    | cleanupRequested | deleted => exact ho.elim

theorem of_moveTo {e : Environment} {q : Requirement} (hq : q = required.1 ∨ q = required.2)
    (h : AppChange.moveTo a e q = .ok a') : a.Revised a' := by
  unfold AppChange.moveTo at h
  split at h
  · cases h
    exact .refl a
  · exact .of_perform (o := .updateEnvironment e q) hq h

theorem of_change {input : AppChange} (h : input.build a required = .ok a') : a.Revised a' := by
  simp only [AppChange.build, bind_eq_ok] at h
  obtain ⟨a₁, hproduction, a₂, hstaging, h⟩ := h
  have hmoved : a.Revised a₂ := (of_moveTo (.inl rfl) hproduction).trans (of_moveTo (.inr rfl) hstaging)
  cases hinput : input.versionControl with
  | keep =>
    rw [hinput] at h
    cases pure_eq_ok.mp h
    exact hmoved
  | use config =>
    rw [hinput] at h
    have hused : a₂.perform (.useVersionControl config) = .ok a' := h
    exact hmoved.trans (@of_perform a₂ a' required (.useVersionControl config) trivial hused)
  | remove =>
    rw [hinput] at h
    have hremoved : a₂.perform .removeVersionControl = .ok a' := h
    exact hmoved.trans (@of_perform a₂ a' required .removeVersionControl trivial hremoved)

/-- A new app has been created under its identifier, and may have been changed since. -/
theorem of_new {input : NewApp} {id : AppId} {created : Signature} (h : input.build id required created = .ok a) :
    ∃ (a₀ : App) (production staging : EnvConfig),
      Aggregate.pending a₀ = [AppEvent.created id input.name production staging created] ∧ a₀.Revised a := by
  rw [NewApp.build, bind_eq_ok] at h
  obtain ⟨a₀, happ, h⟩ := h
  obtain ⟨production, staging, -, -, rfl⟩ := App.create_eq_ok.mp happ
  refine ⟨⟨id, input.name, production, staging, none, none, created,
    EventBuffer.empty.record (.created id input.name production staging created)⟩, production, staging, rfl, ?_⟩
  cases hinput : input.versionControl with
  | none =>
    rw [hinput] at h
    cases pure_eq_ok.mp h
    exact .refl _
  | some config =>
    rw [hinput] at h
    have hused : App.perform _ (.useVersionControl config) = .ok a := h
    exact @of_perform _ a (.empty, .empty) (.useVersionControl config) trivial hused

end App.Revised

/-! ## Calls -/

inductive UseCase where
  | change (errand : AppErrand)
  | request (app : AppId) (request : Request)

namespace UseCase

/-- The identifiers that a call takes for new apps. -/
def takes : UseCase → List AppId
  | .change ⟨app, .create ..⟩ => [app]
  | _ => []

/-- The call without a break. -/
def run (s : Store) : UseCase → Except CommandError Unit × Store
  | .change ⟨app, .create input created⟩ =>
    let (result, s) := s.createApp app input created
    (result.map fun _ => (), s)
  | .change ⟨app, .update input⟩ => s.updateApp app input
  | .request app (.cleanup requested) => s.requestCleanup app requested
  | .request app (.deployment e requested) =>
    let (result, s) := s.queueDeployment app e requested
    (result.map fun _ => (), s)

end UseCase

/-- Whether something was stored that did not get through to all subscribers. -/
def isUndispatched {β : Type} : Except CommandError β → Bool
  | .error (.store (.undispatched ..)) => true
  | _ => false

theorem isUndispatched_map {β γ : Type} (result : Except CommandError β) (f : β → γ) :
    isUndispatched (result.map f) = isUndispatched result := by
  cases result with
  | error e =>
    cases e with
    | store e => cases e <;> rfl
    | _ => rfl
  | ok _ => rfl

namespace Store

variable {A ε β : Type} [Aggregate A ε] {s s' : Store} {result : Except CommandError β}
  {Builds : β → Except AppError A → Prop}

/-- A use case whose events all get through fails without a trace, or it stores them and enqueues all their work. -/
theorem Comes.cases_of_dispatched (h : Comes s Builds result s') (hall : isUndispatched result = false) :
    (∃ e k, result = .error e ∧ s' = s.skip k) ∨
      ∃ answer a, result = .ok answer ∧ Builds answer (.ok a) ∧ s'.bus = s.bus ∧
        (Aggregate.pending a).foldlM (Aggregate.apply A) s.db.tables = .ok s'.db.tables ∧
        (s.IsWired → s'.hub.queue = s.hub.queue.enqueueAll (workOf A (Aggregate.pending a))) := by
  cases h with
  | fails k _ => exact .inl ⟨_, k, rfl, rfl⟩
  | refused k _ => exact .inl ⟨_, k, rfl, rfl⟩
  | @written answer a written as s' k hbuilds hwrite hstored =>
    have hpending : pendingEvents [a] = Aggregate.pending a := List.flatMap_singleton ..
    have hbus := (s.skip k).bus_write [a]
    rcases (s.skip k).write_cases [a] with ⟨error, j, hrefused⟩ | ⟨result, tables, j, hub, happlied, -, haccepted⟩
    · cases hwrite.symm.trans hrefused
      cases hstored
    · rw [hwrite] at haccepted hbus
      cases haccepted
      cases written with
      | error e =>
        cases e with
        | undispatched => cases hall
        | _ => cases hstored
      | ok _ =>
        rw [hpending, tables_skip] at happlied
        refine .inr ⟨answer, a, rfl, hbuilds, hbus, happlied, fun hs => ?_⟩
        have hwired : (s.skip k).IsWired := hs
        obtain ⟨n, hqueue, hevents⟩ := queue_write hwired [a]
        rw [hwrite] at hqueue hevents
        rwa [hevents rfl, hpending] at hqueue

/-- A use case whose events all get through does nothing, or it stores them and enqueues all their work. -/
theorem Comes.dispatched (hs : s.IsWired) (h : Comes s Builds result s') (hall : isUndispatched result = false) :
    s'.bus = s.bus ∧
      ((s'.db.tables = s.db.tables ∧ s'.hub.queue = s.hub.queue) ∨
        ∃ answer a, Builds answer (.ok a) ∧
          (Aggregate.pending a).foldlM (Aggregate.apply A) s.db.tables = .ok s'.db.tables ∧
          s'.hub.queue = s.hub.queue.enqueueAll (workOf A (Aggregate.pending a))) := by
  rcases h.cases_of_dispatched hall with ⟨-, k, -, rfl⟩ | ⟨answer, a, -, hbuilds, hbus, happlied, hqueue⟩
  · exact ⟨rfl, .inl ⟨tables_skip k, rfl⟩⟩
  · exact ⟨hbus, .inr ⟨answer, a, hbuilds, happlied, hqueue hs⟩⟩

end Store

namespace UseCase

open Tables (Retains)

variable {issued new : List AppId} {t t' : Tables} {q q' : Queue Work} {s s' : Store} {u : UseCase}
  {result : Except CommandError Unit} {a a' : App}

/-- What a call makes of the tables and the queue. -/
inductive Effect (issued : List AppId) (t : Tables) (q : Queue Work) : List AppId → Tables → Queue Work → Prop where
  | changes {new : List AppId} {t' : Tables} (h : Retains issued new t t')
      (hleaves : ∀ app, t'.Leaves app → t.Leaves app) :
    Effect issued t q new t' q
  | marks {app : AppId} {t' : Tables} (h : Retains issued [] t t') (happ : t'.Leaves app)
      (hleaves : ∀ k, t'.Leaves k → k = app ∨ t.Leaves k) : Effect issued t q [] t' (q.enqueue (Work.ofCleanup app)).2
  | asks {d : Deployment} {t' : Tables} (h : t.Asks d t') :
    Effect issued t q [] t' (q.enqueue (Work.ofDeployment d.id d.config)).2

theorem Effect.of_eq (hfresh : ∀ app ∈ new, app ∉ issued) (htables : t' = t) (hqueue : q' = q) :
    Effect issued t q new t' q' := by
  subst htables hqueue
  exact .changes ⟨rfl, hfresh, fun app r hr => ⟨r, hr, rfl, fun h => h⟩, fun app hsome => .inr hsome⟩ fun _ h => h

/-- Events of which no work follows. -/
theorem workOf_of_quiet {es : List AppEvent} (h : ∀ e ∈ es, (Aggregate.notice App e).payload.work? = none) :
    workOf App es = [] :=
  List.flatMap_eq_nil_iff.mpr fun e he => by rw [h e he]; rfl

theorem not_marks_of_quiet {es : List AppEvent} (h : ∀ e ∈ es, (Aggregate.notice App e).payload.work? = none)
    {app : AppId} {requested : Signature} : .cleanupRequested app requested ∉ es := fun hmem => by
  cases h _ hmem

/-- Events that create apps under the identifiers `new`, or change them. -/
theorem Effect.of_quiet {es : List AppEvent} (hfresh : ∀ app ∈ new, app ∉ issued)
    (hkept : ∀ e ∈ es, e.deletes = false) (hfounded : ∀ e ∈ es, ∀ a, e.founded = some a → a.id ∈ new)
    (hquiet : ∀ e ∈ es, (Aggregate.notice App e).payload.work? = none)
    (hwritten : es.foldlM Tables.applyAppEvent t = .ok t') (hqueue : q' = q.enqueueAll (workOf App es)) :
    Effect issued t q new t' q' := by
  have hretains : Retains issued (newApps es) t t' :=
    Tables.retains_of_appEvents hkept (fun e he a ha => hfresh a.id (hfounded e he a ha)) hwritten
  have hsub (app : AppId) (happ : app ∈ newApps es) : app ∈ new := by
    obtain ⟨e, he, happ⟩ := List.mem_flatMap.mp happ
    obtain ⟨a, ha, rfl⟩ := Option.map_eq_some_iff.mp (Option.mem_toList.mp happ)
    exact hfounded e he a ha
  rw [hqueue, workOf_of_quiet hquiet]
  refine .changes ⟨hretains.deployments, hfresh, hretains.kept, fun app hsome => ?_⟩ fun app happ => ?_
  · exact (hretains.only app hsome).imp_left (hsub app)
  · rcases Tables.leaves_of_appEvents hkept hwritten happ with hbefore | ⟨requested, hmem⟩
    · exact hbefore
    · exact absurd hmem (not_marks_of_quiet hquiet)

theorem effect_of_new {input : NewApp} {required : Requirement × Requirement} {app : AppId} {created : Signature}
    (hfresh : app ∉ issued) (h : input.build app required created = .ok a)
    (hwritten : (Aggregate.pending a).foldlM Tables.applyAppEvent t = .ok t')
    (hqueue : q' = q.enqueueAll (workOf App (Aggregate.pending a))) : Effect issued t q [app] t' q' := by
  obtain ⟨a₀, production, staging, hpending₀, es, hpending, hrevisions⟩ := App.Revised.of_new h
  rw [hpending, hpending₀] at hwritten hqueue
  refine .of_quiet (List.forall_mem_singleton.mpr hfresh) (fun e he => ?_) (fun e he b hb => ?_) (fun e he => ?_)
    hwritten hqueue
  all_goals rcases List.mem_cons.mp he with rfl | he
  · rfl
  · exact AppEvent.deletes_of_isRevision (hrevisions e he)
  · cases hb
    exact List.mem_singleton.mpr rfl
  · cases (AppEvent.founded_of_isRevision (hrevisions e he)).symm.trans hb
  · rfl
  · exact AppEvent.work?_of_isRevision (hrevisions e he)

theorem effect_of_change {input : AppChange} {required : Requirement × Requirement} (hevents : a.events = .empty)
    (h : input.build a required = .ok a') (hwritten : (Aggregate.pending a').foldlM Tables.applyAppEvent t = .ok t')
    (hqueue : q' = q.enqueueAll (workOf App (Aggregate.pending a'))) : Effect issued t q [] t' q' := by
  obtain ⟨es, hpending, hrevisions⟩ := App.Revised.of_change h
  have hnothing : Aggregate.pending a = [] := congrArg EventBuffer.events hevents
  rw [hpending, hnothing, List.nil_append] at hwritten hqueue
  exact .of_quiet (List.forall_mem_nil _) (fun e he => AppEvent.deletes_of_isRevision (hrevisions e he))
    (fun e he b hb => by cases (AppEvent.founded_of_isRevision (hrevisions e he)).symm.trans hb)
    (fun e he => AppEvent.work?_of_isRevision (hrevisions e he)) hwritten hqueue

/-- A request for the cleanup of an app that is marked already changes nothing. -/
theorem effect_of_requestCleanup {app : AppId} {requested : Signature} (ha : t.app app = .ok a)
    (hwritten : (Aggregate.pending (a.requestCleanup requested)).foldlM Tables.applyAppEvent t = .ok t')
    (hqueue : q' = q.enqueueAll (workOf App (Aggregate.pending (a.requestCleanup requested)))) :
    Effect issued t q [] t' q' := by
  obtain ⟨r, hr, hshows⟩ := Tables.app_eq_ok.mp ha
  obtain rfl := Tables.id_of_app?_shows hr hshows
  have hnothing : Aggregate.pending a = [] := congrArg EventBuffer.events hshows.events
  by_cases hmarked : a.cleanupRequested.isSome = true
  · rw [App.requestCleanup, if_pos hmarked, hnothing] at hwritten hqueue
    cases hwritten
    exact .of_eq (List.forall_mem_nil _) rfl hqueue
  · have hpending : Aggregate.pending (a.requestCleanup requested) = [.cleanupRequested a.id requested] := by
      rw [App.requestCleanup, if_neg hmarked]
      exact congrArg (· ++ [_]) hnothing
    have hretains : Tables.Retains issued [] _ _ := Tables.retains_of_requestCleanup hshows.events hwritten
    rw [hpending] at hwritten hqueue
    have hkept : ∀ e ∈ [AppEvent.cleanupRequested a.id requested], e.deletes = false :=
      List.forall_mem_singleton.mpr rfl
    rw [hqueue]
    refine .marks hretains ?_ fun k hk => ?_
    · obtain ⟨t₁, hfirst, hrest⟩ := Database.exists_of_foldlM_cons hwritten
      cases hrest
      exact Tables.leaves_of_cleanupRequested (by rw [hr]; rfl) hfirst
    · rcases Tables.leaves_of_appEvents hkept hwritten hk with hbefore | ⟨requested', hmem⟩
      · exact .inr hbefore
      · cases List.mem_singleton.mp hmem
        exact .inl rfl

theorem effect_of_newDeployment {app : AppId} {n : DeploymentNumber} {e : Environment} {requested : Signature}
    {d : Deployment} (hfiled : t.Filed) (ha : t.app app = .ok a) (hn : t.nextNumber app = .ok n)
    (hd : a.newDeployment n e requested = .ok d)
    (hwritten : (Aggregate.pending d).foldlM Tables.applyDeploymentEvent t = .ok t')
    (hqueue : q' = q.enqueueAll (workOf Deployment (Aggregate.pending d))) : Effect issued t q [] t' q' := by
  obtain ⟨r, hr, hshows⟩ := Tables.app_eq_ok.mp ha
  obtain rfl := Tables.id_of_app?_shows hr hshows
  have hasks : t.Asks (Aggregate.cleared d) t' :=
    Tables.asks_of_newDeployment hd (fun _ => Tables.isNamed_of_app ha) (hfiled.pos_of_nextNumber hn)
      (fun _ m hm hlt => (hfiled.isSome_iff_of_nextNumber hn hm).mpr hlt) hwritten
  have hwork : workOf Deployment (Aggregate.pending d) = [Work.ofDeployment d.id d.config] := by
    rw [App.newDeployment, bind_eq_ok] at hd
    obtain ⟨-, -, hd⟩ := hd
    cases pure_eq_ok.mp hd
    rfl
  rw [hqueue, hwork]
  exact .asks (d := Aggregate.cleared d) hasks

/-- **What a call makes of a wired store**, if its events get through to all subscribers. -/
theorem effect_of_run (hs : s.IsWired) (hfiled : s.db.tables.Filed) (hfresh : ∀ app ∈ u.takes, app ∉ issued)
    (h : u.run s = (result, s')) (hall : isUndispatched result = false) :
    s'.bus = s.bus ∧ Effect issued s.db.tables s.hub.queue u.takes s'.db.tables s'.hub.queue := by
  cases u with
  | change errand =>
    obtain ⟨app, ⟨input, created⟩ | ⟨input⟩⟩ := errand
    · rcases hcall : s.createApp app input created with ⟨answer, store⟩
      rw [run, hcall] at h
      cases h
      rw [isUndispatched_map] at hall
      obtain ⟨hbus, ⟨htables, hqueue⟩ | ⟨id, a, ⟨rfl, ha⟩, hwritten, hqueue⟩⟩ :=
        (Store.comes_of_createApp hcall).dispatched hs hall
      · exact ⟨hbus, .of_eq hfresh htables hqueue⟩
      · exact ⟨hbus, effect_of_new (hfresh _ (List.mem_singleton.mpr rfl)) ha.symm hwritten hqueue⟩
    · obtain ⟨hbus, ⟨htables, hqueue⟩ | ⟨-, a, ⟨required, base, -, hbase, ha⟩, hwritten, hqueue⟩⟩ :=
        (Store.comes_of_updateApp h).dispatched hs hall
      · exact ⟨hbus, .of_eq hfresh htables hqueue⟩
      · obtain ⟨r, hr, hshows⟩ := Tables.app_eq_ok.mp hbase
        exact ⟨hbus, effect_of_change hshows.events ha.symm hwritten hqueue⟩
  | request app request =>
    cases request with
    | cleanup requested =>
      obtain ⟨hbus, ⟨htables, hqueue⟩ | ⟨-, a, ⟨base, hbase, ha⟩, hwritten, hqueue⟩⟩ :=
        (Store.comes_of_requestCleanup h).dispatched hs hall
      · exact ⟨hbus, .of_eq hfresh htables hqueue⟩
      · cases ha
        exact ⟨hbus, effect_of_requestCleanup hbase hwritten hqueue⟩
    | deployment e requested =>
      rcases hcall : s.queueDeployment app e requested with ⟨answer, store⟩
      rw [run, hcall] at h
      cases h
      rw [isUndispatched_map] at hall
      obtain ⟨hbus, ⟨htables, hqueue⟩ | ⟨n, d, ⟨base, hbase, hn, hd⟩, hwritten, hqueue⟩⟩ :=
        (Store.comes_of_queueDeployment hcall).dispatched hs hall
      · exact ⟨hbus, .of_eq hfresh htables hqueue⟩
      · exact ⟨hbus, effect_of_newDeployment hfiled hbase hn hd.symm hwritten hqueue⟩

end UseCase

end Rollout
