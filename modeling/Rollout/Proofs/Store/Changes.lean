import Rollout.Proofs.Deployment.Operations
import Rollout.Proofs.Store.Filing

/-!
# What the program changes in the tables

All changes of apps and deployments that the program makes are of a few kinds (`Tables.Change`): apps are created or
changed (`Tables.Retains`), an app is deleted, a deployment is asked for (`Tables.Asks`), one is started while the older
ones of its environment that wait are closed (`Tables.Starts`), or the outcome of a running one is recorded
(`Tables.Finishes`). Each of them keeps the deployments in order, and of an app that stays it keeps what has been asked
for: no deployment is lost or waits again, and no request for a cleanup is taken back (`Tables.Keeps`).
-/

namespace Rollout

def Deployment.inState (d : Deployment) (s : DeploymentState) : Deployment := { d with state := s }

namespace Tables

variable {t t' : Tables} {d : Deployment} {id : DeploymentId}

/-- `o` is an older deployment of the environment of `d` that waits. -/
structure Outdated (t : Tables) (d o : Deployment) : Prop where
  stored : t.deployment o.id = .ok o
  app : o.id.app = d.id.app
  environment : o.config.environment = d.config.environment
  lt : o.id.number.toNat < d.id.number.toNat
  waits : o.state.status = .pending

/-- The deployment `d`, which waits, is started, and the older ones of its environment that wait are closed. -/
structure Starts (t : Tables) (d : Deployment) (t' : Tables) : Prop where
  stored : t.deployment d.id = .ok d
  waits : d.state.status = .pending
  own : ∃ s, s.status = .running ∧ t'.deployment d.id = .ok (d.inState s)
  closed : ∀ o, t.Outdated d o → ∃ s, s.status = .failed ∧ t'.deployment o.id = .ok (o.inState s)
  others : ∀ id, id ≠ d.id → (∀ o, t.Outdated d o → o.id ≠ id) → t'.deployment? id = t.deployment? id
  apps : t'.apps = t.apps

/-- The outcome of the deployment `d`, which runs, is recorded. -/
structure Finishes (t : Tables) (d : Deployment) (t' : Tables) : Prop where
  stored : t.deployment d.id = .ok d
  runs : d.state.status = .running
  own : ∃ s, s.status.isFinished = true ∧ t'.deployment d.id = .ok (d.inState s)
  others : ∀ id, id ≠ d.id → t'.deployment? id = t.deployment? id
  apps : t'.apps = t.apps

/-- Nothing more is to be done for the deployment. -/
def IsSettled (t : Tables) (id : DeploymentId) : Prop :=
  t.deployment? id = none ∨ ∃ d, t.deployment id = .ok d ∧ d.state.status.isFinished = true

theorem apps_changeStates (ds : List Deployment) : (t.changeStates ds).apps = t.apps := by
  induction ds using List.reverseRecOn with
  | nil => rfl
  | append_singleton ds d ih =>
    rw [changeStates_concat]
    exact ih

theorem targets_changeStates (ds : List Deployment) : (t.changeStates ds).targets = t.targets := by
  induction ds using List.reverseRecOn with
  | nil => rfl
  | append_singleton ds d ih =>
    rw [changeStates_concat]
    exact ih

theorem deployment?_changeStates_of_ne {ds : List Deployment} (h : ∀ d ∈ ds, d.id ≠ id) :
    (t.changeStates ds).deployment? id = t.deployment? id := by
  have hnone : ds.filter (·.id = id) = [] := List.filter_eq_nil_iff.mpr fun d hd => by simpa using h d hd
  rw [deployment?_changeStates, hnone]
  simp

/-- A deployment is in the last of the states that are written of it. -/
theorem Filed.deployment_changeStates (h : t.Filed) (hd : t.deployment id = .ok d) {ds : List Deployment}
    {last : Deployment} (hlast : (ds.filter (·.id = id)).getLast? = some last) :
    (t.changeStates ds).deployment id = .ok (d.inState last.state) := by
  obtain ⟨hrow, -⟩ := h.deployment?_eq hd
  obtain ⟨r, hr, hshows⟩ := deployment_eq_ok.mp hd
  refine deployment_eq_ok.mpr ⟨.of (d.inState last.state), ?_, DeploymentRow.shows_of hshows.events⟩
  rw [deployment?_changeStates, hrow, hlast]
  rfl

/-- The deployments that are found waiting are the outdated ones. -/
theorem Filed.mem_pendingBefore_iff (h : t.Filed) {os : List Deployment} (hd : t.deployment id = .ok d)
    (hos : t.pendingBefore id.app d.config.environment id.number = .ok os) (o : Deployment) :
    o ∈ os ↔ t.Outdated d o := by
  obtain rfl := (h.deployment?_eq hd).2
  refine (h.mem_pendingBefore hos).trans ⟨fun ⟨hstored, happ, henvironment, hlt, ho⟩ => ?_, fun ho => ?_⟩
  · exact ⟨hstored, happ, henvironment, hlt, ho⟩
  · exact ⟨ho.stored, ho.app, ho.environment, ho.lt, ho.waits⟩

theorem Filed.starts (h : t.Filed) {d' : Deployment} {os closed : List Deployment} (hd : t.deployment d.id = .ok d)
    (hwaits : d.state.status = .pending) (hos : ∀ o, o ∈ os ↔ t.Outdated d o) (hid : d'.id = d.id)
    (hruns : d'.state.status = .running)
    (hclosed : List.Forall₂ (fun o o' => o'.id = o.id ∧ o'.state.status = .failed) os closed) :
    t.Starts d (t.changeStates (closed ++ [d'])) := by
  refine ⟨hd, hwaits, ⟨d'.state, hruns, ?_⟩, fun o ho => ?_, fun id hne hothers => ?_, apps_changeStates _⟩
  · exact h.deployment_changeStates hd (by simp [List.filter_append, hid])
  · have hne : o.id ≠ d'.id := fun heq => Nat.lt_irrefl _ (hid ▸ heq ▸ ho.lt)
    have hfilter : (closed ++ [d']).filter (·.id = o.id) = closed.filter (·.id = o.id) := by
      simp [List.filter_append, hne.symm]
    obtain ⟨o', ho', hoid, -⟩ := exists_right_of_forall₂ hclosed o ((hos o).mpr ho)
    have hmem : o' ∈ closed.filter (·.id = o.id) := List.mem_filter.mpr ⟨ho', decide_eq_true hoid⟩
    obtain ⟨last, hlast⟩ := Option.isSome_iff_exists.mp (List.getLast?_isSome.mpr (List.ne_nil_of_mem hmem))
    obtain ⟨-, -, -, hfailed⟩ :=
      exists_left_of_forall₂ hclosed last (List.mem_filter.mp (List.mem_of_getLast? hlast)).1
    exact ⟨last.state, hfailed, h.deployment_changeStates ho.stored (hfilter ▸ hlast)⟩
  · refine deployment?_changeStates_of_ne fun x hx => ?_
    rcases List.mem_append.mp hx with hx | hx
    · obtain ⟨o, ho, hoid, -⟩ := exists_left_of_forall₂ hclosed x hx
      exact hoid ▸ hothers o ((hos o).mp ho)
    · rw [List.mem_singleton.mp hx, hid]
      exact hne.symm

theorem Filed.finishes (h : t.Filed) {d' : Deployment} (hd : t.deployment d.id = .ok d)
    (hruns : d.state.status = .running) (hid : d'.id = d.id) (hfinished : d'.state.status.isFinished = true) :
    t.Finishes d (t.changeStates [d']) := by
  refine ⟨hd, hruns, ⟨d'.state, hfinished, ?_⟩, fun id hne => ?_, apps_changeStates _⟩
  · exact h.deployment_changeStates hd (by simp [hid])
  · exact deployment?_changeStates_of_ne (List.forall_mem_singleton.mpr (hid ▸ hne.symm))

/-! ## Deployments that others ask for -/

/-- There is more than before, and what is new of an app comes after all that was there. -/
structure Extends (t t' : Tables) : Prop where
  kept : ∀ id r, t.deployment? id = some r → t'.deployment? id = some r
  later : ∀ id id' : DeploymentId, (t.deployment? id).isSome = true → t.deployment? id' = none →
    (t'.deployment? id').isSome = true → id'.app = id.app → id.number.toNat < id'.number.toNat

theorem Extends.of_eq (h : t'.deployments = t.deployments) : t.Extends t' := by
  have hfound (id : DeploymentId) : t'.deployment? id = t.deployment? id := by rw [deployment?, deployment?, h]
  refine ⟨fun id r hr => (hfound id).trans hr, fun id id' _ hnone hsome => ?_⟩
  rw [hfound, hnone] at hsome
  cases hsome

theorem Extends.deployment (h : t.Extends t') (hd : t.deployment id = .ok d) : t'.deployment id = .ok d := by
  obtain ⟨r, hr, hshows⟩ := deployment_eq_ok.mp hd
  exact deployment_eq_ok.mpr ⟨r, h.kept id r hr, hshows⟩

/-- What waits that is older was there before. -/
theorem Extends.outdated_iff (h : t.Extends t') (hd : t.deployment d.id = .ok d) {o : Deployment} :
    t'.Outdated d o ↔ t.Outdated d o := by
  refine ⟨fun ho => { ho with stored := ?_ }, fun ho => { ho with stored := h.deployment ho.stored }⟩
  obtain ⟨r, hr, -⟩ := deployment_eq_ok.mp hd
  obtain ⟨r', hr', hshows⟩ := deployment_eq_ok.mp ho.stored
  cases hfound : t.deployment? o.id with
  | none =>
    have hlater := h.later d.id o.id (by rw [hr]; rfl) hfound (by rw [hr']; rfl) ho.app
    exact absurd ho.lt (Nat.lt_asymm hlater)
  | some r₀ =>
    obtain rfl := Option.some.inj ((h.kept _ _ hfound).symm.trans hr')
    exact deployment_eq_ok.mpr ⟨r₀, hfound, hshows⟩

/-- A deployment of a stored app is asked for, which comes right after those that are there. -/
structure Asks (t : Tables) (d : Deployment) (t' : Tables) : Prop where
  waits : d.state.status = .pending
  events : d.events = .empty
  named : t.IsNamed d.id.app d.config.appName
  pos : 0 < d.id.number.toNat
  older : ∀ m : DeploymentNumber, 0 < m.toNat → m.toNat < d.id.number.toNat →
    (t.deployment? ⟨d.id.app, m⟩).isSome = true
  written : t.insertDeployment (.of d) = .ok t'

namespace Asks

theorem apps (h : t.Asks d t') : t'.apps = t.apps := by
  obtain ⟨-, -, rfl⟩ := insertDeployment_eq_ok.mp h.written
  rfl

theorem deployment? (h : t.Asks d t') (id : DeploymentId) :
    t'.deployment? id = if id = d.id then some (.of d) else t.deployment? id :=
  deployment?_insertDeployment (DeploymentRow.isOf_of.mpr rfl) h.written id

theorem stored (h : t.Asks d t') : t'.deployment d.id = .ok d :=
  deployment_eq_ok.mpr ⟨.of d, (h.deployment? d.id).trans (if_pos rfl), DeploymentRow.shows_of h.events⟩

theorem isNew (h : t.Asks d t') : t.deployment? d.id = none :=
  (isFree_of_insertDeployment (DeploymentRow.isOf_of.mpr rfl) h.written).2

theorem filed (h : t.Asks d t') (hfiled : t.Filed) : t'.Filed :=
  hfiled.insertDeployment h.events h.named h.older h.written

/-- All others are older. -/
theorem lt (h : t.Asks d t') (hfiled : t.Filed) (hid : (t.deployment? id).isSome = true) (happ : id.app = d.id.app) :
    id.number.toNat < d.id.number.toNat := by
  refine Nat.lt_of_not_le fun hle => ?_
  have hsome := hfiled.gapless id d.id.number hid h.pos hle
  rw [happ, h.isNew] at hsome
  cases hsome

end Asks

theorem Asks.extends (h : t.Asks d t') (hfiled : t.Filed) : t.Extends t' := by
  refine ⟨fun id r hr => ?_, fun id id' hid hnone hsome happ => ?_⟩
  · have hne : id ≠ d.id := fun heq => by
      rw [heq, h.isNew] at hr
      cases hr
    rw [h.deployment?, if_neg hne, hr]
  · rw [h.deployment?] at hsome
    split at hsome
    · next heq =>
      rw [heq] at happ ⊢
      exact h.lt hfiled hid happ.symm
    · rw [hnone] at hsome
      cases hsome

/-! ## Changes of apps -/

end Tables

/-- It is on record when and by whom the cleanup of the app was requested. -/
def AppRow.IsMarked (r : AppRow) : Prop :=
  ∃ time user, r.cleanupAt.read "cleanup_requested_at" = .ok (some time) ∧
    r.cleanupBy.read "cleanup_requested_by" = .ok (some user)

theorem AppRow.Shows.isMarked_iff {r : AppRow} {a : App} (h : r.Shows a) :
    r.IsMarked ↔ a.cleanupRequested.isSome = true := by
  obtain ⟨time, user, htime, huser, hcleanup⟩ := h.cleanup
  rw [IsMarked, htime, huser, hcleanup]
  cases time <;> cases user <;> simp [AppRow.cleanup]

theorem AppRow.IsMarked.project {r : AppRow} (h : r.IsMarked) (e : AppEvent) : (r.project e).IsMarked := by
  cases e with
  | cleanupRequested _ requested => exact ⟨requested.time, requested.user, rfl, rfl⟩
  | envChanged _ e _ => cases e <;> exact h
  | _ => exact h

/-- An app is marked by a request for its cleanup. -/
theorem AppRow.eq_cleanupRequested_of_project {r : AppRow} {e : AppEvent} (h : (r.project e).IsMarked)
    (hnot : ¬r.IsMarked) : ∃ requested, e = .cleanupRequested e.id requested := by
  cases e with
  | cleanupRequested _ requested => exact ⟨requested, rfl⟩
  | envChanged _ e _ => cases e <;> exact absurd h hnot
  | _ => exact absurd h hnot

/-- The apps that events create. -/
def newApps (es : List AppEvent) : List AppId := es.flatMap fun e => (e.founded.map (·.id)).toList

namespace Tables

variable {t t' : Tables} {issued new : List AppId} {app : AppId} {e : AppEvent} {es : List AppEvent}

/-- The stored app is about to be cleaned up. -/
def Leaves (t : Tables) (app : AppId) : Prop := ∃ r, t.app? app = some r ∧ r.IsMarked

/-- All stored apps have identifiers that have been issued. -/
def Within (t : Tables) (issued : List AppId) : Prop := ∀ app, (t.app? app).isSome = true → app ∈ issued

/-- Apps are created under new identifiers, or changed, and none is lost. -/
structure Retains (issued new : List AppId) (t t' : Tables) : Prop where
  deployments : t'.deployments = t.deployments
  fresh : ∀ app ∈ new, app ∉ issued
  kept : ∀ app r, t.app? app = some r → ∃ r', t'.app? app = some r' ∧ r'.name = r.name ∧ (r.IsMarked → r'.IsMarked)
  only : ∀ app, (t'.app? app).isSome = true → app ∈ new ∨ (t.app? app).isSome = true

theorem Retains.of_eq (hdeployments : t'.deployments = t.deployments) (happs : t'.apps = t.apps) :
    Retains issued [] t t' := by
  have hfound (app : AppId) : t'.app? app = t.app? app := by rw [app?, app?, happs]
  exact ⟨hdeployments, List.forall_mem_nil _, fun app r hr => ⟨r, (hfound app).trans hr, rfl, id⟩,
    fun app hsome => .inr (hfound app ▸ hsome)⟩

theorem Retains.trans {t₁ : Tables} {new' : List AppId} (h : Retains issued new t t₁)
    (h' : Retains issued new' t₁ t') : Retains issued (new ++ new') t t' := by
  refine ⟨h'.deployments.trans h.deployments, List.forall_mem_append.mpr ⟨h.fresh, h'.fresh⟩,
    fun app r hr => ?_, fun app hsome => ?_⟩
  · obtain ⟨r₁, hr₁, hname, hmarked⟩ := h.kept app r hr
    obtain ⟨r', hr', hname', hmarked'⟩ := h'.kept app r₁ hr₁
    exact ⟨r', hr', hname'.trans hname, hmarked' ∘ hmarked⟩
  · rcases h'.only app hsome with hnew | hsome
    · exact .inl (List.mem_append_right _ hnew)
    · exact (h.only app hsome).imp_left (List.mem_append_left _)

theorem Retains.filed (h : Retains issued new t t') (hfiled : t.Filed) : t'.Filed := by
  refine hfiled.of_apps h.deployments fun app name ⟨r, hr, hread⟩ => ?_
  obtain ⟨r', hr', hname, -⟩ := h.kept app r hr
  exact ⟨r', hr', hname ▸ hread⟩

theorem Retains.deployment (h : Retains issued new t t') (id : DeploymentId) : t'.deployment id = t.deployment id := by
  rw [Tables.deployment, Tables.deployment, deployment?, deployment?, h.deployments]

/-- An event that deletes nothing creates its app or changes the row of it. -/
theorem retains_applyAppEvent (hkept : e.deletes = false) (hfresh : ∀ a, e.founded = some a → a.id ∉ issued)
    (h : t.applyAppEvent e = .ok t') : Retains issued (newApps [e]) t t' := by
  have hdeployments := deployments_applyAppEvent hkept h
  cases hnew : e.founded with
  | some a =>
    have hnews : newApps [e] = [a.id] := by simp [newApps, hnew]
    obtain ⟨k, name, production, staging, created, rfl, -⟩ := AppRow.shows_ofCreated hnew
    cases hnew
    have hfound := app?_insertApp rfl h
    obtain ⟨hfree, -⟩ := insertApp_eq_ok.mp h
    rw [hnews]
    refine ⟨hdeployments, List.forall_mem_singleton.mpr (hfresh _ rfl), fun app r hr => ?_, fun app hsome => ?_⟩
    · have hne : app ≠ k := fun heq => by
        have hholds := List.find?_some hr
        exact hfree r (List.mem_of_find?_eq_some hr) (heq ▸ Column.holds_iff.mp hholds)
      exact ⟨r, by rw [hfound, if_neg hne, hr], rfl, id⟩
    · rw [hfound] at hsome
      split at hsome
      · next heq => exact .inl (heq ▸ List.mem_singleton.mpr rfl)
      · exact .inr hsome
  | none =>
    have hnews : newApps [e] = [] := by simp [newApps, hnew]
    rw [applyAppEvent_of_change hnew hkept] at h
    cases h
    have hfound := app?_updateApp (t := t) (fun r => r.id_project e) e.id
    rw [hnews]
    refine ⟨hdeployments, List.forall_mem_nil _, fun app r hr => ?_, fun app hsome => ?_⟩
    · rw [hfound, hr]
      by_cases heq : app = e.id
      · exact ⟨r.project e, by simp [heq], r.name_project e, fun hr => hr.project e⟩
      · exact ⟨r, by simp [heq], rfl, id⟩
    · rw [hfound, Option.isSome_map] at hsome
      exact .inr hsome

theorem retains_of_appEvents (hkept : ∀ e ∈ es, e.deletes = false)
    (hfresh : ∀ e ∈ es, ∀ a, e.founded = some a → a.id ∉ issued) (h : es.foldlM applyAppEvent t = .ok t') :
    Retains issued (newApps es) t t' := by
  induction es generalizing t with
  | nil =>
    cases h
    exact .of_eq rfl rfl
  | cons e es ih =>
    obtain ⟨hkept, hrestkept⟩ := List.forall_mem_cons.mp hkept
    obtain ⟨hfresh, hrestfresh⟩ := List.forall_mem_cons.mp hfresh
    obtain ⟨t₁, hfirst, hrest⟩ := Database.exists_of_foldlM_cons h
    have hnews : newApps (e :: es) = newApps [e] ++ newApps es := by simp [newApps]
    rw [hnews]
    exact (retains_applyAppEvent hkept hfresh hfirst).trans (ih hrestkept hrestfresh hrest)

/-- Only a request for its cleanup makes an app leave. -/
theorem leaves_applyAppEvent (hkept : e.deletes = false) (h : t.applyAppEvent e = .ok t') (happ : t'.Leaves app) :
    t.Leaves app ∨ ∃ requested, e = .cleanupRequested app requested := by
  obtain ⟨r', hr', hmarked⟩ := happ
  cases hnew : e.founded with
  | some a =>
    obtain ⟨k, name, production, staging, created, rfl, -⟩ := AppRow.shows_ofCreated hnew
    rw [app?_insertApp rfl h] at hr'
    split at hr'
    · cases hr'
      obtain ⟨time, user, htime, -⟩ := hmarked
      cases htime
    · exact .inl ⟨r', hr', hmarked⟩
  | none =>
    rw [applyAppEvent_of_change hnew hkept] at h
    cases h
    rw [app?_updateApp (fun r => r.id_project e)] at hr'
    obtain ⟨r, hr, rfl⟩ := Option.map_eq_some_iff.mp hr'
    by_cases heq : app = e.id
    · rw [if_pos heq] at hmarked
      by_cases hbefore : r.IsMarked
      · exact .inl ⟨r, hr, hbefore⟩
      · exact .inr (heq ▸ AppRow.eq_cleanupRequested_of_project hmarked hbefore)
    · rw [if_neg heq] at hmarked
      exact .inl ⟨r, hr, hmarked⟩

theorem leaves_of_appEvents (hkept : ∀ e ∈ es, e.deletes = false) (h : es.foldlM applyAppEvent t = .ok t')
    (happ : t'.Leaves app) : t.Leaves app ∨ ∃ requested, .cleanupRequested app requested ∈ es := by
  induction es generalizing t with
  | nil =>
    cases h
    exact .inl happ
  | cons e es ih =>
    obtain ⟨hfirst, hrest⟩ := List.forall_mem_cons.mp hkept
    obtain ⟨t₁, he, hes⟩ := Database.exists_of_foldlM_cons h
    rcases ih hrest hes with hleaves | ⟨requested, hmem⟩
    · refine (leaves_applyAppEvent hfirst he hleaves).imp_right fun ⟨requested, heq⟩ => ⟨requested, ?_⟩
      exact heq ▸ List.mem_cons_self
    · exact .inr ⟨requested, List.mem_cons_of_mem e hmem⟩

theorem leaves_of_cleanupRequested {requested : Signature} (hsome : (t.app? app).isSome = true)
    (h : t.applyAppEvent (.cleanupRequested app requested) = .ok t') : t'.Leaves app := by
  obtain ⟨r, hr⟩ := Option.isSome_iff_exists.mp hsome
  cases h
  have hfound := app?_updateApp (t := t) (fun r => r.id_project (.cleanupRequested app requested)) app app
  rw [hr] at hfound
  exact ⟨_, hfound.trans (congrArg some (if_pos rfl)), requested.time, requested.user, rfl, rfl⟩

end Tables

end Rollout
