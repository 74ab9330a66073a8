import Rollout.Proofs.Store.Changes

/-!
# What lasts in the tables

A change that the program makes is one of few (`Tables.Change`). Each keeps the deployments in order (`Change.filed`),
and of an app that stays it keeps what has been asked for (`Change.keeps`): a deployment is still there and has at most
gone on to a later status, and an app that leaves is still about to be cleaned up. No deployment waits behind a newer
one of its environment that has been started (`Change.orderly`).
-/

namespace Rollout

namespace Tables

variable {t t' : Tables} {d : Deployment} {id : DeploymentId} {issued new : List AppId} {app : AppId}

/-- A change that the program makes, by which the apps `new` are created. -/
inductive Change (issued : List AppId) (t : Tables) : List AppId → Tables → Prop where
  | retains {new : List AppId} {t' : Tables} (h : Retains issued new t t') : Change issued t new t'
  | asks {d : Deployment} {t' : Tables} (h : t.Asks d t') : Change issued t [] t'
  | starts {d : Deployment} {t' : Tables} (h : t.Starts d t') (hfiled : t'.Filed) : Change issued t [] t'
  | finishes {d : Deployment} {t' : Tables} (h : t.Finishes d t') (hfiled : t'.Filed) : Change issued t [] t'
  | deletes (app : AppId) : Change issued t [] (t.deleteApp app)

/-- What was asked for of an app that stays is still there. -/
structure Keeps (issued : List AppId) (t t' : Tables) : Prop where
  app : ∀ app ∈ issued, ∀ r', t'.app? app = some r' →
    ∃ r, t.app? app = some r ∧ r'.name = r.name ∧ (r.IsMarked → r'.IsMarked)
  deployment : ∀ id d, id.app ∈ issued → (t'.app? id.app).isSome = true → t.deployment id = .ok d →
    ∃ s, t'.deployment id = .ok (d.inState s) ∧ d.state.status.Comes s.status

/-- What was asked for of an app that stays is still there, whatever its state. -/
structure Spares (issued : List AppId) (t t' : Tables) : Prop where
  app : ∀ app ∈ issued, ∀ r', t'.app? app = some r' → ∃ r, t.app? app = some r ∧ r'.name = r.name
  deployment : ∀ id : DeploymentId, id.app ∈ issued → (t'.app? id.app).isSome = true →
    (t.deployment? id).isSome = true → (t'.deployment? id).isSome = true

/-- No deployment waits behind a newer one of its environment that has been started. -/
def Orderly (t : Tables) : Prop :=
  ∀ d o, t.deployment d.id = .ok d → d.state.status ≠ .pending → ¬t.Outdated d o

theorem deployment_congr (h : t'.deployment? id = t.deployment? id) : t'.deployment id = t.deployment id := by
  rw [deployment, deployment, h]

theorem app?_congr (h : t'.apps = t.apps) (app : AppId) : t'.app? app = t.app? app := by rw [app?, app?, h]

theorem deployment_of_deleteApp (h : (t.deleteApp app).deployment id = .ok d) :
    t.deployment id = .ok d ∧ id.app ≠ app := by
  obtain ⟨r, hr, hshows⟩ := deployment_eq_ok.mp h
  rw [deployment?_deleteApp] at hr
  split at hr
  · cases hr
  · next hne => exact ⟨deployment_eq_ok.mpr ⟨r, hr, hshows⟩, hne⟩

theorem Change.filed (h : Change issued t new t') (hfiled : t.Filed) : t'.Filed := by
  cases h with
  | retains h => exact h.filed hfiled
  | asks h => exact h.filed hfiled
  | starts _ h => exact h
  | finishes _ h => exact h
  | deletes app => exact hfiled.deleteApp app

theorem Change.within (h : Change issued t new t') (hwithin : t.Within issued) : t'.Within (new ++ issued) := by
  intro app hsome
  cases h with
  | retains h =>
    rcases h.only app hsome with hnew | hsome
    · exact List.mem_append_left _ hnew
    · exact List.mem_append_right _ (hwithin app hsome)
  | asks h => exact hwithin app (app?_congr h.apps app ▸ hsome)
  | starts h _ => exact hwithin app (app?_congr h.apps app ▸ hsome)
  | finishes h _ => exact hwithin app (app?_congr h.apps app ▸ hsome)
  | deletes k =>
    rw [app?_deleteApp] at hsome
    split at hsome
    · cases hsome
    · exact hwithin app hsome

/-! ## What was asked for -/

namespace Keeps

theorem of_apps (happs : t'.apps = t.apps)
    (hdeployment : ∀ id d, t.deployment id = .ok d →
      ∃ s, t'.deployment id = .ok (d.inState s) ∧ d.state.status.Comes s.status) : Keeps issued t t' := by
  refine ⟨fun app _ r' hr' => ⟨r', ?_, rfl, fun h => h⟩, fun id d _ _ hd => hdeployment id d hd⟩
  rw [← app?_congr happs, hr']

/-- A deployment that is left as it is. -/
theorem exists_state (h : t'.deployment id = t.deployment id) (hd : t.deployment id = .ok d) :
    ∃ s, t'.deployment id = .ok (d.inState s) ∧ d.state.status.Comes s.status :=
  ⟨d.state, h.trans hd, .inl rfl⟩

theorem of_starts (h : t.Starts d t') : Keeps issued t t' := by
  refine .of_apps h.apps fun id d' hd' => ?_
  by_cases hid : id = d.id
  · subst hid
    cases h.stored.symm.trans hd'
    obtain ⟨s, hs, hown⟩ := h.own
    refine ⟨s, hown, .inr ?_⟩
    rw [h.waits, hs]
    exact .start
  · by_cases hclosed : ∃ o, t.Outdated d o ∧ o.id = id
    · obtain ⟨o, ho, rfl⟩ := hclosed
      cases ho.stored.symm.trans hd'
      obtain ⟨s, hs, hclosed⟩ := h.closed _ ho
      refine ⟨s, hclosed, .inr ?_⟩
      rw [ho.waits, hs]
      exact .close
    · exact exists_state (deployment_congr (h.others id hid fun o ho hoid => hclosed ⟨o, ho, hoid⟩)) hd'

theorem of_finishes (h : t.Finishes d t') : Keeps issued t t' := by
  refine .of_apps h.apps fun id d' hd' => ?_
  by_cases hid : id = d.id
  · subst hid
    cases h.stored.symm.trans hd'
    obtain ⟨s, hs, hown⟩ := h.own
    refine ⟨s, hown, .inr ?_⟩
    rw [h.runs]
    revert hs
    cases s.status with
    | succeeded => exact fun _ => .succeed
    | failed => exact fun _ => .fail
    | pending | running => exact fun hs => by cases hs
  · exact exists_state (deployment_congr (h.others id hid)) hd'

theorem of_deletes (app : AppId) : Keeps issued t (t.deleteApp app) := by
  refine ⟨fun k _ r' hr' => ⟨r', ?_, rfl, fun h => h⟩, fun id d _ hsome hd => ?_⟩
  · rw [app?_deleteApp] at hr'
    split at hr'
    · cases hr'
    · exact hr'
  · rw [app?_deleteApp] at hsome
    split at hsome
    · cases hsome
    · next hne => exact exists_state (deployment_congr ((deployment?_deleteApp app id).trans (if_neg hne))) hd

end Keeps

theorem Keeps.spares (h : Keeps issued t t') (hfiled : t.Filed) : Spares issued t t' := by
  refine ⟨fun app happ r' hr' => ?_, fun id happ hsome hid => ?_⟩
  · obtain ⟨r, hr, hname, -⟩ := h.app app happ r' hr'
    exact ⟨r, hr, hname⟩
  · obtain ⟨r, hr⟩ := Option.isSome_iff_exists.mp hid
    obtain ⟨d, hd, -⟩ := hfiled.exists_deployment hr
    obtain ⟨s, hs, -⟩ := h.deployment id d happ hsome hd
    obtain ⟨r', hr', -⟩ := deployment_eq_ok.mp hs
    rw [hr']
    rfl

theorem Spares.trans {t₁ : Tables} (h : Spares issued t t₁) (h' : Spares (new ++ issued) t₁ t') :
    Spares issued t t' := by
  have hbefore (app : AppId) (happ : app ∈ issued) (r' : AppRow) (hr' : t'.app? app = some r') :
      ∃ r₁, t₁.app? app = some r₁ ∧ r'.name = r₁.name := h'.app app (List.mem_append_right new happ) r' hr'
  refine ⟨fun app happ r' hr' => ?_, fun id happ hsome hid => ?_⟩
  · obtain ⟨r₁, hr₁, hname'⟩ := hbefore app happ r' hr'
    obtain ⟨r, hr, hname⟩ := h.app app happ r₁ hr₁
    exact ⟨r, hr, hname'.trans hname⟩
  · obtain ⟨r', hr'⟩ := Option.isSome_iff_exists.mp hsome
    obtain ⟨r₁, hr₁, -⟩ := hbefore id.app happ r' hr'
    have hmiddle := h.deployment id happ (by rw [hr₁]; rfl) hid
    exact h'.deployment id (List.mem_append_right new happ) hsome hmiddle

/-- The states of deployments may be written over. -/
theorem spares_changeStates (ds : List Deployment) : Spares issued t (t.changeStates ds) := by
  refine ⟨fun app _ r' hr' => ⟨r', ?_, rfl⟩, fun id _ _ hid => ?_⟩
  · rw [← app?_congr (apps_changeStates ds), hr']
  · rwa [deployment?_changeStates, Option.isSome_map]

theorem Change.keeps (h : Change issued t new t') (hfiled : t.Filed) : Keeps issued t t' := by
  cases h with
  | retains h =>
    refine ⟨fun app happ r' hr' => ?_, fun id d _ _ hd => Keeps.exists_state (h.deployment id) hd⟩
    rcases h.only app (by rw [hr']; rfl) with hnew | hsome
    · exact absurd happ (h.fresh app hnew)
    · obtain ⟨r, hr⟩ := Option.isSome_iff_exists.mp hsome
      obtain ⟨r'', hr'', hkept⟩ := h.kept app r hr
      cases hr''.symm.trans hr'
      exact ⟨r, hr, hkept⟩
  | asks h => exact .of_apps h.apps fun id d hd => ⟨d.state, (h.extends hfiled).deployment hd, .inl rfl⟩
  | starts h _ => exact .of_starts h
  | finishes h _ => exact .of_finishes h
  | deletes app => exact .of_deletes app

/-! ## Newer deployments that were started -/

namespace Orderly

theorem of_extends (h : t.Orderly) (hext : t.Extends t')
    (hback : ∀ d, t'.deployment d.id = .ok d → d.state.status ≠ .pending → t.deployment d.id = .ok d) : t'.Orderly := by
  intro d o hd hstarted ho
  have hbefore := hback d hd hstarted
  exact h d o hbefore hstarted ((hext.outdated_iff hbefore).mp ho)

/-- An older deployment that waits when a newer one has been started was left alone. -/
theorem of_starts (h : t.Orderly) (hstarts : t.Starts d t') : t'.Orderly := by
  -- a deployment that waits was no outdated one, and had the same row before
  have hwaited (o : Deployment) (ho : t'.deployment o.id = .ok o) (hwaits : o.state.status = .pending) :
      o.id ≠ d.id ∧ (∀ o', t.Outdated d o' → o'.id ≠ o.id) := by
    refine ⟨fun hid => ?_, fun o' ho' hid => ?_⟩
    · obtain ⟨s, hs, hown⟩ := hstarts.own
      rw [hid, hown] at ho
      cases ho
      exact absurd (hs.symm.trans hwaits) (by decide)
    · obtain ⟨s, hs, hclosed⟩ := hstarts.closed o' ho'
      rw [← hid, hclosed] at ho
      cases ho
      exact absurd (hs.symm.trans hwaits) (by decide)
  have hkept (id : DeploymentId) (hne : id ≠ d.id) (hnone : ∀ o, t.Outdated d o → o.id ≠ id) :
      t'.deployment id = t.deployment id := deployment_congr (hstarts.others id hne hnone)
  intro x o hx hstarted ho
  obtain ⟨hne, hnone⟩ := hwaited o ho.stored ho.waits
  have hbefore : t.deployment o.id = .ok o := hkept o.id hne hnone ▸ ho.stored
  -- `o` would have been closed with the others
  have hnot : ¬t.Outdated d o := fun h => hnone o h rfl
  by_cases hid : x.id = d.id
  · obtain ⟨s, -, hown⟩ := hstarts.own
    rw [hid, hown] at hx
    cases hx
    exact hnot ⟨hbefore, ho.app, ho.environment, ho.lt, ho.waits⟩
  · by_cases hclosed : ∃ o', t.Outdated d o' ∧ o'.id = x.id
    · obtain ⟨o', ho', hoid⟩ := hclosed
      obtain ⟨s, -, hclosed⟩ := hstarts.closed o' ho'
      rw [← hoid, hclosed] at hx
      cases hx
      exact hnot ⟨hbefore, ho.app.trans ho'.app, ho.environment.trans ho'.environment,
        Nat.lt_trans ho.lt ho'.lt, ho.waits⟩
    · have hx' : t.deployment x.id = .ok x :=
        hkept x.id hid (fun o' ho' heq => hclosed ⟨o', ho', heq⟩) ▸ hx
      exact h x o hx' hstarted { ho with stored := hbefore }

theorem of_finishes (h : t.Orderly) (hfinishes : t.Finishes d t') : t'.Orderly := by
  have hkept (id : DeploymentId) (hne : id ≠ d.id) : t'.deployment id = t.deployment id :=
    deployment_congr (hfinishes.others id hne)
  obtain ⟨s, hs, hown⟩ := hfinishes.own
  intro x o hx hstarted ho
  have hne : o.id ≠ d.id := fun hid => by
    have hstored := ho.stored
    rw [hid, hown] at hstored
    cases hstored
    have hwaits : s.status = .pending := ho.waits
    rw [hwaits] at hs
    cases hs
  have hbefore : t.deployment o.id = .ok o := hkept o.id hne ▸ ho.stored
  by_cases hid : x.id = d.id
  · rw [hid, hown] at hx
    cases hx
    have hruns : d.state.status ≠ .pending := by rw [hfinishes.runs]; decide
    exact h d o hfinishes.stored hruns ⟨hbefore, ho.app, ho.environment, ho.lt, ho.waits⟩
  · exact h x o (hkept x.id hid ▸ hx) hstarted { ho with stored := hbefore }

end Orderly

theorem Change.orderly (h : Change issued t new t') (hfiled : t.Filed) (horderly : t.Orderly) : t'.Orderly := by
  cases h with
  | retains h => exact horderly.of_extends (.of_eq h.deployments) fun d hd _ => h.deployment d.id ▸ hd
  | asks h =>
    refine horderly.of_extends (h.extends hfiled) fun d hd hstarted => ?_
    rw [← hd]
    refine (deployment_congr ((h.deployment? d.id).trans (if_neg fun hid => ?_))).symm
    rw [hid, h.stored] at hd
    cases hd
    exact hstarted h.waits
  | starts h _ => exact horderly.of_starts h
  | finishes h _ => exact horderly.of_finishes h
  | deletes app =>
    intro d o hd hstarted ho
    have ho' : t.Outdated d o := { ho with stored := (deployment_of_deleteApp ho.stored).1 }
    exact horderly d o (deployment_of_deleteApp hd).1 hstarted ho'

/-! ## What is on record -/

variable {st : DeploymentStatus}

/-- The deployment is stored with this status. -/
def HasStatus (t : Tables) (id : DeploymentId) (st : DeploymentStatus) : Prop :=
  ∃ r, t.deployment? id = some r ∧ r.status = .value st

/-- The environment with which the deployment is stored. -/
def environment? (t : Tables) (id : DeploymentId) : Option (Column Environment) :=
  (t.deployment? id).map (·.environment)

theorem Filed.hasStatus_iff (h : t.Filed) :
    t.HasStatus id st ↔ ∃ d, t.deployment id = .ok d ∧ d.state.status = st := by
  constructor
  · rintro ⟨r, hr, hstatus⟩
    obtain ⟨d, hd, -, rfl⟩ := h.exists_deployment hr
    exact ⟨d, hd, Column.value.inj hstatus⟩
  · rintro ⟨d, hd, rfl⟩
    exact ⟨.of d, (h.deployment?_eq hd).1, rfl⟩

/-- Rows differ in their states at most. -/
theorem environment?_changeStates (ds : List Deployment) (id : DeploymentId) :
    (t.changeStates ds).environment? id = t.environment? id := by
  rw [environment?, environment?, deployment?_changeStates, Option.map_map]
  refine Option.map_congr fun r _ => ?_
  cases (ds.filter (·.id = id)).getLast? <;> rfl

theorem Filed.environment?_eq (h : t.Filed) (hd : t.deployment id = .ok d) :
    t.environment? id = some (.value d.config.environment) := by
  rw [environment?, (h.deployment?_eq hd).1]
  rfl

theorem Filed.isSome_app? (h : t.Filed) (hd : t.deployment id = .ok d) : (t.app? id.app).isSome = true := by
  obtain ⟨r, hr, -⟩ := h.isNamed hd
  rw [hr]
  rfl

theorem Extends.hasStatus (h : t.Extends t') (hid : t.HasStatus id st) : t'.HasStatus id st := by
  obtain ⟨r, hr, hstatus⟩ := hid
  exact ⟨r, h.kept id r hr, hstatus⟩

/-- A deployment of an app that stays is for the same environment as before. -/
theorem Keeps.environment?_eq (h : Keeps issued t t') (hfiled : t.Filed) (hfiled' : t'.Filed) (happ : id.app ∈ issued)
    (hsome : (t'.app? id.app).isSome = true) (hd : t.deployment id = .ok d) :
    t'.environment? id = t.environment? id := by
  obtain ⟨state, hd', -⟩ := h.deployment id d happ hsome hd
  rw [hfiled.environment?_eq hd, hfiled'.environment?_eq hd']
  rfl

end Tables

end Rollout
