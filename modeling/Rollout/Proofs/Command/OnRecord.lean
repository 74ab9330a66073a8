import Rollout.Proofs.Command.Records
import Rollout.Proofs.UseCases.Numbering

/-!
# Deployments on record

Use cases are called on a deployer without a break, and commands take their steps one after another beside them
(`wholeSharing`). Both may fail at any access to the store, and commands may be given up.

What is stored of a deployment is then known from what happened (`deployments_on_record`): its app is stored, its error
and times are those that its status has, it was closed without a start just if a newer deployment of its environment was
started in its place, and its configuration is that of its app when it was asked for. Each follows from what a stored
deployment can come from by one action (`WholeScene.origin_of_perform`).
-/

namespace Rollout

/-! ## Calls without a break -/

namespace Party

/-- The party and the deployer after `n` steps. -/
def steps : Nat → Party → Deployer → Party × Deployer
  | 0, p, s => (p, s)
  | n + 1, p, s => steps n (p.step s).1 (p.step s).2

/-- How many steps are taken at once: all those of a call, and one of a command. -/
def stride : Party → Nat
  | .deploying _ | .cleaning _ => 1
  | .calling _ | .requesting _ => 3

end Party

/-- Commands one at a time, and calls without a break. -/
def wholeSharing : Sharing Errand Party Deployer := { deployerSharing with step := fun p s => p.steps p.stride s }

/-- A deployer with nothing in it, after some actions of commands and of calls without a break. -/
def wholeAfter (c : Config) (as : List (Action Errand Deployer)) : Scene Party Deployer :=
  (Scene.mk [] ⟨.ofConfig c, []⟩).run wholeSharing as

def recordsAfter (c : Config) (as : List (Action Errand Deployer)) : Tables := (wholeAfter c as).shared.tables

/-! ## What happened to a deployment -/

/-- By this action the deployment is asked for, with the configuration that its app has now. -/
def IsQueuedBy (c : Scene Party Deployer) (a : Action Errand Deployer) (d : Deployment) : Prop :=
  ∃ i e app, a = .step i ∧ c.parties[i]? = some (.requesting (.enter d.id.app (.deployment e d.requested))) ∧
    c.shared.tables.app d.id.app = .ok app ∧ c.shared.tables.deployment? d.id = none ∧
    ((c.perform wholeSharing a).shared.tables.deployment? d.id).isSome = true ∧
    d.config = ⟨app.name, e, (app.environment e).target, (app.environment e).vars⟩

/-- Among the actions is one by which the deployment was closed, as superseded by a newer one that was started. -/
def WasSuperseded (c : Config) (as : List (Action Errand Deployer)) (id : DeploymentId) (newer : DeploymentNumber) :
    Prop :=
  ∃ before a after, as = before ++ a :: after ∧ (recordsAfter c before).HasStatus id .pending ∧
    (recordsAfter c before).HasStatus ⟨id.app, newer⟩ .pending ∧
    (recordsAfter c (before ++ [a])).HasStatus ⟨id.app, newer⟩ .running ∧
    ∃ r, (recordsAfter c (before ++ [a])).deployment? id = some r ∧ r.status = .value .failed ∧
      r.error = .value (some (supersededText newer))

/-- The newer deployment is stored, is for the same environment and does not wait. -/
def Tables.HasOvertaken (t : Tables) (newer : DeploymentNumber) (d : Deployment) : Prop :=
  d.id.number.toNat < newer.toNat ∧ ∃ d', t.deployment ⟨d.id.app, newer⟩ = .ok d' ∧
    d'.config.environment = d.config.environment ∧ d'.state.status ≠ .pending

/-- What is on record of a deployment is right. -/
structure OnRecord (c : Config) (as : List (Action Errand Deployer)) (d : Deployment) : Prop where
  owned : ∃ r ∈ (recordsAfter c as).apps, r.id = .value d.id.app
  proper : d.state.IsProper
  superseded : d.state.status = .failed → (d.state.startedAt = none ↔
    ∃ newer, WasSuperseded c as d.id newer ∧ d.state.error = some (supersededText newer) ∧
      (recordsAfter c as).HasOvertaken newer d)
  queued : ∃ before a after, as = before ++ a :: after ∧ IsQueuedBy (wholeAfter c before) a d

/-! ## Steps -/

namespace Party

variable {p p' : Party} {s s' : Deployer}

theorem steps_requesting (n : Nat) (p : RequestCall) (s : Deployer) : (Party.requesting p).steps n s =
    (.requesting (p.steps n s.system.store).1, s.withStore (p.steps n s.system.store).2) := by
  induction n generalizing p s with
  | zero => rfl
  | succ n ih => exact ih _ _

/-- Calls that change apps leave the deployments alone. -/
theorem deployments_calling {p : AppCall} (hsound : (Party.calling p).Sound s) (n : Nat) :
    ((Party.calling p).steps n s).2.tables.deployments = s.tables.deployments := by
  induction n generalizing p s with
  | zero => rfl
  | succ n ih =>
    rcases hstep : (Party.calling p).step s with ⟨p₁, s₁⟩
    obtain ⟨p₁, new, rfl, hsound', -, -, hretains⟩ := retains_calling hsound hstep
    rw [steps, hstep]
    exact (ih hsound').trans hretains.deployments

/-- A call for something of an app has not begun, or it has ended. -/
def IsWhole : Party → Prop
  | .requesting p => (∃ request, p.phase = .entered request) ∨ ∃ result, p.phase = .ended result
  | _ => True

end Party

namespace RequestCall

theorem steps_of_ended {p : RequestCall} {s : Store} {result : Except CommandError Unit} (h : p.phase = .ended result)
    (n : Nat) : p.steps n s = (p, s) := by
  have hstep : p.step s = (p, s) := by simp only [step, h]
  induction n with
  | zero => rfl
  | succ n ih => rw [steps, hstep, ih]

variable {app : AppId} {request : Request} {s : Store}

/-- Three steps are enough for any call. -/
theorem steps_of_cleanup_three (requested : Signature) : (enter app (.cleanup requested)).steps 3 s =
    (enter app (.cleanup requested)).steps 2 s := by
  obtain ⟨hphase, -⟩ := steps_of_cleanup app requested s
  exact steps_of_ended hphase 1

theorem ended_of_steps (app : AppId) (request : Request) (s : Store) :
    ∃ result, ((enter app request).steps 3 s).1.phase = .ended result := by
  cases request with
  | deployment e requested => exact ⟨_, (steps_of_deployment app e requested s).1⟩
  | cleanup requested =>
    rw [steps_of_cleanup_three]
    exact ⟨_, (steps_of_cleanup app requested s).1⟩

/-- A call leaves the deployments alone, or it asks for one with the configuration that the app has. -/
theorem deployments_of_steps (hfiled : s.db.tables.Filed) :
    ((enter app request).steps 3 s).2.db.tables.deployments = s.db.tables.deployments ∨
      ∃ e requested a d, request = .deployment e requested ∧ s.db.tables.app app = .ok a ∧ d.id.app = app ∧
        d.requested = requested ∧ d.config = ⟨a.name, e, (a.environment e).target, (a.environment e).vars⟩ ∧
        d.state = .initial ∧ s.db.tables.Asks d ((enter app request).steps 3 s).2.db.tables := by
  cases request with
  | cleanup requested =>
    refine .inl ?_
    rw [steps_of_cleanup_three, (steps_of_cleanup app requested s).2]
    rcases hcall : s.requestCleanup app requested with ⟨result, s'⟩
    rcases (Store.comes_of_requestCleanup hcall).tables_cases with hsame | ⟨-, a', ⟨a, ha, ha'⟩, hwritten⟩
    · rw [hsame]
    · cases ha'
      obtain ⟨r, -, hshows⟩ := Tables.app_eq_ok.mp ha
      have hretains : Tables.Retains [] [] _ _ := Tables.retains_of_requestCleanup hshows.events hwritten
      exact hretains.deployments
  | deployment e requested =>
    rw [(steps_of_deployment app e requested s).2]
    rcases hcall : s.queueDeployment app e requested with ⟨result, s'⟩
    rcases (Store.comes_of_queueDeployment hcall).tables_cases with hsame | ⟨n, d, ⟨a, ha, hn, hd⟩, hwritten⟩
    · exact .inl (by rw [hsame])
    · obtain ⟨r, hr, hshows⟩ := Tables.app_eq_ok.mp ha
      obtain rfl := Tables.id_of_app?_shows hr hshows
      have hasks := Tables.asks_of_newDeployment hd.symm (fun _ => Tables.isNamed_of_app ha)
        (hfiled.pos_of_nextNumber hn) (fun _ m hm hlt => (hfiled.isSome_iff_of_nextNumber hn hm).mpr hlt) hwritten
      rw [App.newDeployment] at hd
      obtain ⟨-, -, hd⟩ := bind_eq_ok.mp hd.symm
      cases pure_eq_ok.mp hd
      exact .inr ⟨e, requested, a, _, rfl, ha, rfl, rfl, rfl, rfl, hasks⟩

/-- What is stored of a deployment after a call without a break. -/
theorem origin_of_steps (hfiled : s.db.tables.Filed) {d' : Deployment}
    (hd' : ((enter app request).steps 3 s).2.db.tables.deployment d'.id = .ok d') :
    s.db.tables.Origin ((enter app request).steps 3 s).2.db.tables d' ∨
      ∃ e a, app = d'.id.app ∧ request = .deployment e d'.requested ∧ s.db.tables.app app = .ok a ∧
        s.db.tables.deployment? d'.id = none ∧
        d'.config = ⟨a.name, e, (a.environment e).target, (a.environment e).vars⟩ ∧ d'.state = .initial := by
  rcases @deployments_of_steps app request s hfiled with hsame |
    ⟨e, requested, a, d, rfl, ha, rfl, rfl, hconfig, hstate, hasks⟩
  · exact .inl (Tables.origin_of_eq hsame hd')
  · by_cases hid : d'.id = d.id
    · rw [hid, hasks.stored] at hd'
      cases hd'
      exact .inr ⟨e, a, rfl, rfl, ha, hasks.isNew, hconfig, hstate⟩
    · refine .inl (.kept ?_)
      rw [← hd']
      exact (Tables.deployment_congr ((hasks.deployment? d'.id).trans (if_neg hid))).symm

end RequestCall

/-! ## Scenes -/

/-- What holds at all times of commands that come one after another and of calls without a break. -/
structure WholeScene (c : Scene Party Deployer) : Prop where
  scene : DeployerScene c
  whole : ∀ p ∈ c.parties, p.IsWhole

namespace DeployerScene

variable {p p' : Party} {s s' : Deployer} {before after : List Party}

theorem of_steps {n : Nat} (h : DeployerScene ⟨before ++ p :: after, s⟩) (hsteps : p.steps n s = (p', s')) :
    DeployerScene ⟨before ++ p' :: after, s'⟩ ∧
      ∃ new, s'.issued = new ++ s.issued ∧ Tables.Spares s.issued s.tables s'.tables := by
  induction n generalizing p s with
  | zero =>
    cases hsteps
    exact ⟨h, [], rfl, Tables.spares_changeStates []⟩
  | succ n ih =>
    rcases hstep : p.step s with ⟨p₁, s₁⟩
    rw [Party.steps, hstep] at hsteps
    obtain ⟨hscene, new', hissued', hspares'⟩ := ih (h.of_step hstep) hsteps
    obtain ⟨new, hissued, hchange⟩ := (h.turns hstep).change
    have hspares := (hchange.keeps h.shared.filed).spares h.shared.filed
    refine ⟨hscene, new' ++ new, by rw [hissued', hissued, List.append_assoc], ?_⟩
    rw [hissued] at hspares'
    exact hspares.trans hspares'

end DeployerScene

namespace Party

variable {p : Party} {s : Deployer}

theorem isWhole_enter (errand : Errand) : (enter errand).IsWhole := by
  cases errand with
  | request app request => exact .inl ⟨request, rfl⟩
  | deploy | cleanup | change => exact trivial

theorem exists_calling (n : Nat) (p : AppCall) (s : Deployer) :
    ∃ p₁, ((Party.calling p).steps n s).1 = .calling p₁ := by
  induction n generalizing p s with
  | zero => exact ⟨p, rfl⟩
  | succ n ih =>
    have hfirst : ∃ p₁, ((Party.calling p).step s).1 = .calling p₁ := by
      unfold step
      dsimp only
      split <;> exact ⟨_, rfl⟩
    obtain ⟨p₁, hp₁⟩ := hfirst
    rw [steps, hp₁]
    exact ih p₁ _

theorem IsWhole.of_stride (h : p.IsWhole) : (p.steps p.stride s).1.IsWhole := by
  cases p with
  | deploying p => exact trivial
  | cleaning p => exact trivial
  | calling p =>
    obtain ⟨p₁, hp₁⟩ := exists_calling 3 p s
    exact hp₁ ▸ trivial
  | requesting p =>
    have hthree : ((Party.requesting p).steps 3 s).1 = .requesting (p.steps 3 s.system.store).1 := by
      rw [steps_requesting]
    show ((Party.requesting p).steps 3 s).1.IsWhole
    rw [hthree]
    rcases h with ⟨request, hphase⟩ | ⟨result, hphase⟩
    · obtain ⟨app, phase⟩ := p
      cases hphase
      exact .inr (RequestCall.ended_of_steps app request _)
    · rw [RequestCall.steps_of_ended hphase]
      exact .inr ⟨result, hphase⟩

/-- What is stored of a deployment after a party has taken its steps. -/
theorem origin_of_stride (hfiled : s.tables.Filed) (hsound : p.Sound s) (hwhole : p.IsWhole) {d' : Deployment}
    (hd' : (p.steps p.stride s).2.tables.deployment d'.id = .ok d') :
    s.tables.Origin (p.steps p.stride s).2.tables d' ∨
      ∃ e app, p = .requesting (.enter d'.id.app (.deployment e d'.requested)) ∧
        s.tables.app d'.id.app = .ok app ∧ s.tables.deployment? d'.id = none ∧
        d'.config = ⟨app.name, e, (app.environment e).target, (app.environment e).vars⟩ ∧ d'.state = .initial := by
  cases p with
  | deploying p =>
    have hrecords : p.Records s.tables (p.step s.system).2.tables := Deploying.records_of_step hsound rfl
    exact .inl (hrecords.origin hfiled hd')
  | cleaning p =>
    have horigin : s.tables.Origin (p.step s.system).2.tables d' := CleaningUp.origin_of_step hsound rfl hd'
    exact .inl horigin
  | calling p => exact .inl (Tables.origin_of_eq (deployments_calling hsound 3) hd')
  | requesting p =>
    have hafter : ((Party.requesting p).steps 3 s).2.tables = (p.steps 3 s.system.store).2.db.tables := by
      rw [steps_requesting]
      rfl
    have hd' : ((Party.requesting p).steps 3 s).2.tables.deployment d'.id = .ok d' := hd'
    show s.tables.Origin ((Party.requesting p).steps 3 s).2.tables d' ∨ _
    rw [hafter] at hd' ⊢
    rcases hwhole with ⟨request, hphase⟩ | ⟨result, hphase⟩
    · obtain ⟨app, phase⟩ := p
      cases hphase
      refine (RequestCall.origin_of_steps hfiled hd').imp_right ?_
      rintro ⟨e, a, rfl, rfl, ha, hnone, hconfig, hstate⟩
      exact ⟨e, a, rfl, ha, hnone, hconfig, hstate⟩
    · rw [RequestCall.steps_of_ended hphase] at hd' ⊢
      exact .inl (.kept hd')

end Party

namespace WholeScene

variable {c c' : Scene Party Deployer} {a : Action Errand Deployer}

theorem of_goes (h : WholeScene c) (hgoes : Scene.Goes wholeSharing c c') : WholeScene c' := by
  cases hgoes with
  | stays => exact h
  | enters hadmits =>
    exact ⟨h.scene.of_enter hadmits,
      List.forall_mem_append.mpr ⟨h.whole, List.forall_mem_singleton.mpr (Party.isWhole_enter _)⟩⟩
  | @steps before after p p' s s' hsteps =>
    have hsteps : p.steps p.stride s = (p', s') := hsteps
    refine ⟨(h.scene.of_steps hsteps).1, fun q hq => ?_⟩
    rcases List.mem_cons.mp (List.perm_middle.mem_iff.mp hq) with rfl | hq
    · have hp : p.IsWhole := h.whole p (by simp)
      have hwhole : (p.steps p.stride s).1.IsWhole := hp.of_stride
      rwa [hsteps] at hwhole
    · exact h.whole q (List.perm_middle.mem_iff.mpr (List.mem_cons_of_mem p hq))
  | @leaves before after p =>
    have hsub : (before ++ after).Sublist (before ++ p :: after) := (List.sublist_cons_self p after).append_left before
    exact ⟨h.scene.of_goes .leaves, fun q hq => h.whole q (hsub.subset hq)⟩
  | changes hpermits => exact ⟨h.scene.of_permits hpermits, h.whole⟩

/-- No row of a stored app is lost. -/
theorem spares_of_goes (h : WholeScene c) (hgoes : Scene.Goes wholeSharing c c') :
    ∃ new, c'.shared.issued = new ++ c.shared.issued ∧
      Tables.Spares c.shared.issued c.shared.tables c'.shared.tables := by
  have hstays : Tables.Spares c.shared.issued c.shared.tables c.shared.tables := Tables.spares_changeStates []
  cases hgoes with
  | stays => exact ⟨[], rfl, hstays⟩
  | enters => exact ⟨[], rfl, hstays⟩
  | leaves => exact ⟨[], rfl, hstays⟩
  | steps hsteps => exact (h.scene.of_steps hsteps).2
  | @changes ps s s' hpermits =>
    have hpermits : deployerSharing.permits s s' = true := hpermits
    simp only [deployerSharing, Bool.and_eq_true, decide_eq_true_eq] at hpermits
    obtain ⟨⟨⟨happs, hdeployments⟩, -⟩, hissued⟩ := hpermits
    have hchange : Tables.Change s.issued s.tables [] s'.tables := .retains (.of_eq hdeployments happs)
    exact ⟨[], hissued, (hchange.keeps h.scene.shared.filed).spares h.scene.shared.filed⟩

/-- **A deployment that is stored after an action** comes from one that was stored, or it is asked for by the action. -/
theorem origin_of_perform (h : WholeScene c) {d' : Deployment}
    (hd' : (c.perform wholeSharing a).shared.tables.deployment d'.id = .ok d') :
    c.shared.tables.Origin (c.perform wholeSharing a).shared.tables d' ∨
      (IsQueuedBy c a d' ∧ d'.state = .initial) := by
  cases a with
  | enter errand =>
    refine .inl (Tables.origin_of_eq ?_ hd')
    rw [Scene.perform]
    split <;> rfl
  | leave i => exact .inl (.kept hd')
  | elsewhere change =>
    refine .inl (Tables.origin_of_eq ?_ hd')
    rw [Scene.perform]
    split
    · next hpermits =>
      have hpermits : deployerSharing.permits c.shared (change c.shared) = true := hpermits
      simp only [deployerSharing, Bool.and_eq_true, decide_eq_true_eq] at hpermits
      exact hpermits.1.1.2
    · rfl
  | step i =>
    cases hp : c.parties[i]? with
    | none =>
      have hstays : c.perform wholeSharing (.step i) = c := by rw [Scene.perform, hp]
      rw [hstays] at hd' ⊢
      exact .inl (.kept hd')
    | some p =>
      have hgoes : c.perform wholeSharing (.step i) =
        ⟨c.parties.set i (p.steps p.stride c.shared).1, (p.steps p.stride c.shared).2⟩ := Scene.perform_step hp
      have hmem := List.mem_of_getElem? hp
      rw [hgoes] at hd'
      rw [hgoes]
      rcases Party.origin_of_stride h.scene.shared.filed (h.scene.parties p hmem) (h.whole p hmem) hd' with
        horigin | ⟨e, app, rfl, happ, hnone, hconfig, hstate⟩
      · exact .inl horigin
      · refine .inr ⟨⟨i, e, app, rfl, hp, happ, hnone, ?_, hconfig⟩, hstate⟩
        obtain ⟨r, hr, -⟩ := Tables.deployment_eq_ok.mp hd'
        rw [hgoes, hr]
        rfl

end WholeScene

/-! ## Histories -/

section Histories

variable {c : Config} {as : List (Action Errand Deployer)} {a : Action Errand Deployer} {id : DeploymentId}
  {d : Deployment} {newer : DeploymentNumber}

theorem wholeAfter_concat (c : Config) (as : List (Action Errand Deployer)) (a : Action Errand Deployer) :
    wholeAfter c (as ++ [a]) = (wholeAfter c as).perform wholeSharing a := Scene.run_concat ..

theorem wholeScene_after (c : Config) (as : List (Action Errand Deployer)) : WholeScene (wholeAfter c as) :=
  Scene.run_induction (fun _ _ => WholeScene.of_goes) ⟨deployerScene_after c [], List.forall_mem_nil _⟩ as

theorem filed_after (c : Config) (as : List (Action Errand Deployer)) : (recordsAfter c as).Filed :=
  (wholeScene_after c as).scene.shared.filed

theorem origin_of_concat (hd : (recordsAfter c (as ++ [a])).deployment d.id = .ok d) :
    (recordsAfter c as).Origin (recordsAfter c (as ++ [a])) d ∨
      (IsQueuedBy (wholeAfter c as) a d ∧ d.state = .initial) := by
  rw [recordsAfter, wholeAfter_concat] at hd
  rw [recordsAfter, recordsAfter, wholeAfter_concat]
  exact (wholeScene_after c as).origin_of_perform hd

theorem isTaken_of_isSome (h : ((recordsAfter c as).deployment? id).isSome = true) :
    (wholeAfter c as).shared.IsTaken id := by
  obtain ⟨r, hr⟩ := Option.isSome_iff_exists.mp h
  obtain ⟨d, hd, -⟩ := (filed_after c as).exists_deployment hr
  exact ⟨(wholeScene_after c as).scene.shared.within id.app ((filed_after c as).isSome_app? hd), fun _ => h⟩

/-- A number that is not free does not become free again. -/
theorem isTaken_append (h : (wholeAfter c as).shared.IsTaken id) (as' : List (Action Errand Deployer)) :
    (wholeAfter c (as ++ as')).shared.IsTaken id := by
  induction as' using List.reverseRecOn with
  | nil => rwa [List.append_nil]
  | append_singleton as' a ih =>
    have hgoes := Scene.goes_perform (P := wholeSharing) (wholeAfter c (as ++ as')) a
    obtain ⟨new, hissued, hspares⟩ := (wholeScene_after c (as ++ as')).spares_of_goes hgoes
    rw [← List.append_assoc, wholeAfter_concat]
    exact ih.of_spares hissued hspares

theorem isProper_after (c : Config) (as : List (Action Errand Deployer)) :
    ∀ d, (recordsAfter c as).deployment d.id = .ok d → d.state.IsProper := by
  induction as using List.reverseRecOn with
  | nil =>
    intro d hd
    cases hd
  | append_singleton as a ih =>
    intro d hd
    rcases origin_of_concat hd with horigin | ⟨-, hstate⟩
    · exact horigin.isProper fun d₀ hd₀ => ih d₀ ((((filed_after c as).deployment?_eq hd₀).2.symm ▸ hd₀))
    · rw [hstate]
      exact DeploymentState.isProper_initial

/-- Every stored deployment has been asked for, with the configuration that its app had then. -/
theorem exists_queued (c : Config) (as : List (Action Errand Deployer)) :
    ∀ d, (recordsAfter c as).deployment d.id = .ok d →
      ∃ before a after, as = before ++ a :: after ∧ IsQueuedBy (wholeAfter c before) a d := by
  induction as using List.reverseRecOn with
  | nil =>
    intro d hd
    cases hd
  | append_singleton as a ih =>
    intro d hd
    rcases origin_of_concat hd with horigin | ⟨hqueued, -⟩
    · obtain ⟨d₀, hd₀, hconfig, hrequested, -⟩ := horigin.exists_before
      have hid := ((filed_after c as).deployment?_eq hd₀).2
      obtain ⟨before, b, after, rfl, hqueued⟩ := ih d₀ (hid.symm ▸ hd₀)
      rw [IsQueuedBy, hid, ← hconfig, ← hrequested] at hqueued
      exact ⟨before, b, after ++ [a], by simp, hqueued⟩
    · exact ⟨as, a, [], rfl, hqueued⟩

/-! ### Deployments that were closed for newer ones -/

theorem WasSuperseded.concat (h : WasSuperseded c as id newer) : WasSuperseded c (as ++ [a]) id newer := by
  obtain ⟨before, b, after, rfl, hrest⟩ := h
  exact ⟨before, b, after ++ [a], by simp, hrest⟩

/-- What has been started does not wait again. -/
theorem hasOvertaken_concat (h : (recordsAfter c as).HasOvertaken newer d)
    (happ : ((recordsAfter c (as ++ [a])).app? d.id.app).isSome = true) :
    (recordsAfter c (as ++ [a])).HasOvertaken newer d := by
  obtain ⟨hlt, d', hd', henvironment, hstarted⟩ := h
  obtain ⟨hr, hid⟩ := (filed_after c as).deployment?_eq hd'
  have hsome : ((recordsAfter c as).deployment? ⟨d.id.app, newer⟩).isSome = true := by
    rw [hr]
    rfl
  obtain ⟨r', hr'⟩ := Option.isSome_iff_exists.mp ((isTaken_append (isTaken_of_isSome hsome) [a]).stored happ)
  obtain ⟨d'', hd'', hid'', -⟩ := (filed_after c (as ++ [a])).exists_deployment hr'
  refine ⟨hlt, d'', hd'', ?_⟩
  rw [← hid''] at hd' hd''
  rcases origin_of_concat hd'' with horigin | ⟨⟨-, -, -, -, -, -, hnone, -⟩, -⟩
  · obtain ⟨d₀, hd₀, hconfig, -, hwaits⟩ := horigin.exists_before
    cases hd'.symm.trans hd₀
    exact ⟨by rw [hconfig, henvironment], hwaits hstarted⟩
  · rw [hid''] at hnone
    cases hr.symm.trans hnone

theorem wasSuperseded_of_closes {o x : Deployment} {s s' : DeploymentState} {now : Timestamp}
    (houtdated : (recordsAfter c as).Outdated x o) (hs : o.state.superseded now x.id.number = .ok s)
    (hd : (recordsAfter c (as ++ [a])).deployment o.id = .ok (o.inState s))
    (hx : (recordsAfter c as).deployment x.id = .ok x) (hwaits : x.state.status = .pending)
    (hruns : s'.status = .running) (hx' : (recordsAfter c (as ++ [a])).deployment x.id = .ok (x.inState s')) :
    WasSuperseded c (as ++ [a]) o.id x.id.number ∧ s.error = some (supersededText x.id.number) ∧
      (recordsAfter c (as ++ [a])).HasOvertaken x.id.number (o.inState s) := by
  have hfiled := filed_after c as
  have hfiled' := filed_after c (as ++ [a])
  have hstate := (isProper_after c as o houtdated.stored).superseded_eq hs
  have hid : (⟨o.id.app, x.id.number⟩ : DeploymentId) = x.id := by rw [houtdated.app]
  have herror : s.error = some (supersededText x.id.number) := congrArg DeploymentState.error hstate
  have hclosed : WasSuperseded c (as ++ [a]) o.id x.id.number := by
    refine ⟨as, a, [], rfl, hfiled.hasStatus_iff.mpr ⟨o, houtdated.stored, houtdated.waits⟩, ?_, ?_, .of (o.inState s),
      (hfiled'.deployment?_eq hd).1, ?_, congrArg Column.value herror⟩
    · rw [hid]
      exact hfiled.hasStatus_iff.mpr ⟨x, hx, hwaits⟩
    · rw [hid]
      exact hfiled'.hasStatus_iff.mpr ⟨x.inState s', hx', hruns⟩
    · rw [hstate]
      rfl
  have hrunning : (x.inState s').state.status ≠ .pending := by
    show s'.status ≠ .pending
    rw [hruns]
    decide
  refine ⟨hclosed, herror, houtdated.lt, x.inState s', ?_, houtdated.environment.symm, hrunning⟩
  exact (congrArg (recordsAfter c (as ++ [a])).deployment hid).trans hx'

/-- A deployment that failed without a start was closed for a newer one. -/
theorem exists_wasSuperseded (c : Config) (as : List (Action Errand Deployer)) :
    ∀ d, (recordsAfter c as).deployment d.id = .ok d → d.state.status = .failed → d.state.startedAt = none →
      ∃ newer, WasSuperseded c as d.id newer ∧ d.state.error = some (supersededText newer) ∧
        (recordsAfter c as).HasOvertaken newer d := by
  induction as using List.reverseRecOn with
  | nil =>
    intro d hd
    cases hd
  | append_singleton as a ih =>
    intro d hd hfailed hstart
    have happ := (filed_after c (as ++ [a])).isSome_app? hd
    rcases origin_of_concat hd with horigin | ⟨-, hstate⟩
    · cases horigin with
      | kept hbefore =>
        obtain ⟨newer, hclosed, herror, hovertaken⟩ := ih d hbefore hfailed hstart
        exact ⟨newer, hclosed.concat, herror, hasOvertaken_concat hovertaken happ⟩
      | starts hbefore hs hd' =>
        subst hd'
        obtain ⟨-, rfl⟩ := DeploymentState.started_eq_ok_iff.mp hs
        cases hfailed
      | @closes o x s s' now houtdated hs hd' hx hwaits hruns hnewer =>
        subst hd'
        exact ⟨x.id.number, @wasSuperseded_of_closes c as a o x s s' now houtdated hs hd hx hwaits hruns hnewer⟩
      | finishes hbefore hs hd' =>
        -- it was running, so it had been started
        subst hd'
        have hid := ((filed_after c as).deployment?_eq hbefore).2
        have hproper := isProper_after c as _ (hid.symm ▸ hbefore)
        have hsome := (hproper.finished hs).2
        cases (Option.isSome_iff_ne_none.mp hsome) hstart
    · rw [hstate] at hfailed
      cases hfailed

/-- A deployment that was closed for a newer one stays as it is. -/
theorem WasSuperseded.stays (h : WasSuperseded c as id newer) (hd : (recordsAfter c as).deployment id = .ok d) :
    d.state.status = .failed ∧ d.state.startedAt = none := by
  obtain ⟨before, a, after, rfl, hwaited, -, -, r, hr, hfailed, -⟩ := h
  induction after using List.reverseRecOn generalizing d with
  | nil =>
    obtain ⟨hrow, rfl⟩ := (filed_after c (before ++ [a])).deployment?_eq hd
    cases hr.symm.trans hrow
    have hfailed : d.state.status = .failed := Column.value.inj hfailed
    obtain ⟨d₀, hd₀, hwaits⟩ := (filed_after c before).hasStatus_iff.mp hwaited
    obtain ⟨hrow₀, hid₀⟩ := (filed_after c before).deployment?_eq hd₀
    rcases origin_of_concat hd with horigin | ⟨⟨-, -, -, -, -, -, hnone, -⟩, -⟩
    · exact ⟨hfailed, horigin.startedAt_eq_none hd₀ (isProper_after c before d₀ (hid₀.symm ▸ hd₀)) hwaits hfailed⟩
    · cases hrow₀.symm.trans hnone
  | append_singleton after b ih =>
    have hlist : before ++ a :: (after ++ [b]) = (before ++ a :: after) ++ [b] := by simp
    rw [hlist] at hd
    obtain ⟨-, rfl⟩ := (filed_after c _).deployment?_eq hd
    rcases origin_of_concat hd with horigin | ⟨⟨-, -, app, -, -, happ, hnone, -⟩, -⟩
    · obtain ⟨d₀, hd₀, -⟩ := horigin.exists_before
      obtain ⟨hfailed₀, hstart₀⟩ := ih hd₀
      have hsame : d = d₀ := horigin.eq_of_isFinished hd₀ (by rw [hfailed₀]; rfl)
      exact hsame ▸ ⟨hfailed₀, hstart₀⟩
    · -- the number was not free when it was asked for
      have htaken : (wholeAfter c (before ++ [a] ++ after)).shared.IsTaken d.id :=
        isTaken_append (isTaken_of_isSome (by rw [hr]; rfl)) after
      rw [List.append_assoc, List.singleton_append] at htaken
      obtain ⟨row, hrow, -⟩ := Tables.app_eq_ok.mp happ
      have hthere := htaken.stored (by rw [hrow]; rfl)
      rw [hnone] at hthere
      cases hthere

end Histories

/-! ## Stored deployments -/

/-- **What is on record of a deployment is right**, whatever has been called, started and given up, and whatever has
failed. -/
theorem deployments_on_record (c : Config) (as : List (Action Errand Deployer)) :
    ∀ r ∈ (recordsAfter c as).deployments, ∃ d, r = .of d ∧ OnRecord c as d := by
  intro r hr
  have hfiled := filed_after c as
  obtain ⟨d, hevents, rfl⟩ := hfiled.rows r hr
  have hrow := hfiled.deployment?_of_mem hr (DeploymentRow.isOf_of.mpr rfl)
  have hd : (recordsAfter c as).deployment d.id = .ok d :=
    Tables.deployment_eq_ok.mpr ⟨_, hrow, DeploymentRow.shows_of hevents⟩
  refine ⟨d, rfl, ?_, isProper_after c as d hd, fun hfailed => ⟨?_, ?_⟩, exists_queued c as d hd⟩
  · obtain ⟨app, happ, -⟩ := hfiled.isNamed hd
    have hfound : (recordsAfter c as).apps.find? (·.id.holds d.id.app) = some app := happ
    have hholds := List.find?_some hfound
    exact ⟨app, List.mem_of_find?_eq_some hfound, Column.holds_iff.mp hholds⟩
  · exact exists_wasSuperseded c as d hd hfailed
  · rintro ⟨newer, hclosed, -⟩
    exact (hclosed.stays hd).2

/-! ## A deployment that was replaced -/

namespace Replacing

def deploy (n : DeploymentNumber) : Errand := .deploy ⟨default, n⟩ .background false

/-- An app is created, two deployments are asked for, and the newer one is started. -/
def actions : List (Action Errand Deployer) :=
  [.elsewhere Race.addTarget, .enter (.change ⟨default, .create Race.input Race.signature⟩), .step 0,
    .enter Race.request, .step 1, .enter Race.request, .step 2, .enter (deploy ⟨2⟩), .step 3, .step 3, .step 3]

/-- The status of the older deployment, and when it was started. -/
def state? (t : Tables) : Option (Column DeploymentStatus × Column (Option Timestamp)) :=
  (t.deployment? ⟨default, ⟨1⟩⟩).map fun r => (r.status, r.startedAt)

end Replacing

open Replacing in
/-- A deployment that failed without a start is on record as closed for a newer one. -/
theorem deployments_on_record_replaced :
    ∃ d newer, OnRecord Race.config actions d ∧ d.state.status = .failed ∧
      WasSuperseded Race.config actions d.id newer ∧ d.state.error = some (supersededText newer) := by
  have hstate : state? (recordsAfter Race.config actions) = some (.value .failed, .value none) := by decide +kernel
  obtain ⟨r, hr, hcolumns⟩ := Option.map_eq_some_iff.mp hstate
  obtain ⟨d, rfl, honrecord⟩ := deployments_on_record Race.config actions r (Tables.mem_of_deployment? hr).1
  obtain ⟨hstatus, hstart⟩ := Prod.mk.inj hcolumns
  have hfailed : d.state.status = .failed := Column.value.inj hstatus
  obtain ⟨newer, hclosed, herror, -⟩ := (honrecord.superseded hfailed).mp (Column.value.inj hstart)
  exact ⟨d, newer, honrecord, hfailed, hclosed, herror⟩

end Rollout
