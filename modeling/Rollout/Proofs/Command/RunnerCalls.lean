import Mathlib.Data.List.Induction
import Rollout.Proofs.Command.Cleaning
import Rollout.Proofs.Command.Undisturbed
import Rollout.Proofs.UseCases.Calls
import Rollout.Proofs.UseCases.Requests
import Rollout.System.Jobs

/-!
# Calls of the runner

Commands and calls of use cases take their steps on one system in any order, except that a command begins only when no
other one is under way. They may be given up at any point, the same command may come again, and whatever else is on the
system may change at any time: its clock and files, its queue and subscribers, and what fails of its store.

No deployment is built twice (`runner_calls`): the runner is called for a deployment that has been started, and then
every older one of its environment that waited has been closed.
-/

namespace Rollout

/-- A system with the identifiers under which apps have been created on it. -/
structure Deployer where
  system : System
  issued : List AppId

inductive Errand where
  | deploy (id : DeploymentId) (context : Context) (holds : Bool)
  | cleanup (app : AppId) (context : Context)
  | change (errand : AppErrand)
  | request (app : AppId) (request : Request)

inductive Party where
  | deploying (p : Deploying)
  | cleaning (p : CleaningUp)
  | calling (p : AppCall)
  | requesting (p : RequestCall)

/-- The apps that a call creates by its next step. -/
def AppCall.founds (p : AppCall) : List AppId :=
  match p.phase with
  | .ready _ (.ok a) => newApps (Aggregate.pending a)
  | _ => []

namespace Deployer

def tables (s : Deployer) : Tables := s.system.tables

def calls (s : Deployer) : List RunnerCall := s.system.calls

def withStore (s : Deployer) (store : Store) : Deployer := { s with system := { s.system with store } }

end Deployer

namespace Party

def enter : Errand → Party
  | .deploy id context holds => .deploying (.enter id context holds)
  | .cleanup app context => .cleaning (.enter app context)
  | .change errand => .calling (.enter errand)
  | .request app request => .requesting (.enter app request)

/-- Whether the party is a command under way. -/
def isBusy : Party → Bool
  | .deploying p => !p.isOver
  | .cleaning p => !p.isOver
  | .calling _ | .requesting _ => false

/-- One step of the party. No app is created under an identifier that another one has had. -/
def step (p : Party) (s : Deployer) : Party × Deployer :=
  match p with
  | .deploying p => (.deploying (p.step s.system).1, { s with system := (p.step s.system).2 })
  | .cleaning p => (.cleaning (p.step s.system).1, { s with system := (p.step s.system).2 })
  | .calling p =>
    if p.founds.any (· ∈ s.issued) then (.calling p, s)
    else
      let (p', site) := p.step ⟨s.system.store, []⟩
      (.calling p', { s.withStore site.store with issued := p.founds ++ s.issued })
  | .requesting p => (.requesting (p.step s.system.store).1, s.withStore (p.step s.system.store).2)

end Party

/-- Commands one at a time, beside any calls. Others leave the rows of apps and deployments alone. -/
def deployerSharing : Sharing Errand Party Deployer where
  enter := .enter
  admits ps errand :=
    match errand with
    | .deploy .. | .cleanup .. => ps.all (!·.isBusy)
    | .change _ | .request .. => true
  step := Party.step
  permits s s' := s'.tables.apps = s.tables.apps && s'.tables.deployments = s.tables.deployments &&
    s'.calls = s.calls && s'.issued = s.issued

namespace Party

variable {p p' q : Party} {s s' : Deployer}

/-- The deployment that the party has started and not built yet. -/
def started? : Party → Option Deployment
  | .deploying p => p.started?
  | _ => none

/-- What the party goes by is true. -/
def Sound (s : Deployer) : Party → Prop
  | .deploying p => p.Informed s.tables
  | .cleaning p => p.Informed
  | .calling p => ∀ required a, p.phase = .ready required (.ok a) → ∀ e ∈ Aggregate.pending a, e.deletes = false
  | .requesting p => p.Sound s.issued s.tables

theorem isBusy_of_started? {d : Deployment} (h : p.started? = some d) : p.isBusy = true := by
  cases p with
  | deploying p =>
    obtain ⟨id, context, holds, phase⟩ := p
    cases phase <;> first | rfl | cases h
  | cleaning | calling | requesting => cases h

theorem sound_enter (errand : Errand) : (enter errand).Sound s := by
  cases errand with
  | deploy id context holds => exact Deploying.Informed.of_own?_eq_none rfl
  | cleanup app context => exact CleaningUp.Informed.of_copy?_eq_none rfl
  | change errand => exact fun required a h => by cases h
  | request app request => exact RequestCall.Sound.of_copy?_eq_none rfl

theorem started?_enter (errand : Errand) : (enter errand).started? = none := by cases errand <;> rfl

/-- What a step of a party comes to. -/
structure Turns (p : Party) (s : Deployer) (p' : Party) (s' : Deployer) : Prop where
  change : ∃ new, s'.issued = new ++ s.issued ∧ Tables.Change s.issued s.tables new s'.tables
  sound : p'.Sound s'
  busy : p'.isBusy = true → p.isBusy = true
  aside : p.isBusy = false → s.tables.Extends s'.tables
  calls : s'.calls = s.calls ∨ ∃ d, p.started? = some d ∧ s'.calls = s.calls ++ [Build.call d]
  starts : ∀ d, p'.started? = some d → s'.calls = s.calls ∧ ∃ d₀, d₀.id = d.id ∧ s.tables.Starts d₀ s'.tables

theorem turns_deploying {p : Deploying} (hfiled : s.tables.Filed) (hsound : p.Informed s.tables)
    (h : (Party.deploying p).step s = (p', s')) : (Party.deploying p).Turns s p' s' := by
  cases h
  cases hover : p.isOver with
  | true =>
    rw [Deploying.step_of_isOver hover]
    have hnone : (Party.deploying p).started? = none := Deploying.started?_of_isOver hover
    exact ⟨⟨[], rfl, .retains (.of_eq rfl rfl)⟩, hsound, fun h => h, fun _ => .of_eq rfl, .inl rfl,
      fun d hd => by cases hnone.symm.trans hd⟩
  | false =>
    have hstep : p.Undisturbed s.system (p.step s.system).1 (p.step s.system).2 :=
      Deploying.undisturbed_of_step hsound hfiled hover rfl
    have hbusy : (Party.deploying p).isBusy = true := by simp [isBusy, hover]
    have haside (h : (Party.deploying p).isBusy = false) : s.tables.Extends (p.step s.system).2.tables := by
      cases hbusy.symm.trans h
    have hnone (h : (p.step s.system).1.started? = none) (d : Deployment)
        (hd : (Party.deploying (p.step s.system).1).started? = some d) : False := by
      cases h.symm.trans hd
    have hchange : ∃ new, s.issued = new ++ s.issued ∧
        Tables.Change s.issued s.tables new (p.step s.system).2.tables := ⟨[], rfl, hstep.change s.issued⟩
    cases hstep.advances with
    | waits _ hcalls hphase =>
      exact ⟨hchange, hstep.informed, fun _ => hbusy, haside, .inl hcalls, fun d hd => (hnone hphase d hd).elim⟩
    | @starts d₀ hid hstarts hcalls =>
      refine ⟨hchange, hstep.informed, fun _ => hbusy, haside, .inl hcalls, fun d hd => ⟨hcalls, d₀, ?_, hstarts⟩⟩
      have hown : (p.step s.system).1.own? = some d := by
        rw [Deploying.own?, Deploying.phase_of_started? hd]
      have hdid := (hstep.filed.deployment?_eq (hstep.informed.own d hown)).2
      rw [hid, hdid, hstep.id]
    | @builds d hstarted _ hcalls hphase =>
      exact ⟨hchange, hstep.informed, fun _ => hbusy, haside, hcalls.imp_right fun hcalls => ⟨d, hstarted, hcalls⟩,
        fun d hd => (hnone hphase d hd).elim⟩
    | finishes _ _ hcalls hphase =>
      exact ⟨hchange, hstep.informed, fun _ => hbusy, haside, .inl hcalls, fun d hd => (hnone hphase d hd).elim⟩

theorem turns_cleaning {p : CleaningUp} (hsound : p.Informed) (h : (Party.cleaning p).step s = (p', s')) :
    (Party.cleaning p).Turns s p' s' := by
  cases h
  cases hover : p.isOver with
  | true =>
    rw [CleaningUp.step_of_isOver hover]
    exact ⟨⟨[], rfl, .retains (.of_eq rfl rfl)⟩, hsound, fun h => h, fun _ => .of_eq rfl, .inl rfl,
      fun d hd => by cases hd⟩
  | false =>
    have hstep : p.Effect s.tables (p.step s.system).1 (p.step s.system).2.tables ∧
        (p.step s.system).2.calls = s.calls := CleaningUp.effect_of_step hsound hover rfl
    obtain ⟨heffect, hcalls⟩ := hstep
    have hbusy : (Party.cleaning p).isBusy = true := by simp [isBusy, hover]
    refine ⟨⟨[], rfl, heffect.change hsound s.issued⟩, heffect.informed hsound, fun _ => hbusy, fun h => ?_,
      .inl hcalls, fun d hd => by cases hd⟩
    cases hbusy.symm.trans h

/-- The events that a call writes delete nothing. -/
theorem sound_of_appEffect {p p' : AppCall} {t t' : Tables} {ws ws' : List AppWrite}
    (h : p.Effect t ws p' t' ws') : (Party.calling p').Sound s := by
  intro required a hphase
  cases h with
  | ends hended => cases hended.symm.trans hphase
  | writes _ _ hended => cases hended.symm.trans hphase
  | checks => cases hphase
  | checksNew hrequired =>
    obtain ⟨rfl, hbuilt⟩ := AppPhase.ready.inj hphase
    exact fun e he => ((Builds.of_new hbuilt).1.events e he).2
  | loads hchecked ha =>
    obtain ⟨rfl, hbuilt⟩ := AppPhase.ready.inj hphase
    obtain ⟨r, hr, hshows⟩ := Tables.app_eq_ok.mp ha
    have hid := Tables.id_of_app?_shows hr hshows
    have hbuilds : Builds p.app (.value a.name.text) _ a := Builds.of_change hid hshows.events hbuilt
    exact fun e he => (hbuilds.events e he).2

/-- A step of a call that changes apps leaves the deployments alone, and creates apps under new identifiers. -/
theorem retains_calling {p : AppCall} (hsound : (Party.calling p).Sound s) (h : (Party.calling p).step s = (p', s')) :
    ∃ p₁ new, p' = .calling p₁ ∧ (Party.calling p₁).Sound s' ∧ s'.issued = new ++ s.issued ∧ s'.calls = s.calls ∧
      Tables.Retains s.issued new s.tables s'.tables := by
  unfold step at h
  dsimp only at h
  split at h
  · cases h
    exact ⟨p, [], rfl, hsound, rfl, rfl, .of_eq rfl rfl⟩
  · next hfresh =>
    rcases hstep : p.step ⟨s.system.store, []⟩ with ⟨p₁, site⟩
    rw [hstep] at h
    cases h
    have heffect : p.Effect s.tables [] p₁ site.tables site.writes := AppCall.effect_of_step hstep
    have hsame : Tables.Retains s.issued p.founds s.tables s.tables := by
      refine ⟨rfl, fun app happ hissued => hfresh ?_, fun app r hr => ⟨r, hr, rfl, id⟩, fun app hsome => .inr hsome⟩
      exact List.any_eq_true.mpr ⟨app, happ, decide_eq_true hissued⟩
    have hretains : Tables.Retains s.issued p.founds s.tables site.tables := by
      generalize site.tables = t' at heffect
      generalize site.writes = ws at heffect
      cases heffect with
      | @writes required a _ _ _ hphase hwritten =>
        have hfounds : p.founds = newApps (Aggregate.pending a) := by rw [AppCall.founds, hphase]
        rw [hfounds] at hsame ⊢
        refine Tables.retains_of_appEvents (hsound _ _ hphase) (fun e he b hb => hsame.fresh b.id ?_) hwritten
        exact List.mem_flatMap.mpr ⟨e, he, by rw [hb]; exact List.mem_singleton.mpr rfl⟩
      | ends | checksNew | checks | loads => exact hsame
    exact ⟨p₁, p.founds, rfl, sound_of_appEffect heffect, rfl, rfl, hretains⟩

theorem turns_calling {p : AppCall} (hsound : (Party.calling p).Sound s)
    (h : (Party.calling p).step s = (p', s')) : (Party.calling p).Turns s p' s' := by
  obtain ⟨p₁, new, rfl, hsound', hissued, hcalls, hretains⟩ := retains_calling hsound h
  exact ⟨⟨new, hissued, .retains hretains⟩, hsound', fun h => absurd h Bool.false_ne_true,
    fun _ => .of_eq hretains.deployments, .inl hcalls, fun d hd => by cases hd⟩

theorem turns_requesting {p : RequestCall} (hfiled : s.tables.Filed) (hwithin : s.tables.Within s.issued)
    (hsound : p.Sound s.issued s.tables) (h : (Party.requesting p).step s = (p', s')) :
    (Party.requesting p).Turns s p' s' := by
  cases h
  have heffect : p.Effect s.tables (p.step s.system.store).1 (p.step s.system.store).2.db.tables :=
    RequestCall.effect_of_step rfl
  obtain ⟨hchange, hextends, hsound'⟩ := heffect.change hsound hfiled hwithin
  exact ⟨⟨[], rfl, hchange⟩, hsound', fun h => absurd h Bool.false_ne_true, fun _ => hextends, .inl rfl,
    fun d hd => by cases hd⟩

/-- **What a step comes to**, whoever takes it. -/
theorem turns (hfiled : s.tables.Filed) (hwithin : s.tables.Within s.issued) (hsound : p.Sound s)
    (h : p.step s = (p', s')) : p.Turns s p' s' := by
  cases p with
  | deploying p => exact turns_deploying hfiled hsound h
  | cleaning p => exact turns_cleaning hsound h
  | calling p => exact turns_calling hsound h
  | requesting p => exact turns_requesting hfiled hwithin hsound h

/-- What a party goes by is still true when others have taken a step, if they only asked for more. -/
theorem Sound.of_change {new : List AppId} (h : q.Sound s) (hfiled : s.tables.Filed)
    (hissued : s'.issued = new ++ s.issued) (hchange : Tables.Change s.issued s.tables new s'.tables)
    (hextends : q.isBusy = true → s.tables.Extends s'.tables) : q.Sound s' := by
  cases q with
  | deploying q =>
    cases hover : q.isOver with
    | true => exact Deploying.Informed.of_isOver hover
    | false => exact Deploying.Informed.extends h hfiled (hextends (by simp [isBusy, hover]))
  | cleaning q => exact h
  | calling q => exact h
  | requesting q =>
    show q.Sound s'.issued s'.tables
    rw [hissued]
    exact RequestCall.Sound.of_keeps h hfiled (hchange.keeps hfiled)

end Party

/-! ## Calls of the runner -/

/-- What holds of a deployer at all times. -/
structure Deployer.Sound (s : Deployer) : Prop where
  filed : s.tables.Filed
  within : s.tables.Within s.issued
  nodup : (s.calls.map (·.id)).Nodup
  /-- What the runner has been called for does not wait any more. -/
  called : ∀ c ∈ s.calls, c.id.app ∈ s.issued ∧ ((s.tables.app? c.id.app).isSome = true →
    ∃ d, s.tables.deployment c.id = .ok d ∧ d.state.status ≠ .pending)

/-- What holds of the parties on a deployer at all times. -/
structure DeployerScene (c : Scene Party Deployer) : Prop where
  shared : c.shared.Sound
  parties : ∀ p ∈ c.parties, p.Sound c.shared
  alone : c.parties.Pairwise fun p q => p.isBusy = false ∨ q.isBusy = false
  started : ∀ p ∈ c.parties, ∀ d, p.started? = some d → d.id ∉ c.shared.calls.map (·.id)

namespace Deployer

variable {s s' : Deployer} {new : List AppId}

theorem called_of_change (h : s.Sound) (hissued : s'.issued = new ++ s.issued)
    (hchange : Tables.Change s.issued s.tables new s'.tables) {c : RunnerCall} (hc : c ∈ s.calls) :
    c.id.app ∈ s'.issued ∧ ((s'.tables.app? c.id.app).isSome = true →
      ∃ d, s'.tables.deployment c.id = .ok d ∧ d.state.status ≠ .pending) := by
  obtain ⟨happ, hstarted⟩ := h.called c hc
  have hkeeps := hchange.keeps h.filed
  refine ⟨hissued ▸ List.mem_append_right _ happ, fun hsome => ?_⟩
  obtain ⟨r', hr'⟩ := Option.isSome_iff_exists.mp hsome
  obtain ⟨r, hr, -⟩ := hkeeps.app _ happ r' hr'
  obtain ⟨d, hd, hne⟩ := hstarted (by rw [hr]; rfl)
  obtain ⟨state, hstate, hcomes⟩ := hkeeps.deployment _ d happ hsome hd
  exact ⟨_, hstate, hcomes.ne_pending hne⟩

/-- A change that calls no runner. -/
theorem Sound.of_change (h : s.Sound) (hissued : s'.issued = new ++ s.issued)
    (hchange : Tables.Change s.issued s.tables new s'.tables) (hcalls : s'.calls = s.calls) : s'.Sound := by
  refine ⟨hchange.filed h.filed, hissued ▸ hchange.within h.within, hcalls ▸ h.nodup, fun c hc => ?_⟩
  exact called_of_change h hissued hchange (hcalls ▸ hc)

/-- What has just been started has not been built. -/
theorem Sound.not_called (h : s.Sound) {d : Deployment} (hd : s.tables.deployment d.id = .ok d)
    (hwaits : d.state.status = .pending) : d.id ∉ s.calls.map (·.id) := by
  intro hcalled
  obtain ⟨c, hc, hid⟩ := List.mem_map.mp hcalled
  obtain ⟨d', hd', hne⟩ := (h.called c hc).2 (hid ▸ h.filed.isSome_app? hd)
  rw [hid, hd] at hd'
  cases hd'
  exact hne hwaits

end Deployer

namespace DeployerScene

variable {s s' : Deployer} {p p' : Party} {before after ps : List Party}

theorem apart_of_mem (h : DeployerScene ⟨before ++ p :: after, s⟩) {q : Party} (hq : q ∈ before ++ after) :
    q.isBusy = true → p.isBusy = false := by
  have hpairwise := (List.pairwise_middle fun {_ _} h => Or.symm h).mp h.alone
  intro hbusy
  rcases (List.pairwise_cons.mp hpairwise).1 q hq with hp | hq
  · exact hp
  · cases hbusy.symm.trans hq

theorem turns (h : DeployerScene ⟨before ++ p :: after, s⟩) (hstep : p.step s = (p', s')) : p.Turns s p' s' :=
  Party.turns h.shared.filed h.shared.within (h.parties p (by simp)) hstep

/-- The deployment that a party is about to build is stored and runs. -/
theorem runs_of_started? (h : DeployerScene ⟨ps, s⟩) (hp : p ∈ ps) {d : Deployment} (hd : p.started? = some d) :
    s.tables.deployment d.id = .ok d ∧ d.state.status = .running := by
  have hsound := h.parties p hp
  cases p with
  | deploying p =>
    have hphase := Deploying.phase_of_started? hd
    have hinformed : p.Informed s.tables := hsound
    have hstored := hinformed.own d (by simp only [Deploying.own?, hphase])
    exact ⟨(h.shared.filed.deployment?_eq hstored).2.symm ▸ hstored, hinformed.started d hphase⟩
  | cleaning | calling | requesting => cases hd

theorem sound_of_step (h : DeployerScene ⟨before ++ p :: after, s⟩) (hstep : p.step s = (p', s')) : s'.Sound := by
  have hturns := h.turns hstep
  obtain ⟨new, hissued, hchange⟩ := hturns.change
  rcases hturns.calls with hcalls | ⟨d, hd, hcalls⟩
  · exact h.shared.of_change hissued hchange hcalls
  · -- a call for a deployment that runs and that has not been built before
    obtain ⟨hstored, hruns⟩ := h.runs_of_started? (by simp) hd
    have hnew : d.id ∉ s.calls.map (·.id) := h.started p (by simp) d hd
    have hkeeps := hchange.keeps h.shared.filed
    have hissuedapp := h.shared.within _ (h.shared.filed.isSome_app? hstored)
    refine ⟨hchange.filed h.shared.filed, hissued ▸ hchange.within h.shared.within, ?_, ?_⟩
    · rw [hcalls, List.map_append, List.nodup_append]
      refine ⟨h.shared.nodup, List.nodup_singleton _, fun i hi j hj => ?_⟩
      rw [List.mem_singleton.mp hj]
      exact fun (heq : i = d.id) => hnew (heq ▸ hi)
    · rw [hcalls]
      refine List.forall_mem_append.mpr ⟨fun c hc => Deployer.called_of_change h.shared hissued hchange hc,
        List.forall_mem_singleton.mpr ⟨hissued ▸ List.mem_append_right _ hissuedapp, fun hsome => ?_⟩⟩
      obtain ⟨state, hstate, hcomes⟩ := hkeeps.deployment d.id d hissuedapp hsome hstored
      exact ⟨_, hstate, hcomes.ne_pending (by rw [hruns]; decide)⟩

theorem of_step (h : DeployerScene ⟨before ++ p :: after, s⟩) (hstep : p.step s = (p', s')) :
    DeployerScene ⟨before ++ p' :: after, s'⟩ := by
  have hturns := h.turns hstep
  obtain ⟨new, hissued, hchange⟩ := hturns.change
  have hpairwise := (List.pairwise_middle fun {_ _} h => Or.symm h).mp h.alone
  have hothers (q : Party) (hq : q ∈ before ++ after) : q ∈ before ++ p :: after :=
    List.perm_middle.mem_iff.mpr (List.mem_cons_of_mem p hq)
  refine ⟨h.sound_of_step hstep, fun q hq => ?_, ?_, fun q hq d hd => ?_⟩
  · rcases List.mem_cons.mp (List.perm_middle.mem_iff.mp hq) with rfl | hq
    · exact hturns.sound
    · exact (h.parties q (hothers q hq)).of_change h.shared.filed hissued hchange
        fun hbusy => hturns.aside (h.apart_of_mem hq hbusy)
  · refine (List.pairwise_middle fun {_ _} h => Or.symm h).mpr (List.pairwise_cons.mpr ⟨fun q hq => ?_, ?_⟩)
    · cases hbusy : p'.isBusy with
      | false => exact .inl rfl
      | true =>
        rcases (List.pairwise_cons.mp hpairwise).1 q hq with hp | hq
        · cases hp.symm.trans (hturns.busy hbusy)
        · exact .inr hq
    · exact (List.pairwise_cons.mp hpairwise).2
  · rcases List.mem_cons.mp (List.perm_middle.mem_iff.mp hq) with rfl | hq
    · obtain ⟨hcalls, d₀, hid, hstarts⟩ := hturns.starts d hd
      show d.id ∉ s'.calls.map (·.id)
      rw [hcalls, ← hid]
      exact h.shared.not_called hstarts.stored hstarts.waits
    · have hidle := h.apart_of_mem hq (Party.isBusy_of_started? hd)
      have hcalls : s'.calls = s.calls := by
        rcases hturns.calls with hcalls | ⟨d₀, hd₀, -⟩
        · exact hcalls
        · cases hidle.symm.trans (Party.isBusy_of_started? hd₀)
      show d.id ∉ s'.calls.map (·.id)
      rw [hcalls]
      exact h.started q (hothers q hq) d hd

theorem of_enter {errand : Errand} (h : DeployerScene ⟨ps, s⟩)
    (hadmits : deployerSharing.admits ps errand = true) : DeployerScene ⟨ps ++ [.enter errand], s⟩ := by
  refine ⟨h.shared, ?_, ?_, ?_⟩
  · exact List.forall_mem_append.mpr ⟨h.parties, List.forall_mem_singleton.mpr (Party.sound_enter errand)⟩
  · refine List.pairwise_append.mpr ⟨h.alone, List.pairwise_singleton .., fun q hq q' hq' => ?_⟩
    rw [List.mem_singleton.mp hq']
    cases errand with
    | deploy | cleanup => exact .inl (by simpa using List.all_eq_true.mp hadmits q hq)
    | change | request => exact .inr rfl
  · refine List.forall_mem_append.mpr ⟨h.started, List.forall_mem_singleton.mpr fun d hd => ?_⟩
    cases (Party.started?_enter errand).symm.trans hd

/-- Others leave alone what the parties go by. -/
theorem of_permits (h : DeployerScene ⟨ps, s⟩) (hpermits : deployerSharing.permits s s' = true) :
    DeployerScene ⟨ps, s'⟩ := by
  simp only [deployerSharing, Bool.and_eq_true, decide_eq_true_eq] at hpermits
  obtain ⟨⟨⟨happs, hdeployments⟩, hcalls⟩, hissued⟩ := hpermits
  have hissued : s'.issued = [] ++ s.issued := hissued
  have hchange : Tables.Change s.issued s.tables [] s'.tables := .retains (.of_eq hdeployments happs)
  refine ⟨h.shared.of_change hissued hchange hcalls, fun q hq => ?_, h.alone, fun q hq d hd => ?_⟩
  · exact (h.parties q hq).of_change h.shared.filed hissued hchange fun _ => .of_eq hdeployments
  · show d.id ∉ s'.calls.map (·.id)
    rw [hcalls]
    exact h.started q hq d hd

theorem of_goes {c c' : Scene Party Deployer} (h : DeployerScene c) (hgoes : Scene.Goes deployerSharing c c') :
    DeployerScene c' := by
  cases hgoes with
  | stays => exact h
  | enters hadmits => exact h.of_enter hadmits
  | steps hstep => exact h.of_step hstep
  | @leaves before after p =>
    have hsub : (before ++ after).Sublist (before ++ p :: after) := (List.sublist_cons_self p after).append_left before
    exact ⟨h.shared, fun q hq => h.parties q (hsub.subset hq), h.alone.sublist hsub,
      fun q hq => h.started q (hsub.subset hq)⟩
  | changes hpermits => exact h.of_permits hpermits

/-- Only who has started a deployment calls the runner. -/
theorem calls_of_goes {c c' : Scene Party Deployer} (h : DeployerScene c) (hgoes : Scene.Goes deployerSharing c c') :
    c'.shared.calls = c.shared.calls ∨
      ∃ p ∈ c.parties, ∃ d, p.started? = some d ∧ c'.shared.calls = c.shared.calls ++ [Build.call d] := by
  cases hgoes with
  | stays | enters | leaves => exact .inl rfl
  | @steps before after p p' s s' hstep =>
    refine (h.turns hstep).calls.imp_right fun ⟨d, hd, hcalls⟩ => ⟨p, ?_, d, hd, hcalls⟩
    exact List.mem_append_right before List.mem_cons_self
  | changes hpermits =>
    simp only [deployerSharing, Bool.and_eq_true, decide_eq_true_eq] at hpermits
    exact .inl hpermits.1.2

end DeployerScene

/-! ## Histories -/

/-- A deployer with nothing in it, after some actions. -/
def deployerAfter (c : Config) (as : List (Action Errand Deployer)) : Scene Party Deployer :=
  (Scene.mk [] ⟨.ofConfig c, []⟩).run deployerSharing as

def tablesAfter (c : Config) (as : List (Action Errand Deployer)) : Tables := (deployerAfter c as).shared.tables

/-- Among the actions is one by which the deployment was started, and of the older ones of its environment that still
waited then, each is stored as failed after all of them. -/
def Commenced (c : Config) (as : List (Action Errand Deployer)) (id : DeploymentId) : Prop :=
  ∃ before a after, as = before ++ a :: after ∧ (tablesAfter c before).HasStatus id .pending ∧
    (tablesAfter c (before ++ [a])).HasStatus id .running ∧
    ∀ o : DeploymentId, o.app = id.app → o.number.toNat < id.number.toNat →
      (tablesAfter c before).environment? o = (tablesAfter c before).environment? id →
        (tablesAfter c before).HasStatus o .pending → (tablesAfter c as).HasStatus o .failed

section Histories

variable {c : Config} {as : List (Action Errand Deployer)} {a : Action Errand Deployer} {id : DeploymentId}

theorem deployerAfter_concat (c : Config) (as : List (Action Errand Deployer)) (a : Action Errand Deployer) :
    deployerAfter c (as ++ [a]) = (deployerAfter c as).perform deployerSharing a := Scene.run_concat ..

theorem deployerScene_after (c : Config) (as : List (Action Errand Deployer)) :
    DeployerScene (deployerAfter c as) := by
  have hempty : DeployerScene ⟨[], ⟨.ofConfig c, []⟩⟩ := by
    refine ⟨⟨Tables.filed_empty, fun app hsome => ?_, List.nodup_nil, List.forall_mem_nil _⟩, List.forall_mem_nil _,
      .nil, List.forall_mem_nil _⟩
    cases hsome
  exact Scene.run_induction (fun _ _ => DeployerScene.of_goes) hempty as

theorem Commenced.concat (h : Commenced c as id)
    (hextends : (tablesAfter c as).Extends (tablesAfter c (as ++ [a]))) : Commenced c (as ++ [a]) id := by
  obtain ⟨before, b, after, rfl, hwaits, hruns, hclosed⟩ := h
  refine ⟨before, b, after ++ [a], by simp, hwaits, hruns, fun o happ hlt henvironment ho => ?_⟩
  exact hextends.hasStatus (hclosed o happ hlt henvironment ho)

/-- A start closes the older deployments. -/
theorem commenced_of_starts {d : Deployment}
    (hstarts : (tablesAfter c as).Starts d (tablesAfter c (as ++ [a]))) : Commenced c (as ++ [a]) d.id := by
  have hfiled : (tablesAfter c as).Filed := (deployerScene_after c as).shared.filed
  have hfiled' : (tablesAfter c (as ++ [a])).Filed := (deployerScene_after c (as ++ [a])).shared.filed
  obtain ⟨state, hruns, hown⟩ := hstarts.own
  refine ⟨as, a, [], rfl, hfiled.hasStatus_iff.mpr ⟨d, hstarts.stored, hstarts.waits⟩,
    hfiled'.hasStatus_iff.mpr ⟨_, hown, hruns⟩, fun id happ hlt henvironment ho => ?_⟩
  obtain ⟨o, ho, hwaits⟩ := hfiled.hasStatus_iff.mp ho
  obtain rfl := (hfiled.deployment?_eq ho).2
  rw [hfiled.environment?_eq ho, hfiled.environment?_eq hstarts.stored] at henvironment
  obtain ⟨state', hfailed, hclosed⟩ :=
    hstarts.closed o ⟨ho, happ, Column.value.inj (Option.some.inj henvironment), hlt, hwaits⟩
  exact hfiled'.hasStatus_iff.mpr ⟨_, hclosed, hfailed⟩

/-- A deployment that is about to be built has been started. -/
theorem commenced_of_started? (c : Config) (as : List (Action Errand Deployer)) :
    ∀ p ∈ (deployerAfter c as).parties, ∀ d, p.started? = some d → Commenced c as d.id := by
  induction as using List.reverseRecOn with
  | nil => exact List.forall_mem_nil _
  | append_singleton as a ih =>
    have hscene := deployerScene_after c as
    have htables : tablesAfter c (as ++ [a]) = (deployerAfter c (as ++ [a])).shared.tables := rfl
    rw [deployerAfter_concat] at htables ⊢
    have hgoes := Scene.goes_perform (P := deployerSharing) (deployerAfter c as) a
    have hkept (q : Party) (hq : q ∈ (deployerAfter c as).parties) (d : Deployment) (hd : q.started? = some d)
        (hextends : (tablesAfter c as).Extends (tablesAfter c (as ++ [a]))) : Commenced c (as ++ [a]) d.id :=
      (ih q hq d hd).concat hextends
    have hbefore : tablesAfter c as = (deployerAfter c as).shared.tables := rfl
    generalize (deployerAfter c as).perform deployerSharing a = c' at hgoes htables ⊢
    generalize deployerAfter c as = c₀ at hgoes hkept hscene hbefore
    cases hgoes with
    | stays => exact fun q hq d hd => hkept q hq d hd (.of_eq (by rw [htables, hbefore]))
    | enters hadmits =>
      refine List.forall_mem_append.mpr ⟨fun q hq d hd => hkept q hq d hd (.of_eq (by rw [htables, hbefore])), ?_⟩
      refine List.forall_mem_singleton.mpr fun d hd => ?_
      cases (Party.started?_enter _).symm.trans hd
    | @steps before after p p' s s' hstep =>
      have hturns := hscene.turns hstep
      intro q hq d hd
      rcases List.mem_cons.mp (List.perm_middle.mem_iff.mp hq) with rfl | hq
      · obtain ⟨-, d₀, hid, hstarts⟩ := hturns.starts d hd
        exact hid ▸ commenced_of_starts (by rw [htables, hbefore]; exact hstarts)
      · -- beside a command that is under way, others only ask for more
        have hextends := hturns.aside (hscene.apart_of_mem hq (Party.isBusy_of_started? hd))
        have hmem : q ∈ before ++ p :: after := List.perm_middle.mem_iff.mpr (List.mem_cons_of_mem p hq)
        exact hkept q hmem d hd (by rw [htables, hbefore]; exact hextends)
    | @leaves before after p =>
      intro q hq d hd
      have hmem : q ∈ before ++ p :: after := List.perm_middle.mem_iff.mpr (List.mem_cons_of_mem p hq)
      exact hkept q hmem d hd (.of_eq (by rw [htables, hbefore]))
    | changes hpermits =>
      simp only [deployerSharing, Bool.and_eq_true, decide_eq_true_eq] at hpermits
      exact fun q hq d hd => hkept q hq d hd (.of_eq (by rw [htables, hbefore]; exact hpermits.1.1.2))

/-- **The runner is called once for a deployment, when it runs and those before it are closed**: whatever comes on a
deployer in whatever order, as long as its commands come one after another. -/
theorem runner_calls (c : Config) (as : List (Action Errand Deployer)) :
    ((deployerAfter c as).shared.calls.map (·.id)).Nodup ∧
    ∀ call ∈ (deployerAfter c as).shared.calls, ∃ before a after, as = before ++ a :: after ∧
      (deployerAfter c (before ++ [a])).shared.calls = (deployerAfter c before).shared.calls ++ [call] ∧
      (tablesAfter c before).HasStatus call.id .running ∧ Commenced c before call.id := by
  refine ⟨(deployerScene_after c as).shared.nodup, ?_⟩
  induction as using List.reverseRecOn with
  | nil => exact List.forall_mem_nil _
  | append_singleton as a ih =>
    have hearlier (call : RunnerCall) (hcall : call ∈ (deployerAfter c as).shared.calls) :
        ∃ before b after, as ++ [a] = before ++ b :: after ∧
          (deployerAfter c (before ++ [b])).shared.calls = (deployerAfter c before).shared.calls ++ [call] ∧
          (tablesAfter c before).HasStatus call.id .running ∧ Commenced c before call.id := by
      obtain ⟨before, b, after, rfl, hrest⟩ := ih call hcall
      exact ⟨before, b, after ++ [a], by simp, hrest⟩
    have hscene := deployerScene_after c as
    have hgoes := Scene.goes_perform (P := deployerSharing) (deployerAfter c as) a
    rw [← deployerAfter_concat] at hgoes
    rcases hscene.calls_of_goes hgoes with hcalls | ⟨p, hp, d, hd, hcalls⟩
    · rw [hcalls]
      exact hearlier
    · rw [hcalls]
      refine List.forall_mem_append.mpr ⟨hearlier, List.forall_mem_singleton.mpr ⟨as, a, [], rfl, hcalls, ?_, ?_⟩⟩
      · obtain ⟨hstored, hruns⟩ := hscene.runs_of_started? hp hd
        exact hscene.shared.filed.hasStatus_iff.mpr ⟨d, hstored, hruns⟩
      · exact commenced_of_started? c as p hp d hd

end Histories

/-! ## Turns of the worker -/

section Turns

variable {ps : List Party} (issued : List AppId)

/-- A party that takes its steps without a break is run. -/
theorem run_replicate_step {π : Type} {party : π → Party} {step : π → System → π × System}
    {run : Nat → π → System → π × System} (hzero : ∀ p s, run 0 p s = (p, s))
    (hsucc : ∀ n p s, run (n + 1) p s = run n (step p s).1 (step p s).2)
    (hstep : ∀ p s, (party p).step ⟨s, issued⟩ = (party (step p s).1, ⟨(step p s).2, issued⟩)) (n : Nat) (p : π)
    (s : System) : (Scene.mk (ps ++ [party p]) ⟨s, issued⟩).run deployerSharing (List.replicate n (.step ps.length)) =
      ⟨ps ++ [party (run n p s).1], ⟨(run n p s).2, issued⟩⟩ := by
  induction n generalizing p s with
  | zero =>
    rw [hzero]
    rfl
  | succ n ih =>
    have hplace : (Scene.mk (ps ++ [party p]) (Deployer.mk s issued)).parties[ps.length]? = some (party p) :=
      List.getElem?_concat_length
    have hone : (Scene.mk (ps ++ [party p]) (Deployer.mk s issued)).perform deployerSharing (.step ps.length) =
        ⟨ps ++ [party (step p s).1], ⟨(step p s).2, issued⟩⟩ := by
      have hp : deployerSharing.step (party p) ⟨s, issued⟩ = _ := hstep p s
      rw [Scene.perform_step hplace, hp]
      simp
    rw [List.replicate_succ, hsucc, ← ih, ← hone]
    rfl

/-- What a command does without a break is done by actions. -/
theorem exists_actions_of_execute (hidle : ps.all (!·.isBusy) = true) (s : System) (c : Context) (holds : Bool)
    (command : Command) : ∃ as p, (Scene.mk ps ⟨s, issued⟩).run deployerSharing as =
      ⟨ps ++ [p], ⟨(s.execute c holds command).2, issued⟩⟩ := by
  have henter (errand : Errand) (hadmits : deployerSharing.admits ps errand = true) :
      (Scene.mk ps (Deployer.mk s issued)).perform deployerSharing (.enter errand) =
        ⟨ps ++ [.enter errand], ⟨s, issued⟩⟩ := if_pos hadmits
  cases command with
  | deploy id =>
    refine ⟨.enter (.deploy id c holds) :: List.replicate 5 (.step ps.length),
      .deploying ((Deploying.enter id c holds).run 5 s).1, ?_⟩
    have hrun := @run_replicate_step ps issued Deploying .deploying Deploying.step Deploying.run (fun _ _ => rfl)
      (fun _ _ _ => rfl) (fun _ _ => rfl) 5 (.enter id c holds) s
    rw [Scene.run, List.foldl_cons, henter (.deploy id c holds) hidle]
    exact hrun
  | cleanup app =>
    refine ⟨.enter (.cleanup app c) :: List.replicate 3 (.step ps.length),
      .cleaning ((CleaningUp.enter app c).run 3 s).1, ?_⟩
    have hrun := @run_replicate_step ps issued CleaningUp .cleaning CleaningUp.step CleaningUp.run (fun _ _ => rfl)
      (fun _ _ _ => rfl) (fun _ _ => rfl) 3 (.enter app c) s
    rw [Scene.run, List.foldl_cons, henter (.cleanup app c) hidle]
    exact hrun

theorem exists_actions_of_process (hidle : ps.all (!·.isBusy) = true) (s : System) (job : Job Work) (c : Context)
    (holds : Bool) : ∃ as ps', (Scene.mk ps ⟨s, issued⟩).run deployerSharing as =
      ⟨ps ++ ps', ⟨(s.process job c holds).2, issued⟩⟩ := by
  unfold System.process
  split
  · exact ⟨[], [], by rw [List.append_nil]; rfl⟩
  · next command _ =>
    obtain ⟨as, p, hrun⟩ := exists_actions_of_execute issued hidle s c holds command
    exact ⟨as, [p], hrun⟩

/-- The queue is none of the things that parties go by. -/
theorem run_withQueue (ps : List Party) (s : System) (q : Queue Work) :
    (Scene.mk ps (Deployer.mk s issued)).run deployerSharing
      [.elsewhere fun s => { s with system := s.system.withQueue q }] = ⟨ps, ⟨s.withQueue q, issued⟩⟩ := by
  have hpermits : deployerSharing.permits ⟨s, issued⟩ ⟨s.withQueue q, issued⟩ = true := by
    simp [deployerSharing, Deployer.tables, Deployer.calls, System.tables, System.withQueue]
  exact if_pos hpermits

/-- **A turn of the worker is made of actions**, when no command is under way. -/
theorem exists_actions_of_processNextIn (hidle : ps.all (!·.isBusy) = true) (s : System) (shutdown : Option Instant)
    (holds : Bool) : ∃ as ps', (Scene.mk ps ⟨s, issued⟩).run deployerSharing as =
      ⟨ps ++ ps', ⟨(s.processNextIn shutdown holds).2, issued⟩⟩ := by
  unfold System.processNextIn
  split
  · exact ⟨[], [], by rw [List.append_nil]; rfl⟩
  · next job q _ =>
    have hbegun := run_withQueue issued ps s q
    obtain ⟨as, ps', hrun⟩ := exists_actions_of_process issued hidle (s.withQueue q) job
      (Worker.context s.worker shutdown s.now) holds
    rw [← hbegun, ← Scene.run_append] at hrun
    split
    · next hstuck =>
      rw [hstuck] at hrun
      exact ⟨_, ps', hrun⟩
    · next result s₁ hended =>
      rw [hended] at hrun
      split
      · next status q' _ =>
        have hmarked := run_withQueue issued (ps ++ ps') s₁ q'
        rw [← hrun, ← Scene.run_append] at hmarked
        exact ⟨_, ps', hmarked⟩
      · exact ⟨_, ps', hrun⟩

end Turns

end Rollout
