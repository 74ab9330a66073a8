import Rollout.Proofs.Command.RunnerCalls
import Rollout.Proofs.Command.Statuses
import Rollout.Proofs.UseCases.Enqueuing

/-!
# Numbers of deployments

Calls and commands take their steps on one system in any order, as many as there may be (`openSharing`). A call for a
deployment finds the next number in one step and uses it in a later one, and others come between.

All the same the deployments of an app are numbered from 1 without a gap at all times, no number is given twice, and a
call that has come too late, or has no number left, fails and stores nothing (`deployment_numbers`). What carries this is
that a call which has found a number knows that all smaller ones are in use as long as its app is there
(`RequestCall.Sound`), and this stays true whatever others do (`Tables.Spares`).
-/

namespace Rollout

/-- Calls and commands beside each other, as many as may come. -/
def openSharing : Sharing Errand Party Deployer := { deployerSharing with admits := fun _ _ => true }

/-- A deployer with nothing in it, after some actions of calls and commands that may overlap. -/
def openAfter (c : Config) (as : List (Action Errand Deployer)) : Scene Party Deployer :=
  (Scene.mk [] ⟨.ofConfig c, []⟩).run openSharing as

/-! ## Numbers in use -/

namespace Tables

variable {t t' : Tables} {issued new : List AppId} {app : AppId}

/-- The numbers under which deployments of the app are stored. -/
def numbers (t : Tables) (app : AppId) : List Cell := (t.deployments.filter (·.app = app)).map (·.number)

/-- No deployment has the number 0. -/
def Counted (t : Tables) : Prop := ∀ id, (t.deployment? id).isSome = true → 0 < id.number.toNat

namespace Filed

theorem nodup_numbers (h : t.Filed) (app : AppId) : (t.numbers app).Nodup := by
  have hsub : (t.deployments.filter (·.app = app)).Sublist t.deployments := List.filter_sublist
  have hkeys := h.nodup.sublist (hsub.map fun r => (r.app, r.number))
  refine List.Nodup.of_map (fun c => (app, c)) ?_
  have hsame : (t.numbers app).map (fun c => (app, c)) =
      (t.deployments.filter (·.app = app)).map fun r => (r.app, r.number) := by
    rw [numbers, List.map_map]
    refine List.map_congr_left fun r hr => ?_
    have happ : r.app = app := of_decide_eq_true (List.mem_filter.mp hr).2
    rw [Function.comp, happ]
  rwa [hsame]

theorem mem_numbers (h : t.Filed) {c : Cell} :
    c ∈ t.numbers app ↔ ∃ n : DeploymentNumber, c = .integer n.toNat ∧ (t.deployment? ⟨app, n⟩).isSome = true := by
  constructor
  · intro hc
    obtain ⟨r, hr, rfl⟩ := List.mem_map.mp hc
    obtain ⟨hmem, happ⟩ := List.mem_filter.mp hr
    obtain ⟨d, -, rfl⟩ := h.rows r hmem
    obtain rfl : d.id.app = app := of_decide_eq_true happ
    refine ⟨d.id.number, rfl, ?_⟩
    rw [h.deployment?_of_mem hmem (DeploymentRow.isOf_of.mpr rfl)]
    rfl
  · rintro ⟨n, rfl, hsome⟩
    obtain ⟨r, hr⟩ := Option.isSome_iff_exists.mp hsome
    obtain ⟨hmem, hof⟩ := mem_of_deployment? hr
    obtain ⟨happ, hnumber⟩ := DeploymentRow.isOf_iff.mp hof
    rw [← hnumber]
    exact List.mem_map_of_mem (List.mem_filter.mpr ⟨hmem, decide_eq_true happ⟩)

/-- All numbers up to one that is in use are in use. -/
theorem exists_count (h : t.Filed) (hcounted : t.Counted) (app : AppId) :
    ∃ k < DeploymentNumber.limit, ∀ c, c ∈ t.numbers app ↔ ∃ n : Nat, 1 ≤ n ∧ n ≤ k ∧ c = .integer n := by
  cases hlast : t.lastNumber? app with
  | none =>
    have hnone : t.numbers app = [] := Cell.greatest?_eq_none hlast
    refine ⟨0, by decide, fun c => ?_⟩
    rw [hnone]
    constructor
    · intro hc
      cases hc
    · rintro ⟨n, hpos, hle, -⟩
      omega
  | some c =>
    obtain ⟨last, -, hstored, hmax⟩ := h.of_lastNumber? hlast
    refine ⟨last.toNat, last.toNat_lt, fun c => h.mem_numbers.trans ⟨?_, ?_⟩⟩
    · rintro ⟨n, rfl, hsome⟩
      exact ⟨n.toNat, hcounted _ hsome, hmax n hsome, rfl⟩
    · rintro ⟨n, hpos, hle, rfl⟩
      obtain ⟨number, hnumber⟩ : ∃ number, DeploymentNumber.ofNat? n = some number :=
        ⟨_, if_pos (Nat.lt_of_le_of_lt hle last.toNat_lt)⟩
      rw [DeploymentNumber.ofNat?_eq_some] at hnumber
      subst hnumber
      exact ⟨number, rfl, h.gapless ⟨app, last⟩ number hstored hpos hle⟩

/-- **The deployments of an app are numbered from 1 without a gap.** -/
theorem numbers_perm (h : t.Filed) (hcounted : t.Counted) (app : AppId) :
    ∃ k < DeploymentNumber.limit, (t.numbers app).Perm ((List.range' 1 k).map fun n : Nat => .integer n) := by
  obtain ⟨k, hk, hmem⟩ := h.exists_count hcounted app
  have hinj : Function.Injective fun n : Nat => Cell.integer n := fun m n hmn => Int.ofNat.inj (Cell.integer.inj hmn)
  refine ⟨k, hk, (List.perm_ext_iff_of_nodup (h.nodup_numbers app) ((List.nodup_range' ..).map hinj)).mpr fun c => ?_⟩
  rw [hmem, List.mem_map]
  constructor
  · rintro ⟨n, hpos, hle, rfl⟩
    exact ⟨n, List.mem_range'_1.mpr ⟨hpos, by omega⟩, rfl⟩
  · rintro ⟨n, hn, rfl⟩
    obtain ⟨hpos, hlt⟩ := List.mem_range'_1.mp hn
    exact ⟨n, hpos, by omega, rfl⟩

end Filed

/-! ## What the program changes -/

/-- A row that is there after a change was there before, or it is of a deployment that has been asked for. -/
theorem Change.counted (h : Change issued t new t') (hcounted : t.Counted) : t'.Counted := by
  intro id hsome
  have hstored (o : Deployment) (ho : t.deployment o.id = .ok o) : 0 < o.id.number.toNat := by
    obtain ⟨r, hr, -⟩ := deployment_eq_ok.mp ho
    exact hcounted o.id (by rw [hr]; rfl)
  cases h with
  | retains h => exact hcounted id (by rwa [deployment?, h.deployments] at hsome)
  | asks h =>
    rw [h.deployment?] at hsome
    split at hsome
    · next heq => exact heq ▸ h.pos
    · exact hcounted id hsome
  | @starts d _ h _ =>
    by_cases hown : id = d.id
    · exact hown ▸ hstored d h.stored
    · by_cases hclosed : ∃ o, t.Outdated d o ∧ o.id = id
      · obtain ⟨o, ho, rfl⟩ := hclosed
        exact hstored o ho.stored
      · -- neither started nor closed, so it is left as it was
        rw [h.others id hown fun o ho hoid => hclosed ⟨o, ho, hoid⟩] at hsome
        exact hcounted id hsome
  | @finishes d _ h _ =>
    by_cases hown : id = d.id
    · exact hown ▸ hstored d h.stored
    · rw [h.others id hown] at hsome
      exact hcounted id hsome
  | deletes app =>
    rw [deployment?_deleteApp] at hsome
    split at hsome
    · cases hsome
    · exact hcounted id hsome

/-- What a step keeps in order, whoever else is there. -/
structure Follows (issued new : List AppId) (t t' : Tables) : Prop where
  filed : t'.Filed
  counted : t'.Counted
  within : t'.Within (new ++ issued)
  spares : Spares issued t t'

theorem Follows.of_change (h : Change issued t new t') (hfiled : t.Filed) (hcounted : t.Counted)
    (hwithin : t.Within issued) : Follows issued new t t' :=
  ⟨h.filed hfiled, h.counted hcounted, h.within hwithin, (h.keeps hfiled).spares hfiled⟩

theorem follows_changeStates (hfiled : t.Filed) (hcounted : t.Counted) (hwithin : t.Within issued)
    (ds : List Deployment) : Follows issued [] t (t.changeStates ds) := by
  refine ⟨hfiled.changeStates ds, fun id hsome => hcounted id ?_, fun app hsome => hwithin app ?_,
    spares_changeStates ds⟩
  · rwa [deployment?_changeStates, Option.isSome_map] at hsome
  · rwa [app?_congr (apps_changeStates ds)] at hsome

end Tables

/-! ## Commands that overlap -/

namespace Deploying

variable {p p' : Deploying} {t t' : Tables}

/-- The copies of a command have nothing to be written. -/
theorem Effect.events_copies (h : Effect p t p' t') (hevents : ∀ d ∈ p.copies, d.events = .empty) :
    ∀ d ∈ p'.copies, d.events = .empty := by
  intro d' hd'
  cases h with
  | ends _ hover =>
    rw [copies_of_isOver hover] at hd'
    cases hd'
  | loads hd =>
    obtain rfl := List.mem_singleton.mp hd'
    exact Tables.events_of_deployment hd
  | gathers hd holder =>
    rcases List.mem_cons.mp hd' with rfl | ho
    · exact hevents _ (mem_copies.mpr (.inl hd))
    · obtain ⟨r, -, hshows⟩ := exists_left_of_forall₂ (DeploymentRow.toDeployments_eq_ok (mapError_eq_ok.mp holder)) d' ho
      exact hshows.events
  | builds hd _ hphase =>
    simp only [copies, own?, older, hphase, Option.toList_some, List.append_nil, List.mem_singleton] at hd'
    exact hd' ▸ hevents _ (mem_copies.mpr (.inl hd))
  | starts _ _ _ _ _ hphase =>
    rcases hphase with hover | hphase
    · rw [copies_of_isOver hover] at hd'
      cases hd'
    · simp only [copies, own?, older, hphase, Option.toList_some, List.append_nil, List.mem_singleton] at hd'
      rw [hd']
      rfl
  | records _ _ _ _ hover =>
    rw [copies_of_isOver hover] at hd'
    cases hd'

end Deploying

namespace Party

variable {p p' q : Party} {s s' : Deployer} {new : List AppId}

/-- What a party goes by, as far as it is true whoever else is there. -/
def Steady (s : Deployer) : Party → Prop
  | .deploying p => ∀ d ∈ p.copies, d.events = .empty
  | .cleaning p => p.Informed
  | .calling p => (Party.calling p).Sound s
  | .requesting p => p.Sound s.issued s.tables

theorem steady_enter (errand : Errand) : (enter errand).Steady s := by
  cases errand with
  | deploy id context holds => exact List.forall_mem_nil _
  | cleanup app context => exact CleaningUp.Informed.of_copy?_eq_none rfl
  | change errand => exact fun required a h => by cases h
  | request app request => exact RequestCall.Sound.of_copy?_eq_none rfl

/-- **What a step keeps in order**, and what the party goes by after it. -/
theorem follows_of_step (hfiled : s.tables.Filed) (hcounted : s.tables.Counted) (hwithin : s.tables.Within s.issued)
    (hsteady : p.Steady s) (h : p.step s = (p', s')) :
    ∃ new, s'.issued = new ++ s.issued ∧ Tables.Follows s.issued new s.tables s'.tables ∧ p'.Steady s' := by
  have hturns (hsound : p.Sound s) (hchange : p.Turns s p' s') (hsteady' : p'.Sound s' → p'.Steady s') :
      ∃ new, s'.issued = new ++ s.issued ∧ Tables.Follows s.issued new s.tables s'.tables ∧ p'.Steady s' := by
    obtain ⟨new, hissued, hchange'⟩ := hchange.change
    exact ⟨new, hissued, .of_change hchange' hfiled hcounted hwithin, hsteady' hchange.sound⟩
  cases p with
  | deploying p =>
    cases h
    have heffect : p.Effect s.tables (p.step s.system).1 (p.step s.system).2.tables := Deploying.effect_of_step rfl
    refine ⟨[], rfl, ?_, heffect.events_copies hsteady⟩
    have htables : ∃ ds, (p.step s.system).2.tables = s.tables.changeStates ds := by
      rcases heffect.tables_cases hsteady with hsame | ⟨-, closed, d', -, -, -, hchanged⟩
      · exact ⟨[], hsame⟩
      · exact ⟨closed ++ [d'], hchanged⟩
    obtain ⟨ds, hds⟩ := htables
    have hfollows := Tables.follows_changeStates hfiled hcounted hwithin ds
    rw [← hds] at hfollows
    exact hfollows
  | cleaning p =>
    have hchange := turns_cleaning hsteady h
    cases h
    exact hturns hsteady hchange fun hsound => hsound
  | calling p =>
    have hchange := turns_calling hsteady h
    refine hturns hsteady hchange fun hsound => ?_
    obtain ⟨p₁, -, rfl, -⟩ := retains_calling hsteady h
    exact hsound
  | requesting p =>
    have hchange := turns_requesting hfiled hwithin hsteady h
    cases h
    exact hturns hsteady hchange fun hsound => hsound

/-- What a party goes by stays true when others have taken a step. -/
theorem Steady.of_follows (h : q.Steady s) (hissued : s'.issued = new ++ s.issued)
    (hfollows : Tables.Follows s.issued new s.tables s'.tables) : q.Steady s' := by
  cases q with
  | deploying q => exact h
  | cleaning q => exact h
  | calling q => exact h
  | requesting q =>
    have hsound : q.Sound (new ++ s.issued) s'.tables := RequestCall.Sound.of_spares h hfollows.spares
    rw [← hissued] at hsound
    exact hsound

end Party

/-- What holds at all times of calls and commands that may overlap. -/
structure OpenScene (c : Scene Party Deployer) : Prop where
  filed : c.shared.tables.Filed
  counted : c.shared.tables.Counted
  within : c.shared.tables.Within c.shared.issued
  parties : ∀ p ∈ c.parties, p.Steady c.shared

namespace OpenScene

variable {c c' : Scene Party Deployer} {s s' : Deployer} {ps : List Party}

/-- An action keeps in order what is stored. -/
theorem follows_of_goes (h : OpenScene c) (hgoes : Scene.Goes openSharing c c') :
    ∃ new, c'.shared.issued = new ++ c.shared.issued ∧
      Tables.Follows c.shared.issued new c.shared.tables c'.shared.tables := by
  have hstays : Tables.Follows c.shared.issued [] c.shared.tables c.shared.tables :=
    .of_change (.retains (.of_eq rfl rfl)) h.filed h.counted h.within
  cases hgoes with
  | stays => exact ⟨[], rfl, hstays⟩
  | enters => exact ⟨[], rfl, hstays⟩
  | leaves => exact ⟨[], rfl, hstays⟩
  | steps hstep =>
    obtain ⟨new, hissued, hfollows, -⟩ :=
      Party.follows_of_step h.filed h.counted h.within (h.parties _ (by simp)) hstep
    exact ⟨new, hissued, hfollows⟩
  | changes hpermits =>
    have hpermits : deployerSharing.permits _ _ = true := hpermits
    simp only [deployerSharing, Bool.and_eq_true, decide_eq_true_eq] at hpermits
    obtain ⟨⟨⟨happs, hdeployments⟩, -⟩, hissued⟩ := hpermits
    exact ⟨[], hissued, .of_change (.retains (.of_eq hdeployments happs)) h.filed h.counted h.within⟩

theorem of_goes (h : OpenScene c) (hgoes : Scene.Goes openSharing c c') : OpenScene c' := by
  obtain ⟨new, hissued, hfollows⟩ := h.follows_of_goes hgoes
  refine ⟨hfollows.filed, hfollows.counted, hissued ▸ hfollows.within, ?_⟩
  cases hgoes with
  | stays => exact h.parties
  | enters => exact List.forall_mem_append.mpr ⟨h.parties, List.forall_mem_singleton.mpr (Party.steady_enter _)⟩
  | @steps before after p p' s s' hstep =>
    intro q hq
    rcases List.mem_cons.mp (List.perm_middle.mem_iff.mp hq) with rfl | hq
    · obtain ⟨-, -, -, hsteady⟩ := Party.follows_of_step h.filed h.counted h.within (h.parties p (by simp)) hstep
      exact hsteady
    · have hmem : q ∈ before ++ p :: after := List.perm_middle.mem_iff.mpr (List.mem_cons_of_mem p hq)
      exact (h.parties q hmem).of_follows hissued hfollows
  | @leaves before after p =>
    have hsub : (before ++ after).Sublist (before ++ p :: after) := (List.sublist_cons_self p after).append_left before
    exact fun q hq => h.parties q (hsub.subset hq)
  | changes => exact fun q hq => (h.parties q hq).of_follows hissued hfollows

end OpenScene

theorem openScene_empty (c : Config) : OpenScene ⟨[], ⟨.ofConfig c, []⟩⟩ := by
  refine ⟨Tables.filed_empty, fun id hsome => ?_, fun app hsome => ?_, List.forall_mem_nil _⟩
  · cases hsome
  · cases hsome

theorem openScene_after (c : Config) (as : List (Action Errand Deployer)) : OpenScene (openAfter c as) :=
  Scene.run_induction (fun _ _ => OpenScene.of_goes) (openScene_empty c) as

/-! ## Calls that succeed, and calls that cannot -/

namespace RequestCall

variable {p p' : RequestCall} {s s' : Store} {a : App} {n : DeploymentNumber} {e : Environment} {requested : Signature}

/-- The number that an uninterrupted call returns is the one that it found, and its last step goes through. -/
theorem queueDeployment_eq_ok_iff {app : AppId} :
    (s.queueDeployment app e requested).1 = .ok n ↔
      (∃ a, ((enter app (.deployment e requested)).steps 2 s).1.phase = .numbered a n e requested) ∧
        ((enter app (.deployment e requested)).steps 3 s).1.phase = .ended (.ok ()) := by
  rw [(steps_of_deployment app e requested s).1]
  rcases hload : s.loadApp app with ⟨error | a, s₁⟩
  · simp [steps, enter, step, andThen, hload, Store.queueDeployment, Store.andThen, Except.map]
  · rcases hnumber : s₁.nextNumber app with ⟨error | m, s₂⟩
    · simp [steps, enter, step, andThen, hload, hnumber, Store.queueDeployment, Store.andThen, Except.map]
    · cases hcommit : (s₂.commit m (a.newDeployment m e requested)).1 with
      | error error =>
        simp [steps, enter, step, andThen, hload, hnumber, Store.queueDeployment, Store.andThen, Except.map, hcommit]
      | ok k =>
        have hk : k = m := by
          cases hbuilt : a.newDeployment m e requested with
          | error error => simp [Store.commit, hbuilt] at hcommit
          | ok d =>
            simp only [Store.commit, hbuilt] at hcommit
            split at hcommit
            · cases hcommit
            · exact (Except.ok.inj hcommit).symm
        simp [steps, enter, step, andThen, hload, hnumber, Store.queueDeployment, Store.andThen, Except.map, hcommit, hk]

/-- **A call that succeeds stores its own row**, under the number that it has found. -/
theorem stored_of_step (hphase : p.phase = .numbered a n e requested) (hid : a.id = p.app)
    (hok : (p.step s).1.phase = .ended (.ok ())) :
    (s.db.tables.app? p.app).isSome = true ∧ s.db.tables.deployment? ⟨p.app, n⟩ = none ∧
      (p.step s).2.db.tables = { s.db.tables with
        deployments := s.db.tables.deployments ++
          [.ofCreated ⟨p.app, n⟩ ⟨a.name, e, (a.environment e).target, (a.environment e).vars⟩ .initial requested] } := by
  have hstep : p.step s = p.finish (a.newDeployment n e requested) s := by simp only [step, hphase]
  rw [hstep] at hok ⊢
  have hcommit : (s.commit () (a.newDeployment n e requested)).1 = .ok () := RequestPhase.ended.inj hok
  have hcomes : s.Comes (fun (_ : Unit) built => built = a.newDeployment n e requested)
      (s.commit () (a.newDeployment n e requested)).1 (s.commit () (a.newDeployment n e requested)).2 :=
    Store.comes_of_commit 0 rfl (by rw [Store.skip_zero])
  have hall : isUndispatched (s.commit () (a.newDeployment n e requested)).1 = false := by rw [hcommit]; rfl
  rcases hcomes.cases_of_dispatched hall with ⟨_, -, hfailed, -⟩ | ⟨_, d, -, hd, -, hwritten, -⟩
  · cases hcommit.symm.trans hfailed
  · rw [App.newDeployment, eq_comm, bind_eq_ok] at hd
    obtain ⟨-, -, hd⟩ := hd
    cases pure_eq_ok.mp hd
    obtain ⟨t₁, hinsert, hrest⟩ := Database.exists_of_foldlM_cons hwritten
    cases hrest
    rw [hid] at hinsert
    obtain ⟨happ, hfree⟩ := Tables.isFree_of_insertDeployment (DeploymentRow.isOf_iff.mpr ⟨rfl, rfl⟩) hinsert
    exact ⟨happ, hfree, (Tables.insertDeployment_eq_ok.mp hinsert).2.2⟩

/-- The next step of a call for a deployment cannot succeed: its app is gone, there is no number left, or its number has
been taken by another. -/
def IsFoiled (t : Tables) (p : RequestCall) : Prop :=
  match p.phase with
  | .entered (.deployment ..) => t.app? p.app = none
  | .loaded (.deployment ..) _ =>
    ∃ last : DeploymentNumber, last.toNat + 1 = DeploymentNumber.limit ∧ (t.deployment? ⟨p.app, last⟩).isSome = true
  | .numbered a n _ _ =>
    a.cleanupRequested = none ∧ (t.app? p.app = none ∨ (t.deployment? ⟨p.app, n⟩).isSome = true)
  | _ => False

/-- A call ends when the store has no answer for it. -/
theorem fails_of_andThen {β : Type} {question : Tables → Except StoreError β} {next : β → RequestPhase}
    {error : StoreError} (hquestion : question s.db.tables = .error error) (herror : wasStored (.error error) = false)
    (h : p.andThen (s.query question) next = (p', s')) :
    ∃ e, p' = ⟨p.app, .ended (.error (.store e))⟩ ∧ wasStored (.error e) = false ∧
      s'.db.tables = s.db.tables := by
  rcases s.query_eq question with ⟨e, hquery⟩ | hquery
  · rw [hquery] at h
    cases h
    exact ⟨_, rfl, rfl, Store.tables_skip 1⟩
  · rw [hquery, hquestion] at h
    cases h
    exact ⟨_, rfl, herror, Store.tables_skip 1⟩

/-- There is no number after the last one. -/
theorem exists_error_of_last {t : Tables} {app : AppId} {last : DeploymentNumber} (hfiled : t.Filed)
    (hlast : last.toNat + 1 = DeploymentNumber.limit) (hstored : (t.deployment? ⟨app, last⟩).isSome = true) :
    ∃ error, t.nextNumber app = .error error := by
  cases hn : t.nextNumber app with
  | error error => exact ⟨error, rfl⟩
  | ok n =>
    have hlt := n.toNat_lt
    rcases hfiled.nextNumber_cases hn with ⟨-, hnone⟩ | ⟨m, hm, -, hmax⟩
    · rw [hnone last] at hstored
      cases hstored
    · have hle := hmax last hstored
      omega

/-- **A call that cannot succeed fails at the store**, and stores nothing. -/
theorem fails_of_isFoiled (hfiled : s.db.tables.Filed) (hid : ∀ a, p.copy? = some a → a.id = p.app)
    (hfoiled : p.IsFoiled s.db.tables) :
    ∃ e, (p.step s).1 = ⟨p.app, .ended (.error (.store e))⟩ ∧ wasStored (.error e) = false ∧
      (p.step s).2.db.tables = s.db.tables := by
  unfold IsFoiled at hfoiled
  split at hfoiled
  case h_1 _ hphase =>
    have hnone : s.db.tables.app p.app = .error (.notFound "app") := by rw [Tables.app, hfoiled]; rfl
    simp only [step, hphase]
    exact fails_of_andThen hnone rfl rfl
  case h_2 _ hphase =>
    obtain ⟨last, hlast, hstored⟩ := hfoiled
    obtain ⟨error, herror⟩ := exists_error_of_last hfiled hlast hstored
    simp only [step, hphase]
    exact fails_of_andThen herror (Tables.wasStored_of_nextNumber herror) rfl
  case h_3 a n e requested hphase =>
    obtain ⟨hopen, hfoiled⟩ := hfoiled
    have hid : a.id = p.app := hid a (by rw [copy?, hphase])
    have hstep : p.step s = p.finish (a.newDeployment n e requested) s := by simp only [step, hphase]
    rw [hstep]
    obtain ⟨d, hd⟩ : ∃ d, a.newDeployment n e requested = .ok d := by
      refine ⟨_, bind_eq_ok.mpr ⟨(), App.ensureNotCleaningUp_eq_ok.mpr hopen, pure_eq_ok.mpr rfl⟩⟩
    rcases s.write_cases [d] with ⟨error, k, hwrite⟩ | ⟨-, tables, -, -, happlied, -, -⟩
    · simp only [finish, hd, Store.commit, hwrite]
      exact ⟨_, rfl, rfl, Database.tables_skip⟩
    · -- the row could not have been inserted
      rw [App.newDeployment, bind_eq_ok] at hd
      obtain ⟨-, -, hd⟩ := hd
      cases pure_eq_ok.mp hd
      rw [pendingEvents, List.flatMap_singleton] at happlied
      obtain ⟨t₁, hinsert, -⟩ := Database.exists_of_foldlM_cons happlied
      rw [hid] at hinsert
      obtain ⟨happ, hfree⟩ := Tables.isFree_of_insertDeployment (DeploymentRow.isOf_iff.mpr ⟨rfl, rfl⟩) hinsert
      rcases hfoiled with hnone | htaken
      · rw [hnone] at happ
        cases happ
      · rw [hfree] at htaken
        cases htaken
  case h_4 => exact hfoiled.elim

end RequestCall

/-! ## Numbers that are given -/

/-- The deployment whose number a party returns by the step that makes it `p'`. -/
def Party.given? (p p' : Party) : Option DeploymentId :=
  match p, p' with
  | .requesting ⟨app, .numbered _ n _ _⟩, .requesting ⟨_, .ended (.ok _)⟩ => some ⟨app, n⟩
  | _, _ => none

/-- The deployment whose number is returned in a turn. -/
def Scene.Turn.given? (e : Scene.Turn Errand Party Deployer) : Option DeploymentId :=
  match e.action with
  | .step i => do
    let p ← e.before.parties[i]?
    let p' ← e.after.parties[i]?
    p.given? p'
  | _ => none

/-- The deployments whose numbers have been returned. -/
def given (c : Scene Party Deployer) (as : List (Action Errand Deployer)) : List DeploymentId :=
  (c.history openSharing as).filterMap (·.given?)

/-- The number of the deployment is not free any more. -/
structure Deployer.IsTaken (s : Deployer) (id : DeploymentId) : Prop where
  issued : id.app ∈ s.issued
  stored : (s.tables.app? id.app).isSome = true → (s.tables.deployment? id).isSome = true

theorem Deployer.IsTaken.of_spares {s s' : Deployer} {id : DeploymentId} {new : List AppId} (h : s.IsTaken id)
    (hissued : s'.issued = new ++ s.issued) (hspares : Tables.Spares s.issued s.tables s'.tables) : s'.IsTaken id := by
  refine ⟨hissued ▸ List.mem_append_right _ h.issued, fun hsome => ?_⟩
  refine hspares.deployment id h.issued hsome (h.stored ?_)
  obtain ⟨r', hr'⟩ := Option.isSome_iff_exists.mp hsome
  obtain ⟨r, hr, -⟩ := hspares.app id.app h.issued r' hr'
  rw [hr]
  rfl

namespace OpenScene

variable {c : Scene Party Deployer} {a : Action Errand Deployer} {as : List (Action Errand Deployer)}
  {id : DeploymentId}

/-- What a call comes to by its step. -/
theorem getElem?_perform {i : Nat} {p : RequestCall} (hp : c.parties[i]? = some (.requesting p)) :
    (c.perform openSharing (.step i)).parties[i]? = some (.requesting (p.step c.shared.system.store).1) ∧
      (c.perform openSharing (.step i)).shared.tables = (p.step c.shared.system.store).2.db.tables := by
  obtain ⟨hlt, -⟩ := List.getElem?_eq_some_iff.mp hp
  rw [Scene.perform_step hp]
  exact ⟨List.getElem?_set_self hlt, rfl⟩

/-- A number is returned by the last step of a call that has found it. -/
theorem exists_of_given? (h : (Scene.Turn.mk c a (c.perform openSharing a)).given? = some id) :
    ∃ i p b n e requested, a = .step i ∧ c.parties[i]? = some (.requesting p) ∧ p.phase = .numbered b n e requested ∧
      id = ⟨p.app, n⟩ ∧ (p.step c.shared.system.store).1.phase = .ended (.ok ()) := by
  unfold Scene.Turn.given? at h
  split at h
  case h_1 i haction =>
    obtain rfl : a = .step i := haction
    simp only [Option.bind_eq_bind, Option.bind_eq_some_iff] at h
    obtain ⟨p, hp, p', hp', hgiven⟩ := h
    unfold Party.given? at hgiven
    split at hgiven
    case h_1 app b n e requested app' _ =>
      obtain ⟨hafter, -⟩ := getElem?_perform hp
      refine ⟨i, _, b, n, e, requested, rfl, hp, rfl, (Option.some.inj hgiven).symm, ?_⟩
      rw [← Party.requesting.inj (Option.some.inj (hp'.symm.trans hafter))]
    case h_2 => cases hgiven
  case h_2 => cases h

theorem isTaken_of_given? (h : OpenScene c) (hgiven : (Scene.Turn.mk c a (c.perform openSharing a)).given? = some id) :
    ¬c.shared.IsTaken id ∧ (c.perform openSharing a).shared.IsTaken id := by
  obtain ⟨i, p, b, n, e, requested, rfl, hp, hphase, rfl, hok⟩ := exists_of_given? hgiven
  have hsound : p.Sound c.shared.issued c.shared.tables := h.parties _ (List.mem_of_getElem? hp)
  have hid : b.id = p.app := hsound.id b (by rw [RequestCall.copy?, hphase])
  obtain ⟨hsome, hfree, hstored⟩ := RequestCall.stored_of_step hphase hid hok
  obtain ⟨-, htables⟩ := getElem?_perform hp
  refine ⟨fun htaken => ?_, ?_, fun _ => ?_⟩
  · have hthere := htaken.stored hsome
    rw [Deployer.tables, System.tables, hfree] at hthere
    cases hthere
  · obtain ⟨new, hissued, -⟩ := h.follows_of_goes (Scene.goes_perform c (.step i))
    rw [hissued]
    exact List.mem_append_right _ (h.within p.app hsome)
  · rw [htables, hstored, Tables.deployment?, List.find?_append]
    simp [DeploymentRow.isOf, DeploymentRow.ofCreated]

/-- A number that is returned was free before, and is not returned again. -/
theorem nodup_given (h : OpenScene c) : (given c as).Nodup ∧ ∀ id ∈ given c as, ¬c.shared.IsTaken id := by
  induction as generalizing c with
  | nil => exact ⟨List.nodup_nil, List.forall_mem_nil _⟩
  | cons a as ih =>
    have hgoes := Scene.goes_perform (P := openSharing) c a
    obtain ⟨hnodup, hfree⟩ := ih (h.of_goes hgoes)
    obtain ⟨new, hissued, hfollows⟩ := h.follows_of_goes hgoes
    have hlater : ∀ id ∈ given (c.perform openSharing a) as, ¬c.shared.IsTaken id :=
      fun id hid htaken => hfree id hid (htaken.of_spares hissued hfollows.spares)
    cases hgiven : (Scene.Turn.mk c a (c.perform openSharing a)).given? with
    | none =>
      rw [given, Scene.history, List.filterMap_cons_none hgiven]
      exact ⟨hnodup, hlater⟩
    | some id =>
      obtain ⟨hbefore, hafter⟩ := h.isTaken_of_given? hgiven
      rw [given, Scene.history, List.filterMap_cons_some hgiven]
      exact ⟨List.nodup_cons.mpr ⟨fun hid => hfree id hid hafter, hnodup⟩,
        List.forall_mem_cons.mpr ⟨hbefore, hlater⟩⟩

end OpenScene

/-- **Deployments are numbered without a gap, and no number is given twice**, whatever comes in whatever order: the
stored numbers of an app are those from 1 up to some number; a call that succeeds stores its own row under the number
that it returns; and a call that has come too late, or has no number left, fails at the store and stores nothing. -/
theorem deployment_numbers (c : Config) (as : List (Action Errand Deployer)) :
    (∀ app, ∃ k < DeploymentNumber.limit,
      ((openAfter c as).shared.tables.numbers app).Perm ((List.range' 1 k).map fun n : Nat => .integer n)) ∧
    (given ⟨[], ⟨.ofConfig c, []⟩⟩ as).Nodup ∧
    ∀ turn ∈ (Scene.mk [] ⟨.ofConfig c, []⟩).history openSharing as, ∀ i p, turn.action = .step i →
      turn.before.parties[i]? = some (.requesting p) →
      (∀ a n e requested, p.phase = .numbered a n e requested →
        turn.after.parties[i]? = some (.requesting ⟨p.app, .ended (.ok ())⟩) →
          turn.before.shared.tables.deployment? ⟨p.app, n⟩ = none ∧
          turn.after.shared.tables = { turn.before.shared.tables with
            deployments := turn.before.shared.tables.deployments ++
              [.ofCreated ⟨p.app, n⟩ ⟨a.name, e, (a.environment e).target, (a.environment e).vars⟩ .initial
                requested] }) ∧
      (p.IsFoiled turn.before.shared.tables →
        ∃ error, turn.after.parties[i]? = some (.requesting ⟨p.app, .ended (.error (.store error))⟩) ∧
          wasStored (.error error) = false ∧ turn.after.shared.tables = turn.before.shared.tables) := by
  have hscene := openScene_after c as
  refine ⟨hscene.filed.numbers_perm hscene.counted, (openScene_empty c).nodup_given.1, ?_⟩
  intro turn hturn i p haction hp
  obtain ⟨hbefore, hafter⟩ :=
    Scene.forall_mem_history (fun _ _ => OpenScene.of_goes) (openScene_empty c) as turn hturn
  have hsound : p.Sound turn.before.shared.issued turn.before.shared.tables :=
    hbefore.parties _ (List.mem_of_getElem? hp)
  obtain ⟨hparty, htables⟩ := OpenScene.getElem?_perform hp
  rw [hafter, haction]
  rw [hparty, htables]
  constructor
  · intro a n e requested hphase hended
    have hid : a.id = p.app := hsound.id a (by rw [RequestCall.copy?, hphase])
    have hok : (p.step turn.before.shared.system.store).1.phase = .ended (.ok ()) := by
      rw [Party.requesting.inj (Option.some.inj hended)]
    exact (RequestCall.stored_of_step hphase hid hok).2
  · intro hfoiled
    obtain ⟨error, hended, hnot, hsame⟩ := RequestCall.fails_of_isFoiled hbefore.filed hsound.id hfoiled
    exact ⟨error, by rw [hended], hnot, hsame⟩

/-! ## Two calls that find the same number -/

namespace Race

def config : Config := .forTests "data"

def signature : Signature := ⟨default, default⟩

def environment : EnvConfig := ⟨default, default, none⟩

theorem isValid_cafe : AppName.isValid "cafe".toList := by decide

def input : NewApp := ⟨⟨"cafe", isValid_cafe⟩, environment, environment, none⟩

def addTarget (s : Deployer) : Deployer :=
  { s with system.store.db.tables.targets := [⟨default, false⟩] }

def request : Errand := .request default (.deployment .production signature)

/-- An app is created, two calls find the first number, and the later one is the first to use it. -/
def actions : List (Action Errand Deployer) :=
  [.elsewhere addTarget, .enter (.change ⟨default, .create input signature⟩), .step 0, .step 0,
    .enter request, .enter request, .step 1, .step 1, .step 2, .step 2, .step 2]

/-- The number that a call has found, with its app and whether that is about to be cleaned up. -/
def found? : Party → Option (AppId × DeploymentNumber × Option Signature)
  | .requesting ⟨app, .numbered a n _ _⟩ => some (app, n, a.cleanupRequested)
  | _ => none

end Race

open Race in
/-- One of two calls that have found the same number returns it, and the other one fails. -/
theorem deployment_numbers_race :
    given ⟨[], ⟨.ofConfig config, []⟩⟩ (actions ++ [.step 1]) = [⟨default, ⟨1⟩⟩] ∧
      ∃ error, (openAfter config (actions ++ [.step 1])).parties[1]? =
          some (.requesting ⟨default, .ended (.error (.store error))⟩) ∧
        (openAfter config (actions ++ [.step 1])).shared.tables = (openAfter config actions).shared.tables ∧
        ∃ k < DeploymentNumber.limit, ((openAfter config actions).shared.tables.numbers default).Perm
          ((List.range' 1 k).map fun n : Nat => .integer n) := by
  obtain ⟨hgapless, -⟩ := deployment_numbers config actions
  obtain ⟨-, -, hturns⟩ := deployment_numbers config (actions ++ [.step 1])
  have hturn := Scene.turn_mem_history (P := openSharing) ⟨[], ⟨.ofConfig config, []⟩⟩ actions (.step 1) []
  have hafter : openAfter config (actions ++ [.step 1]) = (openAfter config actions).perform openSharing (.step 1) :=
    Scene.run_concat ..
  have hgiven : given ⟨[], ⟨.ofConfig config, []⟩⟩ (actions ++ [.step 1]) = [⟨default, ⟨1⟩⟩] := by decide +kernel
  have hfound : (openAfter config actions).parties[1]?.bind found? = some (default, ⟨1⟩, none) := by decide +kernel
  have htaken : ((openAfter config actions).shared.tables.deployment? ⟨default, ⟨1⟩⟩).isSome = true := by
    decide +kernel
  obtain ⟨q, hq, hfound⟩ := Option.bind_eq_some_iff.mp hfound
  unfold found? at hfound
  split at hfound
  case h_2 => cases hfound
  case h_1 app a n _ _ =>
    obtain ⟨rfl, rfl, hopen⟩ : app = default ∧ n = ⟨1⟩ ∧ a.cleanupRequested = none := by simpa using hfound
    obtain ⟨-, hfoiled⟩ := hturns _ hturn 1 _ rfl hq
    obtain ⟨error, hended, -, hsame⟩ := hfoiled ⟨hopen, .inr htaken⟩
    rw [hafter]
    exact ⟨hgiven, error, hended, hsame, hgapless default⟩

end Rollout
