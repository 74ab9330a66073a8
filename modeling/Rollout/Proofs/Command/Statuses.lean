import Rollout.Proofs.Command.Changes
import Rollout.Proofs.Interleaving

/-!
# Statuses when deploy commands overlap

Any number of deploy commands take their steps in any order, at most one command for each deployment at a time. A
command keeps copies of deployments between its steps: the stored status of its own is that of its copy, unless another
command has closed the deployment since (`Deploying.Sound`).

A stored status that is not finished goes on to one that may follow it. A finished one does not stay in all cases: a
command whose copy is from before the end writes over it (`status_of_turn`), and a deployment that was closed for a
newer one may then run after all (`overtaken_runs`).
-/

namespace Rollout

/-- What a deploy command comes in with. -/
structure DeployErrand where
  id : DeploymentId
  context : Context
  holds : Bool

/-- Deploy commands on one system, at most one for each deployment. Meanwhile more deployments may be asked for. -/
def deploySharing : Sharing DeployErrand Deploying System where
  enter e := .enter e.id e.context e.holds
  admits ps e := ps.all fun p => p.isOver || p.id ≠ e.id
  step := Deploying.step
  permits s s' := s.tables.deployments.isPrefixOf s'.tables.deployments

/-- The stored status is that of the copy, or the deployment has failed since. -/
def Tables.Backs (t : Tables) (d : Deployment) : Prop :=
  ∃ r s, t.deployment? d.id = some r ∧ r.status.read "state_status" = .ok s ∧ (s = d.state.status ∨ s = .failed)

namespace Deploying

variable {p p' q : Deploying} {t t' : Tables} {r r' : DeploymentRow} {id : DeploymentId}

/-- What holds of a command's copies between its steps. -/
structure Sound (t : Tables) (p : Deploying) : Prop where
  events : ∀ d ∈ p.copies, d.events = .empty
  id : ∀ d, p.own? = some d → d.id = p.id
  backs : ∀ d, p.own? = some d → t.Backs d

theorem mem_copies {d : Deployment} : d ∈ p.copies ↔ p.own? = some d ∨ d ∈ p.older := by
  simp [copies]

theorem Sound.of_copies_eq_nil (h : p.copies = []) : p.Sound t := by
  have hnone (d : Deployment) : d ∉ p.copies := by simp [h]
  exact ⟨fun d hd => absurd hd (hnone d), fun d hd => absurd (mem_copies.mpr (.inl hd)) (hnone d),
    fun d hd => absurd (mem_copies.mpr (.inl hd)) (hnone d)⟩

theorem copies_of_isOver (h : p.isOver = true) : p.copies = [] := by
  obtain ⟨id, context, holds, phase⟩ := p
  cases phase <;> first | rfl | cases h

theorem Sound.events_own (h : p.Sound t) {d : Deployment} (hd : p.own? = some d) : d.events = .empty :=
  h.events d (mem_copies.mpr (.inl hd))

theorem Sound.events_older (h : p.Sound t) : ∀ o ∈ p.older, o.events = .empty :=
  fun o ho => h.events o (mem_copies.mpr (.inr ho))

/-! ## One step -/

/-- What a step of `p` can do to the row of a deployment. -/
inductive Rewrites (p : Deploying) (id : DeploymentId) (r : DeploymentRow) : DeploymentRow → Prop where
  | keeps : Rewrites p id r r
  | moves {d d' : Deployment} (hd : p.own? = some d) (hid : d.id = id) (h : d.Moved d') :
    Rewrites p id r (r.withState d'.state)
  | closes {o o' : Deployment} (ho : o ∈ p.copies) (hid : o.id = id) (h : o.Moved o')
      (hfailed : o'.state.status = .failed) : Rewrites p id r (r.withState o'.state)

/-- Every deployment that is written is a copy that changed its state, and all but the last are closed. -/
theorem rewrites_changeStates {d d' : Deployment} {closed : List Deployment} (hd : p.own? = some d) (hd' : d.Moved d')
    (hclosed : ∀ o' ∈ closed, ∃ o ∈ p.copies, o.Moved o' ∧ o'.state.status = .failed)
    (hr : t.deployment? id = some r) :
    ∃ r', (t.changeStates (closed ++ [d'])).deployment? id = some r' ∧ p.Rewrites id r r' := by
  rw [Tables.deployment?_changeStates, hr, Option.map_some]
  refine ⟨_, rfl, ?_⟩
  split
  · next last hlast =>
    have hmem := List.mem_filter.mp (List.mem_of_getLast? hlast)
    have hid : last.id = id := of_decide_eq_true hmem.2
    rcases List.mem_append.mp hmem.1 with hold | hown
    · obtain ⟨o, ho, hmoved, hfailed⟩ := hclosed last hold
      exact .closes ho (hmoved.id.symm.trans hid) hmoved hfailed
    · obtain rfl : last = d' := List.mem_singleton.mp hown
      exact .moves hd (hd'.id.symm.trans hid) hd'
  · exact .keeps

/-- Deployments that changed their states and had nothing else to be written. -/
theorem hasChanged_of_moved {d d' : Deployment} {os closed : List Deployment} (hd : d.events = .empty)
    (hos : ∀ o ∈ os, o.events = .empty) (hd' : d.Moved d')
    (hclosed : List.Forall₂ (fun o o' => o.Moved o' ∧ o'.state.status = .failed) os closed) :
    ∀ o' ∈ closed ++ [d'], o'.HasChanged := by
  intro o' ho'
  rcases List.mem_append.mp ho' with ho' | ho'
  · obtain ⟨o, ho, hmoved, -⟩ := exists_left_of_forall₂ hclosed o' ho'
    exact hmoved.hasChanged (hos o ho)
  · rw [List.mem_singleton.mp ho']
    exact hd'.hasChanged hd

/-- The tables after a step: as before, or with the states of some deployments changed, the last being its own. -/
theorem Effect.tables_cases (h : Effect p t p' t') (hevents : ∀ d ∈ p.copies, d.events = .empty) :
    t' = t ∨ ∃ d closed d', p.own? = some d ∧ d.Moved d' ∧
      (∀ o' ∈ closed, ∃ o ∈ p.copies, o.Moved o' ∧ o'.state.status = .failed) ∧
      t' = t.changeStates (closed ++ [d']) := by
  cases h with
  | ends _ _ => exact .inl rfl
  | loads _ => exact .inl rfl
  | gathers _ _ => exact .inl rfl
  | builds _ _ _ => exact .inl rfl
  | @starts d d' closed _ _ hd hclosed hd' hwritten _ _ =>
    have hchanged := hasChanged_of_moved (hevents d (mem_copies.mpr (.inl hd)))
      (fun o ho => hevents o (mem_copies.mpr (.inr ho))) hd' hclosed
    refine .inr ⟨d, closed, d', hd, hd', fun o' ho' => ?_, foldlM_pendingEvents hchanged hwritten⟩
    obtain ⟨o, ho, hmoved⟩ := exists_left_of_forall₂ hclosed o' ho'
    exact ⟨o, mem_copies.mpr (.inr ho), hmoved⟩
  | @records d d' _ _ hd hd' hwritten _ _ =>
    have hchanged := hasChanged_of_moved (hevents d (mem_copies.mpr (.inl hd))) (by simp) hd' .nil
    exact .inr ⟨d, [], d', hd, hd', by simp, foldlM_pendingEvents hchanged hwritten⟩

theorem Effect.rewrites (h : Effect p t p' t') (hs : p.Sound t) (hr : t.deployment? id = some r) :
    ∃ r', t'.deployment? id = some r' ∧ p.Rewrites id r r' := by
  rcases h.tables_cases hs.events with rfl | ⟨d, closed, d', hd, hd', hclosed, rfl⟩
  · exact ⟨r, hr, .keeps⟩
  · exact rewrites_changeStates hd hd' hclosed hr

/-! ## Copies -/

/-- A step of another command leaves the row as it is, or closes the deployment. -/
theorem Rewrites.of_ne (h : p.Rewrites id r r') (hs : p.Sound t) (hid : id ≠ p.id) :
    r' = r ∨ r'.status = .value .failed := by
  cases h with
  | keeps => exact .inl rfl
  | moves hd hid' _ => exact absurd (hid'.symm.trans (hs.id _ hd)) hid
  | closes _ _ _ hfailed => exact .inr (congrArg Column.value hfailed)

theorem Sound.of_others (hq : q.Sound t) (hp : p.Sound t) (h : Effect p t p' t')
    (hapart : q.isOver = true ∨ q.id ≠ p.id) : q.Sound t' := by
  refine ⟨hq.events, hq.id, fun d hd => ?_⟩
  have hid : d.id ≠ p.id := by
    rcases hapart with hover | hne
    · have hnone : d ∈ q.copies := mem_copies.mpr (.inl hd)
      rw [copies_of_isOver hover] at hnone
      cases hnone
    · exact hq.id d hd ▸ hne
  obtain ⟨r, s, hr, hread, hstatus⟩ := hq.backs d hd
  obtain ⟨r', hr', hrewrites⟩ := h.rewrites hp hr
  rcases hrewrites.of_ne hp hid with rfl | hfailed
  · exact ⟨r', s, hr', hread, hstatus⟩
  · exact ⟨r', .failed, hr', by rw [hfailed]; rfl, .inr rfl⟩

/-- A command has a copy of its own deployment, perhaps beside copies of older ones. -/
theorem Sound.of_own {d : Deployment} {os : List Deployment} (hown : p.own? = some d) (holder : p.older = os)
    (hevents : d.events = .empty) (hos : ∀ o ∈ os, o.events = .empty) (hid : d.id = p.id) (hbacks : t.Backs d) :
    p.Sound t := by
  have heq (d' : Deployment) (hd' : p.own? = some d') : d = d' := Option.some.inj (hown.symm.trans hd')
  refine ⟨fun d' hd' => ?_, fun d' hd' => heq d' hd' ▸ hid, fun d' hd' => heq d' hd' ▸ hbacks⟩
  rcases mem_copies.mp hd' with hd' | hd'
  · exact heq d' hd' ▸ hevents
  · exact hos d' (holder ▸ hd')

/-- What a command has just written of its own deployment is what is stored. -/
theorem backs_of_starts {d d' : Deployment} {closed : List Deployment} (hd' : d.Moved d') (hbacks : t.Backs d) :
    (t.changeStates (closed ++ [d'])).Backs (Aggregate.cleared d') := by
  obtain ⟨r, -, hr, -⟩ := hbacks
  have hid : (Aggregate.cleared d').id = d'.id := rfl
  have hlast : ((closed ++ [d']).filter (·.id = d'.id)).getLast? = some d' := by simp [List.filter_append]
  refine ⟨r.withState d'.state, d'.state.status, ?_, rfl, .inl rfl⟩
  rw [hid, Tables.deployment?_changeStates, hlast, hd'.id, hr]
  rfl

theorem Sound.of_effect (hp : p.Sound t) (h : Effect p t p' t') : p'.Sound t' := by
  cases h with
  | ends _ hover => exact .of_copies_eq_nil (copies_of_isOver hover)
  | loads hd =>
    obtain ⟨r, hr, hshows⟩ := Tables.deployment_eq_ok.mp hd
    have hid := Tables.id_of_shows hr hshows
    exact .of_own rfl rfl hshows.events (List.forall_mem_nil _) hid ⟨r, _, hid.symm ▸ hr, hshows.status, .inl rfl⟩
  | gathers hd holder =>
    refine .of_own rfl rfl (hp.events_own hd) (fun o ho => ?_) (hp.id _ hd) (hp.backs _ hd)
    have hrows := DeploymentRow.toDeployments_eq_ok (mapError_eq_ok.mp holder)
    obtain ⟨r, -, hshows⟩ := exists_left_of_forall₂ hrows o ho
    exact hshows.events
  | @builds _ p' _ _ hd hid hphase =>
    have holder : p'.older = [] := by simp only [older, hphase]
    exact .of_own (by simp only [own?, hphase]) holder (hp.events_own hd) (List.forall_mem_nil _)
      (hid.symm ▸ hp.id _ hd) (hp.backs _ hd)
  | @starts d d' closed p' _ hd hclosed hd' hwritten hid hphase =>
    rcases hphase with hover | hphase
    · exact .of_copies_eq_nil (copies_of_isOver hover)
    · have hchanged := hasChanged_of_moved (hp.events_own hd) hp.events_older hd' hclosed
      have holder : p'.older = [] := by simp only [older, hphase]
      have hd'id : (Aggregate.cleared d').id = p'.id := hd'.id.trans ((hp.id d hd).trans hid.symm)
      rw [foldlM_pendingEvents hchanged hwritten]
      exact .of_own (by simp only [own?, hphase]) holder rfl (List.forall_mem_nil _) hd'id
        (backs_of_starts hd' (hp.backs d hd))
  | records _ _ _ _ hover => exact .of_copies_eq_nil (copies_of_isOver hover)

end Deploying

/-! ## Many commands -/

/-- Two commands are not for one deployment, unless one of them is over. -/
def Deploying.Apart (p q : Deploying) : Prop := p.isOver = true ∨ q.isOver = true ∨ p.id ≠ q.id

theorem Deploying.Apart.symm {p q : Deploying} (h : p.Apart q) : q.Apart p := by
  rcases h with hp | hq | hne
  · exact .inr (.inl hp)
  · exact .inl hq
  · exact .inr (.inr (Ne.symm hne))

/-- Rows that are added behind the others leave what is found as it is. -/
theorem Tables.deployment?_of_grown {t t' : Tables} {id : DeploymentId} {r : DeploymentRow}
    (hr : t.deployment? id = some r) (hgrown : t.deployments <+: t'.deployments) : t'.deployment? id = some r := by
  obtain ⟨added, hadded⟩ := hgrown
  have hfound : t.deployments.find? (·.isOf id) = some r := hr
  rw [Tables.deployment?, ← hadded, List.find?_append, hfound]
  rfl

theorem Tables.Backs.of_grown {t t' : Tables} {d : Deployment} (h : t.Backs d)
    (hgrown : t.deployments <+: t'.deployments) : t'.Backs d := by
  obtain ⟨r, s, hr, hread, hstatus⟩ := h
  exact ⟨r, s, deployment?_of_grown hr hgrown, hread, hstatus⟩

/-- What holds of the commands on a system at all times. -/
structure DeployScene (s : Scene Deploying System) : Prop where
  sound : ∀ p ∈ s.parties, p.Sound s.shared.tables
  apart : s.parties.Pairwise Deploying.Apart

namespace DeployScene

theorem none (s : System) : DeployScene ⟨[], s⟩ := ⟨List.forall_mem_nil _, .nil⟩

variable {s s' : System} {p p' : Deploying} {before after : List Deploying}

theorem apart_of_mem (h : DeployScene ⟨before ++ p :: after, s⟩) {q : Deploying} (hq : q ∈ before ++ after) :
    p.Apart q := by
  have hpairwise := (List.pairwise_middle fun h => Deploying.Apart.symm h).mp h.apart
  exact (List.pairwise_cons.mp hpairwise).1 q hq

theorem of_step (h : DeployScene ⟨before ++ p :: after, s⟩) (hstep : p.step s = (p', s')) :
    DeployScene ⟨before ++ p' :: after, s'⟩ := by
  cases hover : p.isOver with
  | true =>
    cases (Deploying.step_of_isOver hover).symm.trans hstep
    exact h
  | false =>
    have heffect := Deploying.effect_of_step hstep
    have hp := h.sound p (by simp)
    have hapart (q : Deploying) (hq : q ∈ before ++ after) : q.isOver = true ∨ q.id ≠ p.id := by
      rcases h.apart_of_mem hq with hp | hq | hne
      · exact absurd hp (by simp [hover])
      · exact .inl hq
      · exact .inr (Ne.symm hne)
    constructor
    · intro q hq
      rcases List.mem_cons.mp (List.perm_middle.mem_iff.mp hq) with rfl | hq
      · exact hp.of_effect heffect
      · have hsound := h.sound q (List.perm_middle.mem_iff.mpr (List.mem_cons_of_mem p hq))
        exact hsound.of_others hp heffect (hapart q hq)
    · have hpairwise := (List.pairwise_middle fun h => Deploying.Apart.symm h).mp h.apart
      refine (List.pairwise_middle fun h => Deploying.Apart.symm h).mpr (List.pairwise_cons.mpr ⟨fun q hq => ?_, ?_⟩)
      · rcases hapart q hq with hq | hne
        · exact .inr (.inl hq)
        · exact .inr (.inr fun hid => hne (hid.symm.trans heffect.id_eq))
      · exact (List.pairwise_cons.mp hpairwise).2

theorem of_enter {ps : List Deploying} (h : DeployScene ⟨ps, s⟩) {errand : DeployErrand}
    (hadmits : deploySharing.admits ps errand = true) : DeployScene ⟨ps ++ [deploySharing.enter errand], s⟩ := by
  constructor
  · intro q hq
    rcases List.mem_append.mp hq with hq | hq
    · exact h.sound q hq
    · rw [List.mem_singleton.mp hq]
      exact .of_copies_eq_nil rfl
  · refine List.pairwise_append.mpr ⟨h.apart, List.pairwise_singleton .., fun q hq q' hq' => ?_⟩
    have hq := List.all_eq_true.mp hadmits q hq
    rw [List.mem_singleton.mp hq']
    simp only [Bool.or_eq_true, decide_eq_true_eq] at hq
    exact hq.imp_right fun hne => .inr hne

theorem of_goes {c c' : Scene Deploying System} (h : DeployScene c) (hgoes : Scene.Goes deploySharing c c') :
    DeployScene c' := by
  cases hgoes with
  | stays => exact h
  | enters hadmits => exact h.of_enter hadmits
  | steps hstep => exact h.of_step hstep
  | @leaves before after p =>
    have hsub : (before ++ after).Sublist (before ++ p :: after) := (List.sublist_cons_self p after).append_left before
    exact ⟨fun q hq => h.sound q (hsub.subset hq), h.apart.sublist hsub⟩
  | changes hpermits =>
    have hgrown := List.isPrefixOf_iff_prefix.mp hpermits
    refine ⟨fun q hq => ?_, h.apart⟩
    have hsound := h.sound q hq
    exact ⟨hsound.events, hsound.id, fun d hd => (hsound.backs d hd).of_grown hgrown⟩

end DeployScene

/-- A stored row of a finished deployment is written over only by a command that read it before the end. -/
theorem Deploying.Rewrites.next {p : Deploying} {t : Tables} {id : DeploymentId} {r r' : DeploymentRow}
    {st : DeploymentStatus} (h : p.Rewrites id r r') (hs : p.Sound t) (hr : t.deployment? id = some r)
    (hread : r.status.read "state_status" = .ok st) (hne : r' ≠ r) :
    ∃ st', r'.status = .value st' ∧ (st.isFinished = false → st.Next st') ∧
      (st.isFinished = true → ∃ d ∈ p.copies, d.id = id ∧ d.state.status.isFinished = false) := by
  cases h with
  | keeps => exact absurd rfl hne
  | @moves d d' hd hid hmoved =>
    obtain ⟨r₀, st₀, hr₀, hread₀, hstatus⟩ := hs.backs d hd
    rw [hid, hr] at hr₀
    obtain rfl := Option.some.inj hr₀
    obtain rfl : st = st₀ := Except.ok.inj (hread.symm.trans hread₀)
    have hcopy : d ∈ p.copies := Deploying.mem_copies.mpr (.inl hd)
    refine ⟨_, rfl, fun hopen => ?_, fun _ => ⟨d, hcopy, hid, hmoved.next.isFinished_eq_false⟩⟩
    rcases hstatus with rfl | rfl
    · exact hmoved.next
    · cases hopen
  | @closes o o' ho hid hmoved hfailed =>
    refine ⟨_, rfl, fun hopen => ?_, fun _ => ⟨o, ho, hid, hmoved.next.isFinished_eq_false⟩⟩
    rw [hfailed]
    exact DeploymentStatus.next_failed hopen

/-- **A stored status goes on to one that may follow it as long as it is not finished**, and a finished deployment
changes only when a command takes a step that has a copy from before its end. -/
theorem status_of_turn (s : System) (as : List (Action DeployErrand System)) :
    ∀ e ∈ (Scene.mk [] s).history deploySharing as, ∀ id r r' st, e.before.shared.tables.deployment? id = some r →
      e.after.shared.tables.deployment? id = some r' → r' ≠ r → r.status.read "state_status" = .ok st →
      ∃ i p st', e.action = .step i ∧ e.before.parties[i]? = some p ∧ r'.status = .value st' ∧
        (st.isFinished = false → st.Next st') ∧
        (st.isFinished = true → ∃ d ∈ p.copies, d.id = id ∧ d.state.status.isFinished = false) := by
  intro e he id r r' st hr hr' hne hread
  obtain ⟨hscene, hafter⟩ := Scene.forall_mem_history (fun _ _ => DeployScene.of_goes) (.none s) as e he
  -- only a step changes a row that is there
  have hkept : e.after.shared.tables.deployment? id ≠ some r := fun h => hne (Option.some.inj (hr'.symm.trans h))
  rw [hafter] at hr' hkept
  cases ha : e.action with
  | enter errand =>
    rw [ha, Scene.perform] at hkept
    split at hkept <;> exact absurd hr hkept
  | leave i =>
    rw [ha] at hkept
    exact absurd hr hkept
  | elsewhere change =>
    rw [ha, Scene.perform] at hkept
    split at hkept
    · next hpermits =>
      exact absurd (Tables.deployment?_of_grown hr (List.isPrefixOf_iff_prefix.mp hpermits)) hkept
    · exact absurd hr hkept
  | step i =>
    cases hp : e.before.parties[i]? with
    | none =>
      rw [ha, Scene.perform, hp] at hkept
      exact absurd hr hkept
    | some p =>
      rw [ha, Scene.perform_step hp] at hr'
      have hsound := hscene.sound p (List.mem_of_getElem? hp)
      have heffect : p.Effect e.before.shared.tables (p.step e.before.shared).1 (p.step e.before.shared).2.tables :=
        Deploying.effect_of_step rfl
      obtain ⟨r'', hr'', hrewrites⟩ := heffect.rewrites hsound hr
      obtain rfl : r'' = r' := Option.some.inj (hr''.symm.trans hr')
      obtain ⟨st', hst', hnext, hstale⟩ := hrewrites.next hsound hr hread hne
      exact ⟨i, p, st', rfl, hp, hst', hnext, hstale⟩

/-! ## A deployment that runs after it was closed -/

namespace Overtaking

def older : DeploymentId := ⟨default, ⟨1⟩⟩

def newer : DeploymentId := ⟨default, ⟨2⟩⟩

def row (id : DeploymentId) : DeploymentRow :=
  .ofCreated id ⟨⟨"blog", by decide⟩, .production, default, none⟩ .initial ⟨default, default⟩

/-- Two deployments of one environment wait. -/
def system : System :=
  { store := { db := { Database.empty with tables := ⟨[], [], [row older, row newer]⟩ }, bus := []
               hub := ⟨.empty ⟨1, .zero, .zero⟩ 1, []⟩ }
    files := .empty, dataDir := "data", now := 0, runner := fun _ => [], calls := []
    worker := ⟨1, .zero, none, .zero⟩ }

def errand (id : DeploymentId) : DeployErrand := ⟨id, .background, false⟩

/-- The command of the newer deployment looks for older ones, that of the older one loads it, the newer one starts. -/
def actions : List (Action DeployErrand System) :=
  [.enter (errand newer), .step 0, .step 0, .enter (errand older), .step 1, .step 1, .step 0]

/-- The commands when the newer deployment has started. -/
def scene : Scene Deploying System := (Scene.mk [] system).run deploySharing actions

/-- The older deployment starts. -/
def turn : Scene.Turn DeployErrand Deploying System :=
  ⟨scene, .step 1, scene.perform deploySharing (.step 1)⟩

theorem turn_mem : turn ∈ (Scene.mk [] system).history deploySharing (actions ++ [.step 1]) :=
  Scene.turn_mem_history ..

/-- The status of the older deployment. -/
def status (s : Scene Deploying System) : Option (Column DeploymentStatus) :=
  (s.shared.tables.deployment? older).map (·.status)

theorem exists_rows :
    ∃ r r', turn.before.shared.tables.deployment? older = some r ∧
      turn.after.shared.tables.deployment? older = some r' ∧ r.status = .value .failed ∧
        r'.status = .value .running := by
  have hbefore : status turn.before = some (.value .failed) := by decide +kernel
  have hafter : status turn.after = some (.value .running) := by decide +kernel
  obtain ⟨r, hr, hfailed⟩ := Option.map_eq_some_iff.mp hbefore
  obtain ⟨r', hr', hrunning⟩ := Option.map_eq_some_iff.mp hafter
  exact ⟨r, r', hr, hr', hfailed, hrunning⟩

end Overtaking

open Overtaking in
/-- The command that starts a deployment which has failed has a copy of it from before. -/
theorem status_of_turn_overtaken :
    ∃ i p, turn.action = .step i ∧ scene.parties[i]? = some p ∧
      ∃ d ∈ p.copies, d.id = older ∧ d.state.status.isFinished = false := by
  obtain ⟨r, r', hr, hr', hfailed, hrunning⟩ := exists_rows
  have hne : r' ≠ r := fun h => by simp [h, hfailed] at hrunning
  have hread : r.status.read "state_status" = .ok .failed := by rw [hfailed]; rfl
  obtain ⟨i, p, st', haction, hp, -, -, hstale⟩ :=
    status_of_turn system _ turn turn_mem older r r' .failed hr hr' hne hread
  exact ⟨i, p, haction, hp, hstale rfl⟩

open Overtaking in
/-- **A deployment that failed may run after all**: it was closed for a newer one when its own command had loaded it. -/
theorem overtaken_runs :
    ∃ e ∈ (Scene.mk [] system).history deploySharing (actions ++ [.step 1]), ∃ r r',
      e.before.shared.tables.deployment? older = some r ∧ e.after.shared.tables.deployment? older = some r' ∧
        r.status = .value .failed ∧ r'.status = .value .running :=
  ⟨turn, turn_mem, exists_rows⟩

end Rollout
