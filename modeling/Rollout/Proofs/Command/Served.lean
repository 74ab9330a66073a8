import Rollout.Proofs.Command.Proceeding

/-!
# Deploy commands that the store serves

Before each of its phases a command may pause for as long as it likes (`Deploying.runWith`), so that its context may
stop between two of them. It ends with the first failure of the store. One that no operation of the store fails
(`Deploying.Served`) goes on with what is stored, and what it writes is stored. A store that answers, and whose
subscribers take note of all states of deployments, serves every command on deployments that are in order
(`Deploying.served_of_calm`).
-/

namespace Rollout

/-! ## Runs with pauses -/

/-- A run of a deploy command: its context, whether runners can cancel that, and the pauses before its phases. -/
structure DeployRun where
  context : Context
  holds : Bool
  toLoad : Duration
  toGather : Duration
  toStart : Duration
  toBuild : Duration
  toRecord : Duration

namespace DeployRun

def pauses (r : DeployRun) : List Duration := [r.toLoad, r.toGather, r.toStart, r.toBuild, r.toRecord]

def enter (r : DeployRun) (id : DeploymentId) : Deploying := .enter id r.context r.holds

/-- A run without pauses. -/
def unbroken (context : Context) (holds : Bool) : DeployRun := ⟨context, holds, .zero, .zero, .zero, .zero, .zero⟩

end DeployRun

namespace Deploying

variable {p p' : Deploying} {s s' : System} {d : Deployment} {pause : Duration} {pauses : List Duration}

/-- Goes through a phase after each of the pauses, until the command is over. -/
def runWith : List Duration → Deploying → System → Deploying × System
  | [], p, s => (p, s)
  | pause :: pauses, p, s =>
    if p.isOver then (p, s)
    else
      let (p, s) := p.step (s.advance pause)
      runWith pauses p s

theorem runWith_of_isOver (h : p.isOver = true) (pauses : List Duration) : p.runWith pauses s = (p, s) := by
  cases pauses with
  | nil => rfl
  | cons pause pauses => rw [runWith, if_pos h]

theorem runWith_of_step (hgoes : p.isOver = false) (hstep : p.step (s.advance pause) = (p', s')) :
    p.runWith (pause :: pauses) s = p'.runWith pauses s' := by
  rw [runWith, hgoes, if_neg Bool.false_ne_true, hstep]

/-- The run is over when the step has ended the command. -/
theorem runWith_of_last (hgoes : p.isOver = false) (hstep : p.step (s.advance pause) = (p', s'))
    (hover : p'.isOver = true) : p.runWith (pause :: pauses) s = (p', s') := by
  rw [runWith_of_step hgoes hstep, runWith_of_isOver hover]

/-- Phases that follow each other at once are phases with pauses of no length. -/
theorem run_eq_runWith (n : Nat) (p : Deploying) (s : System) : p.run n s = p.runWith (.replicate n .zero) s := by
  induction n generalizing p s with
  | zero => rfl
  | succ n ih =>
    rw [run_succ, ih, List.replicate_succ]
    cases hover : p.isOver with
    | true => rw [step_of_isOver hover, runWith_of_isOver hover, runWith_of_isOver hover]
    | false => exact (runWith_of_step hover (by rw [System.advance_zero])).symm

end Deploying

/-- Carries out a deployment with pauses. -/
def System.runDeploy (s : System) (id : DeploymentId) (r : DeployRun) :
    Option (Except CommandError Unit) × System :=
  let (p, s) := (r.enter id).runWith r.pauses s
  (p.result?, s)

/-- A deployment without a break is a run without pauses. -/
theorem System.deploy_eq_runDeploy (s : System) (id : DeploymentId) (c : Context) (holds : Bool) :
    s.deploy id c holds = s.runDeploy id (.unbroken c holds) := by
  simp only [deploy, runDeploy, Deploying.run_eq_runWith]
  rfl

/-! ## Commands that the store serves -/

namespace Deploying

variable {p p' : Deploying} {s s' : System} {d : Deployment} {pause : Duration} {pauses : List Duration}

/-- No operation of the store fails the command in the phases after these pauses, unless something is not there. -/
def Served (p : Deploying) (s : System) (pauses : List Duration) : Prop :=
  ∀ e, (p.runWith pauses s).1.result? = some (.error (.store e)) → e.isNotFound = true

/-- No operation of the store fails the command in the next phase, unless something is not there. -/
def IsServed (p : Deploying) (s : System) : Prop :=
  ∀ e s', p.step s = (p.fail (.store e), s') → e.isNotFound = true

theorem Served.of_step (h : p.Served s (pause :: pauses)) (hgoes : p.isOver = false)
    (hstep : p.step (s.advance pause) = (p', s')) : p'.Served s' pauses := by
  intro e he
  refine h e ?_
  rw [runWith_of_step hgoes hstep]
  exact he

theorem Served.isServed (h : p.Served s (pause :: pauses)) (hgoes : p.isOver = false) :
    p.IsServed (s.advance pause) := by
  intro e s' hstep
  refine h e ?_
  rw [runWith_of_last hgoes hstep rfl]
  rfl

/-- The command once the store has answered. -/
def answered {β : Type} (p : Deploying) (next : β → DeployPhase) : Except StoreError β → Deploying
  | .error e => p.fail (.store e)
  | .ok b => p.goTo (next b)

theorem andThen_of_served {β : Type} {question : Tables → Except StoreError β} {next : β → DeployPhase}
    (hserved : p.IsServed s) (hstep : p.step s = p.andThen s (s.store.query question) next) :
    p.step s = (p.answered next (question s.tables), { s with store := s.store.skip 1 }) := by
  rcases s.store.query_eq question with ⟨error, hquery⟩ | hquery
  · simp only [hquery, andThen] at hstep
    cases hserved _ _ hstep
  · rw [hstep]
    simp only [hquery, andThen, System.tables]
    cases question s.store.db.tables <;> rfl

theorem commit_of_served {next : List Deployment → DeployPhase} {ds : List Deployment}
    (hserved : p.IsServed s) (hstep : p.step s = p.commit s next (.ok ds)) (hds : ∀ x ∈ ds, x.HasChanged) :
    ∃ store, p.step s = (p.goTo (next (ds.map Aggregate.cleared)), { s with store }) ∧
      store.db.tables = s.tables.changeStates ds := by
  rcases s.store.write_cases ds with ⟨error, k, hwrite⟩ | ⟨result, tables, k, hub, happlied, hstored, hwrite⟩
  · simp only [commit, andThen, hwrite] at hstep
    cases hserved _ _ hstep
  · have htables := foldlM_pendingEvents hds happlied
    cases result with
    | error e =>
      simp only [commit, andThen, hwrite] at hstep
      have hnotFound := hserved _ _ hstep
      cases e with
      | notFound => cases hstored
      | database | undispatched => cases hnotFound
    | ok _ =>
      simp only [commit, andThen, hwrite] at hstep
      exact ⟨_, hstep, htables⟩

/-! ## A store that serves all commands -/

end Deploying

/-- Whoever subscribed takes note of the new states of deployments. -/
def Store.Hears (s : Store) : Prop := ∀ id state hub, (Dispatcher.bus (dispatchersOf Work.registry s.bus)
  (DeploymentEvent.notice (.stateChanged id state)) hub).1 = .ok ()

/-- Nothing goes wrong with a dispatch of events that are taken whenever they come. -/
theorem Dispatcher.dispatchAll_of_taken {π σ : Type} {d : Dispatcher π σ} {ns : List (Notice π)}
    (htaken : ∀ n ∈ ns, ∀ h, (d n h).1 = .ok ()) (h : σ) : (d.dispatchAll ns h).1 = .ok () := by
  have hgo (done : Nat) : (dispatchAll.go d done ns h).1 = .ok () := by
    induction ns generalizing done h with
    | nil => rfl
    | cons n ns ih =>
      obtain ⟨hfirst, hrest⟩ := List.forall_mem_cons.mp htaken
      rcases hn : d n h with ⟨result, h₁⟩
      obtain rfl : result = .ok () := by rw [← hfirst h, hn]
      simp only [dispatchAll.go, hn]
      exact ih hrest h₁ _
  exact hgo 0

/-- Nothing goes wrong with a write of new states. -/
theorem Store.write_of_hears {s : Store} (hcalm : s.db.IsCalm) (hhears : s.Hears) {ds : List Deployment}
    (hds : ∀ d ∈ ds, d.HasChanged) : (s.write ds).1 = .ok () := by
  obtain ⟨tables, -, htransact⟩ := Database.transact_of_not_refuses fun error =>
    (hcalm.grants _).not_refuses (foldlM_of_hasChanged hds s.db.tables) error
  have htaken : ∀ n ∈ (pendingEvents ds).map (Aggregate.notice Deployment), ∀ hub,
      (Dispatcher.bus (dispatchersOf Work.registry s.bus) n hub).1 = .ok () := by
    refine List.forall_mem_map.mpr fun e he hub => ?_
    obtain ⟨d, hd, he⟩ := List.mem_flatMap.mp he
    rw [hds d hd, List.mem_singleton] at he
    rw [he]
    exact hhears d.id d.state hub
  have hdispatch := Dispatcher.dispatchAll_of_taken htaken s.hub
  rcases hall : (Dispatcher.bus (dispatchersOf Work.registry s.bus)).dispatchAll
    ((pendingEvents ds).map (Aggregate.notice Deployment)) s.hub with ⟨result, hub⟩
  obtain rfl : result = .ok () := by rw [← hdispatch, hall]
  simp only [write, writeTo, Database.write, htransact, hall]

namespace Deploying

variable {p p' : Deploying} {s s' : System} {d : Deployment}

theorem commit_of_hears {next : List Deployment → DeployPhase} {ds : List Deployment}
    (hcalm : s.store.db.IsCalm) (hhears : s.store.Hears) (hds : ∀ d ∈ ds, d.HasChanged) :
    (p.commit s next (.ok ds)).1 = p.goTo (next (s.store.write ds).2.1) := by
  have hwrite := Store.write_of_hears hcalm hhears hds
  simp only [commit, andThen, hwrite]

/-- An outcome that is recorded is the result. -/
theorem record_of_hears {now : Timestamp} {error : Option String} {result : Except CommandError Unit}
    (hcalm : s.store.db.IsCalm) (hhears : s.store.Hears) (hevents : d.events = .empty)
    (hruns : d.state.status = .running) :
    (p.commit s (fun _ => .ended result) ((d.changeState (d.state.finished now error)).map fun d => [d])).1.result? =
      some result := by
  obtain ⟨d', hd'⟩ := Deployment.exists_finished hruns now error
  have hchanged : ∀ x ∈ [d'], x.HasChanged :=
    List.forall_mem_singleton.mpr ((Deployment.moved_of_finished hd').hasChanged hevents)
  rw [hd']
  exact congrArg result? (commit_of_hears hcalm hhears hchanged)

/-- No step of a command fails at the store. -/
theorem isNotFound_of_step (hcalm : s.store.db.IsCalm) (hhears : s.store.Hears) (hfiled : s.tables.Filed)
    (hinformed : p.Informed s.tables) (hgoes : p.isOver = false) {e : StoreError}
    (he : (p.step s).1.result? = some (.error (.store e))) : e.isNotFound = true := by
  obtain ⟨id, c, holds, phase⟩ := p
  cases phase with
  | ended result => cases hgoes
  | stuck => cases hgoes
  | entered =>
    have hload : (Deploying.mk id c holds .entered).step s = _ := load_of_calm hcalm
    rw [hload] at he
    split at he
    · cases he
    · next e' hmissing =>
      cases he
      have hnone := hfiled.deployment?_of_error hmissing
      rw [Tables.deployment, hnone] at hmissing
      cases hmissing
      rfl
    · cases he
  | loaded d =>
    have hd := hinformed.own d rfl
    simp only [step] at he
    split at he
    · obtain ⟨os, hos⟩ := hfiled.exists_pendingBefore id.app d.config.environment id.number
      simp only [gather, andThen_of_calm hcalm, hos] at he
      cases he
    · next hruns =>
      cases (record_of_hears hcalm hhears (Tables.events_of_deployment hd) hruns).symm.trans he
    · cases he
  | gathered d os =>
    obtain ⟨hwaits, hos⟩ := hinformed.gathered d os rfl
    have hwait : ∀ o ∈ os, o.state.status = .pending := fun o ho => ((hos o).mp ho).waits
    obtain ⟨closed, d', hbatch, hd', hclosed⟩ :=
      @batch_of_waits ⟨id, c, holds, .gathered d os⟩ d os s.time hwaits hwait
    have hchanged := hasChanged_of_moved (Tables.events_of_deployment (hinformed.own d rfl))
      (fun o ho => Tables.events_of_deployment ((hos o).mp ho).stored) (Deployment.moved_of_markRunning hd').1
      (hclosed.imp fun _ _ => Deployment.moved_of_markSuperseded)
    simp only [step, start, hbatch, commit_of_hears hcalm hhears hchanged] at he
    cases he
  | started d =>
    simp only [step, build] at he
    split at he <;> cases he
  | built d outcome stopped =>
    have hevents := Tables.events_of_deployment (hinformed.own d rfl)
    have hruns := hinformed.built d outcome stopped rfl
    cases outcome with
    | ok _ => cases (record_of_hears hcalm hhears hevents hruns).symm.trans he
    | error failure =>
      have hresult := (record_of_hears hcalm hhears hevents hruns).symm.trans he
      split at hresult <;> cases hresult

/-- **A store that answers and is heard serves every command**, with whatever pauses. -/
theorem served_of_calm (hcalm : s.store.db.IsCalm) (hhears : s.store.Hears) (hfiled : s.tables.Filed)
    (hinformed : p.Informed s.tables) (hgoes : p.isOver = false) (pauses : List Duration) : p.Served s pauses := by
  intro e he
  induction pauses generalizing p s with
  | nil =>
    have hresult : p.result? = some (.error (.store e)) := he
    cases hgoes.symm.trans (isOver_of_isSome (by rw [hresult]; rfl))
  | cons pause pauses ih =>
    have hstep : p.step (s.advance pause) = ((p.step (s.advance pause)).1, (p.step (s.advance pause)).2) := rfl
    rw [runWith_of_step hgoes hstep] at he
    cases hover : (p.step (s.advance pause)).1.isOver with
    | true =>
      rw [runWith_of_isOver hover] at he
      exact isNotFound_of_step (s := s.advance pause) hcalm hhears hfiled hinformed hgoes he
    | false =>
      have hundisturbed := undisturbed_of_step (s := s.advance pause) hinformed hfiled hgoes hstep
      have htouches := touches_of_step (s := s.advance pause) hinformed hstep
      refine ih (htouches.isCalm hcalm) ?_ hundisturbed.filed hundisturbed.informed hover he
      intro id state hub
      rw [htouches.bus_eq]
      exact hhears id state hub

end Deploying

end Rollout
