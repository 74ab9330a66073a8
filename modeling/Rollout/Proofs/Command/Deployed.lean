import Rollout.Proofs.Command.OnRecord
import Rollout.Proofs.Command.Served

/-!
# What a deploy command comes to

A command that nobody disturbs changes the rows of its own deployment and of the older ones that it closes, and no
others, whatever goes wrong and however long it pauses (`Deploying.confined_runWith`). As long as the store serves it
(`Deploying.Served`), its result and what it writes are known from the deployment that it finds, its context and the
build (`System.Deploys`): a start is written together with all that it closes (`Tables.StartsAt`), an outcome alone
(`Tables.FinishesAt`).
-/

namespace Rollout

/-! ## Rows -/

namespace Tables

variable {t t' : Tables} {d : Deployment} {id k : DeploymentId}

/-- The deployment `k` is of another app or environment than `id`, or it is newer. -/
def IsApart (t : Tables) (id k : DeploymentId) : Prop :=
  k.app ≠ id.app ∨ t.environment? k ≠ t.environment? id ∨ id.number.toNat < k.number.toNat

theorem Outdated.not_isApart {o : Deployment} (h : t.Outdated d o) (hfiled : t.Filed)
    (hd : t.deployment d.id = .ok d) : ¬t.IsApart d.id o.id := by
  rintro (happ | henvironment | hlt)
  · exact happ h.app
  · rw [hfiled.environment?_eq h.stored, hfiled.environment?_eq hd, h.environment] at henvironment
    exact henvironment rfl
  · exact Nat.lt_asymm h.lt hlt

/-- The deployment `d` is started, and the older ones of its environment that wait are closed for it. -/
structure StartsAt (t : Tables) (d : Deployment) (now : Timestamp) (t' : Tables) : Prop where
  own : t'.deployment d.id = .ok (d.inState { d.state with status := .running, startedAt := some now })
  closed : ∀ o, t.Outdated d o → t'.deployment o.id = .ok (o.inState
    { o.state with status := .failed, error := some (supersededText d.id.number), finishedAt := some now })
  others : ∀ k, k ≠ d.id → (∀ o, t.Outdated d o → o.id ≠ k) → t'.deployment? k = t.deployment? k
  apps : t'.apps = t.apps
  targets : t'.targets = t.targets

/-- The deployment `d` has failed with an error, or has succeeded without one. -/
structure FinishesAt (t : Tables) (d : Deployment) (error : Option String) (now : Timestamp) (t' : Tables) : Prop where
  own : t'.deployment d.id = .ok (d.inState
    { d.state with status := if error.isSome then .failed else .succeeded, error, finishedAt := some now })
  others : ∀ k, k ≠ d.id → t'.deployment? k = t.deployment? k
  apps : t'.apps = t.apps
  targets : t'.targets = t.targets

end Tables

namespace DeploymentState

variable {s s' : DeploymentState} {now : Timestamp}

theorem eq_of_superseded {newer : DeploymentNumber} (h : s.superseded now newer = .ok s') :
    s' = { s with status := .failed, error := some (supersededText newer), finishedAt := some now } := by
  unfold superseded at h
  split at h
  · exact (Except.ok.inj h).symm
  · cases h

theorem eq_of_finished {error : Option String} (h : s.finished now error = .ok s') :
    s' = { s with status := if error.isSome then .failed else .succeeded, error, finishedAt := some now } := by
  unfold finished at h
  split at h
  · exact (Except.ok.inj h).symm
  · cases h

end DeploymentState

namespace Tables.Filed

variable {t : Tables} {d d' : Deployment} {now : Timestamp}

theorem startsAt (h : t.Filed) {os closed : List Deployment} (hd : t.deployment d.id = .ok d)
    (hos : ∀ o, o ∈ os ↔ t.Outdated d o) (hd' : d.markRunning now = .ok d')
    (hclosed : List.Forall₂ (fun o o' => o.markSuperseded now d.id.number = .ok o') os closed) :
    t.StartsAt d now (t.changeStates (closed ++ [d'])) := by
  obtain ⟨hstate, hid, -⟩ := Deployment.changeState_eq_ok hd'
  obtain ⟨-, hstate⟩ := DeploymentState.started_eq_ok_iff.mp hstate
  refine ⟨?_, fun o ho => ?_, fun k hne hothers => ?_, apps_changeStates _, targets_changeStates _⟩
  · rw [← hstate]
    exact h.deployment_changeStates hd (by simp [List.filter_append, hid])
  · -- what is written of an older deployment is what it was closed as
    have hne : o.id ≠ d'.id := fun heq => Nat.lt_irrefl _ (hid ▸ heq ▸ ho.lt)
    have hfilter : (closed ++ [d']).filter (·.id = o.id) = closed.filter (·.id = o.id) := by
      simp [List.filter_append, hne.symm]
    obtain ⟨o', ho', hsuperseded⟩ := exists_right_of_forall₂ hclosed o ((hos o).mpr ho)
    obtain ⟨o₁, ho₁, o₁', hsame, hsuperseded₁, hlast⟩ := Deploying.exists_last_closed hclosed
      ⟨o', ho', (Deployment.changeState_eq_ok hsuperseded).2.1⟩
    have hstored := ((hos o₁).mp ho₁).stored
    rw [hsame] at hstored
    obtain rfl := Except.ok.inj (hstored.symm.trans ho.stored)
    rw [← DeploymentState.eq_of_superseded (Deployment.changeState_eq_ok hsuperseded₁).1]
    exact h.deployment_changeStates ho.stored (hfilter ▸ hlast)
  · refine deployment?_changeStates_of_ne (List.forall_mem_append.mpr ⟨fun o' ho' => ?_,
      List.forall_mem_singleton.mpr (hid ▸ hne.symm)⟩)
    obtain ⟨o, ho, hsuperseded⟩ := exists_left_of_forall₂ hclosed o' ho'
    exact (Deployment.changeState_eq_ok hsuperseded).2.1 ▸ hothers o ((hos o).mp ho)

theorem finishesAt (h : t.Filed) {error : Option String} (hd : t.deployment d.id = .ok d)
    (hd' : d.changeState (d.state.finished now error) = .ok d') :
    t.FinishesAt d error now (t.changeStates [d']) := by
  obtain ⟨hstate, hid, -⟩ := Deployment.changeState_eq_ok hd'
  refine ⟨?_, fun k hne => ?_, apps_changeStates _, targets_changeStates _⟩
  · rw [← DeploymentState.eq_of_finished hstate]
    exact h.deployment_changeStates hd (by simp [hid])
  · exact deployment?_changeStates_of_ne (List.forall_mem_singleton.mpr (hid ▸ hne.symm))

end Tables.Filed

/-! ## Rows that a command leaves alone -/

namespace Deploying

variable {p p' : Deploying} {s s' : System} {t t' : Tables} {d : Deployment}

/-- What a command that has come to the tables `t'` has left alone of the tables `t`. -/
structure Confined (t : Tables) (p : Deploying) (t' : Tables) : Prop where
  filed : t'.Filed
  informed : p.Informed t'
  environment : t'.environment? p.id = t.environment? p.id
  apart : ∀ k, t.IsApart p.id k → t'.deployment? k = t.deployment? k
  apps : t'.apps = t.apps
  targets : t'.targets = t.targets

/-- What is written of deployments that are not apart leaves the others alone. -/
theorem Confined.changeStates (h : Confined t p t') {ds : List Deployment} (hds : ∀ x ∈ ds, ¬t'.IsApart p.id x.id) :
    (t'.changeStates ds).environment? p.id = t.environment? p.id ∧
      (∀ k, t.IsApart p.id k → (t'.changeStates ds).deployment? k = t.deployment? k) ∧
      (t'.changeStates ds).apps = t.apps ∧ (t'.changeStates ds).targets = t.targets := by
  refine ⟨(Tables.environment?_changeStates ds _).trans h.environment, fun k hk => ?_,
    (Tables.apps_changeStates ds).trans h.apps, (Tables.targets_changeStates ds).trans h.targets⟩
  refine (Tables.deployment?_changeStates_of_ne fun x hx heq => hds x hx ?_).trans (h.apart k hk)
  have hrow : t'.environment? k = t.environment? k := by rw [Tables.environment?, Tables.environment?, h.apart k hk]
  rw [heq, Tables.IsApart, hrow, h.environment]
  exact hk

/-- What a command writes is not apart from its own deployment. -/
theorem Records.changes (h : p.Records t t') (hfiled : t.Filed) :
    ∃ ds, t' = t.changeStates ds ∧ ∀ x ∈ ds, ¬t.IsApart p.id x.id := by
  have hown (x : Deployment) (hx : x.id = p.id) : ¬t.IsApart p.id x.id := by
    rw [hx]
    rintro (happ | henvironment | hlt)
    · exact happ rfl
    · exact henvironment rfl
    · exact Nat.lt_irrefl _ hlt
  cases h with
  | nothing h => exact ⟨[], h, List.forall_mem_nil _⟩
  | @finishes d d' now error hd hd' h =>
    have hid := (hfiled.deployment?_eq hd).2
    exact ⟨[d'], h, List.forall_mem_singleton.mpr (hown d' ((Deployment.changeState_eq_ok hd').2.1.trans hid))⟩
  | @starts d d' os closed now hd hos hd' hclosed h =>
    have hid := (hfiled.deployment?_eq hd).2
    refine ⟨closed ++ [d'], h, List.forall_mem_append.mpr ⟨fun o' ho' => ?_, List.forall_mem_singleton.mpr
      (hown d' ((Deployment.changeState_eq_ok hd').2.1.trans hid))⟩⟩
    obtain ⟨o, ho, hsuperseded⟩ := exists_left_of_forall₂ hclosed o' ho'
    rw [(Deployment.changeState_eq_ok hsuperseded).2.1, ← hid]
    exact ((hos o).mp ho).not_isApart hfiled (hid.symm ▸ hd)

theorem Confined.of_step (h : Confined t p s.tables) (hstep : p.step s = (p', s')) :
    p'.id = p.id ∧ Confined t p' s'.tables := by
  cases hover : p.isOver with
  | true =>
    cases (step_of_isOver hover).symm.trans hstep
    exact ⟨rfl, h⟩
  | false =>
    have hundisturbed := undisturbed_of_step h.informed h.filed hover hstep
    obtain ⟨ds, hchanged, hds⟩ := (records_of_step h.informed hstep).changes h.filed
    obtain ⟨henvironment, hapart, happs, htargets⟩ := h.changeStates hds
    rw [← hchanged] at henvironment hapart happs htargets
    rw [← hundisturbed.id] at henvironment hapart
    exact ⟨hundisturbed.id, hundisturbed.filed, hundisturbed.informed, henvironment, hapart, happs, htargets⟩

theorem Confined.of_runWith (h : Confined t p s.tables) (pauses : List Duration) :
    (p.runWith pauses s).1.id = p.id ∧ Confined t (p.runWith pauses s).1 (p.runWith pauses s).2.tables := by
  induction pauses generalizing p s with
  | nil => exact ⟨rfl, h⟩
  | cons pause pauses ih =>
    cases hover : p.isOver with
    | true =>
      rw [runWith_of_isOver hover]
      exact ⟨rfl, h⟩
    | false =>
      have hstep : p.step (s.advance pause) = ((p.step (s.advance pause)).1, (p.step (s.advance pause)).2) := rfl
      obtain ⟨hid, hafter⟩ := Confined.of_step (s := s.advance pause) h hstep
      obtain ⟨hid', hrun⟩ := ih hafter
      rw [runWith_of_step hover hstep]
      exact ⟨hid'.trans hid, hrun⟩

/-- **A command leaves the rows alone that are apart from its deployment**, as far as it gets. -/
theorem confined_runWith (hfiled : s.tables.Filed) (id : DeploymentId) (c : Context) (holds : Bool)
    (pauses : List Duration) :
    ((enter id c holds).runWith pauses s).1.id = id ∧
      Confined s.tables ((enter id c holds).runWith pauses s).1 ((enter id c holds).runWith pauses s).2.tables :=
  Confined.of_runWith ⟨hfiled, .of_own?_eq_none rfl, rfl, fun _ _ => rfl, rfl, rfl⟩ pauses

/-! ## Phases -/

section Phases

variable {id : DeploymentId} {c : Context} {holds : Bool}

theorem step_enter_of_served (hserved : (enter id c holds).IsServed s) (hgo : c.stop? s.now = none) :
    (enter id c holds).step s =
      ((enter id c holds).answered .loaded (s.tables.deployment id), { s with store := s.store.skip 1 }) := by
  have hload : (enter id c holds).step s =
      (enter id c holds).andThen s (s.store.query fun t => t.deployment id) .loaded := by
    have hgo : (enter id c holds).context.stop? s.now = none := hgo
    show (enter id c holds).load s = _
    rw [load, hgo]
    rfl
  exact andThen_of_served hserved hload

theorem step_loaded_of_served (hserved : p.IsServed s) (hphase : p.phase = .loaded d) (hfiled : s.tables.Filed)
    (hd : s.tables.deployment p.id = .ok d) (hwaits : d.state.status = .pending) :
    ∃ os, p.step s = (p.goTo (.gathered d os), { s with store := s.store.skip 1 }) ∧
      ∀ o, o ∈ os ↔ s.tables.Outdated d o := by
  obtain ⟨os, hos⟩ := hfiled.exists_pendingBefore p.id.app d.config.environment p.id.number
  have hgather : p.step s = p.gather d s := by simp only [step, hphase, hwaits]
  have hstep := andThen_of_served hserved hgather
  rw [hos] at hstep
  exact ⟨os, hstep, hfiled.mem_pendingBefore_iff hd hos⟩

/-- A start writes that the deployment runs and that the older ones are closed. -/
theorem step_gathered_of_served {os : List Deployment} (hserved : p.IsServed s)
    (hphase : p.phase = .gathered d os) (hfiled : s.tables.Filed) (hd : s.tables.deployment p.id = .ok d)
    (hwaits : d.state.status = .pending) (hos : ∀ o, o ∈ os ↔ s.tables.Outdated d o) :
    ∃ store, p.step s =
        (p.goTo (.started (d.inState { d.state with status := .running, startedAt := some s.time })),
          { s with store }) ∧
      s.tables.StartsAt d s.time store.db.tables := by
  have hwait : ∀ o ∈ os, o.state.status = .pending := fun o ho => ((hos o).mp ho).waits
  obtain ⟨closed, d', hbatch, hd', hclosed⟩ := @batch_of_waits p d os s.time hwaits hwait
  have hevents := Tables.events_of_deployment hd
  have hchanged := hasChanged_of_moved hevents (fun o ho => Tables.events_of_deployment ((hos o).mp ho).stored)
    (Deployment.moved_of_markRunning hd').1 (hclosed.imp fun _ _ => Deployment.moved_of_markSuperseded)
  have hstart : p.step s = p.commit s (fun ds => .started (ds.getLast?.getD d)) (.ok (closed ++ [d'])) := by
    simp only [step, hphase, start, hbatch]
  obtain ⟨store, hstep, htables⟩ := commit_of_served hserved hstart hchanged
  obtain ⟨-, hstate⟩ := DeploymentState.started_eq_ok_iff.mp (Deployment.changeState_eq_ok hd').1
  rw [List.map_append, List.map_singleton, List.getLast?_concat, Option.getD_some,
    Deployment.cleared_of_changeState hevents hd', hstate] at hstep
  have hid := (hfiled.deployment?_eq hd).2
  rw [← hid] at hd hclosed
  exact ⟨store, hstep, htables ▸ hfiled.startsAt hd hos hd' hclosed⟩

/-- An outcome is written after the build, and after an interruption. -/
theorem step_record_of_served {error : Option String} {result : Except CommandError Unit}
    (hserved : p.IsServed s) (hrecord : p.step s = p.commit s (fun _ => .ended result)
      ((d.changeState (d.state.finished s.time error)).map fun d => [d]))
    (hfiled : s.tables.Filed) (hd : s.tables.deployment d.id = .ok d) (hruns : d.state.status = .running) :
    ∃ store, p.step s = (p.goTo (.ended result), { s with store }) ∧
      s.tables.FinishesAt d error s.time store.db.tables := by
  obtain ⟨d', hd'⟩ := Deployment.exists_finished hruns s.time error
  have hchanged : ∀ x ∈ [d'], x.HasChanged :=
    List.forall_mem_singleton.mpr ((Deployment.moved_of_finished hd').hasChanged (Tables.events_of_deployment hd))
  rw [hd'] at hrecord
  obtain ⟨store, hstep, htables⟩ := commit_of_served hserved hrecord hchanged
  exact ⟨store, hstep, htables ▸ hfiled.finishesAt hd hd'⟩

end Phases

end Deploying

/-! ## Builds and the stop of their context -/

namespace Build

variable {holds : Bool} {dir : Path} {actions : List RunnerAction} {b b' : Build} {reason : Stop}

/-- A runner is cut short only for a reason that holds. -/
theorem stop?_of_perform (h : b.perform holds dir actions = (.stopped reason, b')) :
    b'.context.stop? b'.now = some reason := by
  induction actions generalizing b with
  | nil => cases h
  | cons action rest ih =>
    cases action with
    | log line => exact ih h
    | file name =>
      rw [perform] at h
      split at h
      · exact ih h
      · cases h
    | fail failure => cases h
    | check =>
      rw [perform] at h
      split at h
      · cases h
      · exact ih h
    | cancel => exact ih h
    | elapse d => exact ih h
    | hang =>
      rw [perform] at h
      split at h
      · next hstops =>
        cases h
        exact Context.stop?_of_stopsAt hstops
      · cases h

/-- A build that ends by itself does so before its context stops. -/
theorem stop?_of_finished {call : RunnerCall} {result : Except Failure Unit}
    (h : (b.runAndClose holds call actions).1 = .finished result) :
    (b.runAndClose holds call actions).2.context.stop? (b.runAndClose holds call actions).2.now = none := by
  rcases hperform : b.perform holds call.buildDir actions with ⟨result' | reason | _, b₁⟩
  · simp only [runAndClose, hperform] at h ⊢
    split at h
    · cases h
    · next hgo =>
      simp only [hgo]
  all_goals
    simp only [runAndClose, hperform] at h
    cases h

/-- A build that is cut short is so for a reason that holds. -/
theorem stop?_of_stopped {call : RunnerCall} (h : (b.runAndClose holds call actions).1 = .stopped reason) :
    (b.runAndClose holds call actions).2.context.stop? (b.runAndClose holds call actions).2.now = some reason := by
  rcases hperform : b.perform holds call.buildDir actions with ⟨result | reason' | _, b₁⟩
  · simp only [runAndClose, hperform] at h ⊢
    split at h
    · next hstop =>
      cases h
      simp only [hstop]
    · cases h
  · simp only [runAndClose, hperform] at h ⊢
    cases h
    exact stop?_of_perform hperform
  · simp only [runAndClose, hperform] at h
    cases h

end Build

/-- A build that comes to its end does so before its context stops, or it fails with the reason of the stop. -/
theorem Deploying.stop?_of_runBuild {p : Deploying} {d : Deployment} {s s' : System} {c' : Context}
    {outcome : Except Failure Unit} (h : p.runBuild d s = (some outcome, c', s')) :
    c'.stop? s'.now = none ∨ ∃ reason, c'.stop? s'.now = some reason ∧ outcome = .error (.ofStop reason) := by
  unfold runBuild at h
  split at h
  · next reason hstop =>
    cases h
    exact .inr ⟨reason, hstop, rfl⟩
  · next hgo =>
    split at h
    · cases h
      exact .inl hgo
    · dsimp only at h
      split at h
      · next hend =>
        cases h
        exact .inl (Build.stop?_of_finished hend)
      · next reason hend =>
        cases h
        exact .inr ⟨reason, Build.stop?_of_stopped hend, rfl⟩
      · cases h

/-! ## What a command comes to -/

/--
What comes of the build of the deployment `d`, which runs: the result of the command and the system after it. The
context may stop before the build, during it, or when it is over.
-/
inductive Deploying.Concludes (p : Deploying) (d : Deployment) (r : DeployRun) (s : System) :
    Option (Except CommandError Unit) → System → Prop where
  | succeeds {c' : Context} {s' : System} {store : Store}
      (hbuild : p.runBuild d (s.advance r.toBuild) = (some (.ok ()), c', s')) (hgo : c'.stop? s'.now = none)
      (hrow : s.tables.FinishesAt d none (s'.advance r.toRecord).time store.db.tables) :
    Concludes p d r s (some (.ok ())) { s'.advance r.toRecord with store }
  | fails {c' : Context} {s' : System} {store : Store} {failure : Failure}
      (hbuild : p.runBuild d (s.advance r.toBuild) = (some (.error failure), c', s')) (hgo : c'.stop? s'.now = none)
      (hrow : s.tables.FinishesAt d (some failure.fullText) (s'.advance r.toRecord).time store.db.tables) :
    Concludes p d r s (some (.error (.rejected (.deploymentFailed failure.fullText))))
      { s'.advance r.toRecord with store }
  | stops {c' : Context} {s' : System} {store : Store} {reason : Stop}
      (hbuild : p.runBuild d (s.advance r.toBuild) = (some (.error (.ofStop reason)), c', s'))
      (hstop : c'.stop? s'.now = some reason)
      (hrow : s.tables.FinishesAt d (some (Failure.ofStop reason).fullText) (s'.advance r.toRecord).time
        store.db.tables) :
    Concludes p d r s (some (.error .cancelled)) { s'.advance r.toRecord with store }
  /-- The runner never comes back. -/
  | sticks {c' : Context} {s' : System} (hbuild : p.runBuild d (s.advance r.toBuild) = (none, c', s'))
      (htables : s'.tables = s.tables) :
    Concludes p d r s none s'

namespace DeployRun

variable (r : DeployRun) (s : System)

/-- The system when the deployment is looked up. -/
def loading : System := s.advance r.toLoad

/-- The system when the older deployments are looked for, or the run ends with the deployment that it has found. -/
def gathering : System := (r.loading s).advance r.toGather

/-- The system when the deployment is started. -/
def starting : System := (r.gathering s).advance r.toStart

end DeployRun

/--
What a deploy command comes to: it is stopped before it looks, or goes by the deployment that it finds. Unless that one
waits, the system is left as it is but for the time and its store, and so the runner is not called.
-/
structure System.Deploys (s : System) (id : DeploymentId) (r : DeployRun) : Prop where
  stopped : ∀ reason, r.context.stop? (r.loading s).now = some reason →
    s.runDeploy id r = (some (.error .cancelled), r.loading s)
  missing : r.context.stop? (r.loading s).now = none → s.tables.deployment? id = none →
    s.runDeploy id r = (some (.error (.store (.notFound "deployment"))), { r.loading s with store := s.store.skip 1 })
  /-- What is stored can be read. -/
  found : ∀ row, s.tables.deployment? id = some row → ∃ d, s.tables.deployment id = .ok d
  finished : ∀ d, r.context.stop? (r.loading s).now = none → s.tables.deployment id = .ok d →
    d.state.status.isFinished = true →
    s.runDeploy id r = (some (.ok ()), { r.gathering s with store := s.store.skip 1 })
  interrupted : ∀ d, r.context.stop? (r.loading s).now = none → s.tables.deployment id = .ok d →
    d.state.status = .running → ∃ store, s.runDeploy id r =
        (some (.error (.rejected (.deploymentFailed "deployment was interrupted"))), { r.gathering s with store }) ∧
      s.tables.FinishesAt d (some "deployment was interrupted") (r.gathering s).time store.db.tables
  /-- Nothing is written before the one write that starts the deployment. -/
  waiting : ∀ d, r.context.stop? (r.loading s).now = none → s.tables.deployment id = .ok d →
    d.state.status = .pending →
    let running := d.inState { d.state with status := .running, startedAt := some (r.starting s).time }
    ((r.enter id).runWith (r.pauses.take 2) s).2.tables = s.tables ∧
      ∃ store, (r.enter id).runWith (r.pauses.take 3) s =
          ((r.enter id).goTo (.started running), { r.starting s with store }) ∧
        s.tables.StartsAt d (r.starting s).time store.db.tables ∧
        ((r.enter id).goTo (.started running)).Concludes running r { r.starting s with store } (s.runDeploy id r).1
          (s.runDeploy id r).2
  /-- What follows holds at every point of the command, whatever becomes of it. -/
  apart : ∀ n k, s.tables.IsApart id k →
    ((r.enter id).runWith (r.pauses.take n) s).2.tables.deployment? k = s.tables.deployment? k
  apps : ∀ n, ((r.enter id).runWith (r.pauses.take n) s).2.tables.apps = s.tables.apps
  targets : ∀ n, ((r.enter id).runWith (r.pauses.take n) s).2.tables.targets = s.tables.targets

namespace Deploying

variable {p p' : Deploying} {s s' : System} {d : Deployment} {id : DeploymentId} {c : Context} {holds : Bool}
  {r : DeployRun}

/-- A command that is served finds the deployment that is stored. -/
theorem step_enter_of_deployment (hserved : (enter id c holds).IsServed s) (hgo : c.stop? s.now = none)
    (hd : s.tables.deployment id = .ok d) :
    (enter id c holds).step s = ((enter id c holds).goTo (.loaded d), { s with store := s.store.skip 1 }) := by
  rw [step_enter_of_served hserved hgo, hd]
  rfl

theorem step_of_runBuild {outcome : Except Failure Unit} {c' : Context} (hphase : p.phase = .started d)
    (hbuild : p.runBuild d s = (some outcome, c', s')) :
    p.step s = (({ p with context := c' } : Deploying).goTo
      (.built d outcome (!outcome.isOk && (c'.stop? s'.now).isSome)), s') := by
  simp only [step, hphase, build, hbuild, goTo, Context.isSome_stop?]

section Build

variable (hserved : p.Served s [r.toBuild, r.toRecord]) (hgoes : p.isOver = false)

include hserved hgoes

/-- An outcome that is recorded after the build is the result. -/
theorem run_of_record (error : Option String) {result : Except CommandError Unit}
    (hstep : p.step (s.advance r.toBuild) = (p', s')) (hgoes' : p'.isOver = false)
    (hrecord : ∀ s, p'.step s = p'.commit s (fun _ => .ended result)
      ((d.changeState (d.state.finished s.time error)).map fun d => [d]))
    (hfiled : s'.tables.Filed) (hd : s'.tables.deployment d.id = .ok d) (hruns : d.state.status = .running) :
    ∃ store, (p.runWith [r.toBuild, r.toRecord] s).1.result? = some result ∧
      (p.runWith [r.toBuild, r.toRecord] s).2 = { s'.advance r.toRecord with store } ∧
      s'.tables.FinishesAt d error (s'.advance r.toRecord).time store.db.tables := by
  have hserved' := (hserved.of_step hgoes hstep).isServed hgoes'
  obtain ⟨store, hlast, hrow⟩ := step_record_of_served hserved' (hrecord _) hfiled hd hruns
  rw [runWith_of_step hgoes hstep, runWith_of_last hgoes' hlast rfl]
  exact ⟨store, rfl, rfl, hrow⟩

/-- A build is concluded by the record of its outcome. -/
theorem concludes_of_served (hphase : p.phase = .started d) (hfiled : s.tables.Filed)
    (hd : s.tables.deployment d.id = .ok d) (hruns : d.state.status = .running) :
    p.Concludes d r s (p.runWith [r.toBuild, r.toRecord] s).1.result? (p.runWith [r.toBuild, r.toRecord] s).2 := by
  have htables := p.tables_runBuild d (s.advance r.toBuild)
  rcases hbuild : p.runBuild d (s.advance r.toBuild) with ⟨_ | outcome, c', s'⟩
  · have hstep : p.step (s.advance r.toBuild) = ({ p with context := c', phase := .stuck }, s') := by
      simp only [step, hphase, build, hbuild]
    rw [hbuild] at htables
    rw [runWith_of_last hgoes hstep rfl]
    exact .sticks hbuild htables
  · rw [hbuild] at htables
    have htables : s'.tables = s.tables := htables
    rw [← htables] at hfiled hd
    have hstep := step_of_runBuild hphase hbuild
    rcases stop?_of_runBuild hbuild with hgo | ⟨reason, hstop, rfl⟩
    · rw [hgo] at hstep
      cases outcome with
      | ok _ =>
        obtain ⟨store, hresult, hafter, hrow⟩ :=
          run_of_record hserved hgoes none hstep rfl (fun _ => rfl) hfiled hd hruns
        rw [hresult, hafter]
        exact .succeeds hbuild hgo (htables ▸ hrow)
      | error failure =>
        obtain ⟨store, hresult, hafter, hrow⟩ :=
          run_of_record hserved hgoes (some failure.fullText) hstep rfl (fun _ => rfl) hfiled hd hruns
        rw [hresult, hafter]
        exact .fails hbuild hgo (htables ▸ hrow)
    · rw [hstop] at hstep
      obtain ⟨store, hresult, hafter, hrow⟩ :=
        run_of_record hserved hgoes (some (Failure.ofStop reason).fullText) hstep rfl (fun _ => rfl) hfiled hd hruns
      rw [hresult, hafter]
      exact .stops hbuild hstop (htables ▸ hrow)

end Build

end Deploying

namespace System

variable {s s' : System} {id : DeploymentId} {r : DeployRun} {d : Deployment}

theorem runDeploy_of_stop {reason : Stop} (hstop : r.context.stop? (r.loading s).now = some reason) :
    s.runDeploy id r = (some (.error .cancelled), r.loading s) := by
  have hstep : (r.enter id).step (s.advance r.toLoad) = ((r.enter id).fail .cancelled, r.loading s) := by
    have hstop : (r.enter id).context.stop? (s.advance r.toLoad).now = some reason := hstop
    show (r.enter id).load (s.advance r.toLoad) = _
    rw [Deploying.load, hstop]
    rfl
  rw [runDeploy, DeployRun.pauses, Deploying.runWith_of_last rfl hstep rfl]
  rfl

section Served

variable (hserved : (r.enter id).Served s r.pauses) (hgo : r.context.stop? (r.loading s).now = none)

include hserved hgo

theorem runDeploy_of_missing (hnone : s.tables.deployment? id = none) : s.runDeploy id r =
    (some (.error (.store (.notFound "deployment"))), { r.loading s with store := s.store.skip 1 }) := by
  have hmissing : (s.advance r.toLoad).tables.deployment id = .error (.notFound "deployment") := by
    have hnone : (s.advance r.toLoad).tables.deployment? id = none := hnone
    rw [Tables.deployment, hnone]
    rfl
  have hstep : (r.enter id).step (s.advance r.toLoad) =
      ((r.enter id).fail (.store (.notFound "deployment")), { r.loading s with store := s.store.skip 1 }) := by
    have hstep := Deploying.step_enter_of_served (hserved.isServed rfl) hgo
    rw [hmissing] at hstep
    exact hstep
  rw [runDeploy, DeployRun.pauses, Deploying.runWith_of_last rfl hstep rfl]
  rfl

/-- The deployment is looked up first. -/
theorem step_of_deployment (hd : s.tables.deployment id = .ok d) : (r.enter id).step (s.advance r.toLoad) =
    ((r.enter id).goTo (.loaded d), { r.loading s with store := s.store.skip 1 }) :=
  Deploying.step_enter_of_deployment (s := s.advance r.toLoad) (hserved.isServed rfl) hgo hd

theorem runDeploy_of_finished (hd : s.tables.deployment id = .ok d) (hfinished : d.state.status.isFinished = true) :
    s.runDeploy id r = (some (.ok ()), { r.gathering s with store := s.store.skip 1 }) := by
  have hfirst := step_of_deployment hserved hgo hd
  have hlast (s' : System) : ((r.enter id).goTo (.loaded d)).step s' = ((r.enter id).goTo (.ended (.ok ())), s') := by
    simp only [Deploying.step, Deploying.goTo]
    cases hstatus : d.state.status with
    | succeeded | failed => rfl
    | pending | running =>
      rw [hstatus] at hfinished
      cases hfinished
  rw [runDeploy, DeployRun.pauses, Deploying.runWith_of_step rfl hfirst, Deploying.runWith_of_last rfl (hlast _) rfl]
  rfl

theorem runDeploy_of_running (hfiled : s.tables.Filed) (hd : s.tables.deployment id = .ok d)
    (hruns : d.state.status = .running) :
    ∃ store, s.runDeploy id r =
        (some (.error (.rejected (.deploymentFailed "deployment was interrupted"))), { r.gathering s with store }) ∧
      s.tables.FinishesAt d (some "deployment was interrupted") (r.gathering s).time store.db.tables := by
  have hfirst := step_of_deployment hserved hgo hd
  have hid := (hfiled.deployment?_eq hd).2
  let s₁ : System := { r.gathering s with store := s.store.skip 1 }
  have htables : s₁.tables = s.tables := Store.tables_skip 1
  have hrecord : ((r.enter id).goTo (.loaded d)).step s₁ =
      ((r.enter id).goTo (.loaded d)).recordInterruption d s₁ := by
    simp only [Deploying.step, Deploying.goTo, hruns]
  rw [← hid, ← htables] at hd
  rw [← htables] at hfiled ⊢
  have hserved₁ := (hserved.of_step rfl hfirst).isServed rfl
  obtain ⟨store, hlast, hrow⟩ := Deploying.step_record_of_served hserved₁ hrecord hfiled hd hruns
  refine ⟨store, ?_, hrow⟩
  rw [runDeploy, DeployRun.pauses, Deploying.runWith_of_step rfl hfirst, Deploying.runWith_of_last rfl hlast rfl]
  rfl

theorem runDeploy_of_waiting (hfiled : s.tables.Filed) (hd : s.tables.deployment id = .ok d)
    (hwaits : d.state.status = .pending) :
    let running := d.inState { d.state with status := .running, startedAt := some (r.starting s).time }
    ((r.enter id).runWith (r.pauses.take 2) s).2.tables = s.tables ∧
      ∃ store, (r.enter id).runWith (r.pauses.take 3) s =
          ((r.enter id).goTo (.started running), { r.starting s with store }) ∧
        s.tables.StartsAt d (r.starting s).time store.db.tables ∧
        ((r.enter id).goTo (.started running)).Concludes running r { r.starting s with store } (s.runDeploy id r).1
          (s.runDeploy id r).2 := by
  intro running
  have hfirst := step_of_deployment hserved hgo hd
  let s₁ : System := { r.gathering s with store := s.store.skip 1 }
  let s₂ : System := { r.starting s with store := s₁.store.skip 1 }
  have htables₁ : s₁.tables = s.tables := Store.tables_skip 1
  have htables₂ : s₂.tables = s.tables := (Store.tables_skip 1).trans htables₁
  have hserved₁ := hserved.of_step rfl hfirst
  obtain ⟨os, hsecond, hos⟩ :=
    Deploying.step_loaded_of_served (s := s₁) (hserved₁.isServed rfl) rfl (htables₁ ▸ hfiled) (htables₁ ▸ hd) hwaits
  have hserved₂ := hserved₁.of_step rfl hsecond
  obtain ⟨store, hthird, hstarts⟩ := Deploying.step_gathered_of_served (s := s₂) (hserved₂.isServed rfl) rfl
    (htables₂ ▸ hfiled) (htables₂ ▸ hd) hwaits (htables₂ ▸ htables₁ ▸ hos)
  rw [htables₂] at hstarts
  have hrun (pauses : List Duration) : (r.enter id).runWith (r.toLoad :: r.toGather :: r.toStart :: pauses) s =
      ((r.enter id).goTo (.started running)).runWith pauses { r.starting s with store } := by
    rw [Deploying.runWith_of_step rfl hfirst, Deploying.runWith_of_step rfl hsecond,
      Deploying.runWith_of_step rfl hthird]
    rfl
  refine ⟨?_, store, hrun [], hstarts, ?_⟩
  · have htwo : (r.enter id).runWith [r.toLoad, r.toGather] s = _ :=
      (Deploying.runWith_of_step rfl hfirst).trans (Deploying.runWith_of_step rfl hsecond)
    show ((r.enter id).runWith [r.toLoad, r.toGather] s).2.tables = _
    rw [htwo]
    exact htables₂
  · have hfiled₃ := (Deploying.confined_runWith hfiled id r.context r.holds (r.pauses.take 3)).2.filed
    have hconcludes := Deploying.concludes_of_served (hserved₂.of_step rfl hthird) rfl rfl
      (show Tables.Filed _ from (congrArg (·.2.tables) (hrun [])) ▸ hfiled₃) hstarts.own rfl
    rw [runDeploy, DeployRun.pauses, hrun]
    exact hconcludes

end Served

end System

/-! ## A deployment that replaces another one -/

namespace Renewing

def first : DeploymentId := ⟨default, ⟨1⟩⟩

def second : DeploymentId := ⟨default, ⟨2⟩⟩

/-- An app is created, and two deployments are asked for. -/
def actions : List (Action Errand Deployer) :=
  [.elsewhere Race.addTarget, .enter (.change ⟨default, .create Race.input Race.signature⟩), .step 0,
    .enter Race.request, .step 1, .enter Race.request, .step 2]

/-- A system whose runner cancels its token and says that it was done. -/
def system : System :=
  { (wholeAfter Race.config actions).shared.system with runner := fun _ => [.log "building", .cancel] }

theorem hears_system : system.store.Hears := fun _ _ _ => rfl

/-- A second passes before each phase. -/
def run : DeployRun := ⟨.background, true, .ofSecs 1, .ofSecs 1, .ofSecs 1, .ofSecs 1, .ofSecs 1⟩

end Renewing

end Rollout
