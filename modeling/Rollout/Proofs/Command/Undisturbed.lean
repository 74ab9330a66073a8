import Rollout.Proofs.Command.Changes
import Rollout.Proofs.Store.Course

/-!
# A deploy command that nobody disturbs

As long as others only ask for more deployments (`Tables.Extends`), the copies of a command are what is stored, and the
older deployments that it is going to close are just those that wait (`Deploying.Informed`). So what a step does is
known from what is stored: it starts the command's own deployment and closes all older ones of the environment that
wait, it records the outcome of a running one, or it changes nothing; and it calls the runner only for a deployment that
it has started (`Deploying.Undisturbed`).
-/

namespace Rollout

/-! ## Operations that are accepted -/

namespace Deployment

variable {d d' : Deployment}

theorem exists_markRunning (h : d.state.status = .pending) (now : Timestamp) : ∃ d', d.markRunning now = .ok d' := by
  rw [markRunning, DeploymentState.started, if_pos h]
  exact ⟨_, rfl⟩

theorem exists_markSuperseded (h : d.state.status = .pending) (now : Timestamp) (newer : DeploymentNumber) :
    ∃ d', d.markSuperseded now newer = .ok d' := by
  rw [markSuperseded, DeploymentState.superseded, if_pos h]
  exact ⟨_, rfl⟩

theorem exists_finished (h : d.state.status = .running) (now : Timestamp) (error : Option String) :
    ∃ d', d.changeState (d.state.finished now error) = .ok d' := by
  rw [DeploymentState.finished, if_pos h]
  exact ⟨_, rfl⟩

/-- What is left of a deployment once its new state has been written. -/
theorem cleared_of_changeState {state : Except AppError DeploymentState} (hd : d.events = .empty)
    (h : d.changeState state = .ok d') : Aggregate.cleared d' = d.inState d'.state := by
  cases state with
  | error e => cases h
  | ok s =>
    cases h
    obtain ⟨id, config, state, requested, events⟩ := d
    cases hd
    rfl

end Deployment

/-! ## Commands -/

namespace Deploying

variable {p p' : Deploying} {s s' : System} {t t' : Tables} {d : Deployment}

/-- What a command knows that nobody disturbs. -/
structure Informed (t : Tables) (p : Deploying) : Prop where
  own : ∀ d, p.own? = some d → t.deployment p.id = .ok d
  gathered : ∀ d os, p.phase = .gathered d os → d.state.status = .pending ∧ ∀ o, o ∈ os ↔ t.Outdated d o
  started : ∀ d, p.phase = .started d → d.state.status = .running
  built : ∀ d outcome stopped, p.phase = .built d outcome stopped → d.state.status = .running

theorem Informed.of_own?_eq_none (h : p.own? = none) : p.Informed t := by
  refine ⟨fun d hd => ?_, fun d os hphase => ?_, fun d hphase => ?_, fun d outcome stopped hphase => ?_⟩
  · cases h.symm.trans hd
  all_goals simp only [own?, hphase, reduceCtorEq] at h

theorem Informed.of_loaded (hphase : p.phase = .loaded d) (hd : t.deployment p.id = .ok d) : p.Informed t := by
  refine ⟨fun d' hd' => ?_, fun _ _ h => ?_, fun _ h => ?_, fun _ _ _ h => ?_⟩
  · simp only [own?, hphase, Option.some.injEq] at hd'
    exact hd' ▸ hd
  all_goals cases hphase.symm.trans h

theorem Informed.of_gathered {os : List Deployment} (hphase : p.phase = .gathered d os)
    (hd : t.deployment p.id = .ok d) (hwaits : d.state.status = .pending) (hos : ∀ o, o ∈ os ↔ t.Outdated d o) :
    p.Informed t := by
  refine ⟨fun d' hd' => ?_, fun _ _ h => ?_, fun _ h => ?_, fun _ _ _ h => ?_⟩
  · simp only [own?, hphase, Option.some.injEq] at hd'
    exact hd' ▸ hd
  · cases hphase.symm.trans h
    exact ⟨hwaits, hos⟩
  all_goals cases hphase.symm.trans h

theorem Informed.of_started (hphase : p.phase = .started d) (hd : t.deployment p.id = .ok d)
    (hruns : d.state.status = .running) : p.Informed t := by
  refine ⟨fun d' hd' => ?_, fun _ _ h => ?_, fun _ h => ?_, fun _ _ _ h => ?_⟩
  · simp only [own?, hphase, Option.some.injEq] at hd'
    exact hd' ▸ hd
  · cases hphase.symm.trans h
  · cases hphase.symm.trans h
    exact hruns
  · cases hphase.symm.trans h

theorem Informed.of_built {outcome : Except Failure Unit} {stopped : Bool} (hphase : p.phase = .built d outcome stopped)
    (hd : t.deployment p.id = .ok d) (hruns : d.state.status = .running) : p.Informed t := by
  refine ⟨fun d' hd' => ?_, fun _ _ h => ?_, fun _ h => ?_, fun _ _ _ h => ?_⟩
  · simp only [own?, hphase, Option.some.injEq] at hd'
    exact hd' ▸ hd
  · cases hphase.symm.trans h
  · cases hphase.symm.trans h
  · cases hphase.symm.trans h
    exact hruns

theorem own?_of_isOver (h : p.isOver = true) : p.own? = none := by
  obtain ⟨id, context, holds, phase⟩ := p
  cases phase <;> first | rfl | cases h

theorem Informed.of_isOver (h : p.isOver = true) : p.Informed t := .of_own?_eq_none (own?_of_isOver h)

/-- A command knows as much when others have asked for more deployments. -/
theorem Informed.extends (h : p.Informed t) (hfiled : t.Filed) (hext : t.Extends t') : p.Informed t' := by
  refine ⟨fun d hd => hext.deployment (h.own d hd), fun d os hphase => ?_, h.started, h.built⟩
  obtain ⟨hwaits, hos⟩ := h.gathered d os hphase
  have hown := h.own d (by simp only [own?, hphase])
  have hid := (hfiled.deployment?_eq hown).2
  exact ⟨hwaits, fun o => (hos o).trans (hext.outdated_iff (hid ▸ hown)).symm⟩

/-- The deployment that the command has started and not built yet. -/
def started? (p : Deploying) : Option Deployment :=
  match p.phase with
  | .started d => some d
  | _ => none

theorem phase_of_started? (h : p.started? = some d) : p.phase = .started d := by
  unfold started? at h
  split at h
  · next hphase => rw [hphase, Option.some.inj h]
  · cases h

/-- What a step comes to. -/
inductive Advances (p : Deploying) (s : System) (p' : Deploying) (s' : System) : Prop where
  | waits (htables : s'.tables = s.tables) (hcalls : s'.calls = s.calls) (hphase : p'.started? = none)
  | starts {d : Deployment} (hid : d.id = p.id) (hstarts : s.tables.Starts d s'.tables) (hcalls : s'.calls = s.calls)
  | builds {d : Deployment} (hstarted : p.started? = some d) (htables : s'.tables = s.tables)
      (hcalls : s'.calls = s.calls ∨ s'.calls = s.calls ++ [Build.call d]) (hphase : p'.started? = none)
  | finishes {d : Deployment} (hid : d.id = p.id) (hfinishes : s.tables.Finishes d s'.tables)
      (hcalls : s'.calls = s.calls) (hphase : p'.started? = none)

/-- A step that nobody disturbs. -/
structure Undisturbed (p : Deploying) (s : System) (p' : Deploying) (s' : System) : Prop where
  id : p'.id = p.id
  filed : s'.tables.Filed
  informed : p'.Informed s'.tables
  advances : p.Advances s p' s'
  /-- A job whose command has come to its end for good leaves nothing to be done. -/
  answers : ∀ result, p'.result? = some result → CommandError.toJobResult result = .ok () → s'.tables.IsSettled p.id

/-- The change of the tables, by which no app is created. -/
theorem Undisturbed.change (h : p.Undisturbed s p' s') (issued : List AppId) :
    Tables.Change issued s.tables [] s'.tables := by
  cases h.advances with
  | waits htables _ _ =>
    rw [htables]
    exact .retains (.of_eq rfl rfl)
  | starts _ hstarts _ => exact .starts hstarts h.filed
  | builds _ htables _ _ =>
    rw [htables]
    exact .retains (.of_eq rfl rfl)
  | finishes _ hfinishes _ _ => exact .finishes hfinishes h.filed

theorem started?_of_isOver (h : p.isOver = true) : p.started? = none := by
  obtain ⟨id, context, holds, phase⟩ := p
  cases phase <;> first | rfl | cases h

/-- A failure that changes nothing, and after which the job is not done. -/
theorem Undisturbed.of_fail {e : CommandError} (hfiled : s.tables.Filed) (htables : s'.tables = s.tables)
    (hcalls : s'.calls = s.calls) (he : CommandError.toJobResult (.error e) ≠ .ok ()) :
    p.Undisturbed s (p.fail e) s' := by
  refine ⟨rfl, htables ▸ hfiled, .of_isOver rfl, .waits htables hcalls (started?_of_isOver rfl), ?_⟩
  intro result hphase hok
  cases hphase
  exact absurd hok he

/-- A commit fails, or stores what it was given and may fail after that. -/
theorem commit_of_ok {next : List Deployment → DeployPhase} {ds : List Deployment}
    (h : p.commit s next (.ok ds) = (p', s')) :
    s'.calls = s.calls ∧
      ((s'.tables = s.tables ∧ ∃ e, p' = p.fail (.store e) ∧ e.isNotFound = false) ∨
        (pendingEvents ds).foldlM (Aggregate.apply Deployment) s.tables = .ok s'.tables ∧
          ((∃ e, p' = p.fail (.store e) ∧ e.isNotFound = false) ∨ p' = p.goTo (next (ds.map Aggregate.cleared)))) := by
  rcases s.store.write_cases ds with ⟨error, k, hwrite⟩ | ⟨result, tables, k, hub, happlied, hstored, hwrite⟩
  · simp only [commit, andThen, hwrite] at h
    cases h
    exact ⟨rfl, .inl ⟨Database.tables_skip, _, rfl, rfl⟩⟩
  · cases result with
    | error e =>
      simp only [commit, andThen, hwrite] at h
      cases h
      have hkind : e.isNotFound = false := by cases e <;> first | rfl | cases hstored
      exact ⟨rfl, .inr ⟨happlied, .inl ⟨e, rfl, hkind⟩⟩⟩
    | ok _ =>
      simp only [commit, andThen, hwrite] at h
      cases h
      exact ⟨rfl, .inr ⟨happlied, .inr rfl⟩⟩

/-- A batch of deployments that all wait goes through. -/
theorem batch_of_waits {os : List Deployment} {now : Timestamp} (hwaits : d.state.status = .pending)
    (hos : ∀ o ∈ os, o.state.status = .pending) :
    ∃ closed d', p.batch d os now = .ok (closed ++ [d']) ∧ d.markRunning now = .ok d' ∧
      List.Forall₂ (fun o o' => o.markSuperseded now p.id.number = .ok o') os closed := by
  obtain ⟨closed, hclosed⟩ := exists_mapM_eq_ok fun o ho => Deployment.exists_markSuperseded (hos o ho) now p.id.number
  obtain ⟨d', hd'⟩ := Deployment.exists_markRunning hwaits now
  refine ⟨closed, d', ?_, hd', mapM_eq_ok.mp hclosed⟩
  simp only [batch, bind_eq_ok, pure_eq_ok]
  exact ⟨closed, hclosed, d', hd', rfl⟩

/-- The command goes on with an answer of the store, or fails. -/
theorem andThen_of_query {β : Type} {question : Tables → Except StoreError β} {next : β → DeployPhase}
    (h : p.andThen s (s.store.query question) next = (p', s')) :
    s'.tables = s.tables ∧ s'.calls = s.calls ∧
      ((∃ e, p' = p.fail (.store e) ∧ (e.isNotFound = false ∨ question s.tables = .error e)) ∨
        ∃ b, question s.tables = .ok b ∧ p' = p.goTo (next b)) := by
  rcases s.store.query_eq question with ⟨error, hquery⟩ | hquery
  · simp only [andThen, hquery] at h
    cases h
    exact ⟨Store.tables_skip 1, rfl, .inl ⟨_, rfl, .inl rfl⟩⟩
  · cases hanswer : question s.tables with
    | error e =>
      have hanswer' : question s.store.db.tables = .error e := hanswer
      simp only [andThen, hquery, hanswer'] at h
      cases h
      exact ⟨Store.tables_skip 1, rfl, .inl ⟨e, rfl, .inr rfl⟩⟩
    | ok b =>
      have hanswer' : question s.store.db.tables = .ok b := hanswer
      simp only [andThen, hquery, hanswer'] at h
      cases h
      exact ⟨Store.tables_skip 1, rfl, .inr ⟨b, rfl, rfl⟩⟩

/-! ### Phases -/

/-- A step that changes nothing, after which the command goes on. -/
theorem Undisturbed.of_goTo {phase : DeployPhase} (hfiled : s.tables.Filed) (htables : s'.tables = s.tables)
    (hcalls : s'.calls = s.calls) (hinformed : (p.goTo phase).Informed s.tables)
    (hphase : (p.goTo phase).started? = none) (hgoes : (p.goTo phase).result? = none) :
    p.Undisturbed s (p.goTo phase) s' := by
  refine ⟨rfl, htables ▸ hfiled, htables ▸ hinformed, .waits htables hcalls hphase, fun result hended => ?_⟩
  cases hgoes.symm.trans hended

theorem undisturbed_load (hfiled : s.tables.Filed) (h : p.load s = (p', s')) : p.Undisturbed s p' s' := by
  unfold load at h
  split at h
  · cases h
    exact .of_fail hfiled rfl rfl CommandError.toJobResult_cancelled
  · have h : p.andThen s (s.store.query fun t => t.deployment p.id) .loaded = (p', s') := h
    obtain ⟨htables, hcalls, ⟨e, rfl, he⟩ | ⟨d, hd, rfl⟩⟩ := andThen_of_query h
    · refine ⟨rfl, htables ▸ hfiled, .of_isOver rfl, .waits htables hcalls (started?_of_isOver rfl), ?_⟩
      intro result hphase hok
      cases hphase
      rcases he with he | he
      · exact absurd hok (CommandError.toJobResult_store he)
      · exact .inl (htables ▸ hfiled.deployment?_of_error he)
    · exact .of_goTo hfiled htables hcalls (.of_loaded rfl hd) rfl rfl

theorem undisturbed_gather (hfiled : s.tables.Filed) (hd : s.tables.deployment p.id = .ok d)
    (hwaits : d.state.status = .pending) (h : p.gather d s = (p', s')) : p.Undisturbed s p' s' := by
  obtain ⟨htables, hcalls, ⟨e, rfl, he⟩ | ⟨os, hos, rfl⟩⟩ := andThen_of_query h
  · refine .of_fail hfiled htables hcalls (CommandError.toJobResult_store ?_)
    rcases he with he | he
    · exact he
    · obtain ⟨error, -, rfl⟩ := mapError_eq_error.mp he
      rfl
  · have hmem := hfiled.mem_pendingBefore_iff hd hos
    exact .of_goTo hfiled htables hcalls (.of_gathered rfl hd hwaits hmem) rfl rfl

theorem undisturbed_start {os : List Deployment} (hfiled : s.tables.Filed) (hd : s.tables.deployment p.id = .ok d)
    (hwaits : d.state.status = .pending) (hos : ∀ o, o ∈ os ↔ s.tables.Outdated d o)
    (h : p.start d os s = (p', s')) : p.Undisturbed s p' s' := by
  have hwait : ∀ o ∈ os, o.state.status = .pending := fun o ho => ((hos o).mp ho).waits
  obtain ⟨closed, d', hbatch, hd', hclosed⟩ := @batch_of_waits p d os s.time hwaits hwait
  rw [start, hbatch] at h
  obtain ⟨hcalls, ⟨htables, e, rfl, he⟩ | ⟨hwritten, hp'⟩⟩ := commit_of_ok h
  · exact .of_fail hfiled htables hcalls (CommandError.toJobResult_store he)
  · have hid := (hfiled.deployment?_eq hd).2
    have hevents : d.events = .empty := Tables.events_of_deployment hd
    obtain ⟨hmoved, hruns⟩ := Deployment.moved_of_markRunning hd'
    have hchanged : ∀ x ∈ closed ++ [d'], x.HasChanged := by
      refine List.forall_mem_append.mpr ⟨fun x hx => ?_, List.forall_mem_singleton.mpr (hmoved.hasChanged hevents)⟩
      obtain ⟨o, ho, hx⟩ := exists_left_of_forall₂ hclosed x hx
      exact (Deployment.moved_of_markSuperseded hx).1.hasChanged (Tables.events_of_deployment ((hos o).mp ho).stored)
    have hstarts : s.tables.Starts d s'.tables := by
      rw [foldlM_pendingEvents hchanged hwritten]
      refine hfiled.starts (hid.symm ▸ hd) hwaits hos hmoved.id hruns (hclosed.imp fun o o' ho' => ?_)
      obtain ⟨hmoved, hfailed⟩ := Deployment.moved_of_markSuperseded ho'
      exact ⟨hmoved.id, hfailed⟩
    have hfiled' : s'.tables.Filed := by
      rw [foldlM_pendingEvents hchanged hwritten]
      exact hfiled.changeStates _
    rcases hp' with ⟨e, rfl, he⟩ | rfl
    · refine ⟨rfl, hfiled', .of_isOver rfl, .starts hid hstarts hcalls, fun result hphase hok => ?_⟩
      cases hphase
      exact absurd hok (CommandError.toJobResult_store he)
    · have hlast : ((closed ++ [d']).map Aggregate.cleared).getLast?.getD d = d.inState d'.state := by
        rw [List.map_append, List.map_singleton, List.getLast?_concat, Option.getD_some]
        exact Deployment.cleared_of_changeState hevents hd'
      have hown : s'.tables.deployment p.id = .ok (d.inState d'.state) := by
        rw [foldlM_pendingEvents hchanged hwritten]
        exact hfiled.deployment_changeStates hd (by simp [List.filter_append, hmoved.id, hid])
      rw [hlast]
      refine ⟨rfl, hfiled', .of_started rfl hown hruns, .starts hid hstarts hcalls, fun result hended => ?_⟩
      have hgoes : (p.goTo (.started (d.inState d'.state))).result? = none := rfl
      cases hgoes.symm.trans hended

/-- The outcome is recorded after the build, and after an interruption. -/
theorem undisturbed_record {now : Timestamp} {error : Option String} {result : Except CommandError Unit}
    (hfiled : s.tables.Filed) (hd : s.tables.deployment p.id = .ok d) (hruns : d.state.status = .running)
    (h : p.commit s (fun _ => .ended result) ((d.changeState (d.state.finished now error)).map fun d => [d]) =
      (p', s')) : p.Undisturbed s p' s' := by
  obtain ⟨d', hd'⟩ := Deployment.exists_finished hruns now error
  rw [hd'] at h
  obtain ⟨hcalls, ⟨htables, e, rfl, he⟩ | ⟨hwritten, hp'⟩⟩ := commit_of_ok h
  · exact .of_fail hfiled htables hcalls (CommandError.toJobResult_store he)
  · have hid := (hfiled.deployment?_eq hd).2
    have hmoved := Deployment.moved_of_finished hd'
    have hchanged : ∀ x ∈ [d'], x.HasChanged :=
      List.forall_mem_singleton.mpr (hmoved.hasChanged (Tables.events_of_deployment hd))
    have hfinished : d'.state.status.isFinished = true := by
      obtain ⟨-, hstatus, -⟩ := DeploymentState.finished_eq_ok (Deployment.changeState_eq_ok hd').1
      rw [hstatus]
      cases error <;> rfl
    have hfinishes : s.tables.Finishes d s'.tables := by
      rw [foldlM_pendingEvents hchanged hwritten]
      exact hfiled.finishes (hid.symm ▸ hd) hruns hmoved.id hfinished
    have hfiled' : s'.tables.Filed := by
      rw [foldlM_pendingEvents hchanged hwritten]
      exact hfiled.changeStates _
    have hsettled : s'.tables.IsSettled p.id := by
      obtain ⟨state, hstate, hown⟩ := hfinishes.own
      exact .inr ⟨_, hid ▸ hown, hstate⟩
    have hover : p'.isOver = true ∧ p'.id = p.id := by
      rcases hp' with ⟨e, rfl, -⟩ | rfl
      · exact ⟨rfl, rfl⟩
      · exact ⟨rfl, rfl⟩
    exact ⟨hover.2, hfiled', .of_isOver hover.1, .finishes hid hfinishes hcalls (started?_of_isOver hover.1),
      fun _ _ _ => hsettled⟩

/-- A build calls the runner once, if at all. -/
theorem calls_runBuild (p : Deploying) (d : Deployment) (s : System) :
    (p.runBuild d s).2.2.calls = s.calls ∨ (p.runBuild d s).2.2.calls = s.calls ++ [Build.call d] := by
  unfold runBuild
  split
  · exact .inl rfl
  · split
    · exact .inl rfl
    · dsimp only
      split <;> exact .inr rfl

theorem undisturbed_build (hfiled : s.tables.Filed) (hphase : p.phase = .started d)
    (hd : s.tables.deployment p.id = .ok d) (hruns : d.state.status = .running) (h : p.build d s = (p', s')) :
    p.Undisturbed s p' s' := by
  have htables := p.tables_runBuild d s
  have hcalls := p.calls_runBuild d s
  have hstarted : p.started? = some d := by simp only [started?, hphase]
  rcases hbuild : p.runBuild d s with ⟨_ | outcome, context, s₁⟩
  · simp only [build, hbuild] at h htables hcalls
    cases h
    refine ⟨rfl, htables ▸ hfiled, .of_isOver rfl, .builds hstarted htables hcalls rfl, fun result hended => ?_⟩
    cases hended
  · simp only [build, hbuild] at h htables hcalls
    cases h
    exact ⟨rfl, htables ▸ hfiled, .of_built rfl (htables ▸ hd) hruns, .builds hstarted htables hcalls rfl,
      fun result hended => by cases hended⟩

/-- **What a step comes to that nobody disturbs.** -/
theorem undisturbed_of_step (hinformed : p.Informed s.tables) (hfiled : s.tables.Filed) (hgoes : p.isOver = false)
    (h : p.step s = (p', s')) : p.Undisturbed s p' s' := by
  unfold step at h
  split at h
  case h_1 => exact undisturbed_load hfiled h
  case h_2 d hphase =>
    have hd := hinformed.own d (by simp only [own?, hphase])
    split at h
    case h_1 hwaits => exact undisturbed_gather hfiled hd hwaits h
    case h_2 hruns => exact undisturbed_record hfiled hd hruns h
    case h_3 hwaits hruns =>
      cases h
      refine ⟨rfl, hfiled, .of_isOver rfl, .waits rfl rfl rfl, fun _ _ _ => .inr ⟨d, hd, ?_⟩⟩
      cases hstatus : d.state.status with
      | pending => exact absurd hstatus hwaits
      | running => exact absurd hstatus hruns
      | succeeded | failed => rfl
  case h_3 d os hphase =>
    obtain ⟨hwaits, hos⟩ := hinformed.gathered d os hphase
    exact undisturbed_start hfiled (hinformed.own d (by simp only [own?, hphase])) hwaits hos h
  case h_4 d hphase =>
    exact undisturbed_build hfiled hphase (hinformed.own d (by simp only [own?, hphase])) (hinformed.started d hphase) h
  case h_5 d outcome stopped hphase =>
    have hd := hinformed.own d (by simp only [own?, hphase])
    have hruns := hinformed.built d outcome stopped hphase
    cases outcome with
    | ok _ => exact undisturbed_record hfiled hd hruns h
    | error failure => exact undisturbed_record hfiled hd hruns h
  case h_6 hphase => simp only [isOver, hphase, reduceCtorEq] at hgoes
  case h_7 hphase => simp only [isOver, hphase, reduceCtorEq] at hgoes

end Deploying

end Rollout
