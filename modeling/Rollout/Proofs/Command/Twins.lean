import Rollout.Proofs.Command.Proceeding

/-!
# Commands whose events are refused

Systems that differ only in who listens to the bus (`System.Twins`) run a job alike, up to what the listeners are told:
they remain twins, and the results differ only if the work is done on both (`System.twins_of_process`). The exception is a
deployment whose start does not get through to all listeners: the command ends there, and its deployment is left running
(`System.losesStart`).
-/

namespace Rollout

/-- The systems are the same but for those who listen to the bus, and what they write to. -/
def System.Twins (s s' : System) : Prop := ∃ store : Store, store.db = s.store.db ∧ s' = { s with store }

namespace System.Twins

variable {s s' s'' : System}

theorem refl (s : System) : s.Twins s := ⟨s.store, rfl, rfl⟩

theorem symm (h : s.Twins s') : s'.Twins s := by
  obtain ⟨store, hdb, rfl⟩ := h
  exact ⟨s.store, hdb.symm, rfl⟩

theorem trans (h : s.Twins s') (h' : s'.Twins s'') : s.Twins s'' := by
  obtain ⟨store, hdb, rfl⟩ := h
  obtain ⟨store', hdb', rfl⟩ := h'
  exact ⟨store', hdb'.trans hdb, rfl⟩

theorem db_eq (h : s.Twins s') : s'.store.db = s.store.db := by
  obtain ⟨store, hdb, rfl⟩ := h
  exact hdb

theorem tables_eq (h : s.Twins s') : s'.tables = s.tables := congrArg Database.tables h.db_eq

theorem now_eq (h : s.Twins s') : s'.now = s.now := by
  obtain ⟨store, -, rfl⟩ := h
  rfl

theorem time_eq (h : s.Twins s') : s'.time = s.time := congrArg Timestamp.ofInstant h.now_eq

theorem withQueue (s : System) (q : Queue Work) : s.Twins (s.withQueue q) := ⟨(s.withQueue q).store, rfl, rfl⟩

end System.Twins

namespace Store

variable {A ε : Type} [Aggregate A ε] {s s' : Store}

/-- Who listens makes no difference to what is stored, nor to the aggregates. -/
theorem write_eq_of_db (h : s'.db = s.db) (as : List A) :
    (s'.write as).2.1 = (s.write as).2.1 ∧ (s'.write as).2.2.db = (s.write as).2.2.db ∧
      ((s'.write as).1 = (s.write as).1 ∨
        ∃ dispatched pending error, (s.write as).1 = .error (.undispatched dispatched pending error) ∨
          (s'.write as).1 = .error (.undispatched dispatched pending error)) := by
  simp only [write, writeTo, Database.write, h]
  rcases s.db.transact (Aggregate.apply A) (pendingEvents as) with ⟨e | _, db⟩
  · exact ⟨rfl, rfl, .inl rfl⟩
  · dsimp only
    rcases Dispatcher.dispatchAll _ _ s.hub with ⟨⟨dispatched, pending, error⟩ | _, hub⟩
    · rcases Dispatcher.dispatchAll _ _ s'.hub with ⟨⟨dispatched', pending', error'⟩ | _, hub'⟩
      · exact ⟨rfl, rfl, .inr ⟨dispatched, pending, error, .inl rfl⟩⟩
      · exact ⟨rfl, rfl, .inr ⟨dispatched, pending, error, .inl rfl⟩⟩
    · rcases Dispatcher.dispatchAll _ _ s'.hub with ⟨⟨dispatched', pending', error'⟩ | _, hub'⟩
      · exact ⟨rfl, rfl, .inr ⟨dispatched', pending', error', .inr rfl⟩⟩
      · exact ⟨rfl, rfl, .inl rfl⟩

end Store

/-- Both are at the same point, unless both have come to an end and nothing is left to be done about the work. -/
def Agree {π ρ : Type} (result? : π → Option ρ) (t : Tables) (w : Work) (p p' : π) : Prop :=
  p' = p ∨ (result? p).isSome = true ∧ (result? p').isSome = true ∧ t.needs w = false

/-- Commands that agree come to results that do. -/
theorem Agree.map {π ρ ρ' : Type} {result? : π → Option ρ} {t : Tables} {w : Work} {p p' : π}
    (h : Agree result? t w p p') (f : ρ → ρ') : Agree id t w ((result? p).map f) ((result? p').map f) := by
  rcases h with rfl | ⟨hp, hp', hdone⟩
  · exact .inl rfl
  · exact .inr ⟨Option.isSome_map.trans hp, Option.isSome_map.trans hp', hdone⟩

/-- Neither has a result, or both have one, and the same if something is left to be done. -/
theorem Agree.cases {ρ : Type} {t : Tables} {w : Work} {r r' : Option ρ} (h : Agree id t w r r') :
    (r = none ∧ r' = none) ∨ ∃ x x', r = some x ∧ r' = some x' ∧ (x' = x ∨ t.needs w = false) := by
  rcases h with rfl | ⟨hr, hr', hdone⟩
  · cases r' with
    | none => exact .inl ⟨rfl, rfl⟩
    | some x => exact .inr ⟨x, x, rfl, rfl, .inl rfl⟩
  · obtain ⟨x, hx⟩ := Option.isSome_iff_exists.mp hr
    obtain ⟨x', hx'⟩ := Option.isSome_iff_exists.mp hr'
    exact .inr ⟨x, x', hx, hx', .inr hdone⟩

/-! ## Deployments -/

namespace Deploying

variable {p : Deploying} {s s' : System} {d : Deployment}

/-- Whether the command has ended since some events that it stored did not get through to all listeners. -/
def isUndispatched (p : Deploying) : Bool :=
  match p.phase with
  | .ended (.error (.store (.undispatched ..))) => true
  | _ => false

/-- Whether the command takes the step that starts its deployment, and ends there. -/
def stopsAtStart (p : Deploying) (s : System) : Bool :=
  match p.phase with
  | .gathered .. => (p.step s).1.isUndispatched
  | _ => false

/-- Whether this happens in the next `n` steps. -/
def losesStart : Nat → Deploying → System → Bool
  | 0, _, _ => false
  | n + 1, p, s => p.stopsAtStart s || losesStart n (p.step s).1 (p.step s).2

theorem losesStart_of_isOver (h : p.isOver = true) (n : Nat) : p.losesStart n s = false := by
  induction n with
  | zero => rfl
  | succ n ih =>
    rw [losesStart, step_of_isOver h, ih, Bool.or_false]
    obtain ⟨id, context, holds, phase⟩ := p
    cases phase <;> first | rfl | cases h

/-- A command whose deployment is finished or gone starts nothing. -/
theorem losesStart_of_done (hs : s.InOrder) {id : DeploymentId} (hdone : s.tables.needs (.deploy id.app id.number) = false)
    (c : Context) (holds : Bool) : (enter id c holds).losesStart 5 s = false := by
  have hover (result : Except CommandError Unit) : ((enter id c holds).goTo (.ended result)).isOver = true := rfl
  rcases step_of_done hs hdone c holds with ⟨result, hended⟩ | ⟨d, hloaded, hended⟩
  · rw [losesStart, hended, losesStart_of_isOver (hover result), Bool.or_false]
    rfl
  · rw [losesStart, hloaded, losesStart, hended, losesStart_of_isOver (hover (.ok ())), Bool.or_false]
    rfl

theorem twins_of_commit {next : List Deployment → DeployPhase} {x : Except AppError (List Deployment)}
    (h : s.Twins s') :
    (p.commit s next x).2.Twins (p.commit s' next x).2 ∧
      ((p.commit s' next x).1 = (p.commit s next x).1 ∨ (p.commit s next x).1.isUndispatched = true ∨
        (p.commit s' next x).1.isUndispatched = true) := by
  obtain ⟨store, hdb, rfl⟩ := h
  cases x with
  | error e => exact ⟨⟨store, hdb, rfl⟩, .inl rfl⟩
  | ok ds =>
    obtain ⟨hds, hdb', hresult⟩ := Store.write_eq_of_db hdb ds
    rcases hwrite : s.store.write ds with ⟨result, ds₁, store₁⟩
    rcases hwrite' : store.write ds with ⟨result', ds₂, store₂⟩
    simp only [hwrite, hwrite'] at hds hdb' hresult
    subst hds
    simp only [commit, hwrite, hwrite']
    rcases hresult with rfl | ⟨dispatched, pending, error, rfl | rfl⟩
    · cases result' <;> exact ⟨⟨store₂, hdb', rfl⟩, .inl rfl⟩
    · cases result' <;> exact ⟨⟨store₂, hdb', rfl⟩, .inr (.inl rfl)⟩
    · cases result <;> exact ⟨⟨store₂, hdb', rfl⟩, .inr (.inr rfl)⟩

theorem runBuild_withStore (p : Deploying) (d : Deployment) (s : System) (store : Store) :
    p.runBuild d { s with store } =
      ((p.runBuild d s).1, (p.runBuild d s).2.1, { (p.runBuild d s).2.2 with store }) := by
  unfold runBuild
  dsimp only
  split
  · rfl
  · split
    · rfl
    · split <;> rfl

theorem twins_of_build (h : s.Twins s') :
    (p.build d s).2.Twins (p.build d s').2 ∧ (p.build d s').1 = (p.build d s).1 := by
  obtain ⟨store, hdb, rfl⟩ := h
  have hstore := p.store_runBuild d s
  simp only [build, runBuild_withStore]
  rcases hbuild : p.runBuild d s with ⟨_ | outcome, context, s₁⟩
  · rw [hbuild] at hstore
    exact ⟨⟨store, hdb.trans (congrArg Store.db hstore.symm), rfl⟩, rfl⟩
  · rw [hbuild] at hstore
    exact ⟨⟨store, hdb.trans (congrArg Store.db hstore.symm), rfl⟩, rfl⟩

/-- Nothing is left to be done once an outcome has been recorded. -/
theorem needs_of_record {now : Timestamp} {error : Option String} {result : Except CommandError Unit}
    (hs : s.InOrder) (hd : s.tables.deployment p.id = .ok d) (hruns : d.state.status = .running) :
    (p.commit s (fun _ => .ended result)
      ((d.changeState (d.state.finished now error)).map fun d => [d])).2.tables.needs
        (.deploy p.id.app p.id.number) = false := by
  obtain ⟨d', hd'⟩ := Deployment.exists_finished hruns now error
  have hfinished : d'.state.status.isFinished = true := by
    obtain ⟨-, hstatus, -⟩ := DeploymentState.finished_eq_ok (Deployment.changeState_eq_ok hd').1
    rw [hstatus]
    cases error <;> rfl
  have hid := (hs.filed.deployment?_eq hd).2
  have hfinishes := hs.filed.finishes (hid.symm ▸ hd) hruns (Deployment.moved_of_finished hd').id hfinished
  obtain ⟨state, hstate, hown⟩ := hfinishes.own
  rw [hd', Except.map, tables_record_of_grants (Tables.events_of_deployment hd) hd' (hs.calm.grants 3)]
  exact Tables.needs_of_isSettled (.inr ⟨_, hid ▸ hown, hstate⟩)

theorem twins_of_record {now : Timestamp} {error : Option String} {result : Except CommandError Unit}
    (hs : s.InOrder) (h : s.Twins s') (hd : s.tables.deployment p.id = .ok d) (hruns : d.state.status = .running) :
    let x := (d.changeState (d.state.finished now error)).map fun d => [d]
    (p.commit s (fun _ => .ended result) x).2.Twins (p.commit s' (fun _ => .ended result) x).2 ∧
      Agree result? (p.commit s (fun _ => .ended result) x).2.tables (.deploy p.id.app p.id.number)
        (p.commit s (fun _ => .ended result) x).1 (p.commit s' (fun _ => .ended result) x).1 :=
  ⟨(twins_of_commit h).1, .inr ⟨isSome_result?_record, isSome_result?_record, needs_of_record hs hd hruns⟩⟩

/-- **A step leaves twins behind**, and commands that agree, unless a start does not get through. -/
theorem twins_of_step (hs : s.InOrder) (hinformed : p.Informed s.tables) (h : s.Twins s')
    (hstarts : p.stopsAtStart s = false) (hstarts' : p.stopsAtStart s' = false) :
    (p.step s).2.Twins (p.step s').2 ∧
      Agree result? (p.step s).2.tables (.deploy p.id.app p.id.number) (p.step s).1 (p.step s').1 := by
  have hcalm' : s'.store.db.IsCalm := h.db_eq ▸ hs.calm
  unfold step
  split
  case h_1 =>
    rw [load_of_calm hs.calm, load_of_calm hcalm', h.now_eq, h.tables_eq]
    exact ⟨h, .inl rfl⟩
  case h_2 d hphase =>
    have hd := hinformed.own d (by simp only [own?, hphase])
    split
    case h_1 =>
      rw [gather, gather, andThen_of_calm hs.calm, andThen_of_calm hcalm', h.tables_eq]
      exact ⟨h, .inl rfl⟩
    case h_2 hruns =>
      rw [recordInterruption, recordInterruption, h.time_eq]
      exact twins_of_record hs h hd hruns
    case h_3 => exact ⟨h, .inl rfl⟩
  case h_3 d os hphase =>
    -- the one write after which a command goes on, so that it matters whether it gets through
    simp only [stopsAtStart, step, hphase] at hstarts hstarts'
    rw [start, h.time_eq] at hstarts'
    rw [start, start, h.time_eq]
    obtain ⟨htwins, hsame | hlost | hlost⟩ := @twins_of_commit p s s' (fun ds => .started (ds.getLast?.getD d))
      (p.batch d os s.time) h
    · exact ⟨htwins, .inl hsame⟩
    · cases hstarts.symm.trans hlost
    · cases hstarts'.symm.trans hlost
  case h_4 d hphase =>
    obtain ⟨htwins, hsame⟩ := @twins_of_build p s s' d h
    exact ⟨htwins, .inl hsame⟩
  case h_5 d outcome stopped hphase =>
    have hd := hinformed.own d (by simp only [own?, hphase])
    have hruns := hinformed.built d outcome stopped hphase
    cases outcome with
    | ok _ =>
      simp only [record, h.time_eq]
      exact twins_of_record hs h hd hruns
    | error failure =>
      simp only [record, h.time_eq]
      exact twins_of_record hs h hd hruns
  case h_6 => exact ⟨h, .inl rfl⟩
  case h_7 => exact ⟨h, .inl rfl⟩

theorem twins_of_run (n : Nat) (hs : s.InOrder) (hinformed : p.Informed s.tables) (h : s.Twins s')
    (hstarts : p.losesStart n s = false) (hstarts' : p.losesStart n s' = false) :
    (p.run n s).2.Twins (p.run n s').2 ∧
      Agree result? (p.run n s).2.tables (.deploy p.id.app p.id.number) (p.run n s).1 (p.run n s').1 := by
  induction n generalizing p s s' with
  | zero => exact ⟨h, .inl rfl⟩
  | succ n ih =>
    rw [losesStart, Bool.or_eq_false_iff] at hstarts hstarts'
    rw [run_succ, run_succ]
    obtain ⟨hproceeds, hinformed'⟩ := proceeds_of_step hs hinformed rfl
    obtain ⟨htwins, hsame | ⟨hended, hended', hdone⟩⟩ := twins_of_step hs hinformed h hstarts.1 hstarts'.1
    · have hid : (p.step s).1.id = p.id := (effect_of_step rfl).id_eq
      rw [hsame] at hstarts' ⊢
      rw [← hid]
      exact ih hproceeds.inOrder hinformed' htwins hstarts.2 hstarts'.2
    · rw [run_of_isOver (isOver_of_isSome hended), run_of_isOver (isOver_of_isSome hended')]
      exact ⟨htwins, .inr ⟨hended, hended', hdone⟩⟩

end Deploying

/-! ## Cleanups -/

namespace CleaningUp

variable {p : CleaningUp} {s s' : System} {a : App}

theorem twins_of_load (hcalm : s.store.db.IsCalm) (h : s.Twins s') :
    (p.load s).2.Twins (p.load s').2 ∧ (p.load s').1 = (p.load s).1 := by
  have hcalm' : s'.store.db.IsCalm := h.db_eq ▸ hcalm
  obtain ⟨store, hdb, rfl⟩ := h
  unfold load
  simp only [Store.loadApp, Store.query_of_calm hcalm, Store.query_of_calm hcalm', hdb]
  split
  · exact ⟨⟨store, hdb, rfl⟩, rfl⟩
  · split
    · exact ⟨⟨store, hdb, rfl⟩, rfl⟩
    · split <;> exact ⟨⟨store, hdb, rfl⟩, rfl⟩

theorem twins_of_clear (h : s.Twins s') :
    (p.clear a s).2.Twins (p.clear a s').2 ∧ (p.clear a s').1 = (p.clear a s).1 := by
  obtain ⟨store, hdb, rfl⟩ := h
  unfold clear
  split
  · exact ⟨⟨store, hdb, rfl⟩, rfl⟩
  · dsimp only
    split <;> exact ⟨⟨store, hdb, rfl⟩, rfl⟩

/-- The deletion of an app is stored, whoever listens. -/
theorem twins_of_delete (hs : s.InOrder) (hid : a.id = p.app) (hevents : a.events = .empty) (h : s.Twins s') :
    (p.delete a s).2.Twins (p.delete a s').2 ∧
      Agree result? (p.delete a s).2.tables (.cleanup p.app) (p.delete a s).1 (p.delete a s').1 := by
  obtain ⟨store, hdb, rfl⟩ := h
  unfold delete App.delete
  split
  case h_1 => exact ⟨⟨store, hdb, rfl⟩, .inl rfl⟩
  case h_2 a' ha' =>
    split at ha'
    · cases ha'
    · cases ha'
      have hwritten : (s.store.write [a.raise (.deleted a.id)]).2.2.db.tables = s.tables.deleteApp a.id := by
        refine Store.tables_write_of_grants (hs.calm.grants _) ?_
        rw [pendingEvents_raise hevents]
        rfl
      have hdone : (s.tables.deleteApp a.id).needs (.cleanup p.app) = false := by
        rw [Tables.needs, hid, Tables.app?_deleteApp, if_pos rfl]
        rfl
      obtain ⟨-, hdb', -⟩ := Store.write_eq_of_db hdb [a.raise (.deleted a.id)]
      rcases hwrite : s.store.write [a.raise (.deleted a.id)] with ⟨result, as, store₁⟩
      rcases hwrite' : store.write [a.raise (.deleted a.id)] with ⟨result', as', store₂⟩
      rw [hwrite] at hwritten hdb'
      rw [hwrite'] at hdb'
      rw [← hwritten] at hdone
      dsimp only
      cases result <;> cases result' <;> exact ⟨⟨store₂, hdb', rfl⟩, .inr ⟨rfl, rfl, hdone⟩⟩

theorem twins_of_step (hs : s.InOrder) (hinformed : p.Informed) (h : s.Twins s') :
    (p.step s).2.Twins (p.step s').2 ∧
      Agree result? (p.step s).2.tables (.cleanup p.app) (p.step s).1 (p.step s').1 := by
  unfold step
  split
  case h_1 =>
    obtain ⟨htwins, hsame⟩ := @twins_of_load p s s' hs.calm h
    exact ⟨htwins, .inl hsame⟩
  case h_2 a hphase =>
    obtain ⟨htwins, hsame⟩ := @twins_of_clear p s s' a h
    exact ⟨htwins, .inl hsame⟩
  case h_3 a hphase =>
    have hcopy : p.copy? = some a := by rw [copy?, hphase]
    exact twins_of_delete hs (hinformed.id a hcopy) (hinformed.events a hcopy) h
  case h_4 => exact ⟨h, .inl rfl⟩

theorem isOver_of_isSome (h : p.result?.isSome = true) : p.isOver = true := by
  obtain ⟨app, context, phase⟩ := p
  cases phase <;> first | rfl | cases h

theorem twins_of_run (n : Nat) (hs : s.InOrder) (hinformed : p.Informed) (h : s.Twins s') :
    (p.run n s).2.Twins (p.run n s').2 ∧
      Agree result? (p.run n s).2.tables (.cleanup p.app) (p.run n s).1 (p.run n s').1 := by
  induction n generalizing p s s' with
  | zero => exact ⟨h, .inl rfl⟩
  | succ n ih =>
    rw [run_succ, run_succ]
    obtain ⟨hproceeds, hinformed'⟩ := proceeds_of_step hs hinformed rfl
    obtain ⟨htwins, hsame | ⟨hended, hended', hdone⟩⟩ := twins_of_step hs hinformed h
    · rw [hsame, ← app_of_step hinformed]
      exact ih hproceeds.inOrder hinformed' htwins
    · rw [run_of_isOver (isOver_of_isSome hended), run_of_isOver (isOver_of_isSome hended')]
      exact ⟨htwins, .inr ⟨hended, hended', hdone⟩⟩

end CleaningUp

/-! ## Jobs -/

namespace System

variable {s s' : System} {job job' : Job Work} {c : Context} {holds : Bool}

/-- Whether the job starts its deployment, and ends there since the start does not get through to all listeners. -/
def losesStart (s : System) (job : Job Work) (c : Context) (holds : Bool) : Bool :=
  match Work.registry.command job with
  | .ok (.deploy id) => (Deploying.enter id c holds).losesStart 5 s
  | _ => false

/-- What to run for a job is a matter of its data. -/
theorem command_congr (h : job'.data = job.data) : Work.registry.command job' = Work.registry.command job := by
  obtain ⟨id, attempt, data, key⟩ := job
  obtain ⟨id', attempt', data', key'⟩ := job'
  obtain rfl : data' = data := h
  cases data' <;> rfl

/-- The work that a command does. -/
theorem data_of_command {command : Command} (h : Work.registry.command job = .ok command) :
    job.data = match command with
      | .deploy id => .deploy id.app id.number
      | .cleanup app => .cleanup app := by
  obtain ⟨id, attempt, data, key⟩ := job
  cases data <;> cases h <;> rfl

theorem command_of_deploy {id : DeploymentId} (h : job.data = .deploy id.app id.number) :
    Work.registry.command job = .ok (.deploy id) := by
  obtain ⟨i, attempt, data, key⟩ := job
  cases h
  rfl

/-- A job whose work is done starts nothing. -/
theorem losesStart_of_done (hs : s.InOrder) (hdone : s.tables.needs job.data = false) (c : Context) (holds : Bool) :
    s.losesStart job c holds = false := by
  unfold losesStart
  split
  · next id hcommand =>
    rw [data_of_command hcommand] at hdone
    exact Deploying.losesStart_of_done hs hdone c holds
  · rfl

/-- **A job leaves twins behind**, and results that agree, unless a start does not get through. -/
theorem twins_of_process (hs : s.InOrder) (h : s.Twins s') (hdata : job'.data = job.data)
    (hstarts : s.losesStart job c holds = false) (hstarts' : s'.losesStart job' c holds = false) :
    (s.process job c holds).2.Twins (s'.process job' c holds).2 ∧
      Agree id (s.process job c holds).2.tables job.data (s.process job c holds).1 (s'.process job' c holds).1 := by
  cases hcommand : Work.registry.command job with
  | error e =>
    rw [process_of_no_command hcommand, process_of_no_command (command_congr hdata ▸ hcommand)]
    exact ⟨h, .inl rfl⟩
  | ok command =>
    have hcommand' : Work.registry.command job' = .ok command := command_congr hdata ▸ hcommand
    have hwork := data_of_command hcommand
    rw [process_of_command hcommand, process_of_command hcommand', hwork]
    cases command with
    | deploy id =>
      simp only [losesStart, hcommand, hcommand'] at hstarts hstarts'
      have hinformed : (Deploying.enter id c holds).Informed s.tables := .of_own?_eq_none rfl
      obtain ⟨htwins, hagree⟩ := Deploying.twins_of_run 5 hs hinformed h hstarts hstarts'
      simp only [execute, deploy_eq]
      exact ⟨htwins, hagree.map CommandError.toJobResult⟩
    | cleanup app =>
      have hinformed : (CleaningUp.enter app c).Informed := .of_copy?_eq_none rfl
      obtain ⟨htwins, hagree⟩ := CleaningUp.twins_of_run 3 hs hinformed h
      simp only [execute, cleanup_eq]
      exact ⟨htwins, hagree.map CommandError.toJobResult⟩

end System

end Rollout
