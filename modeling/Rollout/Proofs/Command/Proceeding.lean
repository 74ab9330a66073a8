import Rollout.Proofs.Command.Interruption
import Rollout.Proofs.Command.Quiet
import Rollout.Proofs.Command.Records
import Rollout.System.Jobs

/-!
# Commands of a system in order

Where the scheduler comes first and the database answers (`System.InOrder`), a command that nobody disturbs keeps it so,
enqueues nothing, and undoes nothing that has been done (`System.proceeds_process`). A job whose work is done already
leaves the system as it is (`System.process_of_done`).
-/

namespace Rollout

namespace Database

variable {db : Database}

/-- The database is open, and no access to it is going to fail. -/
def IsCalm (db : Database) : Prop := db.isClosed = false ∧ db.faults = []

theorem IsCalm.skip (h : db.IsCalm) (k : Nat) : db.skip k = db := by
  obtain ⟨tables, isClosed, faults⟩ := db
  obtain ⟨rfl, rfl⟩ : isClosed = false ∧ faults = [] := h
  simp [Database.skip]

theorem IsCalm.refusal?_eq (h : db.IsCalm) (k : Nat) : db.refusal? k = none := by
  simp [refusal?, h.1, h.2]

theorem IsCalm.grants (h : db.IsCalm) (n : Nat) : db.Grants n := fun k _ => h.refusal?_eq k

end Database

namespace Store

variable {s s' : Store}

theorem query_of_calm (h : s.db.IsCalm) {β : Type} (question : Tables → Except StoreError β) :
    s.query question = (question s.db.tables, s) := by
  rw [query, Database.query, Database.access_of_granted (h.refusal?_eq 0), h.skip]

theorem Touches.isCalm (h : s.Touches s') (hs : s.db.IsCalm) : s'.db.IsCalm := by
  cases h with
  | stays => exact hs
  | asks question => rwa [query_of_calm hs]
  | writes as _ =>
    rcases s.write_cases as with ⟨error, k, hwrite⟩ | ⟨result, tables, k, hub, -, -, hwrite⟩
    · rw [hwrite, hs.skip]
      exact hs
    · rw [hwrite, hs.skip]
      exact hs

end Store

/-- Whether something is left to be done about the work. -/
def Tables.needs (t : Tables) : Work → Bool
  | .deploy app n =>
    match t.deployment ⟨app, n⟩ with
    | .ok d => !d.state.status.isFinished
    | .error _ => false
  | .cleanup app => (t.app? app).isSome
  | .foreign _ => true

namespace Tables

variable {t t' : Tables}

theorem needs_of_isSettled {id : DeploymentId} (h : t.IsSettled id) : t.needs (.deploy id.app id.number) = false := by
  rw [needs]
  cases hd : t.deployment ⟨id.app, id.number⟩ with
  | error e => rfl
  | ok d =>
    rcases h with hnone | ⟨d', hd', hfinished⟩
    · obtain ⟨r, hr, -⟩ := deployment_eq_ok.mp hd
      cases hnone.symm.trans hr
    · cases hd'.symm.trans hd
      simp [hfinished]

/-- A deployment that is stored and needs nothing more is finished. -/
theorem isFinished_of_needs {id : DeploymentId} (h : t.needs (.deploy id.app id.number) = false) {d : Deployment}
    (hd : t.deployment id = .ok d) : d.state.status.isFinished = true := by
  rw [needs, hd] at h
  simpa using h

/-- What is done stays so if no deployment is new, and finished ones and deleted apps stay as they are. -/
theorem needs_of_origin (hfiled : t'.Filed)
    (horigin : ∀ d', t'.deployment d'.id = .ok d' → t.Origin t' d')
    (happs : ∀ app, t.app? app = none → t'.app? app = none) {w : Work} (h : t.needs w = false) :
    t'.needs w = false := by
  cases w with
  | deploy app n =>
    rw [needs]
    cases hd' : t'.deployment ⟨app, n⟩ with
    | error e => rfl
    | ok d' =>
      have hid := (hfiled.deployment?_eq hd').2
      have horigin := horigin d' (hid ▸ hd')
      obtain ⟨d, hd, -⟩ := horigin.exists_before
      have hfinished := isFinished_of_needs (hid ▸ h) hd
      rw [horigin.eq_of_isFinished hd hfinished]
      simp [hfinished]
  | cleanup app =>
    have hnone : t.app? app = none := Option.not_isSome_iff_eq_none.mp (Bool.eq_false_iff.mp h)
    rw [needs, happs app hnone]
    rfl
  | foreign value => cases h

end Tables

namespace System

/-- The scheduler comes first, the database answers, and its deployments are in order. -/
structure InOrder (s : System) : Prop where
  wired : s.store.IsWired
  calm : s.store.db.IsCalm
  filed : s.tables.Filed

/-- The system is still in order, nothing has been enqueued, and what was done still is. -/
structure Proceeds (s s' : System) : Prop where
  inOrder : s'.InOrder
  queue : s'.queue = s.queue
  done : ∀ w, s.tables.needs w = false → s'.tables.needs w = false

variable {s s' s'' : System}

theorem Proceeds.refl (h : s.InOrder) : s.Proceeds s := ⟨h, rfl, fun _ hw => hw⟩

theorem Proceeds.trans (h : s.Proceeds s') (h' : s'.Proceeds s'') : s.Proceeds s'' :=
  ⟨h'.inOrder, h'.queue.trans h.queue, fun w hw => h'.done w (h.done w hw)⟩

theorem Proceeds.of_touches (h : s.InOrder) (htouches : s.store.Touches s'.store) (hfiled : s'.tables.Filed)
    (horigin : ∀ d', s'.tables.deployment d'.id = .ok d' → s.tables.Origin s'.tables d')
    (happs : ∀ app, s.tables.app? app = none → s'.tables.app? app = none) : s.Proceeds s' where
  inOrder := ⟨htouches.isWired h.wired, htouches.isCalm h.calm, hfiled⟩
  queue := htouches.queue_eq h.wired
  done _ := Tables.needs_of_origin hfiled horigin happs

end System

namespace Deploying

variable {p p' : Deploying} {s s' : System}

theorem proceeds_of_step (hs : s.InOrder) (hinformed : p.Informed s.tables) (h : p.step s = (p', s')) :
    s.Proceeds s' ∧ p'.Informed s'.tables := by
  cases hover : p.isOver with
  | true =>
    cases (step_of_isOver hover).symm.trans h
    exact ⟨.refl hs, hinformed⟩
  | false =>
    have hundisturbed := undisturbed_of_step hinformed hs.filed hover h
    have happs : s'.tables.apps = s.tables.apps := by
      cases hundisturbed.advances with
      | waits htables _ _ => rw [htables]
      | starts _ hstarts _ => exact hstarts.apps
      | builds _ htables _ _ => rw [htables]
      | finishes _ hfinishes _ _ => exact hfinishes.apps
    refine ⟨.of_touches hs (touches_of_step hinformed h) hundisturbed.filed (fun d' hd' => ?_) fun app hnone => ?_,
      hundisturbed.informed⟩
    · exact (records_of_step hinformed h).origin hs.filed hd'
    · rwa [Tables.app?_congr happs]

theorem proceeds_run (n : Nat) (hs : s.InOrder) (hinformed : p.Informed s.tables) : s.Proceeds (p.run n s).2 := by
  induction n generalizing p s with
  | zero => exact .refl hs
  | succ n ih =>
    obtain ⟨hproceeds, hinformed'⟩ := proceeds_of_step hs hinformed rfl
    exact hproceeds.trans (ih hproceeds.inOrder hinformed')

end Deploying

namespace CleaningUp

variable {p p' : CleaningUp} {s s' : System}

theorem run_succ (n : Nat) (p : CleaningUp) (s : System) : p.run (n + 1) s = (p.step s).1.run n (p.step s).2 := rfl

theorem run_of_isOver (h : p.isOver = true) (n : Nat) : p.run n s = (p, s) := by
  induction n with
  | zero => rfl
  | succ n ih => rw [run_succ, step_of_isOver h, ih]

theorem proceeds_of_step (hs : s.InOrder) (hinformed : p.Informed) (h : p.step s = (p', s')) :
    s.Proceeds s' ∧ p'.Informed := by
  cases hover : p.isOver with
  | true =>
    cases (step_of_isOver hover).symm.trans h
    exact ⟨.refl hs, hinformed⟩
  | false =>
    obtain ⟨heffect, -⟩ := effect_of_step hinformed hover h
    have htouches := touches_of_step hinformed h
    refine ⟨?_, heffect.informed hinformed⟩
    have horigin (d' : Deployment) (hd' : s'.tables.deployment d'.id = .ok d') : s.tables.Origin s'.tables d' :=
      origin_of_step hinformed h hd'
    rcases heffect.tables_cases hinformed with htables | htables
    · refine .of_touches hs htouches (htables ▸ hs.filed) horigin fun app hnone => ?_
      rwa [htables]
    · refine .of_touches hs htouches (htables ▸ hs.filed.deleteApp p.app) horigin fun app hnone => ?_
      rw [htables, Tables.app?_deleteApp, hnone, ite_self]

theorem proceeds_run (n : Nat) (hs : s.InOrder) (hinformed : p.Informed) : s.Proceeds (p.run n s).2 := by
  induction n generalizing p s with
  | zero => exact .refl hs
  | succ n ih =>
    obtain ⟨hproceeds, hinformed'⟩ := proceeds_of_step hs hinformed rfl
    exact hproceeds.trans (ih hproceeds.inOrder hinformed')

end CleaningUp

/-! ## Jobs -/

namespace System

variable {s : System} {job : Job Work} {id : DeploymentId} {app : AppId} {c : Context} {holds : Bool}

theorem deploy_eq : s.deploy id c holds = (((Deploying.enter id c holds).run 5 s).1.result?,
    ((Deploying.enter id c holds).run 5 s).2) := by
  rw [deploy]

theorem cleanup_eq : s.cleanup app c = (((CleaningUp.enter app c).run 3 s).1.result?,
    ((CleaningUp.enter app c).run 3 s).2) := by
  rw [cleanup]

theorem process_of_command {command : Command} (h : Work.registry.command job = .ok command) :
    s.process job c holds = ((s.execute c holds command).1.map CommandError.toJobResult,
      (s.execute c holds command).2) := by
  simp only [process, h]

theorem process_of_no_command {e : JobError} (h : Work.registry.command job = .error e) :
    s.process job c holds = (some (.error e), s) := by
  simp only [process, h]

/-- **A job keeps the system in order**, enqueues nothing, and undoes nothing. -/
theorem proceeds_process (hs : s.InOrder) (job : Job Work) (c : Context) (holds : Bool) :
    s.Proceeds (s.process job c holds).2 := by
  cases hcommand : Work.registry.command job with
  | error e =>
    rw [process_of_no_command hcommand]
    exact .refl hs
  | ok command =>
    rw [process_of_command hcommand]
    cases command with
    | deploy id =>
      have hinformed : (Deploying.enter id c holds).Informed s.tables := .of_own?_eq_none rfl
      simp only [execute, deploy_eq]
      exact Deploying.proceeds_run 5 hs hinformed
    | cleanup app =>
      have hinformed : (CleaningUp.enter app c).Informed := .of_copy?_eq_none rfl
      simp only [execute, cleanup_eq]
      exact CleaningUp.proceeds_run 3 hs hinformed

end System

/-! ## Work that is done already -/

namespace Deploying

variable {p : Deploying} {s : System}

theorem andThen_of_calm (hcalm : s.store.db.IsCalm) {β : Type} (question : Tables → Except StoreError β)
    (next : β → DeployPhase) :
    p.andThen s (s.store.query question) next = ((match question s.tables with
      | .error e => p.fail (.store e)
      | .ok b => p.goTo (next b)), s) := by
  simp only [andThen, Store.query_of_calm hcalm, System.tables]
  cases question s.store.db.tables <;> rfl

theorem load_of_calm (hcalm : s.store.db.IsCalm) :
    p.load s = ((match p.context.stop? s.now, s.tables.deployment p.id with
      | some _, _ => p.fail .cancelled
      | none, .error e => p.fail (.store e)
      | none, .ok d => p.goTo (.loaded d)), s) := by
  unfold load
  cases p.context.stop? s.now with
  | some _ => rfl
  | none =>
    simp only [Store.loadDeployment, andThen_of_calm hcalm]
    cases s.tables.deployment p.id <;> rfl

/-- A command whose deployment is finished or gone ends when it looks for it, or when it finds it finished. -/
theorem step_of_done (hs : s.InOrder) {id : DeploymentId} (hdone : s.tables.needs (.deploy id.app id.number) = false)
    (c : Context) (holds : Bool) :
    (∃ result, (enter id c holds).step s = ((enter id c holds).goTo (.ended result), s)) ∨
      ∃ d, (enter id c holds).step s = ((enter id c holds).goTo (.loaded d), s) ∧
        ((enter id c holds).goTo (.loaded d)).step s = ((enter id c holds).goTo (.ended (.ok ())), s) := by
  have hload : (enter id c holds).step s = _ := load_of_calm hs.calm
  rw [hload]
  split
  · exact .inl ⟨_, rfl⟩
  · exact .inl ⟨_, rfl⟩
  · next d _ hd =>
    have hfinished := Tables.isFinished_of_needs hdone hd
    refine .inr ⟨d, rfl, ?_⟩
    simp only [step, goTo]
    cases hstatus : d.state.status with
    | succeeded | failed => rfl
    | pending | running =>
      rw [hstatus] at hfinished
      cases hfinished

theorem run_of_done (hs : s.InOrder) {id : DeploymentId} (hdone : s.tables.needs (.deploy id.app id.number) = false)
    (c : Context) (holds : Bool) :
    ∃ result, (enter id c holds).run 5 s = ((enter id c holds).goTo (.ended result), s) := by
  rcases step_of_done hs hdone c holds with ⟨result, hended⟩ | ⟨d, hloaded, hended⟩
  · refine ⟨result, ?_⟩
    rw [run_succ, hended]
    exact run_of_isOver rfl 4
  · refine ⟨.ok (), ?_⟩
    rw [run_succ, hloaded, run_succ, hended]
    exact run_of_isOver rfl 3

end Deploying

namespace System

variable {s : System}

/-- A command whose deployment is finished or gone comes to its end at once. -/
theorem deploy_of_done (hs : s.InOrder) {id : DeploymentId} (hdone : s.tables.needs (.deploy id.app id.number) = false)
    (c : Context) (holds : Bool) : ∃ result, s.deploy id c holds = (some result, s) := by
  obtain ⟨result, hrun⟩ := Deploying.run_of_done hs hdone c holds
  rw [deploy_eq, hrun]
  exact ⟨result, rfl⟩

/-- A command whose app is gone comes to its end at once. -/
theorem cleanup_of_done (hs : s.InOrder) {app : AppId} (hdone : s.tables.needs (.cleanup app) = false) (c : Context) :
    ∃ result, s.cleanup app c = (some result, s) := by
  have hnone : s.tables.app? app = none := Option.not_isSome_iff_eq_none.mp (Bool.eq_false_iff.mp hdone)
  have hrun : ∃ p result, (CleaningUp.enter app c).run 3 s = (p, s) ∧ p.result? = some result := by
    have hload : ∃ result, (CleaningUp.enter app c).step s = ((CleaningUp.enter app c).goTo (.ended result), s) := by
      have happ : s.store.db.tables.app app = .error (.notFound "app") := Tables.app_of_app?_eq_none hnone
      unfold CleaningUp.step CleaningUp.load
      simp only [CleaningUp.enter]
      split
      · exact ⟨_, rfl⟩
      · simp only [Store.loadApp, Store.query_of_calm hs.calm, happ]
        exact ⟨_, rfl⟩
    obtain ⟨result, hload⟩ := hload
    rw [CleaningUp.run_succ, hload]
    exact ⟨_, result, CleaningUp.run_of_isOver rfl 2, rfl⟩
  obtain ⟨p, result, hrun, hresult⟩ := hrun
  rw [cleanup_eq, hrun]
  exact ⟨result, congrArg (·, s) hresult⟩

/-- **A job whose work is done leaves the system as it is.** -/
theorem process_of_done (hs : s.InOrder) {job : Job Work} (hdone : s.tables.needs job.data = false) (c : Context)
    (holds : Bool) : ∃ result, s.process job c holds = (some result, s) := by
  obtain ⟨id, attempt, data, key⟩ := job
  cases data with
  | deploy app n =>
    obtain ⟨result, hresult⟩ := @deploy_of_done s hs ⟨app, n⟩ hdone c holds
    exact ⟨CommandError.toJobResult result, congrArg (fun r => (r.1.map CommandError.toJobResult, r.2)) hresult⟩
  | cleanup app =>
    obtain ⟨result, hresult⟩ := cleanup_of_done hs hdone c
    exact ⟨CommandError.toJobResult result, congrArg (fun r => (r.1.map CommandError.toJobResult, r.2)) hresult⟩
  | foreign value => cases hdone

end System

end Rollout
