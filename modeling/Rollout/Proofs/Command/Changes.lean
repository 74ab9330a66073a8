import Rollout.Command.Deploy
import Rollout.Proofs.Deployment.Operations
import Rollout.Proofs.Store.Lookup
import Rollout.Proofs.Store.Write

/-!
# What a deploy command changes

A command moves copies of deployments from one status to the next (`Deployment.Moved`) and writes what they came to.
What one step of a command can do to its phase and to the tables is said once (`Deploying.Effect`).
-/

namespace Rollout

/-! ## Deployments that changed their state -/

namespace Deployment

variable {d d' : Deployment} {now : Timestamp}

/-- `d'` is the deployment `d` after one change of its state. -/
structure Moved (d d' : Deployment) : Prop where
  id : d'.id = d.id
  next : d.state.status.Next d'.state.status
  events : d'.events = d.events.record (.stateChanged d'.id d'.state)

theorem changeState_eq_ok {state : Except AppError DeploymentState} (h : d.changeState state = .ok d') :
    state = .ok d'.state ∧ d'.id = d.id ∧ d'.events = d.events.record (.stateChanged d'.id d'.state) := by
  cases state with
  | error e => cases h
  | ok state =>
    cases h
    exact ⟨rfl, rfl, rfl⟩

theorem moved_of_markRunning (h : d.markRunning now = .ok d') : d.Moved d' ∧ d'.state.status = .running := by
  obtain ⟨hstate, hid, hevents⟩ := changeState_eq_ok h
  obtain ⟨hstatus, hstate⟩ := DeploymentState.started_eq_ok_iff.mp hstate
  have hstatus' : d'.state.status = .running := by rw [hstate]
  exact ⟨⟨hid, by rw [hstatus, hstatus']; exact .start, hevents⟩, hstatus'⟩

theorem moved_of_markSuperseded {newer : DeploymentNumber} (h : d.markSuperseded now newer = .ok d') :
    d.Moved d' ∧ d'.state.status = .failed := by
  obtain ⟨hstate, hid, hevents⟩ := changeState_eq_ok h
  obtain ⟨hstatus, hstatus', -⟩ := DeploymentState.superseded_eq_ok hstate
  exact ⟨⟨hid, by rw [hstatus, hstatus']; exact .close, hevents⟩, hstatus'⟩

theorem moved_of_finished {error : Option String} (h : d.changeState (d.state.finished now error) = .ok d') :
    d.Moved d' := by
  obtain ⟨hstate, hid, hevents⟩ := changeState_eq_ok h
  obtain ⟨hstatus, hstatus', -⟩ := DeploymentState.finished_eq_ok hstate
  refine ⟨hid, ?_, hevents⟩
  rw [hstatus, hstatus']
  cases error with
  | none => exact .succeed
  | some _ => exact .fail

/-- Only its new state is left to be written of the deployment. -/
def HasChanged (d : Deployment) : Prop := Aggregate.pending d = [.stateChanged d.id d.state]

theorem Moved.hasChanged (h : d.Moved d') (hd : d.events = .empty) : d'.HasChanged := by
  have hevents : d'.events.drain.1 = [.stateChanged d'.id d'.state] := by rw [h.events, hd]; rfl
  exact hevents

end Deployment

/-- Writing deployments that changed their states changes their states in the tables, whatever is in them. -/
theorem foldlM_of_hasChanged {ds : List Deployment} (hds : ∀ d ∈ ds, d.HasChanged) (t : Tables) :
    (pendingEvents ds).foldlM (Aggregate.apply Deployment) t = .ok (t.changeStates ds) := by
  induction ds generalizing t with
  | nil => rfl
  | cons d ds ih =>
    obtain ⟨hd, hds⟩ := List.forall_mem_cons.mp hds
    have hevents : pendingEvents (d :: ds) = .stateChanged d.id d.state :: pendingEvents ds := by
      rw [pendingEvents, List.flatMap_cons, hd]
      rfl
    rw [hevents, List.foldlM_cons]
    exact ih hds _

theorem foldlM_pendingEvents {ds : List Deployment} {t t' : Tables} (hds : ∀ d ∈ ds, d.HasChanged)
    (h : (pendingEvents ds).foldlM (Aggregate.apply Deployment) t = .ok t') : t' = t.changeStates ds :=
  Except.ok.inj (h.symm.trans (foldlM_of_hasChanged hds t))

/-! ## Commands -/

namespace CommandError

theorem toJobResult_cancelled : toJobResult (.error .cancelled) ≠ .ok () := by simp [toJobResult]

theorem toJobResult_store {e : StoreError} (h : e.isNotFound = false) : toJobResult (.error (.store e)) ≠ .ok () := by
  simp [toJobResult, isInfra, h]

theorem toJobResult_artifact (failure : Failure) : toJobResult (.error (.artifact failure)) ≠ .ok () := by
  simp [toJobResult, isInfra]

end CommandError

def System.tables (s : System) : Tables := s.store.db.tables

namespace Deploying

/-- Whether the command takes no more steps. -/
def isOver (p : Deploying) : Bool :=
  match p.phase with
  | .ended _ | .stuck => true
  | _ => false

/-- The copy that the command has of its own deployment. -/
def own? (p : Deploying) : Option Deployment :=
  match p.phase with
  | .loaded d | .gathered d _ | .started d | .built d _ _ => some d
  | _ => none

/-- The copies of older deployments that the command is going to close. -/
def older (p : Deploying) : List Deployment :=
  match p.phase with
  | .gathered _ older => older
  | _ => []

/-- The copies that the command has of deployments. -/
def copies (p : Deploying) : List Deployment := p.own?.toList ++ p.older

/-- What a step can make of a command and of the tables. -/
inductive Effect (p : Deploying) (t : Tables) : Deploying → Tables → Prop where
  | ends {p' : Deploying} (hid : p'.id = p.id) (hover : p'.isOver = true) : Effect p t p' t
  | loads {d : Deployment} (hd : t.deployment p.id = .ok d) : Effect p t (p.goTo (.loaded d)) t
  | gathers {d : Deployment} {older : List Deployment} (hd : p.own? = some d)
      (holder : t.pendingBefore p.id.app d.config.environment p.id.number = .ok older) :
    Effect p t (p.goTo (.gathered d older)) t
  | builds {d : Deployment} {p' : Deploying} {outcome : Except Failure Unit} {stopped : Bool} (hd : p.own? = some d)
      (hid : p'.id = p.id) (hphase : p'.phase = .built d outcome stopped) : Effect p t p' t
  /-- The older deployments are closed, and its own is started. -/
  | starts {d d' : Deployment} {closed : List Deployment} {p' : Deploying} {t' : Tables} (hd : p.own? = some d)
      (hclosed : List.Forall₂ (fun o o' => o.Moved o' ∧ o'.state.status = .failed) p.older closed) (hd' : d.Moved d')
      (hwritten : (pendingEvents (closed ++ [d'])).foldlM (Aggregate.apply Deployment) t = .ok t')
      (hid : p'.id = p.id) (hphase : p'.isOver = true ∨ p'.phase = .started (Aggregate.cleared d')) : Effect p t p' t'
  /-- The outcome is recorded. -/
  | records {d d' : Deployment} {p' : Deploying} {t' : Tables} (hd : p.own? = some d) (hd' : d.Moved d')
      (hwritten : (pendingEvents [d']).foldlM (Aggregate.apply Deployment) t = .ok t')
      (hid : p'.id = p.id) (hover : p'.isOver = true) : Effect p t p' t'

variable {p p' : Deploying} {s s' : System}

theorem Effect.id_eq {t t' : Tables} (h : Effect p t p' t') : p'.id = p.id := by
  cases h with
  | ends hid _ => exact hid
  | loads _ => rfl
  | gathers _ _ => rfl
  | builds _ hid _ => exact hid
  | starts _ _ _ _ hid _ => exact hid
  | records _ _ _ hid _ => exact hid

theorem step_of_isOver (h : p.isOver = true) : p.step s = (p, s) := by
  obtain ⟨id, context, holds, phase⟩ := p
  cases phase <;> first | rfl | cases h

/-- A commit fails and stores nothing, or stores what it was given and may fail after that. -/
theorem commit_cases {next : List Deployment → DeployPhase} {x : Except AppError (List Deployment)}
    (h : p.commit s next x = (p', s')) :
    (p'.id = p.id ∧ p'.isOver = true ∧ s'.tables = s.tables) ∨
    ∃ ds, x = .ok ds ∧ (pendingEvents ds).foldlM (Aggregate.apply Deployment) s.tables = .ok s'.tables ∧
      p'.id = p.id ∧ (p'.isOver = true ∨ p'.phase = next (ds.map Aggregate.cleared)) := by
  cases x with
  | error e =>
    cases h
    exact .inl ⟨rfl, rfl, rfl⟩
  | ok ds =>
    rcases s.store.write_cases ds with ⟨error, k, hwrite⟩ | ⟨result, tables, k, hub, happlied, -, hwrite⟩
    · simp only [commit, andThen, hwrite] at h
      cases h
      exact .inl ⟨rfl, rfl, Database.tables_skip⟩
    · refine .inr ⟨ds, rfl, ?_⟩
      cases result with
      | error e =>
        simp only [commit, andThen, hwrite] at h
        cases h
        exact ⟨happlied, rfl, .inl rfl⟩
      | ok _ =>
        simp only [commit, andThen, hwrite] at h
        cases h
        exact ⟨happlied, rfl, .inr rfl⟩

theorem batch_eq_ok {d : Deployment} {older ds : List Deployment} {now : Timestamp}
    (h : p.batch d older now = .ok ds) :
    ∃ closed d', ds = closed ++ [d'] ∧ d.Moved d' ∧
      List.Forall₂ (fun o o' => o.Moved o' ∧ o'.state.status = .failed) older closed := by
  simp only [batch, bind_eq_ok, pure_eq_ok, mapM_eq_ok] at h
  obtain ⟨closed, hclosed, d', hd', rfl⟩ := h
  exact ⟨closed, d', rfl, (Deployment.moved_of_markRunning hd').1,
    hclosed.imp fun _ _ => Deployment.moved_of_markSuperseded⟩

/-- The command goes on with an answer of the store, or fails. -/
theorem andThen_cases {β : Type} {question : Tables → Except StoreError β} {next : β → DeployPhase}
    (h : p.andThen s (s.store.query question) next = (p', s')) :
    s'.tables = s.tables ∧
      (p'.id = p.id ∧ p'.isOver = true ∨ ∃ b, question s.tables = .ok b ∧ p' = p.goTo (next b)) := by
  rcases s.store.query_cases question with ⟨error, store, hquery, htables⟩ | ⟨b, store, hquery, hanswer, htables⟩
  · simp only [andThen, hquery] at h
    cases h
    exact ⟨htables, .inl ⟨rfl, rfl⟩⟩
  · simp only [andThen, hquery] at h
    cases h
    exact ⟨htables, .inr ⟨b, hanswer, rfl⟩⟩

theorem effect_of_load (h : p.load s = (p', s')) : Effect p s.tables p' s'.tables := by
  unfold load at h
  split at h
  · cases h
    exact .ends rfl rfl
  · obtain ⟨htables, ⟨hid, hover⟩ | ⟨d, hd, rfl⟩⟩ := andThen_cases h
    · rw [htables]
      exact .ends hid hover
    · rw [htables]
      exact .loads hd

theorem effect_of_gather {d : Deployment} (hd : p.own? = some d) (h : p.gather d s = (p', s')) :
    Effect p s.tables p' s'.tables := by
  obtain ⟨htables, ⟨hid, hover⟩ | ⟨os, hos, rfl⟩⟩ := andThen_cases h
  · rw [htables]
    exact .ends hid hover
  · rw [htables]
    exact .gathers hd hos

theorem effect_of_start {d : Deployment} {os : List Deployment} (hphase : p.phase = .gathered d os)
    (h : p.start d os s = (p', s')) : Effect p s.tables p' s'.tables := by
  rcases commit_cases h with ⟨hid, hover, htables⟩ | ⟨ds, hds, hwritten, hid, hp'⟩
  · rw [htables]
    exact .ends hid hover
  · obtain ⟨closed, d', rfl, hd', hclosed⟩ := batch_eq_ok hds
    have holder : p.older = os := by simp only [older, hphase]
    refine .starts (by simp only [own?, hphase]) (holder ▸ hclosed) hd' hwritten hid ?_
    simpa using hp'

/-- The outcome is recorded after the build, and after an interruption. -/
theorem effect_of_record {d : Deployment} {now : Timestamp} {error : Option String}
    {result : Except CommandError Unit} (hd : p.own? = some d)
    (h : p.commit s (fun _ => .ended result) ((d.changeState (d.state.finished now error)).map fun d => [d]) =
      (p', s')) : Effect p s.tables p' s'.tables := by
  rcases commit_cases h with ⟨hid, hover, htables⟩ | ⟨ds, hds, hwritten, hid, hp'⟩
  · rw [htables]
    exact .ends hid hover
  · obtain ⟨d', hd', rfl⟩ := map_eq_ok.mp hds
    have hover : p'.isOver = true := by
      rcases hp' with hover | hphase
      · exact hover
      · simp only [isOver, hphase]
    exact .records hd (Deployment.moved_of_finished hd') hwritten hid hover

/-- A build does not look at the tables. -/
theorem tables_runBuild (p : Deploying) (d : Deployment) (s : System) : (p.runBuild d s).2.2.tables = s.tables := by
  unfold runBuild
  split
  · rfl
  · split
    · rfl
    · dsimp only
      split <;> rfl

theorem effect_of_build {d : Deployment} (hd : p.own? = some d) (h : p.build d s = (p', s')) :
    Effect p s.tables p' s'.tables := by
  have htables := p.tables_runBuild d s
  rcases hbuild : p.runBuild d s with ⟨_ | outcome, context, s₁⟩
  · simp only [build, hbuild] at h htables
    cases h
    rw [htables]
    exact .ends rfl rfl
  · simp only [build, hbuild] at h htables
    cases h
    rw [htables]
    exact .builds hd rfl rfl

/-- **A step has one of the effects.** -/
theorem effect_of_step (h : p.step s = (p', s')) : Effect p s.tables p' s'.tables := by
  unfold step at h
  split at h
  case h_1 => exact effect_of_load h
  case h_2 d hphase =>
    have hd : p.own? = some d := by simp only [own?, hphase]
    split at h
    case h_1 => exact effect_of_gather hd h
    case h_2 => exact effect_of_record hd h
    case h_3 =>
      cases h
      exact .ends rfl rfl
  case h_3 d os hphase => exact effect_of_start hphase h
  case h_4 d hphase => exact effect_of_build (by simp only [own?, hphase]) h
  case h_5 d outcome stopped hphase =>
    have hd : p.own? = some d := by simp only [own?, hphase]
    cases outcome with
    | ok _ => exact effect_of_record hd h
    | error failure => exact effect_of_record hd h
  case h_6 hphase =>
    cases h
    exact .ends rfl (by simp only [isOver, hphase])
  case h_7 hphase =>
    cases h
    exact .ends rfl (by simp only [isOver, hphase])

end Deploying

end Rollout
