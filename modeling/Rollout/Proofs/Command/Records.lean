import Rollout.Proofs.Command.Cleaning
import Rollout.Proofs.Command.Statuses
import Rollout.Proofs.Command.Undisturbed

/-!
# What commands record

A deploy command that nobody disturbs writes three kinds of states: it starts its own deployment, closes the older ones
of the environment that wait as superseded by it, and finishes its own (`Deploying.Records`). So a deployment that is
stored after a step was stored as it is before, or is what one operation has made of one that was stored
(`Deploying.Records.origin`). A cleanup command changes none (`CleaningUp.origin_of_step`).

What operations make of states is proper (`DeploymentState.IsProper`): each status has its own error and times.
-/

namespace Rollout

/-! ## States -/

/-- The error of a deployment that was closed for a newer one. -/
def supersededText (newer : DeploymentNumber) : String := "superseded by deployment " ++ toString newer

namespace DeploymentState

variable {s s' : DeploymentState} {now : Timestamp}

/-- The error and the times are those that the status has. -/
def IsProper (s : DeploymentState) : Prop :=
  match s.status with
  | .pending => s.error = none ∧ s.startedAt = none ∧ s.finishedAt = none
  | .running => s.error = none ∧ s.startedAt.isSome = true ∧ s.finishedAt = none
  | .succeeded => s.error = none ∧ s.startedAt.isSome = true ∧ s.finishedAt.isSome = true
  | .failed => s.error.isSome = true ∧ s.finishedAt.isSome = true

theorem isProper_initial : initial.IsProper := ⟨rfl, rfl, rfl⟩

theorem IsProper.of_pending (h : s.IsProper) (hs : s.status = .pending) : s = initial := by
  obtain ⟨status, error, startedAt, finishedAt⟩ := s
  obtain rfl : status = .pending := hs
  obtain ⟨rfl, rfl, rfl⟩ := h
  rfl

theorem IsProper.startedAt_of_running (h : s.IsProper) (hs : s.status = .running) : s.startedAt.isSome = true := by
  obtain ⟨status, error, startedAt, finishedAt⟩ := s
  obtain rfl : status = .running := hs
  exact h.2.1

theorem IsProper.started (h : s.IsProper) (hs' : s.started now = .ok s') : s'.IsProper := by
  obtain ⟨hs, rfl⟩ := started_eq_ok_iff.mp hs'
  rw [h.of_pending hs]
  exact ⟨rfl, rfl, rfl⟩

theorem IsProper.superseded_eq (h : s.IsProper) {newer : DeploymentNumber} (hs' : s.superseded now newer = .ok s') :
    s' = ⟨.failed, some (supersededText newer), none, some now⟩ := by
  rw [h.of_pending (superseded_eq_ok hs').1] at hs'
  exact (Except.ok.inj hs').symm

theorem IsProper.superseded (h : s.IsProper) {newer : DeploymentNumber} (hs' : s.superseded now newer = .ok s') :
    s'.IsProper := by
  rw [h.superseded_eq hs']
  exact ⟨rfl, rfl⟩

theorem IsProper.finished (h : s.IsProper) {error : Option String} (hs' : s.finished now error = .ok s') :
    s'.IsProper ∧ s'.startedAt.isSome = true := by
  have hstart := h.startedAt_of_running (finished_eq_ok hs').1
  unfold DeploymentState.finished at hs'
  split at hs'
  · cases hs'
    cases error with
    | none => exact ⟨⟨rfl, hstart, rfl⟩, hstart⟩
    | some e => exact ⟨⟨rfl, rfl⟩, hstart⟩
  · cases hs'

end DeploymentState

/-! ## Steps -/

/-- Where a deployment comes from that is stored after a change of states. -/
inductive Tables.Origin (t t' : Tables) (d' : Deployment) : Prop where
  | kept (h : t.deployment d'.id = .ok d')
  | starts {d : Deployment} {s : DeploymentState} {now : Timestamp} (h : t.deployment d'.id = .ok d)
      (hs : d.state.started now = .ok s) (hd' : d' = d.inState s)
  /-- A newer deployment of its environment is started. -/
  | closes {d newer : Deployment} {s s' : DeploymentState} {now : Timestamp} (houtdated : t.Outdated newer d)
      (hs : d.state.superseded now newer.id.number = .ok s) (hd' : d' = d.inState s)
      (h : t.deployment newer.id = .ok newer) (hwaits : newer.state.status = .pending)
      (hruns : s'.status = .running) (hnewer : t'.deployment newer.id = .ok (newer.inState s'))
  | finishes {d : Deployment} {s : DeploymentState} {now : Timestamp} {error : Option String}
      (h : t.deployment d'.id = .ok d) (hs : d.state.finished now error = .ok s) (hd' : d' = d.inState s)

namespace Tables.Origin

variable {t t' : Tables} {d' : Deployment}

/-- A deployment that comes from one that was stored differs from it in its state at most, and does not wait again. -/
theorem exists_before (h : t.Origin t' d') :
    ∃ d, t.deployment d'.id = .ok d ∧ d'.config = d.config ∧ d'.requested = d.requested ∧
      (d.state.status ≠ .pending → d'.state.status ≠ .pending) := by
  cases h with
  | kept h => exact ⟨d', h, rfl, rfl, id⟩
  | starts h hs hd' =>
    subst hd'
    exact ⟨_, h, rfl, rfl, fun hne => absurd (DeploymentState.started_eq_ok_iff.mp hs).1 hne⟩
  | closes houtdated hs hd' =>
    subst hd'
    exact ⟨_, houtdated.stored, rfl, rfl, fun hne => absurd houtdated.waits hne⟩
  | @finishes d s now error h hs hd' =>
    subst hd'
    refine ⟨d, h, rfl, rfl, fun _ hwaits => ?_⟩
    have hfinished : s.status = .pending := hwaits
    rw [(DeploymentState.finished_eq_ok hs).2.1] at hfinished
    split at hfinished <;> cases hfinished

/-- Stored states are proper if those before were. -/
theorem isProper (h : t.Origin t' d') (hproper : ∀ d, t.deployment d'.id = .ok d → d.state.IsProper) :
    d'.state.IsProper := by
  cases h with
  | kept h => exact hproper d' h
  | starts h hs hd' =>
    subst hd'
    exact (hproper _ h).started hs
  | closes houtdated hs hd' =>
    subst hd'
    exact (hproper _ houtdated.stored).superseded hs
  | finishes h hs hd' =>
    subst hd'
    exact ((hproper _ h).finished hs).1

/-- What is finished is left as it is. -/
theorem eq_of_isFinished (h : t.Origin t' d') {d : Deployment} (hd : t.deployment d'.id = .ok d)
    (hfinished : d.state.status.isFinished = true) : d' = d := by
  cases h with
  | kept h => exact Except.ok.inj (h.symm.trans hd)
  | starts h hs hd' =>
    cases h.symm.trans hd
    rw [(DeploymentState.started_eq_ok_iff.mp hs).1] at hfinished
    cases hfinished
  | closes houtdated hs hd' =>
    subst hd'
    cases houtdated.stored.symm.trans hd
    rw [houtdated.waits] at hfinished
    cases hfinished
  | finishes h hs hd' =>
    cases h.symm.trans hd
    rw [(DeploymentState.finished_eq_ok hs).1] at hfinished
    cases hfinished

/-- What waited and has failed was closed without a start. -/
theorem startedAt_eq_none (h : t.Origin t' d') {d : Deployment} (hd : t.deployment d'.id = .ok d)
    (hproper : d.state.IsProper) (hwaits : d.state.status = .pending) (hfailed : d'.state.status = .failed) :
    d'.state.startedAt = none := by
  cases h with
  | kept h =>
    cases h.symm.trans hd
    cases hwaits.symm.trans hfailed
  | starts h hs hd' =>
    subst hd'
    obtain ⟨-, rfl⟩ := DeploymentState.started_eq_ok_iff.mp hs
    cases hfailed
  | closes houtdated hs hd' =>
    subst hd'
    cases houtdated.stored.symm.trans hd
    exact congrArg DeploymentState.startedAt (hproper.superseded_eq hs)
  | finishes h hs hd' =>
    cases h.symm.trans hd
    cases hwaits.symm.trans (DeploymentState.finished_eq_ok hs).1

end Tables.Origin

/-- The rows are the same as before. -/
theorem Tables.origin_of_eq {t t' : Tables} {d' : Deployment} (h : t'.deployments = t.deployments)
    (hd' : t'.deployment d'.id = .ok d') : t.Origin t' d' := by
  have hsame : t'.deployment? d'.id = t.deployment? d'.id := by rw [deployment?, deployment?, h]
  exact .kept (deployment_congr hsame ▸ hd')

namespace Deploying

variable {p p' : Deploying} {s s' : System} {t t' : Tables}

/-- What a step writes. -/
inductive Records (p : Deploying) (t t' : Tables) : Prop where
  | nothing (h : t' = t)
  | starts {d d' : Deployment} {os closed : List Deployment} {now : Timestamp} (hd : t.deployment p.id = .ok d)
      (hos : ∀ o, o ∈ os ↔ t.Outdated d o) (hd' : d.markRunning now = .ok d')
      (hclosed : List.Forall₂ (fun o o' => o.markSuperseded now p.id.number = .ok o') os closed)
      (h : t' = t.changeStates (closed ++ [d']))
  | finishes {d d' : Deployment} {now : Timestamp} {error : Option String} (hd : t.deployment p.id = .ok d)
      (hd' : d.changeState (d.state.finished now error) = .ok d') (h : t' = t.changeStates [d'])

theorem records_start {d : Deployment} {os : List Deployment} (hd : s.tables.deployment p.id = .ok d)
    (hwaits : d.state.status = .pending) (hos : ∀ o, o ∈ os ↔ s.tables.Outdated d o) (h : p.start d os s = (p', s')) :
    p.Records s.tables s'.tables := by
  have hwait : ∀ o ∈ os, o.state.status = .pending := fun o ho => ((hos o).mp ho).waits
  obtain ⟨closed, d', hbatch, hd', hclosed⟩ := @batch_of_waits p d os s.time hwaits hwait
  rw [start, hbatch] at h
  obtain ⟨-, ⟨htables, -⟩ | ⟨hwritten, -⟩⟩ := commit_of_ok h
  · exact .nothing htables
  · have hchanged := hasChanged_of_moved (Tables.events_of_deployment hd)
      (fun o ho => Tables.events_of_deployment ((hos o).mp ho).stored) (Deployment.moved_of_markRunning hd').1
      (hclosed.imp fun _ _ => Deployment.moved_of_markSuperseded)
    exact .starts hd hos hd' hclosed (foldlM_pendingEvents hchanged hwritten)

theorem records_record {d : Deployment} {now : Timestamp} {error : Option String} {result : Except CommandError Unit}
    (hd : s.tables.deployment p.id = .ok d) (hruns : d.state.status = .running)
    (h : p.commit s (fun _ => .ended result) ((d.changeState (d.state.finished now error)).map fun d => [d]) =
      (p', s')) : p.Records s.tables s'.tables := by
  obtain ⟨d', hd'⟩ := Deployment.exists_finished hruns now error
  rw [hd'] at h
  obtain ⟨-, ⟨htables, -⟩ | ⟨hwritten, -⟩⟩ := commit_of_ok h
  · exact .nothing htables
  · have hchanged : ∀ x ∈ [d'], x.HasChanged := List.forall_mem_singleton.mpr
      ((Deployment.moved_of_finished hd').hasChanged (Tables.events_of_deployment hd))
    exact .finishes hd hd' (foldlM_pendingEvents hchanged hwritten)

/-- **What a step writes that nobody disturbs.** -/
theorem records_of_step (hinformed : p.Informed s.tables) (h : p.step s = (p', s')) : p.Records s.tables s'.tables := by
  unfold step at h
  split at h
  case h_1 =>
    unfold load at h
    split at h
    · cases h
      exact .nothing rfl
    · exact .nothing (andThen_of_query h).1
  case h_2 d hphase =>
    have hd := hinformed.own d (by simp only [own?, hphase])
    split at h
    case h_1 => exact .nothing (andThen_of_query h).1
    case h_2 hruns => exact records_record hd hruns h
    case h_3 =>
      cases h
      exact .nothing rfl
  case h_3 d os hphase =>
    obtain ⟨hwaits, hos⟩ := hinformed.gathered d os hphase
    exact records_start (hinformed.own d (by simp only [own?, hphase])) hwaits hos h
  case h_4 d hphase =>
    have htables := p.tables_runBuild d s
    rcases hbuild : p.runBuild d s with ⟨_ | outcome, context, s₁⟩
    · simp only [build, hbuild] at h htables
      cases h
      exact .nothing htables
    · simp only [build, hbuild] at h htables
      cases h
      exact .nothing htables
  case h_5 d outcome stopped hphase =>
    have hd := hinformed.own d (by simp only [own?, hphase])
    have hruns := hinformed.built d outcome stopped hphase
    cases outcome with
    | ok _ => exact records_record hd hruns h
    | error failure => exact records_record hd hruns h
  case h_6 =>
    cases h
    exact .nothing rfl
  case h_7 =>
    cases h
    exact .nothing rfl

/-- A deployment whose state is not written is left as it is. -/
theorem origin_of_changeStates {ds : List Deployment} {d' : Deployment}
    (h : (t.changeStates ds).deployment d'.id = .ok d') (hothers : ∀ x ∈ ds, x.id ≠ d'.id) :
    t.Origin (t.changeStates ds) d' :=
  .kept (Tables.deployment_congr (Tables.deployment?_changeStates_of_ne hothers) ▸ h)

/-- The last that is written of a deployment among those that are closed was made of one of the older ones. -/
theorem exists_last_closed {os closed : List Deployment} {now : Timestamp} {n : DeploymentNumber} {id : DeploymentId}
    (hclosed : List.Forall₂ (fun o o' => o.markSuperseded now n = .ok o') os closed) (h : ∃ o' ∈ closed, o'.id = id) :
    ∃ o ∈ os, ∃ o', o.id = id ∧ o.markSuperseded now n = .ok o' ∧
      (closed.filter (·.id = id)).getLast? = some o' := by
  obtain ⟨x, hx, hid⟩ := h
  have hmem : x ∈ closed.filter (·.id = id) := List.mem_filter.mpr ⟨hx, decide_eq_true hid⟩
  obtain ⟨o', ho'⟩ := Option.isSome_iff_exists.mp (List.getLast?_isSome.mpr (List.ne_nil_of_mem hmem))
  obtain ⟨hlast, hlastid⟩ := List.mem_filter.mp (List.mem_of_getLast? ho')
  obtain ⟨o, ho, hsuperseded⟩ := exists_left_of_forall₂ hclosed o' hlast
  have hsame : o'.id = o.id := (Deployment.changeState_eq_ok hsuperseded).2.1
  exact ⟨o, ho, o', hsame.symm.trans (of_decide_eq_true hlastid), hsuperseded, ho'⟩

theorem Records.origin (h : p.Records t t') (hfiled : t.Filed) {d' : Deployment}
    (hd' : t'.deployment d'.id = .ok d') : t.Origin t' d' := by
  cases h with
  | nothing h =>
    rw [h] at hd'
    exact .kept hd'
  | @finishes d x now error hd hx h =>
    obtain ⟨hs, hid, -⟩ := Deployment.changeState_eq_ok hx
    have hdid := (hfiled.deployment?_eq hd).2
    subst h
    by_cases hown : d'.id = p.id
    · rw [← hown] at hd hdid
      have hlast : ([x].filter (·.id = d'.id)).getLast? = some x := by simp [hid, hdid]
      cases hd'.symm.trans (hfiled.deployment_changeStates hd hlast)
      exact .finishes hd hs rfl
    · refine origin_of_changeStates hd' (List.forall_mem_singleton.mpr ?_)
      rw [hid, hdid]
      exact Ne.symm hown
  | @starts d x os closed now hd hos hx hclosed h =>
    obtain ⟨hs, hid, -⟩ := Deployment.changeState_eq_ok hx
    obtain ⟨hwaits, hstate⟩ := DeploymentState.started_eq_ok_iff.mp hs
    have hdid := (hfiled.deployment?_eq hd).2
    have hlast (id : DeploymentId) (hid' : id = p.id) :
        ((closed ++ [x]).filter (·.id = id)).getLast? = some x := by
      simp [List.filter_append, hid, hdid, hid']
    subst h
    by_cases hown : d'.id = p.id
    · rw [← hown] at hd
      cases hd'.symm.trans (hfiled.deployment_changeStates hd (hlast _ hown))
      exact .starts hd hs rfl
    · -- what else is written are older deployments that are closed
      by_cases hold : ∃ o' ∈ closed, o'.id = d'.id
      · have hfilter : (closed ++ [x]).filter (·.id = d'.id) = closed.filter (·.id = d'.id) := by
          simp [List.filter_append, hid, hdid, Ne.symm hown]
        obtain ⟨o, ho, o', hsame, hsuperseded, hclose⟩ := exists_last_closed hclosed hold
        obtain ⟨hclosing, -, -⟩ := Deployment.changeState_eq_ok hsuperseded
        have houtdated := (hos o).mp ho
        have hstored : t.deployment d'.id = .ok o := hsame ▸ houtdated.stored
        cases hd'.symm.trans (hfiled.deployment_changeStates hstored (hfilter ▸ hclose))
        have hruns : x.state.status = .running := by rw [hstate]
        rw [← hdid] at hclosing
        exact .closes houtdated hclosing rfl (hdid.symm ▸ hd) hwaits hruns
          (hfiled.deployment_changeStates (hdid.symm ▸ hd) (hlast _ hdid))
      · refine origin_of_changeStates hd' (List.forall_mem_append.mpr ⟨fun o' ho' hoid => hold ⟨o', ho', hoid⟩,
          List.forall_mem_singleton.mpr ?_⟩)
        rw [hid, hdid]
        exact Ne.symm hown

end Deploying

/-- A step of a cleanup command leaves a deployment as it is, or deletes it with its app. -/
theorem CleaningUp.origin_of_step {p p' : CleaningUp} {s s' : System} (hinformed : p.Informed)
    (h : p.step s = (p', s')) {d' : Deployment} (hd' : s'.tables.deployment d'.id = .ok d') :
    s.tables.Origin s'.tables d' := by
  cases hover : p.isOver with
  | true =>
    cases (step_of_isOver hover).symm.trans h
    exact .kept hd'
  | false =>
    obtain ⟨heffect, -⟩ := effect_of_step hinformed hover h
    rcases heffect.tables_cases hinformed with hsame | hdeleted
    · exact .kept (hsame ▸ hd')
    · rw [hdeleted] at hd'
      exact .kept (Tables.deployment_of_deleteApp hd').1

end Rollout
