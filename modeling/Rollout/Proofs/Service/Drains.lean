import Rollout.Proofs.Command.Twins
import Rollout.Proofs.Queue.Tasks
import Rollout.Proofs.Service.Orphans

/-!
# Drains before different audiences

Two systems that differ only in who listens to the bus are drained. Where a listener refuses an event, the job is tried
again although its write is stored; the retry finds nothing left to be done and leaves the system as it is
(`System.Parallel.skip`). All other turns are the same on both (`System.Parallel.turn`), so that the same is stored at
the end (`drained_alike`), unless the start of a deployment is refused: its job finds the deployment running when it is
tried again, and records it as interrupted (`not_drained_alike`).
-/

namespace Rollout

namespace System

variable {s s' s₁ s₂ : System} {before after before' after' : List (Task Work)} {task task' : Task Work}
  {job job' : Job Work} {q q' : Queue Work}

/-! ## Turns -/

/-- Runs a job that has been handed out. -/
def runJob (s : System) (q : Queue Work) (job : Job Work) : Option (Except JobError Unit) × System :=
  (s.withQueue q).process job (Worker.context s.worker none s.now) false

/-- Whether the job starts its deployment, and ends there since the start does not get through. -/
def jobLosesStart (s : System) (q : Queue Work) (job : Job Work) : Bool :=
  (s.withQueue q).losesStart job (Worker.context s.worker none s.now) false

/-- Whether this happens to a job of the next `n` turns of a drain. -/
def losesStartWithin : Nat → System → Bool
  | 0, _ => false
  | n + 1, s =>
    match s.queue.dequeue s.now with
    | (none, _) => false
    | (some job, q) =>
      s.jobLosesStart q job ||
        match s.processNextIn none false with
        | (.finished .., s) => losesStartWithin n s
        | _ => false

/-- Whether it happens to a job of a drain. -/
def drainLosesStart (s : System) : Bool := s.losesStartWithin (s.queue.runsLeft + 1)

theorem InOrder.withQueue (hs : s.InOrder) (q : Queue Work) : (s.withQueue q).InOrder :=
  ⟨hs.wired, hs.calm, hs.filed⟩

theorem processNextIn_of_idle (h : (s.queue.dequeue s.now).1 = none) : s.processNextIn none false = (.idle, s) := by
  unfold processNextIn
  split
  · rfl
  · next hsome =>
    rw [hsome] at h
    cases h

theorem processNextIn_of_stuck (h : s.queue.HandsOut s.now before task after job q)
    (hrun : s.runJob q job = (none, s₁)) : s.processNextIn none false = (.stuck job.id, s₁) := by
  rw [runJob] at hrun
  simp only [processNextIn, h.dequeue, hrun]

/-- What a turn makes of a system whose job came to a result. -/
structure Turned (s : System) (before after : List (Task Work)) (task : Task Work) (result : Except JobError Unit)
    (s₁ s₂ : System) : Prop where
  inOrder : s₂.InOrder
  twins : s₁.Twins s₂
  policy : s₂.queue.policy = s.queue.policy
  tasks : s₂.queue.tasks = before ++ after ++ (task.next? s.queue.policy s₁.now result).toList
  runsLeft : s₂.queue.runsLeft < s.queue.runsLeft
  done : ∀ w, s.tables.needs w = false → s₂.tables.needs w = false

/-- The job is marked by its result. -/
theorem processNextIn_of_result (hs : s.InOrder) (h : s.queue.HandsOut s.now before task after job q)
    {result : Except JobError Unit} (hrun : s.runJob q job = (some result, s₁)) :
    ∃ status s₂, s.processNextIn none false = (.finished job.id status, s₂) ∧
      s.Turned before after task result s₁ s₂ := by
  have hproceeds : (s.withQueue q).Proceeds s₁ := by
    have hprocess := proceeds_process (hs.withQueue q) job (Worker.context s.worker none s.now) false
    rw [runJob] at hrun
    rwa [hrun] at hprocess
  have hqueue : s₁.queue = q := hproceeds.queue
  obtain ⟨status, q', hmark, hpolicy, htasks⟩ := h.mark s₁.now result
  refine ⟨status, s₁.withQueue q', ?_, hproceeds.inOrder.withQueue q', .withQueue s₁ q', hpolicy, htasks,
    h.runsLeft_lt hpolicy htasks, hproceeds.done⟩
  rw [runJob] at hrun
  simp only [processNextIn, h.dequeue, hrun, hqueue, hmark]

/-! ## Turns of both systems -/

/-- Whether something is left to be done about the task. -/
def awaits (s : System) (t : Task Work) : Bool := s.tables.needs t.data

/-- The tasks that something is left to be done about. -/
def awaited (s : System) : List (Task Work) := s.queue.tasks.filter s.awaits

/-- Twins in order, with the same tasks that something is left to be done about. -/
structure Parallel (s s' : System) : Prop where
  inOrder : s.InOrder
  inOrder' : s'.InOrder
  twins : s.Twins s'
  policy : s'.queue.policy = s.queue.policy
  awaited : s'.awaited = s.awaited

theorem Parallel.refl (hs : s.InOrder) : s.Parallel s := ⟨hs, hs, .refl s, rfl, rfl⟩

theorem Parallel.symm (h : s.Parallel s') : s'.Parallel s :=
  ⟨h.inOrder', h.inOrder, h.twins.symm, h.policy.symm, h.awaited.symm⟩

theorem Twins.awaits_eq (h : s.Twins s') : s'.awaits = s.awaits := by
  funext t
  rw [awaits, awaits, h.tables_eq]

/-- Nothing is to be tried again that nothing is left to be done about. -/
theorem filter_next? (hdone : s.awaits task = false) {policy : RetryPolicy} {now : Instant}
    {result : Except JobError Unit} : (task.next? policy now result).toList.filter s.awaits = [] := by
  refine List.filter_eq_nil_iff.mpr fun t ht => ?_
  rw [awaits, Task.data_of_next? (Option.mem_toList.mp ht)]
  exact Bool.eq_false_iff.mp hdone

/-- **A job whose work is done changes nothing** but the queue, where its retry is not awaited either. -/
theorem Parallel.skip (h : s.Parallel s') (hout : s.queue.HandsOut s.now before task after job q)
    (hdone : s.awaits task = false) :
    ∃ status s₂, s.processNextIn none false = (.finished job.id status, s₂) ∧ s₂.Parallel s' ∧
      s₂.queue.runsLeft < s.queue.runsLeft := by
  obtain ⟨result, hrun⟩ := @process_of_done _ (h.inOrder.withQueue q) job (hout.data ▸ hdone)
    (Worker.context s.worker none s.now) false
  obtain ⟨status, s₂, hturn, hturned⟩ := processNextIn_of_result h.inOrder hout hrun
  have htwins : s.Twins s₂ := (Twins.withQueue s q).trans hturned.twins
  refine ⟨status, s₂, hturn, ⟨hturned.inOrder, h.inOrder', htwins.symm.trans h.twins,
    h.policy.trans hturned.policy.symm, h.awaited.trans ?_⟩, hturned.runsLeft⟩
  rw [System.awaited, System.awaited, htwins.awaits_eq, hturned.tasks, hout.tasks, List.filter_append,
    List.filter_cons_of_neg (Bool.eq_false_iff.mp hdone), List.filter_append, List.filter_append, filter_next? hdone,
    List.append_nil]

/-- What is awaited after a turn was awaited before, or is what is left to be tried. -/
theorem Turned.awaited {result : Except JobError Unit} (h : s.Turned before after task result s₁ s₂) :
    s₂.awaited = ((before ++ after).filter s.awaits).filter s₂.awaits ++
      (task.next? s.queue.policy s₁.now result).toList.filter s₂.awaits := by
  have hless (t : Task Work) (ht : s₂.awaits t = true) : s.awaits t = true := by
    rw [← Bool.not_eq_false] at ht ⊢
    exact fun hdone => ht (h.done t.data hdone)
  rw [System.awaited, h.tasks, List.filter_append, List.filter_filter]
  congr 1
  refine List.filter_congr fun t _ => ?_
  cases ht : s₂.awaits t with
  | true => rw [hless t ht, Bool.and_self]
  | false => rw [Bool.false_and]

section Both

variable (h : s.Parallel s') (hout : s.queue.HandsOut s.now before task after job q)
  (hout' : s'.queue.HandsOut s'.now before' task' after' job' q') (hawaits : s.awaits task = true)
  (hawaits' : s.awaits task' = true)

include h hout hout' hawaits hawaits'

/-- The task that comes next is the same on both, and so are those that are left. -/
theorem Parallel.same_task : task' = task ∧ (before' ++ after').filter s.awaits = (before ++ after).filter s.awaits := by
  have hbefore := hout'.not_ready
  have hready := hout'.ready
  rw [h.twins.now_eq] at hbefore hready
  obtain ⟨hfirst, hrest⟩ := @Task.find?_filter _ _ s.awaits before after task hout.not_ready hout.ready hawaits
  obtain ⟨hfirst', hrest'⟩ := @Task.find?_filter _ _ s.awaits before' after' task' hbefore hready hawaits'
  have hsame := h.awaited
  rw [System.awaited, System.awaited, h.twins.awaits_eq, hout.tasks, hout'.tasks] at hsame
  rw [hsame] at hfirst' hrest'
  exact ⟨Option.some.inj (hfirst'.symm.trans hfirst), hrest'.symm.trans hrest⟩

/-- Twins run the same job. -/
theorem Parallel.twins_of_runJob (hstarts : s.jobLosesStart q job = false)
    (hstarts' : s'.jobLosesStart q' job' = false) :
    (s.runJob q job).2.Twins (s'.runJob q' job').2 ∧
      Agree id (s.runJob q job).2.tables task.data (s.runJob q job).1 (s'.runJob q' job').1 := by
  have hdata : job'.data = job.data := by
    rw [hout'.data, (h.same_task hout hout' hawaits hawaits').1, hout.data]
  have htwins : (s.withQueue q).Twins (s'.withQueue q') :=
    ((Twins.withQueue s q).symm.trans h.twins).trans (.withQueue s' q')
  have hcontext : Worker.context s'.worker none s'.now = Worker.context s.worker none s.now := by
    obtain ⟨store, -, rfl⟩ := h.twins
    rfl
  rw [jobLosesStart, hcontext] at hstarts'
  rw [runJob, runJob, hcontext, ← hout.data]
  exact twins_of_process (h.inOrder.withQueue q) htwins hdata hstarts hstarts'

/-- **A job that is awaited has the same turn on both**: it never comes back, or the systems are parallel after it. -/
theorem Parallel.turn (hstarts : s.jobLosesStart q job = false) (hstarts' : s'.jobLosesStart q' job' = false) :
    (∃ s₁ s₁', s.processNextIn none false = (.stuck job.id, s₁) ∧
      s'.processNextIn none false = (.stuck job'.id, s₁') ∧ s₁.Twins s₁') ∨
    ∃ status s₂ status' s₂', s.processNextIn none false = (.finished job.id status, s₂) ∧
      s'.processNextIn none false = (.finished job'.id status', s₂') ∧ s₂.Parallel s₂' ∧
      s₂.queue.runsLeft < s.queue.runsLeft ∧ s₂'.queue.runsLeft < s'.queue.runsLeft := by
  obtain ⟨htask, hothers⟩ := h.same_task hout hout' hawaits hawaits'
  obtain ⟨htwins, hagree⟩ := h.twins_of_runJob hout hout' hawaits hawaits' hstarts hstarts'
  rcases hrun : s.runJob q job with ⟨r, s₁⟩
  rcases hrun' : s'.runJob q' job' with ⟨r', s₁'⟩
  rw [hrun, hrun'] at htwins hagree
  rcases hagree.cases with ⟨rfl, rfl⟩ | ⟨result, result', rfl, rfl, hresult⟩
  · exact .inl ⟨s₁, s₁', processNextIn_of_stuck hout hrun, processNextIn_of_stuck hout' hrun', htwins⟩
  · obtain ⟨status, s₂, hturn, hturned⟩ := processNextIn_of_result h.inOrder hout hrun
    obtain ⟨status', s₂', hturn', hturned'⟩ := processNextIn_of_result h.inOrder' hout' hrun'
    have hpolicy : s₂'.queue.policy = s₂.queue.policy := by rw [hturned'.policy, h.policy, hturned.policy]
    have htwins₂ : s₂.Twins s₂' := (hturned.twins.symm.trans htwins).trans hturned'.twins
    refine .inr ⟨status, s₂, status', s₂', hturn, hturn', ⟨hturned.inOrder, hturned'.inOrder, htwins₂, hpolicy, ?_⟩,
      hturned.runsLeft, hturned'.runsLeft⟩
    -- what is tried again differs only if nothing is left to be done about it
    have hnext : (task'.next? s'.queue.policy s₁'.now result').toList.filter s₂.awaits =
        (task.next? s.queue.policy s₁.now result).toList.filter s₂.awaits := by
      rw [htask, h.policy, htwins.now_eq]
      rcases hresult with rfl | hdone
      · rfl
      · have hdone : s₂.awaits task = false := by rwa [awaits, hturned.twins.tables_eq]
        rw [filter_next? hdone, filter_next? hdone]
    rw [hturned'.awaited, hturned.awaited, htwins₂.awaits_eq, h.twins.awaits_eq, hothers, hnext]

end Both

/-- What is ready first on one system is not awaited if the other has nothing that is ready. -/
theorem Parallel.awaits_of_idle (h : s.Parallel s') (hidle : ∀ t ∈ s.queue.tasks, t.isReady s.now = false)
    (hout' : s'.queue.HandsOut s'.now before' task' after' job' q') : s'.awaits task' = false := by
  refine Bool.eq_false_iff.mpr fun hawaits => ?_
  have hmem : task' ∈ s'.awaited := by
    rw [System.awaited, hout'.tasks]
    exact List.mem_filter.mpr ⟨List.mem_append_right _ List.mem_cons_self, hawaits⟩
  rw [h.awaited] at hmem
  have hready := hout'.ready
  rw [h.twins.now_eq, hidle task' (List.mem_filter.mp hmem).1] at hready
  cases hready

/-! ## Drains -/

theorem drainFor_of_idle {n : Nat} (h : s.processNextIn none false = (.idle, s₁)) : (drainFor (n + 1) s).2 = s₁ := by
  rw [drainFor, h]

theorem drainFor_of_stuck {n : Nat} {id : JobId} (h : s.processNextIn none false = (.stuck id, s₁)) :
    (drainFor (n + 1) s).2 = s₁ := by
  rw [drainFor, h]

theorem drainFor_of_finished {n : Nat} {id : JobId} {status : JobStatus}
    (h : s.processNextIn none false = (.finished id status, s₁)) : (drainFor (n + 1) s).2 = (drainFor n s₁).2 := by
  rw [drainFor, h]

theorem losesStartWithin_of_finished {n : Nat} (hout : s.queue.HandsOut s.now before task after job q) {id : JobId}
    {status : JobStatus} (h : s.processNextIn none false = (.finished id status, s₁)) :
    losesStartWithin (n + 1) s = (s.jobLosesStart q job || losesStartWithin n s₁) := by
  simp only [losesStartWithin, hout.dequeue, h]

theorem jobLosesStart_of_within {n : Nat} (hout : s.queue.HandsOut s.now before task after job q)
    (h : losesStartWithin (n + 1) s = false) : s.jobLosesStart q job = false := by
  simp only [losesStartWithin, hout.dequeue, Bool.or_eq_false_iff] at h
  exact h.1

/-- A drain that begins with a job whose work is done goes on beside the same system. -/
theorem Parallel.skip_drainFor (h : s.Parallel s') (hout : s.queue.HandsOut s.now before task after job q)
    (hdone : s.awaits task = false) {n : Nat} (hn : s.queue.runsLeft < n + 1)
    (hstarts : losesStartWithin (n + 1) s = false) :
    ∃ s₂, s₂.Parallel s' ∧ s₂.queue.runsLeft < n ∧ losesStartWithin n s₂ = false ∧
      (drainFor (n + 1) s).2 = (drainFor n s₂).2 := by
  obtain ⟨status, s₂, hturn, hparallel, hless⟩ := h.skip hout hdone
  rw [losesStartWithin_of_finished hout hturn, Bool.or_eq_false_iff] at hstarts
  exact ⟨s₂, hparallel, by omega, hstarts.2, drainFor_of_finished hturn⟩

/-- **Parallel systems store the same at the end.** By induction on the turns of both: one of them takes a turn alone if
nothing is left to be done about its next task, and otherwise both take the same turn. -/
theorem Parallel.tables_drainFor {n n' : Nat} (h : s.Parallel s') (hn : s.queue.runsLeft < n)
    (hn' : s'.queue.runsLeft < n') (hstarts : losesStartWithin n s = false)
    (hstarts' : losesStartWithin n' s' = false) : (drainFor n s).2.tables = (drainFor n' s').2.tables := by
  induction hk : n + n' using Nat.strongRecOn generalizing s s' n n' with
  | ind k ih =>
    subst hk
    obtain ⟨m, rfl⟩ := Nat.exists_eq_add_one_of_ne_zero (Nat.ne_zero_of_lt hn)
    obtain ⟨m', rfl⟩ := Nat.exists_eq_add_one_of_ne_zero (Nat.ne_zero_of_lt hn')
    -- only the first system takes a turn
    have hskip {before after : List (Task Work)} {task : Task Work} {job : Job Work} {q : Queue Work}
        (hout : s.queue.HandsOut s.now before task after job q) (hdone : s.awaits task = false) :
        (drainFor (m + 1) s).2.tables = (drainFor (m' + 1) s').2.tables := by
      obtain ⟨s₂, hparallel, hless, hstarts₂, hdrain⟩ := h.skip_drainFor hout hdone hn hstarts
      rw [hdrain]
      exact ih (m + (m' + 1)) (by omega) hparallel hless hn' hstarts₂ hstarts' rfl
    -- only the second system takes a turn
    have hskip' {before after : List (Task Work)} {task : Task Work} {job : Job Work} {q : Queue Work}
        (hout : s'.queue.HandsOut s'.now before task after job q) (hdone : s'.awaits task = false) :
        (drainFor (m + 1) s).2.tables = (drainFor (m' + 1) s').2.tables := by
      obtain ⟨s₂, hparallel, hless, hstarts₂, hdrain⟩ := h.symm.skip_drainFor hout hdone hn' hstarts'
      rw [hdrain]
      exact ih (m + 1 + m') (by omega) hparallel.symm hn hless hstarts hstarts₂ rfl
    rcases s.queue.handsOut_or_idle s.now with ⟨hnone, hidle⟩ | ⟨before, task, after, job, q, hout⟩
    · rcases s'.queue.handsOut_or_idle s'.now with ⟨hnone', -⟩ | ⟨before', task', after', job', q', hout'⟩
      · rw [drainFor_of_idle (processNextIn_of_idle hnone), drainFor_of_idle (processNextIn_of_idle hnone')]
        exact h.twins.tables_eq.symm
      · exact hskip' hout' (h.awaits_of_idle hidle hout')
    · cases hawaits : s.awaits task with
      | false => exact hskip hout hawaits
      | true =>
        rcases s'.queue.handsOut_or_idle s'.now with ⟨-, hidle'⟩ | ⟨before', task', after', job', q', hout'⟩
        · cases hawaits.symm.trans (h.symm.awaits_of_idle hidle' hout)
        · cases hawaits' : s'.awaits task' with
          | false => exact hskip' hout' hawaits'
          | true =>
            rw [h.twins.awaits_eq] at hawaits'
            rcases h.turn hout hout' hawaits hawaits' (jobLosesStart_of_within hout hstarts)
              (jobLosesStart_of_within hout' hstarts') with
              ⟨s₁, s₁', hturn, hturn', htwins⟩ | ⟨status, s₂, status', s₂', hturn, hturn', hparallel, hless, hless'⟩
            · rw [drainFor_of_stuck hturn, drainFor_of_stuck hturn']
              exact htwins.tables_eq.symm
            · rw [losesStartWithin_of_finished hout hturn, Bool.or_eq_false_iff] at hstarts
              rw [losesStartWithin_of_finished hout' hturn', Bool.or_eq_false_iff] at hstarts'
              rw [drainFor_of_finished hturn, drainFor_of_finished hturn']
              exact ih (m + m') (by omega) hparallel (by omega) (by omega) hstarts.2 hstarts'.2 rfl

/-- Nothing comes of a drain if nothing is left to be done about any task. -/
theorem drainFor_of_unawaited (hs : s.InOrder) (h : s.awaited = []) (n : Nat) :
    (drainFor n s).2.tables = s.tables ∧ losesStartWithin n s = false := by
  induction n generalizing s with
  | zero => exact ⟨rfl, rfl⟩
  | succ n ih =>
    rcases s.queue.handsOut_or_idle s.now with ⟨hnone, -⟩ | ⟨before, task, after, job, q, hout⟩
    · refine ⟨by rw [drainFor_of_idle (processNextIn_of_idle hnone)], ?_⟩
      rw [losesStartWithin, ← Prod.eta (s.queue.dequeue s.now), hnone]
    · have hdone : s.awaits task = false := by
        refine Bool.eq_false_iff.mpr (List.filter_eq_nil_iff.mp h task ?_)
        rw [hout.tasks]
        exact List.mem_append_right _ List.mem_cons_self
      obtain ⟨status, s₂, hturn, hparallel, -⟩ := (Parallel.refl hs).skip hout hdone
      obtain ⟨htables, hstarts⟩ := ih hparallel.inOrder (hparallel.awaited.symm.trans h)
      constructor
      · rw [drainFor_of_finished hturn, htables, hparallel.twins.tables_eq]
      · rw [losesStartWithin_of_finished hout hturn, hstarts, Bool.or_false]
        exact losesStart_of_done (hs.withQueue q) (hout.data ▸ hdone) _ false

/-! ## Drains of a single task -/

section Single

variable {id : DeploymentId} (hs : s.InOrder) (hout : s.queue.HandsOut s.now [] task [] job q)

include hs hout

/-- A drain ends with what the run of a single task makes of the system, if nothing is left to be done about it. -/
theorem drainFor_of_single {result : Except JobError Unit} (hrun : s.runJob q job = (some result, s₁))
    (hdone : s₁.tables.needs task.data = false) (n : Nat) :
    (drainFor (n + 1) s).2.tables = s₁.tables ∧ losesStartWithin (n + 1) s = s.jobLosesStart q job := by
  obtain ⟨status, s₂, hturn, hturned⟩ := processNextIn_of_result hs hout hrun
  have hdone₂ : s₂.awaits task = false := by rwa [awaits, hturned.twins.tables_eq]
  have hnone : s₂.awaited = [] := by
    rw [hturned.awaited, filter_next? hdone₂]
    rfl
  obtain ⟨htables, hstarts⟩ := drainFor_of_unawaited hturned.inOrder hnone n
  constructor
  · rw [drainFor_of_finished hturn, htables, hturned.twins.tables_eq]
  · rw [losesStartWithin_of_finished hout hturn, hstarts, Bool.or_false]

/-- **A deployment that a drain finds running is recorded as failed.** -/
theorem hasStatus_drainFor_of_running (hdata : task.data = .deploy id.app id.number)
    (hruns : s.tables.HasStatus id .running) (hgo : (Worker.context s.worker none s.now).stop? s.now = none) (n : Nat) :
    (drainFor (n + 1) s).2.tables.HasStatus id .failed := by
  rcases hrun : s.runJob q job with ⟨result, s₁⟩
  have hcommand : Work.registry.command job = .ok (.deploy id) := command_of_deploy (hout.data.trans hdata)
  have hs₁ : s₁.InOrder ∧ s₁.tables.HasStatus id .failed := by
    have hproceeds := proceeds_process (hs.withQueue q) job (Worker.context s.worker none s.now) false
    have hfailed := hasStatus_deploy (s := s.withQueue q) hs.filed hruns hgo (hs.calm.grants 4) false
    rw [runJob] at hrun
    rw [hrun] at hproceeds
    rw [process_of_command hcommand] at hrun
    cases hrun
    exact ⟨hproceeds.inOrder, hfailed⟩
  cases result with
  | none =>
    rw [drainFor_of_stuck (processNextIn_of_stuck hout hrun)]
    exact hs₁.2
  | some result =>
    obtain ⟨d, hd, hstatus⟩ := hs₁.1.filed.hasStatus_iff.mp hs₁.2
    have hdone : s₁.tables.needs task.data = false := by
      rw [hdata]
      exact Tables.needs_of_isSettled (.inr ⟨d, hd, hstatus ▸ rfl⟩)
    rw [(drainFor_of_single hs hout hrun hdone n).1]
    exact hs₁.2

/-- **A deployment that a failed run has left running is recorded as failed**, if it is tried again at once. -/
theorem hasStatus_drainFor_of_left (hdata : task.data = .deploy id.app id.number) {e : JobError}
    (hrun : s.runJob q job = (some (.error e), s₁))
    (hretry : e.failureKind = .retryable ∧ task.attempt < s.queue.policy.maxAttempts)
    (hatonce : (s.queue.policy.delayFor (task.attempt + 1)).nanos = 0) (hruns : s₁.tables.HasStatus id .running)
    (hgo : (Worker.context s₁.worker none s₁.now).stop? s₁.now = none) (n : Nat) :
    (drainFor (n + 2) s).2.tables.HasStatus id .failed := by
  obtain ⟨status, s₂, hturn, hturned⟩ := processNextIn_of_result hs hout hrun
  let retry : Task Work := { task with
    attempt := task.attempt + 1
    due := some (Instant.after s₁.now (s.queue.policy.delayFor (task.attempt + 1))) }
  have hready : retry.isReady s₁.now = true := by simp [retry, Task.isReady, Instant.after, hatonce]
  have hnext : task.next? s.queue.policy s₁.now (.error e) = some retry := if_pos hretry
  have htasks : s₂.queue.tasks = [retry] := by
    rw [hturned.tasks, hnext]
    rfl
  have hruns₂ : s₂.tables.HasStatus id .running := by rwa [hturned.twins.tables_eq]
  have hnow : s₂.now = s₁.now := hturned.twins.now_eq
  have hgo₂ : (Worker.context s₂.worker none s₂.now).stop? s₂.now = none := by
    obtain ⟨store, -, rfl⟩ := hturned.twins
    exact hgo
  rw [drainFor_of_finished hturn]
  rcases s₂.queue.handsOut_or_idle s₂.now with ⟨-, hidle⟩ | ⟨before, task₂, after, job₂, q₂, hout₂⟩
  · have hwaits := hidle retry (htasks ▸ List.mem_singleton_self retry)
    rw [hnow, hready] at hwaits
    cases hwaits
  · obtain ⟨rfl, rfl, rfl⟩ := hout₂.eq_of_single htasks
    exact hasStatus_drainFor_of_running hturned.inOrder hout₂ hdata hruns₂ hgo₂ n

end Single

end System

/-! ## Audiences -/

/-- Who listens to the bus after the scheduler, and the recorders that they write to. -/
structure Audience where
  bystanders : List { b : Subscriber // b.isAside = true }
  recorders : List Recorder

/-- The system with another audience. -/
def System.facing (s : System) (a : Audience) : System :=
  { s with store := { s.store with
      bus := .scheduler :: a.bystanders.map (·.val)
      hub := { s.store.hub with recorders := a.recorders } } }

theorem System.isWired_facing (s : System) (a : Audience) : (s.facing a).store.IsWired := by
  refine ⟨_, rfl, fun b hb => ?_⟩
  obtain ⟨b', -, rfl⟩ := List.mem_map.mp hb
  exact b'.property

/-- **What is stored after a drain does not depend on what listeners refuse**, as long as the starts of deployments get
through to them. That rows are filed is an invariant of every service (`sound_serviceAfter`). -/
theorem drained_alike (s : System) (hcalm : s.store.db.IsCalm) (hfiled : s.tables.Filed) (a a' : Audience)
    (hstarts : (s.facing a).drainLosesStart = false) (hstarts' : (s.facing a').drainLosesStart = false) :
    (s.facing a').drain.2.tables = (s.facing a).drain.2.tables := by
  have hparallel : (s.facing a').Parallel (s.facing a) :=
    ⟨⟨s.isWired_facing a', hcalm, hfiled⟩, ⟨s.isWired_facing a, hcalm, hfiled⟩, ⟨(s.facing a).store, rfl, rfl⟩, rfl, rfl⟩
  exact hparallel.tables_drainFor (Nat.lt_succ_self _) (Nat.lt_succ_self _) hstarts' hstarts

/-! ## A start that does not get through -/

namespace Stall

open Shop

/-- Whatever fails is tried once more, at once. -/
def config : Config := { Shop.config with maxAttempts := 2, retryBaseDelay := .zero }

/-- A deployment of a new app waits. -/
def system : System := (serviceAfter config opening).system

theorem isAside_recorder : (Subscriber.recorder 0).isAside = true := rfl

/-- A recorder that refuses one event, the one that comes after `n` others. -/
def refusing (n : Nat) : Audience := ⟨[⟨.recorder 0, isAside_recorder⟩], [⟨[], 0, fun i => i = n⟩]⟩

/-- A recorder that refuses nothing. -/
def accepting : Audience := ⟨[⟨.recorder 0, isAside_recorder⟩], [.withLimit none]⟩

def task : Task Work := ⟨.deploy first.app first.number, 1, none⟩

/-- The queue while the deployment is carried out. -/
def emptied : Queue Work := (system.queue.dequeue system.now).2

/-- The first run of the deployment. -/
def attempt (a : Audience) : Option (Except JobError Unit) × System := (system.facing a).runJob emptied firstJob

theorem filed_system : system.tables.Filed := (sound_serviceAfter config opening).filed

theorem isCalm_system : system.store.db.IsCalm := ⟨rfl, rfl⟩

theorem inOrder_facing (a : Audience) : (system.facing a).InOrder := ⟨system.isWired_facing a, isCalm_system, filed_system⟩

theorem handsOut (a : Audience) :
    (system.facing a).queue.HandsOut (system.facing a).now [] task [] firstJob emptied := by
  have hjob : (system.queue.dequeue system.now).1 = some firstJob := by cbv
  have htasks : system.queue.tasks = [task] := by cbv
  have hsystem : system.queue.HandsOut system.now [] task [] firstJob emptied := by
    rcases system.queue.handsOut_or_idle system.now with ⟨hnone, -⟩ | ⟨before, task', after, job, q, hout⟩
    · cases hjob.symm.trans hnone
    · obtain ⟨rfl, rfl, rfl⟩ := hout.eq_of_single htasks
      obtain rfl : q = emptied := by rw [emptied, hout.dequeue]
      rw [hout.dequeue] at hjob
      obtain rfl := Option.some.inj hjob
      exact hout
  exact hsystem

/-- A drain that brings the deployment to an end at once. -/
theorem drain_of_done {a : Audience} (hstarts : (system.facing a).jobLosesStart emptied firstJob = false)
    (hreturns : (attempt a).1.isSome = true) (hdone : (attempt a).2.tables.needs task.data = false) :
    (system.facing a).drain.2.tables = (attempt a).2.tables ∧ (system.facing a).drainLosesStart = false := by
  obtain ⟨result, hresult⟩ := Option.isSome_iff_exists.mp hreturns
  have hrun : (system.facing a).runJob emptied firstJob = (some result, (attempt a).2) := Prod.ext hresult rfl
  obtain ⟨htables, hlost⟩ := System.drainFor_of_single (inOrder_facing a) (handsOut a) hrun hdone system.queue.runsLeft
  exact ⟨htables, hlost.trans hstarts⟩

theorem drain_accepting : (system.facing accepting).drain.2.tables = (attempt accepting).2.tables ∧
    (system.facing accepting).drainLosesStart = false :=
  drain_of_done (by decide +kernel) (by decide +kernel) (by decide +kernel)

theorem hasStatus_accepting : (system.facing accepting).drain.2.tables.HasStatus first .succeeded := by
  have hstatus : ((attempt accepting).2.tables.deployment? first).map (·.status) = some (.value .succeeded) := by
    decide +kernel
  rw [drain_accepting.1]
  exact Option.map_eq_some_iff.mp hstatus

/-- Whether a run has failed in a way that can be tried again. -/
def failsForNow : Except JobError Unit → Bool
  | .ok _ => false
  | .error e => e.failureKind = .retryable

/-- The run whose first event is refused, that of the start, fails for now. -/
theorem attempt_refusing : ∃ e, attempt (refusing 0) = (some (.error e), (attempt (refusing 0)).2) ∧
    e.failureKind = .retryable := by
  have hresult : (attempt (refusing 0)).1.any failsForNow = true := by decide +kernel
  rcases hattempt : attempt (refusing 0) with ⟨_ | e | _, s⟩ <;> rw [hattempt] at hresult
  · cases hresult
  · exact ⟨e, rfl, of_decide_eq_true hresult⟩
  · cases hresult

theorem hasStatus_refusing : (system.facing (refusing 0)).drain.2.tables.HasStatus first .failed := by
  have hstatus : ((attempt (refusing 0)).2.tables.deployment? first).map (·.status) = some (.value .running) := by
    decide +kernel
  have hgo : (Worker.context (attempt (refusing 0)).2.worker none (attempt (refusing 0)).2.now).stop?
      (attempt (refusing 0)).2.now = none := by decide +kernel
  have hruns : system.queue.runsLeft = 2 := by cbv
  have hattempts : 1 < system.queue.policy.maxAttempts := by cbv
  have hatonce : (system.queue.policy.delayFor 2).nanos = 0 := by cbv
  obtain ⟨e, hattempt, hkind⟩ := attempt_refusing
  have hdrain : (system.facing (refusing 0)).drain = System.drainFor (1 + 2) (system.facing (refusing 0)) :=
    congrArg (fun n => System.drainFor (n + 1) (system.facing (refusing 0))) hruns
  rw [hdrain]
  exact System.hasStatus_drainFor_of_left (inOrder_facing (refusing 0)) (handsOut (refusing 0)) rfl hattempt
    ⟨hkind, hattempts⟩ hatonce (Option.map_eq_some_iff.mp hstatus) hgo 1

end Stall

open Stall

/-- The deployment succeeds although the event of its outcome is refused. -/
theorem drained_alike_refusing : (system.facing accepting).drainLosesStart = false ∧
    (system.facing (refusing 1)).drainLosesStart = false ∧
    (system.facing (refusing 1)).drain.2.tables = (system.facing accepting).drain.2.tables ∧
    (system.facing (refusing 1)).drain.2.tables.HasStatus Shop.first .succeeded := by
  have hstarts := drain_accepting.2
  have hstarts' : (system.facing (refusing 1)).drainLosesStart = false :=
    (drain_of_done (by decide +kernel) (by decide +kernel) (by decide +kernel)).2
  have hsame := drained_alike system isCalm_system filed_system accepting (refusing 1) hstarts hstarts'
  exact ⟨hstarts, hstarts', hsame, hsame ▸ hasStatus_accepting⟩

/-- **A refused start changes the outcome**: the deployment is tried again at once, and recorded as failed. -/
theorem not_drained_alike : system.store.db.IsCalm ∧ system.tables.Filed ∧ 1 < system.queue.policy.maxAttempts ∧
    system.queue.policy.baseDelay.nanos = 0 ∧
    (system.facing accepting).drain.2.tables.HasStatus Shop.first .succeeded ∧
    (system.facing (refusing 0)).drain.2.tables.HasStatus Shop.first .failed :=
  ⟨isCalm_system, filed_system, by cbv, by cbv, hasStatus_accepting, hasStatus_refusing⟩

end Rollout
