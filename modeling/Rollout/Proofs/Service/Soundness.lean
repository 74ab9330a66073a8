import Rollout.Proofs.Command.Quiet
import Rollout.Proofs.Queue.Live
import Rollout.Proofs.Service.Incidents
import Rollout.Proofs.Service.Matters

/-!
# What a service goes by

At all times the jobs of a service stand for what is on record, the job that is running is the one of the worker, and a
job that waits with its key is for newer work (`Service.Sound`). An incident leaves the queue alone or moves it in one
of three ways, and matters come up only when a job sees to them (`Service.Moves`).
-/

namespace Rollout

namespace Duty

/-- The result of the worker's job, if there is one. -/
def result? : Duty → Option (Except JobError Unit)
  | .deploying _ p => p.result?.map CommandError.toJobResult
  | .cleaning _ p => p.result?.map CommandError.toJobResult
  | .returning _ result => some result
  | .idle | .holding .. => none

/-- What the worker goes by is true, and a job that has come to its end for good has been done. -/
structure Sound (t : Tables) (duty : Duty) : Prop where
  deploying : ∀ job p, duty = .deploying job p → job.data = .deploy p.id.app p.id.number ∧ p.Informed t
  cleaning : ∀ job p, duty = .cleaning job p → job.data = .cleanup p.app ∧ p.Informed ∧ p.Entitled t
  done : ∀ job, duty.job? = some job → duty.result? = some (.ok ()) → job.data.IsDone t

namespace Sound

variable {t t' : Tables} {duty : Duty} {issued : List AppId}

theorem idle : Duty.idle.Sound t := by
  constructor
  case deploying | cleaning =>
    intro job p hp
    cases hp
  case done =>
    intro job hjob
    cases hjob

theorem holding (job : Job Work) (context : Context) (holds : Bool) : (Duty.holding job context holds).Sound t := by
  constructor
  case deploying | cleaning =>
    intro job p hp
    cases hp
  case done =>
    intro job hjob hok
    cases hok

theorem of_deploying {job : Job Work} {p : Deploying} (hdata : job.data = .deploy p.id.app p.id.number)
    (hinformed : p.Informed t)
    (hdone : ∀ result, p.result? = some result → CommandError.toJobResult result = .ok () → job.data.IsDone t) :
    (Duty.deploying job p).Sound t := by
  constructor
  case deploying =>
    intro job' p' hp
    cases hp
    exact ⟨hdata, hinformed⟩
  case cleaning =>
    intro job' p' hp
    cases hp
  case done =>
    intro job' hjob hok
    cases hjob
    obtain ⟨result, hresult, hok⟩ := Option.map_eq_some_iff.mp hok
    exact hdone result hresult hok

theorem of_cleaning {job : Job Work} {p : CleaningUp} (hdata : job.data = .cleanup p.app) (hinformed : p.Informed)
    (hentitled : p.Entitled t)
    (hdone : ∀ result, p.result? = some result → CommandError.toJobResult result = .ok () → job.data.IsDone t) :
    (Duty.cleaning job p).Sound t := by
  constructor
  case deploying =>
    intro job' p' hp
    cases hp
  case cleaning =>
    intro job' p' hp
    cases hp
    exact ⟨hdata, hinformed, hentitled⟩
  case done =>
    intro job' hjob hok
    cases hjob
    obtain ⟨result, hresult, hok⟩ := Option.map_eq_some_iff.mp hok
    exact hdone result hresult hok

theorem of_returning {job : Job Work} {result : Except JobError Unit} (h : result = .ok () → job.data.IsDone t) :
    (Duty.returning job result).Sound t := by
  constructor
  case deploying | cleaning =>
    intro job p hp
    cases hp
  case done =>
    intro job' hjob hok
    cases hjob
    exact h (Option.some.inj hok)

/-- Giving up a job is no success of it. -/
theorem giveUp (h : duty.Sound t) (reason : Stop) : (duty.giveUp reason).Sound t := by
  cases duty with
  | idle | returning => exact h
  | holding | deploying | cleaning => exact of_returning fun hok => by cases hok

/-- What the worker goes by stays true when others ask for more. -/
theorem of_change (h : duty.Sound t) (hfiled : t.Filed) (hkeeps : Tables.Keeps issued t t') (hextends : t.Extends t')
    (hjob : ∀ job, duty.job? = some job → Work.Sound issued t job.data job.key) : duty.Sound t' := by
  refine ⟨fun job p hduty => ?_, fun job p hduty => ?_, fun job hheld hok => ?_⟩
  · obtain ⟨hdata, hinformed⟩ := h.deploying job p hduty
    exact ⟨hdata, hinformed.extends hfiled hextends⟩
  · obtain ⟨hdata, hinformed, hentitled⟩ := h.cleaning job p hduty
    refine ⟨hdata, hinformed, ⟨fun hsome => ?_, hentitled.marked⟩⟩
    have hsound : Work.Sound ([] ++ issued) t' job.data job.key := (hjob job (by rw [hduty]; rfl)).of_keeps hkeeps
    rw [hdata] at hsound
    exact hsound.of_cleanup hsome
  · exact (h.done job hheld hok).of_keeps (hjob job hheld) hkeeps

end Sound

end Duty

namespace Service

variable {s s' : Service} {new : List AppId}

/-- What holds of a service at all times. -/
structure Sound (s : Service) : Prop where
  wired : s.system.store.IsWired
  filed : s.tables.Filed
  within : s.tables.Within s.issued
  orderly : s.tables.Orderly
  jobs : ∀ id job, s.queue.Live id job → Work.Sound s.issued s.tables job.data job.key
  runs : ∀ (id : JobId) (job : Job Work), s.queue.running[id]? = some job ↔ s.duty.job? = some job ∧ job.id = id
  /-- What waits with the key of the running job is newer. -/
  ahead : ∀ job, s.duty.job? = some job → ∀ (id : JobId) (w : Waiting Work), s.queue.pending[id]? = some w →
    w.job.key = job.key → w.job.data.Follows job.data
  duty : s.duty.Sound s.tables

/-- What an incident makes of the queue, and which matters come up. -/
inductive Moves (s s' : Service) : Prop where
  | stays (hqueue : s'.queue = s.queue) (hjob : s'.duty.job? = s.duty.job?)
      (hnew : ∀ x, s'.tables.Shows x → s.tables.Shows x ∨ ∃ job, s.duty.job? = some job ∧ job.data.SeesTo s'.tables x)
  | enqueues {p : Prepared Work} (hqueue : s'.queue = (s.queue.enqueue p).2) (hduty : s'.duty = s.duty)
      (hsound : Work.Sound s'.issued s'.tables p.data p.key)
      (hnew : ∀ x, s'.tables.Shows x → s.tables.Shows x ∨ p.data.SeesTo s'.tables x)
      (hfollows : ∀ id job, s.queue.Live id job → job.key = p.key → p.data.Follows job.data)
  | takes {id : JobId} {w : Waiting Work} (hw : s.queue.pending[id]? = some w)
      (hqueue : s'.queue.toQueueState = s.queue.handOut id w.job) (hidle : s.duty.job? = none)
      (hjob : s'.duty.job? = some w.job) (htables : s'.tables = s.tables)
  | marks {job : Job Work} {result : Except JobError Unit} (hjob : s.duty.job? = some job)
      (hmarked : s.queue.Marked job result s'.queue.toQueueState) (hidle : s'.duty.job? = none)
      (htables : s'.tables = s.tables) (hdone : result = .ok () → job.data.IsDone s.tables)

/-- What an incident comes to. -/
structure Turns (s s' : Service) : Prop where
  change : ∃ new, s'.issued = new ++ s.issued ∧ Tables.Change s.issued s.tables new s'.tables
  wired : s'.system.store.IsWired
  moves : s.Moves s'
  duty : s'.duty.Sound s'.tables

/-! ## What incidents keep -/

namespace Sound

/-- The job of the worker is live. -/
theorem live (h : s.Sound) {job : Job Work} (hjob : s.duty.job? = some job) : s.queue.Live job.id job :=
  .inr ((h.runs job.id job).mpr ⟨hjob, rfl⟩)

theorem linked (s : Service) : s.queue.toQueueState.Linked := s.queue.linked

theorem jobs_of_turns (h : s.Sound) (hturns : s.Turns s') {id : JobId} {job : Job Work} (hl : s'.queue.Live id job) :
    Work.Sound s'.issued s'.tables job.data job.key := by
  obtain ⟨new, hissued, hchange⟩ := hturns.change
  have hkept {id : JobId} {job : Job Work} (hl : s.queue.Live id job) :
      Work.Sound s'.issued s'.tables job.data job.key := by
    rw [hissued]
    exact (h.jobs id job hl).of_keeps (hchange.keeps h.filed)
  cases hturns.moves with
  | stays hqueue _ _ => exact hkept (hqueue ▸ hl)
  | enqueues hqueue _ hsound _ _ =>
    rw [hqueue] at hl
    rcases (linked s).live_enqueue hl with ⟨-, rfl⟩ | ⟨hl, -⟩
    · exact hsound
    · exact hkept hl
  | takes hw hqueue _ _ _ =>
    have hl : s'.queue.toQueueState.Live id job := hl
    rw [hqueue] at hl
    exact hkept ((linked s).live_handOut hw hl)
  | marks hjob hmarked _ _ _ =>
    rcases hmarked.live hl with hl | ⟨hdata, hkey⟩
    · exact hkept hl
    · rw [hdata, hkey]
      exact hkept (h.live hjob)

theorem runs_of_turns (h : s.Sound) (hturns : s.Turns s') (id : JobId) (job : Job Work) :
    s'.queue.running[id]? = some job ↔ s'.duty.job? = some job ∧ job.id = id := by
  cases hturns.moves with
  | stays hqueue hjob _ =>
    rw [hqueue, hjob]
    exact h.runs id job
  | @enqueues p hqueue hduty _ _ _ =>
    have hrunning : (s.queue.enqueue p).2.running = s.queue.running := QueueState.running_enqueue _ p
    rw [hqueue, hduty, hrunning]
    exact h.runs id job
  | @takes i w hw hqueue hidle hjob _ =>
    have hrunning : s'.queue.running[id]? = if id = w.job.id then some w.job else s.queue.running[id]? := by
      rw [hqueue]
      exact getElem?_inserted
    rw [hrunning, hjob]
    split
    · next heq =>
      subst heq
      exact ⟨fun hr => ⟨hr, by rw [Option.some.inj hr]⟩, fun hr => hr.1⟩
    · next hne =>
      refine ⟨fun hr => ?_, fun ⟨hw, hid⟩ => absurd ?_ hne⟩
      · have hnone := ((h.runs id job).mp hr).1
        cases hidle.symm.trans hnone
      · rw [Option.some.inj hw, hid]
  | @marks job' result hjob hmarked hidle _ _ =>
    rw [hmarked.running, hidle]
    split
    · simp
    · next hne =>
      refine ⟨fun hr => ?_, fun ⟨hnone, _⟩ => by cases hnone⟩
      obtain ⟨hjob', hid⟩ := (h.runs id job).mp hr
      cases hjob.symm.trans hjob'
      exact absurd hid.symm hne

theorem ahead_of_turns (h : s.Sound) (hturns : s.Turns s') {job : Job Work} (hjob : s'.duty.job? = some job)
    {id : JobId} {w : Waiting Work} (hw : s'.queue.pending[id]? = some w) (hkey : w.job.key = job.key) :
    w.job.data.Follows job.data := by
  cases hturns.moves with
  | stays hqueue hsame _ => exact h.ahead job (hsame ▸ hjob) id w (hqueue ▸ hw) hkey
  | @enqueues p hqueue hduty _ _ hfollows =>
    have hjob : s.duty.job? = some job := hduty ▸ hjob
    have hlinked' := linked s'
    rw [hqueue] at hw hlinked'
    have hlive : (s.queue.enqueue p).2.Live id w.job := .inl ⟨w, hw, rfl⟩
    rcases (linked s).live_enqueue hlive with ⟨-, hentry⟩ | ⟨⟨w', hw', hsame⟩ | hr, -⟩
    · rw [hentry] at hkey ⊢
      exact hfollows job.id job (h.live hjob) hkey.symm
    · rw [← hsame] at hkey ⊢
      exact h.ahead job hjob id w' hw' hkey
    · -- a job that waits is not running
      have hnot := hlinked'.not_mem_running (mem_of_getElem? hw)
      have hrunning : (s.queue.enqueue p).2.running = s.queue.running := QueueState.running_enqueue _ p
      rw [hrunning] at hnot
      exact absurd (mem_of_getElem? hr) hnot
  | @takes i w' hw' hqueue hidle hjob' _ =>
    cases hjob'.symm.trans hjob
    rw [hqueue] at hw
    simp only [QueueState.handOut, QueueState.start, QueueState.remove, QueueState.setStatus,
      getElem?_erased] at hw
    split at hw
    · cases hw
    · next hne =>
      obtain ⟨k, hk⟩ := (h.jobs i w'.job (.inl ⟨w', hw', rfl⟩)).exists_key
      exact absurd ((linked s).id_eq_of_key hw hw' (hkey.trans hk) hk) hne
  | marks _ _ hidle _ _ => cases hidle.symm.trans hjob

/-- **What a service goes by stays true.** -/
theorem of_turns (h : s.Sound) (hturns : s.Turns s') : s'.Sound := by
  obtain ⟨new, hissued, hchange⟩ := hturns.change
  exact ⟨hturns.wired, hchange.filed h.filed, hissued ▸ hchange.within h.within, hchange.orderly h.filed h.orderly,
    fun id job => h.jobs_of_turns hturns, h.runs_of_turns hturns, fun job hjob id w => h.ahead_of_turns hturns hjob,
    hturns.duty⟩

end Sound

/-! ## What incidents come to -/

namespace Turns

/-- The tables show the same, and the worker holds the same job. -/
theorem of_rows (hs : s'.system.store.IsWired) (happs : s'.tables.apps = s.tables.apps)
    (hdeployments : s'.tables.deployments = s.tables.deployments) (hissued : s'.issued = s.issued)
    (hqueue : s'.queue = s.queue) (hjob : s'.duty.job? = s.duty.job?) (hduty : s'.duty.Sound s'.tables) :
    s.Turns s' := by
  have hretains : Tables.Retains s.issued [] s.tables s'.tables := .of_eq hdeployments happs
  refine ⟨⟨[], hissued, .retains hretains⟩, hs, .stays hqueue hjob fun x hx => .inl ?_, hduty⟩
  exact hx.of_retains hretains fun app => (Tables.leaves_congr happs app).mp

/-- The worker goes on, and nothing else happens. -/
theorem of_duty {duty : Duty} (h : s.Sound) (hjob : duty.job? = s.duty.job?) (hduty : duty.Sound s.tables) :
    s.Turns { s with duty } := .of_rows h.wired rfl rfl rfl rfl hjob hduty

end Turns

namespace Sound

theorem turns_of_effect {t' : Tables} {q' : Queue Work} (h : s.Sound)
    (heffect : UseCase.Effect s.issued s.tables s.queue new t' q') (hissued : s'.issued = new ++ s.issued)
    (htables : s'.tables = t') (hqueue : s'.queue = q') (hduty : s'.duty = s.duty)
    (hwired : s'.system.store.IsWired) : s.Turns s' := by
  subst htables hqueue
  have hkept (hchange : Tables.Change s.issued s.tables new s'.tables) (hextends : s.tables.Extends s'.tables) :
      s'.duty.Sound s'.tables := by
    rw [hduty]
    exact h.duty.of_change h.filed (hchange.keeps h.filed) hextends fun job hjob => h.jobs _ _ (h.live hjob)
  generalize ht : s'.tables = t' at heffect
  generalize hq : s'.queue = q' at heffect
  cases heffect with
  | changes hretains hleaves =>
    subst ht
    refine ⟨⟨new, hissued, .retains hretains⟩, hwired, .stays hq (by rw [hduty]) fun x hx => .inl ?_,
      hkept (.retains hretains) (.of_eq hretains.deployments)⟩
    exact hx.of_retains hretains hleaves
  | @marks app t' hretains happ hleaves =>
    subst ht
    have hchange : Tables.Change s.issued s.tables [] s'.tables := .retains hretains
    have hmem : app ∈ s'.issued := by
      obtain ⟨r, hr, -⟩ := happ
      exact hissued ▸ hchange.within h.within app (by rw [hr]; rfl)
    refine ⟨⟨[], hissued, hchange⟩, hwired, .enqueues hq hduty (.ofCleanup happ hmem)
      (fun x hx => (hx.of_marks hretains hleaves).imp_right ?_)
      fun id job hl hkey => Work.follows_ofCleanup (h.jobs id job hl) hkey,
      hkept hchange (.of_eq hretains.deployments)⟩
    rintro rfl
    exact .leaving app
  | @asks d t' hasks =>
    subst ht
    have hchange : Tables.Change s.issued s.tables [] s'.tables := .asks hasks
    obtain ⟨r, hr, -⟩ := hasks.named
    have hmem : d.id.app ∈ s'.issued := hissued ▸ List.mem_append_right _ (h.within d.id.app (by rw [hr]; rfl))
    refine ⟨⟨[], hissued, hchange⟩, hwired, .enqueues hq hduty (.ofDeployment hasks hmem)
      (fun x hx => (hx.of_asks hasks).imp_right ?_)
      fun id job hl hkey => Work.follows_ofDeployment hasks h.filed (h.jobs id job hl) hkey,
      hkept hchange (hasks.extends h.filed)⟩
    rintro rfl
    exact .waiting (Nat.le_refl _) rfl

theorem turns_call (h : s.Sound) (u : UseCase) : s.Turns (s.call u) := by
  unfold call
  dsimp only
  split
  · exact .of_duty h rfl h.duty
  · next hnot =>
    rw [Bool.or_eq_true, not_or, Bool.not_eq_true, Bool.not_eq_true] at hnot
    obtain ⟨hfresh, hall⟩ := hnot
    have hfresh : ∀ app ∈ u.takes, app ∉ s.issued := by simpa using hfresh
    obtain ⟨hbus, heffect⟩ := UseCase.effect_of_run h.wired h.filed hfresh rfl hall
    obtain ⟨bs, hwired, hbs⟩ := h.wired
    exact h.turns_of_effect heffect rfl rfl rfl rfl ⟨bs, hbus.trans hwired, hbs⟩

/-- The worker takes a job off the queue. -/
theorem turns_take (h : s.Sound) (hidle : s.duty.job? = none) (shutdown : Option Instant) (holds : Bool) :
    s.Turns (s.take shutdown holds) := by
  rcases hdequeue : s.system.queue.dequeue s.system.now with ⟨_ | job, q⟩
  · rw [take, hdequeue]
    exact .of_duty h rfl h.duty
  · rw [take, hdequeue]
    have hfirst : (s.queue.toQueueState.dequeue s.system.now).1 = some job := congrArg Prod.fst hdequeue
    have hrest : (s.queue.toQueueState.dequeue s.system.now).2 = q.toQueueState :=
      congrArg (fun r => r.2.toQueueState) hdequeue
    rcases s.queue.toQueueState.dequeue_cases s.system.now with ⟨hnone, -⟩ | ⟨id, w, -, hw, -, hsome⟩
    · rw [hnone] at hfirst
      cases hfirst
    · rw [hsome] at hfirst hrest
      cases hfirst
      exact ⟨⟨[], rfl, .retains (.of_eq rfl rfl)⟩, h.wired, .takes hw hrest.symm hidle rfl rfl, .holding w.job _ holds⟩

theorem turns_enter (h : s.Sound) {job : Job Work} {context : Context} {holds : Bool}
    (hduty : s.duty = .holding job context holds) : s.Turns { s with duty := .enter job context holds } := by
  have hjob : s.duty.job? = some job := by rw [hduty]; rfl
  rcases (h.jobs _ _ (h.live hjob)).exists_command with ⟨id, hdata, hcommand⟩ | ⟨app, hdata, hcommand⟩
  · rw [Duty.enter, hcommand]
    exact .of_duty h hjob.symm (.of_deploying hdata (.of_own?_eq_none rfl) fun result hresult => by cases hresult)
  · rw [Duty.enter, hcommand]
    have hsound := h.jobs _ _ (h.live hjob)
    rw [hdata] at hsound
    have hentitled : (CleaningUp.enter app context).Entitled s.tables := .of_copy?_eq_none hsound.of_cleanup rfl
    exact .of_duty h hjob.symm
      (.of_cleaning hdata (.of_copy?_eq_none rfl) hentitled fun result hresult => by cases hresult)

theorem turns_deploying (h : s.Sound) {job : Job Work} {p : Deploying} (hduty : s.duty = .deploying job p) :
    s.Turns { s with system := (p.step s.system).2, duty := .deploying job (p.step s.system).1 } := by
  have hjob : s.duty.job? = some job := by rw [hduty]; rfl
  obtain ⟨hdata, hinformed⟩ := h.duty.deploying job p hduty
  cases hover : p.isOver with
  | true =>
    rw [Deploying.step_of_isOver hover]
    exact .of_duty h hjob.symm (hduty ▸ h.duty)
  | false =>
    have hstep : p.Undisturbed s.system (p.step s.system).1 (p.step s.system).2 :=
      Deploying.undisturbed_of_step hinformed h.filed hover rfl
    have htouches : s.system.store.Touches (p.step s.system).2.store := Deploying.touches_of_step hinformed rfl
    have hchange := hstep.change s.issued
    have hsound : (Duty.deploying job (p.step s.system).1).Sound (p.step s.system).2.tables := by
      refine .of_deploying (hstep.id.symm ▸ hdata) hstep.informed fun result hresult hok => ?_
      have hjobs : Work.Sound ([] ++ s.issued) (p.step s.system).2.tables job.data job.key :=
        (h.jobs _ _ (h.live hjob)).of_keeps (hchange.keeps h.filed)
      rw [hdata] at hjobs ⊢
      exact .of_isSettled (hstep.answers result hresult hok) hjobs
    refine ⟨⟨[], rfl, hchange⟩, htouches.isWired h.wired,
      .stays (htouches.queue_eq h.wired) hjob.symm fun x hx => ?_, hsound⟩
    have hx : (p.step s.system).2.tables.Shows x := hx
    -- only the deployment of the job itself comes to run
    have hown {d : Deployment} (hid : d.id = p.id) (hx : s.tables.Shows x ∨ x = .running d.id) :
        s.tables.Shows x ∨ ∃ job, s.duty.job? = some job ∧ job.data.SeesTo (p.step s.system).2.tables x := by
      refine hx.imp_right fun heq => ⟨job, hjob, ?_⟩
      rw [heq, hdata, hid]
      exact .running p.id
    cases hstep.advances with
    | waits htables _ _ | builds _ htables _ _ =>
      rw [htables] at hx
      exact .inl hx
    | starts hid hstarts _ => exact hown hid (hx.of_starts hstarts hstep.filed)
    | finishes _ hfinishes _ _ => exact .inl (hx.of_finishes hfinishes hstep.filed)

theorem turns_cleaning (h : s.Sound) {job : Job Work} {p : CleaningUp} (hduty : s.duty = .cleaning job p) :
    s.Turns { s with system := (p.step s.system).2, duty := .cleaning job (p.step s.system).1 } := by
  have hjob : s.duty.job? = some job := by rw [hduty]; rfl
  obtain ⟨hdata, hinformed, hentitled⟩ := h.duty.cleaning job p hduty
  cases hover : p.isOver with
  | true =>
    rw [CleaningUp.step_of_isOver hover]
    exact .of_duty h hjob.symm (hduty ▸ h.duty)
  | false =>
    have hstep : p.Effect s.tables (p.step s.system).1 (p.step s.system).2.tables :=
      (CleaningUp.effect_of_step hinformed hover rfl).1
    have htouches : s.system.store.Touches (p.step s.system).2.store := CleaningUp.touches_of_step hinformed rfl
    have hsound : (Duty.cleaning job (p.step s.system).1).Sound (p.step s.system).2.tables := by
      refine .of_cleaning (hstep.app_eq.symm ▸ hdata) (hstep.informed hinformed) (hstep.entitled hinformed hentitled)
        fun result hresult hok => ?_
      rw [hdata]
      exact hstep.app?_eq_none hinformed hentitled hresult hok
    refine ⟨⟨[], rfl, hstep.change hinformed s.issued⟩, htouches.isWired h.wired,
      .stays (htouches.queue_eq h.wired) hjob.symm fun x hx => .inl ?_, hsound⟩
    have hx : (p.step s.system).2.tables.Shows x := hx
    rcases hstep.tables_cases hinformed with htables | htables
    · exact htables ▸ hx
    · rw [htables] at hx
      exact hx.of_deleteApp

theorem turns_mark (h : s.Sound) {job : Job Work} {result : Except JobError Unit}
    (hduty : s.duty = .returning job result) : s.Turns (s.mark job result) := by
  have hjob : s.duty.job? = some job := by rw [hduty]; rfl
  have hruns : s.queue.running[job.id]? = some job := (h.runs job.id job).mpr ⟨hjob, rfl⟩
  obtain ⟨status, q, hmark, hmarked⟩ := Queue.exists_mark hruns s.system.now result
  have hmark : s.system.queue.mark s.system.now job.id result = .ok (status, q) := hmark
  rw [mark, hmark]
  refine ⟨⟨[], rfl, .retains (.of_eq rfl rfl)⟩, h.wired, .marks hjob hmarked rfl rfl fun hok => ?_, .idle⟩
  exact h.duty.done job hjob (by rw [hduty, hok]; rfl)

/-- A command has ended. -/
theorem turns_return (h : s.Sound) {duty : Duty} {job : Job Work} {result : Except JobError Unit}
    (hduty : s.duty = duty) (hjob : duty.job? = some job) (hended : duty.result? = some result) :
    s.Turns { s with duty := .returning job result } := by
  subst hduty
  refine .of_duty h hjob.symm (.of_returning fun hok => ?_)
  exact h.duty.done job hjob (hok ▸ hended)

theorem turns_work (h : s.Sound) (shutdown : Option Instant) (holds : Bool) : s.Turns (s.work shutdown holds) := by
  unfold work
  split
  case h_1 hduty => exact h.turns_take (by rw [hduty]; rfl) shutdown holds
  case h_2 job context holds hduty => exact h.turns_enter hduty
  case h_3 job p hduty =>
    split
    · next result hended => exact h.turns_return hduty rfl (by rw [Duty.result?, hended]; rfl)
    · exact h.turns_deploying hduty
  case h_4 job p hduty =>
    split
    · next result hended => exact h.turns_return hduty rfl (by rw [Duty.result?, hended]; rfl)
    · exact h.turns_cleaning hduty
  case h_5 job result hduty => exact h.turns_mark hduty

/-- **What an incident comes to.** -/
theorem turns (h : s.Sound) (i : Incident) : s.Turns (s.perform i) := by
  cases i with
  | call u => exact h.turns_call u
  | work shutdown holds => exact h.turns_work shutdown holds
  | giveUp reason =>
    refine .of_duty h ?_ (h.duty.giveUp reason)
    cases s.duty <;> rfl
  | surround w =>
    have hwired : (s.system.surround w).store.IsWired := by
      refine ⟨w.bystanders.map (·.val), rfl, fun b hb => ?_⟩
      obtain ⟨b', -, rfl⟩ := List.mem_map.mp hb
      exact b'.property
    refine .of_rows hwired rfl rfl rfl rfl rfl ?_
    have hchange : Tables.Change s.issued s.tables [] (s.system.surround w).tables := .retains (.of_eq rfl rfl)
    exact h.duty.of_change h.filed (hchange.keeps h.filed) (.of_eq rfl) fun job hjob => h.jobs _ _ (h.live hjob)

theorem perform (h : s.Sound) (i : Incident) : (s.perform i).Sound := h.of_turns (h.turns i)

end Sound

end Service

end Rollout
