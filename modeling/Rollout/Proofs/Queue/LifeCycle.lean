import Mathlib.Data.List.Chain
import Mathlib.Data.List.Nodup
import Mathlib.Data.List.Pairwise
import Rollout.Proofs.Queue.Arrivals
import Rollout.Proofs.Queue.Stage

/-!
# The life of a job

The stages of a job over a history form a path (`isChain_stages`), so that no job leaves the waiting ones twice
(`pairwise_departs`): it is handed out once, or superseded and never handed out. No work is lost on the way:
`Event.Accounted` says where it comes in, what it waits and runs as, and where it went (`accounted_event`). Together
this is the life cycle of jobs (`lifeCycle_history`).
-/

namespace Rollout

/-! ## Histories -/

namespace Moment

variable {α : Type} {m : Moment α}

/-- The moments that a history goes through. -/
def moments (m : Moment α) (os : List (QueueOperation α)) : List (Moment α) := m :: (m.history os).map (·.after)

theorem moments_cons (o : QueueOperation α) (os : List (QueueOperation α)) :
    m.moments (o :: os) = m :: (m.perform o).2.moments os := rfl

/-- The stages of a job follow each other. -/
theorem isChain_stages (h : m.queue.Linked) (os : List (QueueOperation α)) (id : JobId) :
    ((m.moments os).map (·.queue.stage id)).IsChain Stage.Passes := by
  induction os generalizing m with
  | nil => exact List.isChain_singleton _
  | cons o os ih =>
    rw [moments_cons, List.map_cons]
    refine List.IsChain.cons (ih (linked_perform h o)) fun stage hstage => ?_
    simp only [moments, List.map_cons, List.head?_cons, Option.mem_some_iff] at hstage
    rw [← hstage]
    exact (m.effect o).passes h id

/-- A job never comes back to a stage that it has left. -/
theorem rank_le_of_mem_history (h : m.queue.Linked) {os : List (QueueOperation α)} {e : Event α}
    (he : e ∈ m.history os) (id : JobId) : (m.queue.stage id).rank ≤ (e.before.queue.stage id).rank := by
  induction os generalizing m with
  | nil => simp [history] at he
  | cons o os ih =>
    rcases List.mem_cons.mp he with rfl | he
    · exact le_rfl
    · exact ((m.effect o).passes h id).rank_le.trans (ih (linked_perform h o) he)

end Moment

namespace Event

variable {α : Type}

/-- The job `id` has waited up to this event. -/
def Departs (e : Event α) (id : JobId) : Prop :=
  e.before.queue.stage id = .known .pending ∧ e.after.queue.stage id ≠ .known .pending

/-- The job `id` takes on the status `status`. -/
def Marks (e : Event α) (id : JobId) (status : JobStatus) : Prop := e.before.queue.Marks e.after.queue id status

/--
No work is lost in this event: what is enqueued waits, what happened to a job is reported, and what is not tried again
is accounted for.
-/
structure Accounted (e : Event α) : Prop where
  /-- Enqueued work waits as a job of its own, not known before: its first attempt, under the id of the answer. -/
  enqueued : ∀ p, e.operation = .enqueue p → ∃ result, e.answer = .enqueued result ∧
    e.before.queue.stage result.id = .unborn ∧ e.after.queue.stage result.id = .known .pending ∧
    e.after.queue.pending[result.id]? = some ⟨⟨result.id, 1, p.data, p.key⟩, none⟩
  /-- No other job comes to wait but the next attempt at work that fails. -/
  arrived : ∀ id, e.Marks id .pending → (∃ p result, e.operation = .enqueue p ∧ e.answer = .enqueued result ∧
      result.id = id) ∨
    ∃ (old : Job α) (error : String) (w : Waiting α), e.operation = .fail old.id error .retryable ∧
      e.before.queue.running[old.id]? = some old ∧ e.Marks old.id .failed ∧
      e.after.queue.pending[id]? = some w ∧ w.job = old.retry id
  /-- What waits goes on waiting as it is, is handed out as it is, or is superseded. -/
  waits : ∀ id w, e.before.queue.pending[id]? = some w → e.after.queue.pending[id]? = some w ∨
    (e.answer = .dequeued (some w.job) ∧ e.after.queue.running[id]? = some w.job) ∨ e.Marks id .superseded
  /-- What runs goes on running as it is, or comes to its end. -/
  runs : ∀ id job, e.before.queue.running[id]? = some job → e.after.queue.running[id]? = some job ∨
    e.Marks id .succeeded ∨ e.Marks id .failed ∨ e.Marks id .deadLetter
  /-- What runs is marked as it is asked for. -/
  accepted : ∀ id job, e.before.queue.running[id]? = some job →
    (e.operation = .succeed id → e.Marks id .succeeded) ∧
    ∀ error kind, e.operation = .fail id error kind → e.Marks id .failed ∨ e.Marks id .deadLetter
  /-- What happens to a job is what the answer says. -/
  reported : ∀ id status, status ≠ .pending →
    (e.Marks id status ↔ QueueAnswer.reported? e.operation e.answer = some (id, status))
  /-- Another job of its key has taken the place of a superseded one. -/
  superseded : ∀ id, e.Marks id .superseded → ∃ (new : JobId) (k : String) (old w : Waiting α),
    e.answer = .enqueued (.superseded new id) ∧ id ≠ new ∧
    e.before.queue.pending[id]? = some old ∧ old.job.key = some k ∧
    e.after.queue.pending[new]? = some w ∧ w.job.key = some k
  /-- Failed work waits as a new try, or another job of its key waits. -/
  failed : ∀ id, e.Marks id .failed → ∃ job, e.before.queue.running[id]? = some job ∧
    ((∃ retry w, e.before.queue.stage retry = .unborn ∧ e.after.queue.pending[retry]? = some w ∧
        w.job.data = job.data ∧ w.job.key = job.key ∧ w.job.attempt = job.attempt + 1) ∨
      ∃ (other : JobId) (w : Waiting α) (k : String), other ≠ id ∧ job.key = some k ∧
        e.after.queue.pending[other]? = some w ∧ w.job.key = some k)
  deadLettered : ∀ id, e.Marks id .deadLetter → ∃ job error kind, e.operation = .fail id error kind ∧
    e.before.queue.running[id]? = some job ∧
    e.after.queue.deadLetters =
      QueueState.newest e.before.queue.retention (e.before.queue.deadLetters ++ [⟨job, error⟩]) ∧
    e.after.queue.deadLetters.getLast? = some ⟨job, error⟩
  /-- Only what runs can be marked. -/
  refused : ∀ id, e.before.queue.running[id]? = none →
    (e.operation = .succeed id →
      e.answer = .succeeded (.error (QueueState.notRunning (toString id))) ∧ e.after = e.before) ∧
    ∀ error kind, e.operation = .fail id error kind →
      e.answer = .failed (.error (QueueState.notRunning (toString id))) ∧ e.after = e.before

end Event

/-! ## Where work goes -/

section Work

variable {α : Type} {now : Instant} {s s' : QueueState α} {o : QueueOperation α} {answer : QueueAnswer α} {id : JobId}

/-- What has come to wait is enqueued work, or the next attempt at work that is reported as failed. -/
theorem Effect.arrived (he : Effect now s o answer s') (h : s.Linked) {w : Waiting α}
    (hw : s'.pending[id]? = some w) (hnew : id ∉ s.pending) :
    (∃ p result, o = .enqueue p ∧ answer = .enqueued result ∧ result.id = id) ∨
      ∃ (old : Job α) (error : String), o = .fail old.id error .retryable ∧ s.running[old.id]? = some old ∧
        answer.reported? o = some (old.id, .failed) ∧ w.job = old.retry id := by
  cases he.arrival h hw with
  | kept hw => exact absurd (mem_of_getElem? hw) hnew
  | @enqueued p hid hw hcreated =>
    obtain ⟨result, hanswer, hresult, -⟩ := he.enqueued
    exact .inl ⟨p, result, rfl, hanswer, hresult.trans hid.symm⟩
  | @retried old error hold hattempts hid hw hcreated =>
    refine .inr ⟨old, error, rfl, hold, ?_, by rw [hw, hid]; rfl⟩
    cases he with
    | notFailed hnone => cases hnone.symm.trans hold
    | covered | retried => rfl
    | buried hrunning hkind =>
      cases hold.symm.trans hrunning
      exact absurd ⟨rfl, hattempts⟩ hkind

/-- What is handed out runs. -/
theorem Effect.running_of_handsOut (he : Effect now s o answer s') (h : s.Linked) {job : Job α}
    (ha : answer = .dequeued (some job)) : s'.running[job.id]? = some job := by
  obtain ⟨-, w, -, -, -, rfl⟩ := he.of_handsOut h ha
  exact getElem?_inserted.trans (if_pos rfl)

/-- What runs goes on running, or is reported as ended. -/
theorem Effect.running_or_reported (he : Effect now s o answer s') (h : s.Linked) {job : Job α}
    (hr : s.running[id]? = some job) :
    s'.running[id]? = some job ∨ answer.reported? o = some (id, .succeeded) ∨
      answer.reported? o = some (id, .failed) ∨ answer.reported? o = some (id, .deadLetter) := by
  -- a mark takes one job off the running ones
  have hmarked (i : JobId) : (s.running.erase i)[id]? = some job ∨ id = i := by
    by_cases heq : id = i
    · exact .inr heq
    · exact .inl (getElem?_erased.trans ((if_neg heq).trans hr))
  cases he with
  | @handedOut i w hfirst hw hready =>
    have hne : id ≠ w.job.id := fun heq => by
      rw [heq, h.indexed.id_eq i w hw] at hr
      exact h.not_mem_running (mem_of_getElem? hw) (mem_of_getElem? hr)
    exact .inl (getElem?_inserted.trans ((if_neg hne).trans hr))
  | @succeeded i => exact (hmarked i).imp_right fun (heq : id = i) => .inl (heq ▸ rfl)
  | @covered i => exact (hmarked i).imp_right fun (heq : id = i) => .inr (.inl (heq ▸ rfl))
  | @retried i => exact (hmarked i).imp_right fun (heq : id = i) => .inr (.inl (heq ▸ rfl))
  | @buried i => exact (hmarked i).imp_right fun (heq : id = i) => .inr (.inr (heq ▸ rfl))
  | enlisted | superseded | idle | notSucceeded | notFailed | advanced => exact .inl hr

/-- What runs can be marked, as done or as failed. -/
theorem Effect.reported_of_running (he : Effect now s o answer s') {job : Job α} (hr : s.running[id]? = some job) :
    (o = .succeed id → answer.reported? o = some (id, .succeeded)) ∧
      ∀ error kind, o = .fail id error kind →
        answer.reported? o = some (id, .failed) ∨ answer.reported? o = some (id, .deadLetter) := by
  constructor
  · rintro rfl
    cases he with
    | notSucceeded hnone => cases hnone.symm.trans hr
    | succeeded => rfl
  · rintro error kind rfl
    cases he with
    | notFailed hnone => cases hnone.symm.trans hr
    | covered | retried => exact .inl rfl
    | buried => exact .inr rfl

/-- What a superseded job gave way to. -/
theorem Effect.exists_successor (he : Effect now s o answer s') (h : s.Linked)
    (hr : answer.reported? o = some (id, .superseded)) :
    ∃ (new : JobId) (k : String) (old w : Waiting α), answer = .enqueued (.superseded new id) ∧ id ≠ new ∧
      s.pending[id]? = some old ∧ old.job.key = some k ∧ s'.pending[new]? = some w ∧ w.job.key = some k := by
  cases he with
  | @superseded p replaced hcovered =>
    obtain ⟨k, old, hk, hold, hkey⟩ := h.indexed.covering hcovered
    obtain rfl : replaced = id := by simpa [QueueAnswer.reported?] using hr
    have hnew : s.created + 1 ∉ s.pending := h.not_mem_pending (Nat.lt_succ_self _)
    have hne : replaced ≠ s.created + 1 := fun heq => hnew (heq ▸ mem_of_getElem? hold)
    refine ⟨s.created + 1, k, old, s.entry p, rfl, hne, hold, hkey, ?_, hk⟩
    exact Std.HashMap.getElem?_insert_self
  | _ => simp [QueueAnswer.reported?] at hr

/-- Failed work is tried again as a new job, or covered by one that waits. -/
theorem Effect.exists_retry_or_other (he : Effect now s o answer s') (h : s.Linked)
    (hr : answer.reported? o = some (id, .failed)) :
    ∃ job, s.running[id]? = some job ∧
      ((∃ retry w, s.stage retry = .unborn ∧ s'.pending[retry]? = some w ∧
          w.job.data = job.data ∧ w.job.key = job.key ∧ w.job.attempt = job.attempt + 1) ∨
        ∃ (other : JobId) (w : Waiting α) (k : String), other ≠ id ∧ job.key = some k ∧
          s'.pending[other]? = some w ∧ w.job.key = some k) := by
  cases he with
  | @covered failed error kind job other hid hkind hcovered =>
    obtain rfl : failed = id := by simpa [QueueAnswer.reported?] using hr
    obtain ⟨k, w, hk, hw, hkey⟩ := h.indexed.covering hcovered
    have hne : other ≠ failed := fun heq => by
      have hwaits := h.stage_of_mem_pending (mem_of_getElem? hw)
      have hruns := h.stage_of_mem_running (mem_of_getElem? hid)
      simp [heq, hruns] at hwaits
    exact ⟨job, hid, .inr ⟨other, w, k, hne, hk, hw, hkey⟩⟩
  | @retried failed error kind job hid hkind hfree =>
    obtain rfl : failed = id := by simpa [QueueAnswer.reported?] using hr
    refine ⟨job, hid, .inl ⟨s.created + 1, s.nextAttempt now job, h.stage_new, ?_, rfl, rfl, rfl⟩⟩
    exact Std.HashMap.getElem?_insert_self
  | _ => simp [QueueAnswer.reported?] at hr

theorem QueueState.getLast?_newest_concat {β : Type} {n : Nat} (hn : 0 < n) (xs : List β) (x : β) :
    (newest n (xs ++ [x])).getLast? = some x := by
  rw [newest, List.getLast?_drop, if_neg (by simp; omega), List.getLast?_concat]

/-- The newest dead letter is the job that has just been given up. -/
theorem Effect.exists_deadLetter (he : Effect now s o answer s') (h : s.Linked)
    (hr : answer.reported? o = some (id, .deadLetter)) :
    ∃ job error kind, o = .fail id error kind ∧ s.running[id]? = some job ∧
      s'.deadLetters = QueueState.newest s.retention (s.deadLetters ++ [⟨job, error⟩]) ∧
      s'.deadLetters.getLast? = some ⟨job, error⟩ := by
  cases he with
  | @buried failed error kind job hid hkind =>
    obtain rfl : failed = id := by simpa [QueueAnswer.reported?] using hr
    exact ⟨job, error, kind, rfl, hid, rfl, QueueState.getLast?_newest_concat h.retention_pos _ _⟩
  | _ => simp [QueueAnswer.reported?] at hr

end Work

/-- What is not running cannot be marked. -/
theorem Moment.event_of_not_running {α : Type} {m : Moment α} {id : JobId} (hid : m.queue.running[id]? = none) :
    (m.perform (.succeed id) = (.succeeded (.error (QueueState.notRunning (toString id))), m)) ∧
      ∀ error kind, m.perform (.fail id error kind) =
        (.failed (.error (QueueState.notRunning (toString id))), m) := by
  refine ⟨?_, fun error kind => ?_⟩
  · simp only [perform, QueueState.markSucceeded_of_not_running hid]
  · simp only [perform, QueueState.markFailed_of_not_running hid]

/-- **No event loses work.** -/
theorem Moment.accounted_event {α : Type} {m : Moment α} (h : m.queue.Linked) (o : QueueOperation α) :
    (m.event o).Accounted := by
  have he := m.effect o
  have hreported (id : JobId) (status : JobStatus) (hne : status ≠ .pending) :
      (m.event o).Marks id status ↔ (m.perform o).1.reported? o = some (id, status) := he.marks_iff h hne id
  have hafter := linked_perform h o
  constructor
  case enqueued =>
    rintro p rfl
    obtain ⟨result, hanswer, hid, hw⟩ := he.enqueued
    rw [← hid] at hw
    exact ⟨result, hanswer, hid ▸ h.stage_new, hafter.stage_of_mem_pending (mem_of_getElem? hw), hid ▸ hw⟩
  case arrived =>
    rintro id ⟨hbefore, hwaits⟩
    obtain ⟨w, hw⟩ := exists_getElem? ((hafter.stage_eq_pending_iff id).mp hwaits)
    have hnew : id ∉ m.queue.pending := fun hid => hbefore (h.stage_of_mem_pending hid)
    rcases he.arrived h hw hnew with henqueued | ⟨old, error, ho, hold, hfailed, hjob⟩
    · exact .inl henqueued
    · exact .inr ⟨old, error, w, ho, hold, (hreported old.id .failed (by simp)).mpr hfailed, hw, hjob⟩
  case waits =>
    intro id w hw
    rcases he.pending_cases h hw with hkept | hout | ⟨new, hsuperseded⟩
    · exact .inl hkept
    · have hid := h.indexed.id_eq id w hw
      exact .inr (.inl ⟨hout, hid ▸ he.running_of_handsOut h hout⟩)
    · refine .inr (.inr ((hreported id .superseded (by simp)).mpr ?_))
      rw [hsuperseded]
      rfl
  case runs =>
    intro id job hr
    rcases he.running_or_reported h hr with hkept | hended | hended | hended
    · exact .inl hkept
    · exact .inr (.inl ((hreported id .succeeded (by simp)).mpr hended))
    · exact .inr (.inr (.inl ((hreported id .failed (by simp)).mpr hended)))
    · exact .inr (.inr (.inr ((hreported id .deadLetter (by simp)).mpr hended)))
  case accepted =>
    intro id job hr
    obtain ⟨hsucceed, hfail⟩ := he.reported_of_running hr
    refine ⟨fun ho => (hreported id .succeeded (by simp)).mpr (hsucceed ho), fun error kind ho => ?_⟩
    rcases hfail error kind ho with hended | hended
    · exact .inl ((hreported id .failed (by simp)).mpr hended)
    · exact .inr ((hreported id .deadLetter (by simp)).mpr hended)
  case reported => exact hreported
  case superseded => exact fun id hm => he.exists_successor h ((hreported id .superseded (by simp)).mp hm)
  case failed => exact fun id hm => he.exists_retry_or_other h ((hreported id .failed (by simp)).mp hm)
  case deadLettered => exact fun id hm => he.exists_deadLetter h ((hreported id .deadLetter (by simp)).mp hm)
  case refused =>
    intro id hid
    constructor
    · rintro rfl
      have hrefused := (event_of_not_running hid).1
      exact ⟨congrArg Prod.fst hrefused, congrArg Prod.snd hrefused⟩
    · rintro error kind rfl
      have hrefused := (event_of_not_running hid).2 error kind
      exact ⟨congrArg Prod.fst hrefused, congrArg Prod.snd hrefused⟩

/-- **A job leaves the waiting ones once.** -/
theorem Moment.pairwise_departs {α : Type} {m : Moment α} (h : m.queue.Linked) (os : List (QueueOperation α)) :
    (m.history os).Pairwise fun e e' => ∀ id, e.Departs id → ¬e'.Departs id := by
  induction os generalizing m with
  | nil => exact .nil
  | cons o os ih =>
    refine List.pairwise_cons.mpr ⟨fun e he id ⟨hbefore, hafter⟩ ⟨hbefore', _⟩ => ?_, ih (linked_perform h o)⟩
    have hpasses : ((Stage.known .pending)).Passes ((m.perform o).2.queue.stage id) :=
      hbefore ▸ (m.effect o).passes h id
    have hlater := rank_le_of_mem_history (linked_perform h o) he id
    have hrank := (hpasses.resolve_left fun heq => hafter heq.symm).rank_lt
    rw [hbefore'] at hlater
    exact absurd hlater (by omega)

/-! ## Whole histories -/

/-- The job that a worker was given. -/
def QueueAnswer.handedOut? {α : Type} : QueueAnswer α → Option JobId
  | .dequeued (some job) => some job.id
  | _ => none

theorem QueueAnswer.reported?_of_handedOut? {α : Type} {answer : QueueAnswer α} {id : JobId}
    (h : answer.handedOut? = some id) (o : QueueOperation α) : answer.reported? o = some (id, .running) := by
  unfold handedOut? at h
  split at h
  · next job => exact congrArg (fun id => some (id, JobStatus.running)) (Option.some.inj h)
  · exact absurd h (by simp)

section Histories

variable {α : Type} {m : Moment α}

/-- The jobs that workers were given, in order. -/
def handedOut (es : List (Event α)) : List JobId := es.filterMap fun e => e.answer.handedOut?

/-- What is handed out or superseded has been waiting. -/
theorem Moment.departs_of_marks (h : m.queue.Linked) {o : QueueOperation α} {id : JobId} {status : JobStatus}
    (hstatus : status = .running ∨ status = .superseded) (hm : (m.event o).Marks id status) :
    (m.event o).Departs id := by
  obtain ⟨hbefore, hafter⟩ := hm
  have hpasses : ((m.event o).before.queue.stage id).Next (.known status) :=
    (hafter ▸ (m.effect o).passes h id).resolve_left hbefore
  refine ⟨?_, by rw [hafter]; rcases hstatus with rfl | rfl <;> simp⟩
  rcases hstatus with rfl | rfl
  · generalize (m.event o).before.queue.stage id = stage at hpasses ⊢
    cases hpasses
    rfl
  · generalize (m.event o).before.queue.stage id = stage at hpasses ⊢
    cases hpasses
    rfl

/-- What an answer reports of a job has happened to it. -/
theorem Moment.marks_of_mem_history (h : m.queue.Linked) {os : List (QueueOperation α)} {e : Event α}
    (he : e ∈ m.history os) {id : JobId} (hid : e.answer.handedOut? = some id) : e.Marks id .running := by
  have haccounted := forall_mem_history h (fun _ o hm => accounted_event hm o) os e he
  exact (haccounted.reported id .running (by simp)).mpr (QueueAnswer.reported?_of_handedOut? hid _)

theorem Moment.departs_of_mem_history (h : m.queue.Linked) {os : List (QueueOperation α)} {e : Event α}
    (he : e ∈ m.history os) {id : JobId} {status : JobStatus} (hstatus : status = .running ∨ status = .superseded)
    (hm : e.Marks id status) : e.Departs id :=
  forall_mem_history h (P := fun e => e.Marks id status → e.Departs id)
    (fun _ _ hm => departs_of_marks hm hstatus) os e he hm

theorem Moment.nodup_handedOut (h : m.queue.Linked) (os : List (QueueOperation α)) :
    (handedOut (m.history os)).Nodup := by
  rw [handedOut, List.Nodup, List.pairwise_filterMap]
  refine (pairwise_departs h os).imp_of_mem fun {e e'} he he' hdisjoint id hid id' hid' heq => ?_
  have hdeparts := departs_of_mem_history h he (.inl rfl) (marks_of_mem_history h he hid)
  have hdeparts' := departs_of_mem_history h he' (.inl rfl) (marks_of_mem_history h he' hid')
  exact hdisjoint id hdeparts (heq ▸ hdeparts')

/-- A superseded job has not been handed out and never will be. -/
theorem Moment.not_mem_handedOut (h : m.queue.Linked) {os : List (QueueOperation α)} {e : Event α}
    (he : e ∈ m.history os) {id : JobId} (hm : e.Marks id .superseded) : id ∉ handedOut (m.history os) := by
  intro hid
  obtain ⟨e', he', hid'⟩ := List.mem_filterMap.mp hid
  have hm' := marks_of_mem_history h he' hid'
  have hne : e ≠ e' := fun heq => by
    have := hm.2.symm.trans (heq ▸ hm'.2)
    simp at this
  have : Std.Symm fun e e' : Event α => ∀ id, e.Departs id → ¬e'.Departs id :=
    ⟨fun _ _ hdisjoint id hd' hd => hdisjoint id hd hd'⟩
  exact (pairwise_departs h os).forall he he' hne id (departs_of_mem_history h he (.inr rfl) hm)
    (departs_of_mem_history h he' (.inl rfl) hm')

/-- **Jobs live as they should**, whatever is asked of their queue and in which order. -/
theorem lifeCycle_history (policy : RetryPolicy) (retention : Nat) (os : List (QueueOperation α)) :
    let m : Moment α := .start policy retention
    (∀ id, m.queue.stage id = .unborn ∧ ((m.moments os).map (·.queue.stage id)).IsChain Stage.Passes) ∧
    (handedOut (m.history os)).Nodup ∧
    (∀ e ∈ m.history os, ∀ id, e.Marks id .superseded → id ∉ handedOut (m.history os)) ∧
    ∀ e ∈ m.history os, e.Accounted := by
  intro m
  have h : m.queue.Linked := Moment.linked_start policy retention
  refine ⟨fun id => ⟨QueueState.stage_empty policy retention id, Moment.isChain_stages h os id⟩,
    Moment.nodup_handedOut h os, fun e he id => Moment.not_mem_handedOut h he,
    Moment.forall_mem_history h (fun _ o hm => Moment.accounted_event hm o) os⟩

end Histories

end Rollout
