import Rollout.Proofs.Queue.Handover

/-!
# Attempts and their backoff

A ledger numbers the work of a queue, and the attempts at one piece of work that are handed out are counted in the
history (`Ledger.attempts`). At any moment one job at most is live for it: if it waits, it is the attempt after those
that were handed out, and if it runs, it is the last of them (`Tallied`). A retry waits as it was put into the queue
until it is handed out or superseded (`Scheduled`). So the attempts are 1, 2, 3 and so on, as many as the policy allows
and at least as far apart as it says (`paced_event`).
-/

namespace Rollout

variable {α : Type}

/-! ## What an operation does to one job -/

section Jobs

variable {now : Instant} {s s' : QueueState α} {o : QueueOperation α} {answer : QueueAnswer α} {id : JobId}
  {job : Job α} {w : Waiting α}

theorem QueueState.Linked.id_of_live (h : s.Linked) (hl : s.Live id job) : job.id = id := by
  rcases hl with ⟨w, hw, rfl⟩ | hr
  · exact h.indexed.id_eq id w hw
  · exact h.id_eq id job hr

theorem QueueState.Linked.not_live_settle (h : s.Linked) (hid : id ∈ s.running) (status : JobStatus) (job : Job α) :
    ¬(s.settle id status).Live id job := by
  rintro (⟨w, hw, -⟩ | hr)
  · exact h.not_mem_running (mem_of_getElem? hw) hid
  · have hr : (s.running.erase id)[id]? = some job := hr
    rw [getElem?_erased, if_pos rfl] at hr
    cases hr

/-- A job that failed is live no longer. -/
theorem Effect.not_live_of_failed {error : String} {kind : FailureKind}
    (he : Effect now s (.fail id error kind) answer s') (h : s.Linked) (hid : id ∈ s.running) (job : Job α) :
    ¬s'.Live id job := by
  cases he with
  | notFailed hnone => exact absurd hid (by simpa using hnone)
  | covered => exact h.not_live_settle hid _ job
  | buried => exact (h.bury _ _).not_live_settle hid _ job
  | retried hold =>
    intro hlive
    rcases QueueState.live_enlist hlive with ⟨hnew, -⟩ | hlive
    · exact h.ne_of_live rfl (.inr hold) hnew
    · exact h.not_live_settle hid _ job hlive

end Jobs

/-! ## Attempts at one piece of work -/

/-- The attempt at the work number `n` that is handed out in the event, if one is. -/
def Event.attempt? (l : Ledger) (n : Nat) (e : Event α) : Option Nat :=
  match e.answer with
  | .dequeued (some job) => if l.number job.id = n then some job.attempt else none
  | _ => none

namespace Ledger

variable {l l' : Ledger} {es : List (Event α)} {e : Event α} {job : Job α}

/-- The attempts at the work number `n` that have been handed out, in the order in which they were. -/
def attempts (l : Ledger) (es : List (Event α)) (n : Nat) : List Nat := es.filterMap (·.attempt? l n)

theorem attempts_concat (l : Ledger) (es : List (Event α)) (e : Event α) (n : Nat) :
    l.attempts (es ++ [e]) n = l.attempts es n ++ (e.attempt? l n).toList := by
  rw [attempts, List.filterMap_append]
  cases h : e.attempt? l n <;> simp [attempts, h]

theorem attempts_of_handsOut (h : e.HandsOut job) (n : Nat) :
    l.attempts (es ++ [e]) n = l.attempts es n ++ (if l.number job.id = n then [job.attempt] else []) := by
  have ha : e.answer = .dequeued (some job) := h
  simp only [attempts_concat, Event.attempt?, ha]
  split <;> rfl

theorem attempts_of_not_handsOut (h : ∀ job, ¬e.HandsOut job) (n : Nat) :
    l.attempts (es ++ [e]) n = l.attempts es n := by
  have hnone : e.attempt? l n = none := by
    unfold Event.attempt?
    split
    · next job ha => exact absurd ha (h job)
    · rfl
  rw [attempts_concat, hnone, Option.toList_none, List.append_nil]

/-- The attempts are those of jobs that have been handed out. -/
theorem attempts_congr (h : ∀ e ∈ es, ∀ job, e.HandsOut job → l'.number job.id = l.number job.id) (n : Nat) :
    l'.attempts es n = l.attempts es n := by
  refine List.filterMap_congr fun e he => ?_
  unfold Event.attempt?
  split
  · next job ha => rw [h e he job ha]
  · rfl

theorem exists_handsOut_of_attempts {n : Nat} (h : l.attempts es n ≠ []) :
    ∃ e ∈ es, ∃ job, e.HandsOut job ∧ l.number job.id = n := by
  obtain ⟨a, ha⟩ := List.exists_mem_of_ne_nil _ h
  obtain ⟨e, he, hattempt⟩ := List.mem_filterMap.mp ha
  unfold Event.attempt? at hattempt
  split at hattempt
  · next job hjob =>
    split at hattempt
    · next hn => exact ⟨e, he, job, hjob, hn⟩
    · cases hattempt
  · cases hattempt

theorem Fits.attempts_eq_nil {s : QueueState α} (hl : l.Fits s) {n : Nat} (hn : l.enqueued < n) :
    l.attempts es n = [] := by
  by_contra hne
  obtain ⟨e, -, job, -, rfl⟩ := exists_handsOut_of_attempts hne
  exact Nat.not_le.mpr hn (hl.number_le job.id)

end Ledger

section Numbers

variable {l : Ledger} {now now' : Instant} {s s' : QueueState α} {o : QueueOperation α} {answer : QueueAnswer α}
  {id : JobId} {job : Job α}

theorem Ledger.number_record_enqueued (l : Ledger) {p : Prepared α} (hcreated : s'.created = s.created + 1) :
    (l.record ⟨⟨now, s⟩, .enqueue p, answer, ⟨now', s'⟩⟩).number (s.created + 1) = l.enqueued + 1 := by
  simp only [record, hcreated]
  exact l.number_enqueue_self _ _

theorem Ledger.number_record_retried (l : Ledger) {error : String} {kind : FailureKind}
    (hcreated : s'.created = s.created + 1) :
    (l.record ⟨⟨now, s⟩, .fail id error kind, answer, ⟨now', s'⟩⟩).number (s.created + 1) = l.number id := by
  rw [record_of_retried rfl hcreated]
  exact if_pos rfl

/-- Which work a job stands for that is live after an operation. -/
inductive Numbered (l l' : Ledger) (s s' : QueueState α) (id : JobId) : Prop where
  | kept {job : Job α} (hlive : s.Live id job) (hnumber : l'.number id = l.number id)
  | enqueued (hid : id = s.created + 1) (hnumber : l'.number id = l.enqueued + 1)
  | retried {old : Job α} (hid : id = s.created + 1) (hold : s.Live old.id old) (hgone : ∀ job, ¬s'.Live old.id job)
      (hnumber : l'.number id = l.number old.id)

theorem Effect.numbered (he : Effect now s o answer s') (h : s.Linked) (l : Ledger) (hl : s'.Live id job) :
    Numbered l (l.record ⟨⟨now, s⟩, o, answer, ⟨now', s'⟩⟩) s s' id := by
  cases he.origin h hl with
  | kept hlive => exact .kept hlive (l.number_record he (h.id_le_created_of_live hlive))
  | enqueued hid hjob hcreated =>
    subst hid
    exact .enqueued rfl (l.number_record_enqueued hcreated)
  | retried hold hattempts hid hjob hcreated =>
    subst hid
    exact .retried rfl (.inr hold) (he.not_live_of_failed h (mem_of_getElem? hold)) (l.number_record_retried hcreated)

/-- Two jobs that are live after an operation stand for different work if no two did before it. -/
theorem Numbered.id_eq {l' : Ledger} (hle : ∀ id, l.number id ≤ l.enqueued)
    (hsingle : ∀ (i i' : JobId) (j j' : Job α), s.Live i j → s.Live i' j' → l.number i = l.number i' → i = i')
    {i i' : JobId} {j j' : Job α} (hi : Numbered l l' s s' i) (hi' : Numbered l l' s s' i') (hl : s'.Live i j)
    (hl' : s'.Live i' j') (heq : l'.number i = l'.number i') : i = i' := by
  have hlt (k : JobId) : l.number k ≠ l.enqueued + 1 := Nat.ne_of_lt (Nat.lt_succ_of_le (hle k))
  cases hi with
  | kept hlive hnumber =>
    rw [hnumber] at heq
    cases hi' with
    | kept hlive' hnumber' => exact hsingle i i' _ _ hlive hlive' (heq.trans hnumber')
    | enqueued _ hnumber' => exact absurd (heq.trans hnumber') (hlt i)
    | retried _ hold hgone hnumber' =>
      obtain rfl := hsingle _ _ _ _ hlive hold (heq.trans hnumber')
      exact absurd hl (hgone j)
  | enqueued hid hnumber =>
    rw [hnumber] at heq
    cases hi' with
    | kept hlive' hnumber' => exact absurd (heq.trans hnumber').symm (hlt i')
    | enqueued hid' | retried hid' => exact hid.trans hid'.symm
  | retried hid hold hgone hnumber =>
    rw [hnumber] at heq
    cases hi' with
    | kept hlive' hnumber' =>
      obtain rfl := hsingle _ _ _ _ hold hlive' (heq.trans hnumber')
      exact absurd hl' (hgone j')
    | enqueued hid' | retried hid' => exact hid.trans hid'.symm

end Numbers

/-- What waits and runs are the next and the last of the attempts that the ledger counts in the history `es`. -/
structure Tallied (bound : Nat) (es : List (Event α)) (l : Ledger) (s : QueueState α) : Prop where
  known : ∀ e ∈ es, ∀ job, e.HandsOut job → job.id ≤ s.created
  numbered : ∀ n, l.attempts es n = List.range' 1 (l.attempts es n).length ∧ (l.attempts es n).length ≤ bound
  waiting : ∀ (id : JobId) (w : Waiting α), s.pending[id]? = some w →
    w.job.attempt = (l.attempts es (l.number id)).length + 1 ∧ w.job.attempt ≤ bound
  running : ∀ (id : JobId) (job : Job α), s.running[id]? = some job →
    job.attempt = (l.attempts es (l.number id)).length
  /-- No two jobs are for the same work at the same time. -/
  single : ∀ (id id' : JobId) (job job' : Job α), s.Live id job → s.Live id' job' → l.number id = l.number id' →
    id = id'

namespace Tallied

variable {bound : Nat} {es : List (Event α)} {l : Ledger} {now now' : Instant} {s s' : QueueState α}
  {o : QueueOperation α} {answer : QueueAnswer α} {id : JobId} {job : Job α} {w : Waiting α}

/-- When the next attempt is handed out, the jobs for other work are left alone. -/
theorem handOut (ht : Tallied bound es l s) (h : s.Linked) (hw : s.pending[job.id]? = some w) (hjob : w.job = job)
    {e : Event α} (he : e.HandsOut job) : Tallied bound (es ++ [e]) l (s.handOut job.id job) := by
  subst hjob
  have hlive : s.Live w.job.id w.job := .inl ⟨w, hw, rfl⟩
  obtain ⟨hattempt, hbound⟩ := ht.waiting w.job.id w hw
  have hother {i : JobId} {j : Job α} (hi : s.Live i j) (hne : i ≠ w.job.id) :
      l.attempts (es ++ [e]) (l.number i) = l.attempts es (l.number i) := by
    have hnumber : l.number w.job.id ≠ l.number i := fun heq => hne (ht.single i w.job.id j w.job hi hlive heq.symm)
    rw [Ledger.attempts_of_handsOut he, if_neg hnumber, List.append_nil]
  have hown : l.attempts (es ++ [e]) (l.number w.job.id) = l.attempts es (l.number w.job.id) ++ [w.job.attempt] := by
    rw [Ledger.attempts_of_handsOut he, if_pos rfl]
  constructor
  case known =>
    intro e' he' j hj
    rcases List.mem_append.mp he' with he' | he'
    · exact ht.known e' he' j hj
    · cases List.mem_singleton.mp he'
      cases he.symm.trans hj
      exact h.id_le_created_of_live hlive
  case numbered =>
    intro n
    obtain ⟨hrange, hlength⟩ := ht.numbered n
    by_cases hn : l.number w.job.id = n
    · subst hn
      rw [hown, List.length_append, List.length_singleton, List.range'_concat, ← hrange, hattempt]
      exact ⟨by simp [Nat.add_comm], by omega⟩
    · rw [Ledger.attempts_of_handsOut he, if_neg hn, List.append_nil]
      exact ⟨hrange, hlength⟩
  case waiting =>
    intro i v hv
    have hv : (s.pending.erase w.job.id)[i]? = some v := hv
    rw [getElem?_erased] at hv
    split at hv
    · cases hv
    · next hne =>
      rw [hother (.inl ⟨v, hv, rfl⟩) hne]
      exact ht.waiting i v hv
  case running =>
    intro i j hj
    have hj : (s.running.insert w.job.id w.job)[i]? = some j := hj
    rw [getElem?_inserted] at hj
    split at hj
    · next hi =>
      cases hj
      rw [hi, hown, List.length_append, List.length_singleton]
      exact hattempt
    · next hne =>
      rw [hother (.inr hj) hne]
      exact ht.running i j hj
  case single =>
    intro i i' j j' hi hi'
    exact ht.single i i' j j' (h.live_handOut hw hi) (h.live_handOut hw hi')

/-- In an event that hands out nothing, enqueued work has no attempts yet, and a retry follows the attempt that ran. -/
theorem record (ht : Tallied bound es l s) (hfits : l.Fits s) (h : s.Linked) (hone : 1 ≤ bound)
    (hmax : s.policy.maxAttempts ≤ bound) (he : Effect now s o answer s')
    (hnot : ∀ job, answer ≠ .dequeued (some job)) :
    Tallied bound (es ++ [⟨⟨now, s⟩, o, answer, ⟨now', s'⟩⟩]) (l.record ⟨⟨now, s⟩, o, answer, ⟨now', s'⟩⟩) s' := by
  have hnumber {i : JobId} (hi : i ≤ s.created) :
      (l.record ⟨⟨now, s⟩, o, answer, ⟨now', s'⟩⟩).number i = l.number i := l.number_record he hi
  have hsame (n : Nat) : (l.record ⟨⟨now, s⟩, o, answer, ⟨now', s'⟩⟩).attempts
      (es ++ [⟨⟨now, s⟩, o, answer, ⟨now', s'⟩⟩]) n = l.attempts es n := by
    rw [Ledger.attempts_of_not_handsOut hnot]
    exact Ledger.attempts_congr (fun e he job hjob => hnumber (ht.known e he job hjob)) n
  constructor
  case known =>
    intro e' he' j hj
    rcases List.mem_append.mp he' with he' | he'
    · exact (ht.known e' he' j hj).trans he.created_le
    · cases List.mem_singleton.mp he'
      exact absurd hj (hnot j)
  case numbered =>
    intro n
    rw [hsame]
    exact ht.numbered n
  case waiting =>
    intro i v hv
    rw [hsame]
    cases he.arrival h hv with
    | kept hw =>
      rw [hnumber (h.id_le_created_of_live (.inl ⟨v, hw, rfl⟩))]
      exact ht.waiting i v hw
    | enqueued hid hw hcreated =>
      subst hid hw
      rw [l.number_record_enqueued hcreated, hfits.attempts_eq_nil (Nat.lt_succ_self _)]
      exact ⟨rfl, hone⟩
    | @retried old error hold hattempts hid hw hcreated =>
      subst hid hw
      rw [l.number_record_retried hcreated, ← ht.running old.id old hold]
      exact ⟨rfl, hattempts.trans_le hmax⟩
  case running =>
    intro i j hj
    rw [hsame]
    rcases he.running_cases hj with hr | ⟨ha, -⟩
    · rw [hnumber (h.id_le_created_of_live (.inr hr))]
      exact ht.running i j hr
    · exact absurd ha (hnot j)
  case single =>
    intro i i' j j' hi hi' heq
    exact (he.numbered h l hi).id_eq hfits.number_le ht.single (he.numbered h l hi') hi hi' heq

/-- The tally after every event. -/
theorem of_effect (ht : Tallied bound es l s) (hfits : l.Fits s) (h : s.Linked) (hone : 1 ≤ bound)
    (hmax : s.policy.maxAttempts ≤ bound) (he : Effect now s o answer s') :
    Tallied bound (es ++ [⟨⟨now, s⟩, o, answer, ⟨now', s'⟩⟩]) (l.record ⟨⟨now, s⟩, o, answer, ⟨now', s'⟩⟩) s' := by
  by_cases hout : ∃ job, answer = .dequeued (some job)
  · obtain ⟨job, ha⟩ := hout
    obtain ⟨rfl, w, hw, hjob, -, rfl⟩ := he.of_handsOut h ha
    exact ht.handOut h hw hjob ha
  · exact ht.record hfits h hone hmax he (not_exists.mp hout)

end Tallied

/-! ## The wait for the next attempt -/

/-- The retry `id` of `old` as it waits after it failed in the event. -/
def Event.retryOf (policy : RetryPolicy) (e : Event α) (old : Job α) (id : JobId) : Waiting α :=
  ⟨old.retry id, some (Instant.after e.before.now (policy.delayFor (old.attempt + 1)))⟩

/-- The job has been handed out in the history, or superseded. -/
def Departed (es : List (Event α)) (id : JobId) : Prop :=
  (∃ e ∈ es, ∃ job, e.HandsOut job ∧ job.id = id) ∨ ∃ e ∈ es, ∃ new, e.answer = .enqueued (.superseded new id)

theorem Departed.mono {es es' : List (Event α)} {id : JobId} (h : Departed es id) (hsub : es ⊆ es') : Departed es' id :=
  h.imp (fun ⟨e, he, hout⟩ => ⟨e, hsub he, hout⟩) fun ⟨e, he, hnew⟩ => ⟨e, hsub he, hnew⟩

/-- The retries among the jobs that wait are those that the history put there and that have not departed. -/
structure Scheduled (policy : RetryPolicy) (es : List (Event α)) (l : Ledger) (s : QueueState α) : Prop where
  arrived : ∀ (id : JobId) (w : Waiting α), s.pending[id]? = some w →
    w.job.attempt = 1 ∨ ∃ e ∈ es, ∃ old, e.Retries old id ∧ w = e.retryOf policy old id
  kept : ∀ e ∈ es, ∀ old id, e.Retries old id → Departed es id ∨ s.pending[id]? = some (e.retryOf policy old id)
  carried : ∀ e ∈ es, ∀ old id, e.Retries old id → old.id ≤ s.created ∧ id ≤ s.created ∧ l.number id = l.number old.id

namespace Scheduled

variable {policy : RetryPolicy} {es : List (Event α)} {l : Ledger} {now now' : Instant} {s s' : QueueState α}
  {o : QueueOperation α} {answer : QueueAnswer α} {id : JobId} {old : Job α}

/-- A job that is tried again waits as its retry. -/
theorem of_retries (he : Effect now s o answer s')
    (hr : Event.Retries ⟨⟨now, s⟩, o, answer, ⟨now', s'⟩⟩ old id) :
    s'.pending[id]? = some (s.nextAttempt now old) := by
  obtain ⟨⟨error, ho⟩, hruns, hid, hcreated⟩ := hr
  simp only at ho hruns hid hcreated
  subst ho
  cases he with
  | notFailed hnone => cases hnone.symm.trans hruns
  | covered | buried => exact absurd (hcreated.trans hid) (Nat.succ_ne_self _).symm
  | @retried _ _ _ job hold =>
    cases hold.symm.trans hruns
    rw [hid]
    exact getElem?_inserted.trans (if_pos rfl)

theorem of_effect (hs : Scheduled policy es l s) (hpolicy : s.policy = policy) (h : s.Linked)
    (he : Effect now s o answer s') :
    Scheduled policy (es ++ [⟨⟨now, s⟩, o, answer, ⟨now', s'⟩⟩]) (l.record ⟨⟨now, s⟩, o, answer, ⟨now', s'⟩⟩) s' := by
  subst hpolicy
  have hearlier : es ⊆ es ++ [⟨⟨now, s⟩, o, answer, ⟨now', s'⟩⟩] := List.subset_append_left _ _
  have hlast : ⟨⟨now, s⟩, o, answer, ⟨now', s'⟩⟩ ∈ es ++ [⟨⟨now, s⟩, o, answer, ⟨now', s'⟩⟩] :=
    List.mem_append_right _ (List.mem_singleton_self _)
  constructor
  case arrived =>
    intro i w hw
    cases he.arrival h hw with
    | kept hw => exact (hs.arrived i w hw).imp_right fun ⟨e', he', j, hr, hj⟩ => ⟨e', hearlier he', j, hr, hj⟩
    | enqueued hid hw hcreated => exact .inl (hw ▸ rfl)
    | @retried old error hold hattempts hid hw hcreated =>
      refine .inr ⟨_, hlast, old, ⟨⟨error, rfl⟩, hold, hid, hcreated.trans hid.symm⟩, ?_⟩
      rw [hw, hid]
      rfl
  case kept =>
    intro e' he' j i hr
    rcases List.mem_append.mp he' with he' | he'
    · rcases hs.kept e' he' j i hr with hgone | hw
      · exact .inl (hgone.mono hearlier)
      · rcases he.pending_cases h hw with hw | ha | ⟨new, ha⟩
        · exact .inr hw
        · exact .inl (.inl ⟨_, hlast, _, ha, rfl⟩)
        · exact .inl (.inr ⟨_, hlast, new, ha⟩)
    · cases List.mem_singleton.mp he'
      refine .inr ((of_retries he hr).trans ?_)
      rw [hr.new.1]
      rfl
  case carried =>
    intro e' he' j i hr
    rcases List.mem_append.mp he' with he' | he'
    · obtain ⟨hj, hi, hnumber⟩ := hs.carried e' he' j i hr
      refine ⟨hj.trans he.created_le, hi.trans he.created_le, ?_⟩
      rw [l.number_record he hj, l.number_record he hi, hnumber]
    · cases List.mem_singleton.mp he'
      obtain ⟨⟨error, ho⟩, hruns, hid, hcreated⟩ := hr
      simp only at ho hruns hid hcreated
      subst ho hid
      have hle : j.id ≤ s.created := h.id_le_created_of_live (.inr hruns)
      refine ⟨hle.trans he.created_le, hcreated.ge, ?_⟩
      rw [l.number_record he hle, l.number_record_retried hcreated]

end Scheduled

/-! ## Histories -/

section Histories

variable {policy : RetryPolicy} {retention : Nat} {es : List (Event α)} {l : Ledger}

theorem Lineage.number_eq (hcarried : ∀ e ∈ es, ∀ old id, Event.Retries e old id → l.number id = l.number old.id)
    {job : Job α} {olds : List (Job α)} (h : Lineage es job olds) :
    ∀ old ∈ olds, l.number old.id = l.number job.id := by
  induction h with
  | enqueued => simp
  | @retried e old olds id _ he hretries ih =>
    have hold : l.number old.id = l.number id := (hcarried e he old id hretries).symm
    exact List.forall_mem_cons.mpr ⟨hold, fun j hj => (ih j hj).trans hold⟩

theorem Tallied.start (bound : Nat) (policy : RetryPolicy) (retention : Nat) :
    Tallied bound [] Ledger.empty (QueueState.empty policy retention : QueueState α) where
  known := by simp
  numbered _ := ⟨rfl, Nat.zero_le _⟩
  waiting := by simp [QueueState.empty]
  running := by simp [QueueState.empty]
  single id _ job _ hl := absurd hl (QueueState.not_live_empty policy retention id job)

theorem Scheduled.start (policy : RetryPolicy) (retention : Nat) :
    Scheduled policy [] Ledger.empty (QueueState.empty policy retention : QueueState α) where
  arrived := by simp [QueueState.empty]
  kept := by simp
  carried := by simp

/-- Along a whole history. -/
theorem Moment.tallied_and_scheduled (policy : RetryPolicy) (retention : Nat) (os : List (QueueOperation α)) :
    let m := Moment.start policy retention
    Tallied (max 1 policy.maxAttempts) (m.history os) (m.ledger os) (m.run os).queue ∧
      Scheduled policy (m.history os) (m.ledger os) (m.run os).queue := by
  intro m
  induction os using List.reverseRecOn with
  | nil => exact ⟨.start _ policy retention, .start policy retention⟩
  | append_singleton os o ih =>
    have hlinked : (m.run os).queue.Linked := linked_run (linked_start policy retention) os
    have hfits : (m.ledger os).Fits (m.run os).queue :=
      fits_history (.empty policy retention) (linked_start policy retention) os
    have hpolicy : (m.run os).queue.policy = policy := policy_run m os
    have he := (m.run os).effect o
    rw [history_concat, ledger_concat, run_concat]
    refine ⟨ih.1.of_effect hfits hlinked (le_max_left _ _) ?_ he, ih.2.of_effect hpolicy hlinked he⟩
    exact hpolicy ▸ le_max_right 1 policy.maxAttempts

/-- How a queue with this policy tries work again, as the event after the history `es` shows. -/
structure Paced (policy : RetryPolicy) (es : List (Event α)) (e : Event α) (l : Ledger) : Prop where
  /-- The attempts at a piece of work that are handed out are 1, 2, 3 and so on, and no more than may be. -/
  numbered : ∀ n, ∃ k ≤ max 1 policy.maxAttempts, l.attempts (es ++ [e]) n = List.range' 1 k
  /-- What waits is the attempt after those. -/
  next : ∀ (id : JobId) (w : Waiting α), e.after.queue.pending[id]? = some w →
    w.job.attempt = (l.attempts (es ++ [e]) (l.number id)).length + 1
  /-- Each job counts the failed attempts between it and the work that was enqueued. -/
  lineage : ∀ (id : JobId) (job : Job α), e.after.queue.Live id job →
    ∃ olds, Lineage (es ++ [e]) job olds ∧ job.attempt = olds.length + 1 ∧ ∀ old ∈ olds, l.number old.id = l.number id
  /-- A retry is not handed out before its time. -/
  waited : ∀ job : Job α, e.HandsOut job → job.attempt ≠ 1 → ∃ e' ∈ es, ∃ old, e'.Retries old job.id ∧
    job = old.retry job.id ∧ Instant.after e'.before.now (policy.delayFor job.attempt) ≤ e.before.now
  /-- It is ready from then on, until it is handed out or superseded. -/
  ready : ∀ e' ∈ es, ∀ old id, e'.Retries old id → Departed es id ∨ ∀ t, e.before.queue.isReady t id =
    decide (Instant.after e'.before.now (policy.delayFor (old.attempt + 1)) ≤ t)
  /-- Enqueued work is a first attempt that is ready at once, also in the place of a retry that waits. -/
  fresh : ∀ p, e.operation = .enqueue p → ∃ new, e.after.queue.pending[new]? = some ⟨⟨new, 1, p.data, p.key⟩, none⟩ ∧
    (∀ t, e.after.queue.isReady t new = true) ∧
    ∀ (id : JobId) (w : Waiting α) (k : String), e.before.queue.pending[id]? = some w → w.job.key = some k →
      p.key = some k → e.answer = .enqueued (.superseded new id) ∧ e.after.queue.pending[id]? = none

/-- Enqueued work takes the place of whatever waits with its key. -/
theorem Effect.displaced {now : Instant} {s s' : QueueState α} {p : Prepared α} {answer : QueueAnswer α}
    (he : Effect now s (.enqueue p) answer s') (h : s.Linked) {id : JobId} {w : Waiting α} {k : String}
    (hw : s.pending[id]? = some w) (hk : w.job.key = some k) (hp : p.key = some k) :
    answer = .enqueued (.superseded (s.created + 1) id) ∧ s'.pending[id]? = none := by
  have hcovered : s.covering? (s.entry p).job = some id := h.indexed.covering?_of_pending hp hw hk
  cases he with
  | enlisted hfree => cases hfree.symm.trans hcovered
  | @superseded _ replaced hcovered' =>
    obtain rfl : replaced = id := Option.some.inj (hcovered'.symm.trans hcovered)
    have hne : replaced ≠ s.created + 1 := h.ne_of_live rfl (.inl ⟨w, hw, rfl⟩)
    exact ⟨rfl, getElem?_inserted.trans ((if_neg hne).trans (getElem?_erased.trans (if_pos rfl)))⟩

/-- **Work is tried as often as the policy says, and waits for as long in between**, whatever else is done. -/
theorem paced_event (policy : RetryPolicy) (retention : Nat) (os : List (QueueOperation α)) (o : QueueOperation α) :
    let m := Moment.start policy retention
    Paced policy (m.history os) ((m.run os).event o) (m.ledger (os ++ [o])) := by
  intro m
  have hlinked : (m.run os).queue.Linked := Moment.linked_run (Moment.linked_start policy retention) os
  have he := (m.run os).effect o
  obtain ⟨ht, hs⟩ := Moment.tallied_and_scheduled policy retention os
  obtain ⟨ht', hs'⟩ := Moment.tallied_and_scheduled policy retention (os ++ [o])
  rw [Moment.history_concat, Moment.run_concat] at ht' hs'
  constructor
  case numbered =>
    intro n
    obtain ⟨hrange, hlength⟩ := ht'.numbered n
    exact ⟨_, hlength, hrange⟩
  case next => exact fun id w hw => (ht'.waiting id w hw).1
  case lineage =>
    intro id job hl
    have hlinked' : ((m.run os).event o).after.queue.Linked := Moment.linked_perform hlinked o
    have hlive : (m.run (os ++ [o])).queue.Live id job := by
      rw [Moment.run_concat]
      exact hl
    obtain ⟨olds, hlineage⟩ := Moment.exists_lineage (Moment.linked_start policy retention)
      (QueueState.not_live_empty policy retention) (os ++ [o]) hlive
    rw [Moment.history_concat] at hlineage
    rw [← hlinked'.id_of_live hl]
    exact ⟨olds, hlineage, hlineage.attempt_eq,
      hlineage.number_eq fun e' he' old i hr => (hs'.carried e' he' old i hr).2.2⟩
  case waited =>
    intro job hout hagain
    obtain ⟨-, w, hw, hjob, hready, -⟩ := he.of_handsOut hlinked hout
    rcases hs.arrived job.id w hw with hfirst | ⟨e', he', old, hr, hretry⟩
    · exact absurd (hjob ▸ hfirst) hagain
    · rw [hretry] at hready hjob
      exact ⟨e', he', old, hr, hjob.symm, hjob ▸ of_decide_eq_true hready⟩
  case ready =>
    intro e' he' old id hr
    refine (hs.kept e' he' old id hr).imp_right fun hw t => ?_
    show (m.run os).queue.isReady t id = _
    rw [QueueState.isReady, hw]
    rfl
  case fresh =>
    intro p ho
    have ho : o = .enqueue p := ho
    subst ho
    obtain ⟨_, -, -, hnew⟩ := he.enqueued
    refine ⟨(m.run os).queue.created + 1, hnew, fun t => ?_, fun id w k hw hk hp => he.displaced hlinked hw hk hp⟩
    show ((m.run os).perform (.enqueue p)).2.queue.isReady t _ = true
    rw [QueueState.isReady, hnew]
    rfl

end Histories

end Rollout
