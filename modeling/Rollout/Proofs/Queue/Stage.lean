import Rollout.Proofs.Queue.History

/-!
# The stages of a job

A job is created, waits, and is either handed out once or superseded; a job that was handed out succeeds, fails or ends
among the dead letters, and what has come to its end is forgotten one day (`Stage.Next`). How far a job has come can be
told from its queue (`QueueState.stage`). One operation takes a job at most one stage further (`Effect.passes`), and its
answer reports every job that takes on a status other than pending (`Effect.marks_iff`).
-/

namespace Rollout

/-- How far a job has come, by what its queue knows of it. -/
inductive Stage where
  | unborn
  | known (status : JobStatus)
  | forgotten
deriving DecidableEq

namespace Stage

/-- What can become of a job next. -/
inductive Next : Stage → Stage → Prop where
  | created : Next .unborn (.known .pending)
  | handedOut : Next (.known .pending) (.known .running)
  | superseded : Next (.known .pending) (.known .superseded)
  | succeeded : Next (.known .running) (.known .succeeded)
  | failed : Next (.known .running) (.known .failed)
  | deadLettered : Next (.known .running) (.known .deadLetter)
  | forgotten {status : JobStatus} (h : status.isTerminal = true) : Next (.known status) .forgotten

/-- Stays as it is, or comes one stage further. -/
def Passes (a b : Stage) : Prop := a = b ∨ a.Next b

def rank : Stage → Nat
  | .unborn => 0
  | .known .pending => 1
  | .known .running => 2
  | .known _ => 3
  | .forgotten => 4

theorem Next.rank_lt {a b : Stage} (h : a.Next b) : a.rank < b.rank := by
  cases h with
  | @forgotten status h => cases status <;> simp_all [rank, JobStatus.isTerminal]
  | _ => simp [rank]

theorem Passes.rank_le {a b : Stage} (h : a.Passes b) : a.rank ≤ b.rank := by
  rcases h with rfl | h
  · exact Nat.le_refl _
  · exact Nat.le_of_lt h.rank_lt

/-- The way from running to a terminal status. -/
theorem Next.of_running {status : JobStatus} (h : status = .succeeded ∨ status = .failed ∨ status = .deadLetter) :
    Next (.known .running) (.known status) := by
  rcases h with rfl | rfl | rfl
  · exact .succeeded
  · exact .failed
  · exact .deadLettered

end Stage

namespace QueueState

variable {α : Type} {s s' : QueueState α} {id : JobId} {status : JobStatus}

def stage (s : QueueState α) (id : JobId) : Stage :=
  match s.statuses[id]? with
  | some status => .known status
  | none => if 0 < id ∧ id ≤ s.created then .forgotten else .unborn

theorem stage_of_status (h : s.statuses[id]? = some status) : s.stage id = .known status := by
  simp only [stage, h]

theorem stage_of_no_status (h : s.statuses[id]? = none) :
    s.stage id = if 0 < id ∧ id ≤ s.created then .forgotten else .unborn := by
  simp only [stage, h]

theorem stage_congr (hs : s'.statuses[id]? = s.statuses[id]?)
    (hc : (0 < id ∧ id ≤ s'.created) ↔ (0 < id ∧ id ≤ s.created)) : s'.stage id = s.stage id := by
  simp only [stage, hs, hc]

theorem stage_empty (policy : RetryPolicy) (retention : Nat) (id : JobId) :
    (empty policy retention : QueueState α).stage id = .unborn := by
  have hnone : ¬(0 < id ∧ id ≤ 0) := fun ⟨hpos, hle⟩ => Nat.not_le.mpr hpos hle
  rw [stage_of_no_status (by simp [empty])]
  exact if_neg hnone

/-- All but the next job stay what they are when that is counted. -/
theorem stage_recount {n : Nat} (hn : n = s.created + 1) (hne : id ≠ n) :
    ({ s with created := n } : QueueState α).stage id = s.stage id := by
  refine stage_congr rfl (and_congr_right fun _ => ⟨fun hle => ?_, fun hle => ?_⟩)
  · exact Nat.le_of_lt_succ (Nat.lt_of_lt_of_eq (Nat.lt_of_le_of_ne hle hne) hn)
  · exact Nat.le_trans hle (hn ▸ Nat.le_succ _)

theorem stage_setStatus (id : JobId) (status : JobStatus) (i : JobId) :
    (s.setStatus id status).stage i = if i = id then .known status else s.stage i := by
  by_cases heq : i = id
  · rw [if_pos heq]
    exact stage_of_status (getElem?_inserted.trans (if_pos heq))
  · rw [if_neg heq]
    exact stage_congr (getElem?_inserted.trans (if_neg heq)) Iff.rfl

theorem stage_finish (id : JobId) (status : JobStatus) (i : JobId) :
    (s.finish id status).stage i =
      if i ∈ outdated s.retention (s.finished ++ [id]) then if 0 < i ∧ i ≤ s.created then .forgotten else .unborn
      else if i = id then .known status else s.stage i := by
  have hs := getElem?_statuses_finish (s := s) id status i
  by_cases ho : i ∈ outdated s.retention (s.finished ++ [id])
  · rw [if_pos ho] at hs ⊢
    exact stage_of_no_status hs
  · rw [if_neg ho] at hs ⊢
    by_cases heq : i = id
    · rw [if_pos heq] at hs ⊢
      exact stage_of_status hs
    · rw [if_neg heq] at hs ⊢
      exact stage_congr hs Iff.rfl

/-! ### Moves -/

theorem stage_enlist {w : Waiting α} (hid : w.job.id = s.created + 1) (i : JobId) :
    (s.enlist w).stage i = if i = w.job.id then .known .pending else s.stage i := by
  rw [enlist, stage_setStatus]
  split
  · rfl
  · next hne => exact stage_recount hid hne

theorem stage_handOut {job : Job α} (i : JobId) :
    (s.handOut id job).stage i = if i = job.id then .known .running else s.stage i :=
  stage_setStatus job.id .running i

namespace Linked

theorem stage_of_mem_pending (h : s.Linked) (hid : id ∈ s.pending) : s.stage id = .known .pending :=
  stage_of_status ((h.tracked.pending_iff id).mpr hid)

/-- The jobs that wait are those whose stage is pending. -/
theorem stage_eq_pending_iff (h : s.Linked) (id : JobId) : s.stage id = .known .pending ↔ id ∈ s.pending := by
  refine ⟨fun hstage => ?_, h.stage_of_mem_pending⟩
  unfold stage at hstage
  split at hstage
  · next status hstatus =>
    cases hstage
    exact (h.tracked.pending_iff id).mp hstatus
  · split at hstage <;> cases hstage

theorem stage_of_mem_running (h : s.Linked) (hid : id ∈ s.running) : s.stage id = .known .running :=
  stage_of_status ((h.tracked.running_iff id).mpr hid)

theorem stage_new (h : s.Linked) : s.stage (s.created + 1) = .unborn := by
  have hnew : s.statuses[s.created + 1]? = none :=
    Std.HashMap.getElem?_eq_none (h.not_mem_statuses (Nat.lt_succ_self s.created))
  rw [stage_of_no_status hnew]
  exact if_neg fun ⟨_, hle⟩ => Nat.not_succ_le_self _ hle

/-- What is forgotten when `id` is finished had finished before. -/
theorem terminal_of_mem_outdated (h : s.Linked) {i : JobId} (hnot : id ∉ s.finished)
    (hi : i ∈ outdated s.retention (s.finished ++ [id])) :
    ∃ status, s.stage i = .known status ∧ status.isTerminal = true ∧ 0 < i ∧ i ≤ s.created := by
  have hfinished := mem_finished_of_mem_outdated h.retention_pos hnot hi
  obtain ⟨status, hstatus, ht⟩ := (h.tracked.finished_iff i).mpr hfinished
  exact ⟨status, stage_of_status hstatus, ht, h.id_le_created i (mem_of_getElem? hstatus)⟩

theorem stage_settle (h : s.Linked) (hid : id ∈ s.running) (status : JobStatus) (i : JobId) :
    (s.settle id status).stage i =
      if i ∈ outdated s.retention (s.finished ++ [id]) then .forgotten
      else if i = id then .known status else s.stage i := by
  refine (stage_finish (s := s.release id) id status i).trans ?_
  split
  · next ho =>
    obtain ⟨-, -, -, hknown⟩ := h.terminal_of_mem_outdated (h.tracked.not_mem_finished (.inr hid)) ho
    exact (if_pos hknown).trans (if_pos ho).symm
  · next ho => exact (if_neg ho).symm

theorem stage_supersede (h : s.Linked) {w : Waiting α} (hnew : w.job.id = s.created + 1) (hid : id ∈ s.pending)
    (i : JobId) :
    (s.supersede id w).stage i =
      if i = w.job.id then .known .pending
      else if i ∈ outdated s.retention (s.finished ++ [id]) then .forgotten
      else if i = id then .known .superseded else s.stage i := by
  have hfinish : ((QueueState.replace { s with created := w.job.id } id w).finish id .superseded).stage i =
      if i ∈ outdated s.retention (s.finished ++ [id]) then if 0 < i ∧ i ≤ w.job.id then .forgotten else .unborn
      else if i = id then .known .superseded else ({ s with created := w.job.id } : QueueState α).stage i :=
    stage_finish id .superseded i
  rw [QueueState.supersede, stage_setStatus, hfinish]
  split
  · rfl
  · next hne =>
    split
    · next ho =>
      obtain ⟨-, -, -, hpos, hle⟩ := h.terminal_of_mem_outdated (h.tracked.not_mem_finished (.inl hid)) ho
      exact if_pos ⟨hpos, Nat.le_trans hle (hnew ▸ Nat.le_succ _)⟩
    · split
      · rfl
      · exact stage_recount hnew hne

/-! ### One stage at a time -/

theorem passes_enlist (h : s.Linked) {w : Waiting α} (hnew : w.job.id = s.created + 1) (i : JobId) :
    (s.stage i).Passes ((s.enlist w).stage i) := by
  rw [stage_enlist hnew]
  split
  · next heq => rw [heq, hnew, h.stage_new]; exact .inr .created
  · exact .inl rfl

theorem passes_settle (h : s.Linked) (hid : id ∈ s.running)
    (hstatus : status = .succeeded ∨ status = .failed ∨ status = .deadLetter) (i : JobId) :
    (s.stage i).Passes ((s.settle id status).stage i) := by
  rw [h.stage_settle hid]
  split
  · next hi =>
    obtain ⟨old, hold, ht, -⟩ := h.terminal_of_mem_outdated (h.tracked.not_mem_finished (.inr hid)) hi
    rw [hold]
    exact .inr (.forgotten ht)
  · split
    · next heq => rw [heq, h.stage_of_mem_running hid]; exact .inr (.of_running hstatus)
    · exact .inl rfl

theorem passes_supersede (h : s.Linked) {w : Waiting α} (hnew : w.job.id = s.created + 1) (hid : id ∈ s.pending)
    (i : JobId) : (s.stage i).Passes ((s.supersede id w).stage i) := by
  rw [h.stage_supersede hnew hid]
  split
  · next heq => rw [heq, hnew, h.stage_new]; exact .inr .created
  split
  · next hi =>
    obtain ⟨old, hold, ht, -⟩ := h.terminal_of_mem_outdated (h.tracked.not_mem_finished (.inl hid)) hi
    rw [hold]
    exact .inr (.forgotten ht)
  · split
    · next heq => rw [heq, h.stage_of_mem_pending hid]; exact .inr .superseded
    · exact .inl rfl

theorem passes_handOut (h : s.Linked) {w : Waiting α} (hw : s.pending[id]? = some w) (i : JobId) :
    (s.stage i).Passes ((s.handOut id w.job).stage i) := by
  rw [stage_handOut]
  split
  · next heq =>
    have hid := h.indexed.id_eq id w hw
    rw [heq, hid, h.stage_of_mem_pending (mem_of_getElem? hw)]
    exact .inr .handedOut
  · exact .inl rfl

/-- A new try is created after the failure of the old one, which is another job. -/
theorem passes_retry (h : s.Linked) (hid : id ∈ s.running) {w : Waiting α} (hnew : w.job.id = s.created + 1)
    (i : JobId) : (s.stage i).Passes (((s.settle id .failed).enlist w).stage i) := by
  rw [stage_enlist (s := s.settle id .failed) hnew]
  split
  · next heq => rw [heq, hnew, h.stage_new]; exact .inr .created
  · exact h.passes_settle hid (.inr (.inl rfl)) i

end Linked

/-! ### Statuses that are taken on -/

/-- The job takes on the status. -/
def Marks (s s' : QueueState α) (id : JobId) (status : JobStatus) : Prop :=
  s.stage id ≠ .known status ∧ s'.stage id = .known status

/-- A job stays what it is, is created or is forgotten. -/
def Unmarked (s s' : QueueState α) (id : JobId) : Prop :=
  s'.stage id = s.stage id ∨ s'.stage id = .forgotten ∨ s'.stage id = .known .pending

theorem Unmarked.not_marks (h : s.Unmarked s' id) (hne : status ≠ .pending) : ¬s.Marks s' id status := by
  rintro ⟨hbefore, hafter⟩
  rcases h with heq | heq | heq
  · exact hbefore (heq ▸ hafter)
  · cases heq.symm.trans hafter
  · cases heq.symm.trans hafter
    exact hne rfl

/-- When only one job takes on a status, it is told from the others. -/
theorem marks_iff_of_unmarked {ending : JobStatus} (hm : s.Marks s' id ending) (hothers : ∀ i, i ≠ id → s.Unmarked s' i)
    (hne : status ≠ .pending) (i : JobId) : s.Marks s' i status ↔ i = id ∧ status = ending := by
  constructor
  · intro hi
    have heq : i = id := Decidable.byContradiction fun hid => (hothers i hid).not_marks hne hi
    obtain rfl := heq
    exact ⟨rfl, by cases hi.2.symm.trans hm.2; rfl⟩
  · rintro ⟨rfl, rfl⟩
    exact hm

theorem unmarked_enlist {w : Waiting α} (hnew : w.job.id = s.created + 1) (i : JobId) :
    s.Unmarked (s.enlist w) i := by
  rw [Unmarked, stage_enlist hnew]
  split
  · exact .inr (.inr rfl)
  · exact .inl rfl

namespace Linked

theorem marks_settle (h : s.Linked) (hid : id ∈ s.running) {ending : JobStatus} (hending : ending ≠ .running)
    (hne : status ≠ .pending) (i : JobId) : s.Marks (s.settle id ending) i status ↔ i = id ∧ status = ending := by
  have hkept := not_mem_outdated h.retention_pos (h.tracked.not_mem_finished (.inr hid))
  refine marks_iff_of_unmarked ⟨?_, ?_⟩ (fun i hi => ?_) hne i
  · rw [h.stage_of_mem_running hid]
    simpa using hending.symm
  · rw [h.stage_settle hid, if_neg hkept, if_pos rfl]
  · rw [Unmarked, h.stage_settle hid, if_neg hi]
    split
    · exact .inr (.inl rfl)
    · exact .inl rfl

theorem marks_retry (h : s.Linked) (hid : id ∈ s.running) {w : Waiting α} (hnew : w.job.id = s.created + 1)
    (hne : status ≠ .pending) (i : JobId) :
    s.Marks ((s.settle id .failed).enlist w) i status ↔ i = id ∧ status = .failed := by
  have hold : id ≠ w.job.id := fun heq =>
    h.not_mem_statuses (heq ▸ hnew ▸ Nat.lt_succ_self _) (h.mem_statuses_of_running hid)
  have hsettled : s.Marks (s.settle id .failed) id .failed :=
    (h.marks_settle hid (by simp) (by simp) id).mpr ⟨rfl, rfl⟩
  refine marks_iff_of_unmarked ⟨hsettled.1, ?_⟩ (fun i hi => ?_) hne i
  · rw [stage_enlist (s := s.settle id .failed) hnew, if_neg hold, hsettled.2]
  · rw [Unmarked, stage_enlist (s := s.settle id .failed) hnew, h.stage_settle hid, if_neg hi]
    split
    · exact .inr (.inr rfl)
    · split
      · exact .inr (.inl rfl)
      · exact .inl rfl

theorem marks_supersede (h : s.Linked) {w : Waiting α} (hnew : w.job.id = s.created + 1) (hid : id ∈ s.pending)
    (hne : status ≠ .pending) (i : JobId) :
    s.Marks (s.supersede id w) i status ↔ i = id ∧ status = .superseded := by
  have hkept := not_mem_outdated h.retention_pos (h.tracked.not_mem_finished (.inl hid))
  have hold : id ≠ w.job.id := fun heq => h.not_mem_pending (heq ▸ hnew ▸ Nat.lt_succ_self _) hid
  refine marks_iff_of_unmarked ⟨?_, ?_⟩ (fun i hi => ?_) hne i
  · simp [h.stage_of_mem_pending hid]
  · rw [h.stage_supersede hnew hid, if_neg hold, if_neg hkept, if_pos rfl]
  · rw [Unmarked, h.stage_supersede hnew hid, if_neg hi]
    split
    · exact .inr (.inr rfl)
    · split
      · exact .inr (.inl rfl)
      · exact .inl rfl

theorem marks_handOut (h : s.Linked) {w : Waiting α} (hw : s.pending[id]? = some w) (hne : status ≠ .pending)
    (i : JobId) : s.Marks (s.handOut id w.job) i status ↔ i = w.job.id ∧ status = .running := by
  have hid := h.indexed.id_eq id w hw
  refine marks_iff_of_unmarked ⟨?_, ?_⟩ (fun i hi => ?_) hne i
  · simp [hid, h.stage_of_mem_pending (mem_of_getElem? hw)]
  · rw [stage_handOut, if_pos rfl]
  · exact .inl ((stage_handOut i).trans (if_neg hi))

end Linked

end QueueState

/-! ## Operations -/

section Operations

variable {α : Type} {now : Instant} {s s' : QueueState α} {o : QueueOperation α} {answer : QueueAnswer α}

/-- **An operation takes a job at most one stage further.** -/
theorem Effect.passes (he : Effect now s o answer s') (h : s.Linked) (i : JobId) :
    (s.stage i).Passes (s'.stage i) := by
  cases he with
  | enlisted => exact h.passes_enlist rfl i
  | superseded hcovered =>
    obtain ⟨k, old, -, hold, -⟩ := h.indexed.covering hcovered
    exact h.passes_supersede rfl (mem_of_getElem? hold) i
  | handedOut hfirst hw => exact h.passes_handOut hw i
  | succeeded hid => exact h.passes_settle (mem_of_getElem? hid) (.inl rfl) i
  | covered hid => exact h.passes_settle (mem_of_getElem? hid) (.inr (.inl rfl)) i
  | retried hid => exact h.passes_retry (mem_of_getElem? hid) rfl i
  | buried hid => exact (h.bury _ _).passes_settle (mem_of_getElem? hid) (.inr (.inr rfl)) i
  | idle | notSucceeded | notFailed | advanced => exact .inl rfl

/-- The job that is not pending any more by the answer to an operation, and its status from now on. -/
def QueueAnswer.reported? : QueueOperation α → QueueAnswer α → Option (JobId × JobStatus)
  | _, .enqueued (.superseded _ replaced) => some (replaced, .superseded)
  | _, .dequeued (some job) => some (job.id, .running)
  | .succeed id, .succeeded (.ok _) => some (id, .succeeded)
  | .fail id _ _, .failed (.ok status) => some (id, status)
  | _, _ => none

/-- **The answers report the statuses**: nothing changes silently, and what is reported has happened. -/
theorem Effect.marks_iff (he : Effect now s o answer s') (h : s.Linked) {status : JobStatus} (hne : status ≠ .pending)
    (i : JobId) : s.Marks s' i status ↔ answer.reported? o = some (i, status) := by
  have hreported (id : JobId) (ending : JobStatus) :
      i = id ∧ status = ending ↔ some (id, ending) = some (i, status) := by
    simp only [Option.some.injEq, Prod.mk.injEq, eq_comm]
  have hsilent (hi : s.Unmarked s' i) : s.Marks s' i status ↔ none = some (i, status) :=
    iff_of_false (hi.not_marks hne) nofun
  cases he with
  | enlisted => exact hsilent (QueueState.unmarked_enlist rfl i)
  | superseded hcovered =>
    obtain ⟨k, old, -, hold, -⟩ := h.indexed.covering hcovered
    exact (h.marks_supersede rfl (mem_of_getElem? hold) hne i).trans (hreported _ _)
  | handedOut hfirst hw => exact (h.marks_handOut hw hne i).trans (hreported _ _)
  | succeeded hid => exact (h.marks_settle (mem_of_getElem? hid) (by simp) hne i).trans (hreported _ _)
  | covered hid => exact (h.marks_settle (mem_of_getElem? hid) (by simp) hne i).trans (hreported _ _)
  | retried hid => exact (h.marks_retry (mem_of_getElem? hid) rfl hne i).trans (hreported _ _)
  | buried hid => exact ((h.bury _ _).marks_settle (mem_of_getElem? hid) (by simp) hne i).trans (hreported _ _)
  | idle | notSucceeded | notFailed | advanced => exact hsilent (.inl rfl)

end Operations

end Rollout
