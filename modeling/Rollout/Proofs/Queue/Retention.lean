import Mathlib.Data.List.DropRight
import Mathlib.Data.List.Induction
import Mathlib.Data.List.Nodup
import Rollout.Job.Queue.Lemmas
import Rollout.Proofs.Queue.Consistency
import Rollout.Proofs.Queue.LifeCycle

/-!
# What a queue remembers

Jobs come to their ends one after another, and some of them are buried as dead letters. A history tells in which order
(`finishes`, `burials`). A queue trims what it remembers of them whenever a job finishes, which comes to the same as
keeping the newest of all that there were (`QueueState.Traces`, `Effect.traces`). So the status of a finished job is
known just as long as it is one of the newest, no job that waits or runs is forgotten, and the dead letters are the
newest ones (`remembers_run`).
-/

namespace Rollout

variable {α : Type}

/-! ## Ends -/

/-- The job that comes to its end by the answer to an operation, and its status from now on. -/
def QueueAnswer.finish? (o : QueueOperation α) (answer : QueueAnswer α) : Option (JobId × JobStatus) :=
  (answer.reported? o).filter (·.2.isTerminal)

/-- The job that is buried by the answer to an operation on the queue `s`, with the error that it ended with. -/
def QueueState.burial? (s : QueueState α) : QueueOperation α → QueueAnswer α → Option (DeadLetter α)
  | .fail id error _, .failed (.ok .deadLetter) => s.running[id]?.map (⟨·, error⟩)
  | _, _ => none

def Event.finish? (e : Event α) : Option (JobId × JobStatus) := e.answer.finish? e.operation

def Event.burial? (e : Event α) : Option (DeadLetter α) := e.before.queue.burial? e.operation e.answer

/-- The jobs that have finished, each with its last status, in the order in which they did. -/
def finishes (es : List (Event α)) : List (JobId × JobStatus) := es.filterMap (·.finish?)

/-- The dead letters in the order in which they were buried. -/
def burials (es : List (Event α)) : List (DeadLetter α) := es.filterMap (·.burial?)

theorem finishes_concat (es : List (Event α)) (e : Event α) : finishes (es ++ [e]) = finishes es ++ e.finish?.toList := by
  cases h : e.finish? <;> simp [finishes, h]

theorem burials_concat (es : List (Event α)) (e : Event α) : burials (es ++ [e]) = burials es ++ e.burial?.toList := by
  cases h : e.burial? <;> simp [burials, h]

/-- Nothing is buried that does not finish. -/
theorem QueueState.burial?_eq_none {s : QueueState α} {o : QueueOperation α} {answer : QueueAnswer α}
    (h : answer.finish? o = none) : s.burial? o answer = none := by
  unfold burial?
  split
  · cases h
  · rfl

theorem QueueAnswer.finish?_eq_some_iff {o : QueueOperation α} {answer : QueueAnswer α} {id : JobId}
    {status : JobStatus} :
    answer.finish? o = some (id, status) ↔ answer.reported? o = some (id, status) ∧ status.isTerminal = true :=
  Option.filter_eq_some_iff

/-! ## The newest ones -/

section Newest

variable {β γ : Type} {n : Nat} {xs ys : List β}

theorem QueueState.newest_eq_rtake : QueueState.newest n xs = xs.rtake n := rfl

theorem QueueState.length_newest : (QueueState.newest n xs).length = min n xs.length := by
  rw [newest, List.length_drop]
  omega

theorem QueueState.map_newest (f : β → γ) : (QueueState.newest n xs).map f = QueueState.newest n (xs.map f) := by
  rw [newest, newest, List.map_drop, List.length_map]

end Newest

/-! ## What each operation does -/

section Operations

variable {now : Instant} {s s' : QueueState α} {o : QueueOperation α} {answer : QueueAnswer α}

theorem Effect.retention_eq (he : Effect now s o answer s') : s'.retention = s.retention := by
  cases he <;> rfl

/-- A job that finishes goes behind those that have finished before it. -/
theorem Effect.finished_eq (he : Effect now s o answer s') :
    s'.finished = match answer.finish? o with
      | some end' => QueueState.newest s.retention (s.finished ++ [end'.1])
      | none => s.finished := by
  cases he <;> rfl

/-- What is buried goes behind the dead letters that there are. -/
theorem Effect.deadLetters_eq (he : Effect now s o answer s') :
    s'.deadLetters = match answer.finish? o with
      | some _ => QueueState.newest s.retention (s.deadLetters ++ (s.burial? o answer).toList)
      | none => s.deadLetters := by
  have hnone (x : JobId × JobStatus) (hx : answer.finish? o = some x) (hburial : s.burial? o answer = none)
      (hs' : s'.deadLetters = QueueState.newest s.retention s.deadLetters) :
      s'.deadLetters = match answer.finish? o with
        | some _ => QueueState.newest s.retention (s.deadLetters ++ (s.burial? o answer).toList)
        | none => s.deadLetters := by
    rw [hx, hburial, hs']
    exact congrArg _ (List.append_nil _).symm
  cases he with
  | superseded | succeeded | covered | retried => exact hnone _ rfl rfl rfl
  | @buried id error kind job hid =>
    have hburial : s.burial? (.fail id error kind) (.failed (.ok .deadLetter)) = some ⟨job, error⟩ := by
      simp only [QueueState.burial?, hid, Option.map_some]
    rw [hburial]
    rfl
  | enlisted | idle | handedOut | notSucceeded | notFailed | advanced => rfl

/-- Who finishes has been waiting or running. -/
theorem Effect.rank_lt_of_finish (he : Effect now s o answer s') (h : s.Linked) {id : JobId} {status : JobStatus}
    (hfinish : answer.finish? o = some (id, status)) :
    (s.stage id).rank < 3 ∧ s'.stage id = .known status := by
  obtain ⟨hreported, ht⟩ := QueueAnswer.finish?_eq_some_iff.mp hfinish
  have hne : status ≠ .pending := fun heq => by simp [heq, JobStatus.isTerminal] at ht
  obtain ⟨hbefore, hafter⟩ := (he.marks_iff h hne id).mpr hreported
  have hnext : (s.stage id).Next (.known status) := (hafter ▸ he.passes h id).resolve_left hbefore
  have hrank : (Stage.known status).rank ≤ 3 := by cases status <;> simp [Stage.rank]
  exact ⟨Nat.lt_of_lt_of_le hnext.rank_lt hrank, hafter⟩

end Operations

namespace QueueState

/-- What is remembered are the newest of the jobs that have `finished` and of the dead letters that were `buried`. -/
structure Traces (finished : List (JobId × JobStatus)) (buried : List (DeadLetter α)) (s : QueueState α) : Prop where
  nodup : (finished.map (·.1)).Nodup
  finished_eq : s.finished = newest s.retention (finished.map (·.1))
  deadLetters_eq : s.deadLetters = newest s.retention buried
  /-- A finished job has its last status, or none any more. -/
  ended : ∀ id status, (id, status) ∈ finished →
    status.isTerminal = true ∧ (s.stage id = .known status ∨ s.stage id = .forgotten)

theorem traces_empty (policy : RetryPolicy) (retention : Nat) : (empty policy retention : QueueState α).Traces [] [] :=
  ⟨List.nodup_nil, (newest_of_length_le (Nat.zero_le _)).symm, (newest_of_length_le (Nat.zero_le _)).symm, nofun⟩

variable {s s' : QueueState α} {finished : List (JobId × JobStatus)} {buried : List (DeadLetter α)}

/-- A job that has finished is at its last stages. -/
theorem Traces.le_rank (ht : s.Traces finished buried) {id : JobId} (hid : id ∈ finished.map (·.1)) :
    3 ≤ (s.stage id).rank := by
  obtain ⟨⟨id, status⟩, hmem, rfl⟩ := List.mem_map.mp hid
  obtain ⟨hterminal, hknown | hforgotten⟩ := ht.ended id status hmem
  · rw [hknown]
    cases status <;> simp_all [Stage.rank, JobStatus.isTerminal]
  · rw [hforgotten]
    exact Nat.le_succ 3

end QueueState

/-- What is over stays as it is until it is forgotten. -/
theorem Stage.Passes.of_ended {a b : Stage} {status : JobStatus} (h : a.Passes b) (ht : status.isTerminal = true)
    (ha : a = .known status ∨ a = .forgotten) : b = .known status ∨ b = .forgotten := by
  rcases h with rfl | hnext
  · exact ha
  · rcases ha with rfl | rfl
    · cases hnext with
      | forgotten => exact .inr rfl
      | handedOut | superseded | succeeded | failed | deadLettered => cases ht
    · cases hnext

/-- **An operation keeps the newest.** -/
theorem Effect.traces {now : Instant} {s s' : QueueState α} {o : QueueOperation α} {answer : QueueAnswer α}
    {finished : List (JobId × JobStatus)} {buried : List (DeadLetter α)} (he : Effect now s o answer s')
    (h : s.Linked) (ht : s.Traces finished buried) :
    s'.Traces (finished ++ (answer.finish? o).toList) (buried ++ (s.burial? o answer).toList) := by
  have hfinished := he.finished_eq
  have hdead := he.deadLetters_eq
  have hended : ∀ id status, (id, status) ∈ finished →
      status.isTerminal = true ∧ (s'.stage id = .known status ∨ s'.stage id = .forgotten) := fun id status hmem =>
    ⟨(ht.ended id status hmem).1, (he.passes h id).of_ended (ht.ended id status hmem).1 (ht.ended id status hmem).2⟩
  rw [ht.finished_eq] at hfinished
  rw [ht.deadLetters_eq] at hdead
  cases hfinish : answer.finish? o with
  | none =>
    rw [hfinish] at hfinished hdead
    rw [QueueState.burial?_eq_none hfinish]
    refine ⟨by simpa using ht.nodup, ?_, ?_, by simpa using hended⟩
    · simpa [he.retention_eq] using hfinished
    · simpa [he.retention_eq] using hdead
  | some x =>
    obtain ⟨id, status⟩ := x
    obtain ⟨hrank, hstage⟩ := he.rank_lt_of_finish h hfinish
    rw [hfinish] at hfinished hdead
    have hnew : id ∉ finished.map (·.1) := fun hmem => Nat.not_lt.mpr (ht.le_rank hmem) hrank
    have hnodup : (finished.map (·.1) ++ [id]).Nodup :=
      List.nodup_append.mpr ⟨ht.nodup, by simp, fun a ha b hb heq => hnew (List.mem_singleton.mp hb ▸ heq ▸ ha)⟩
    refine ⟨by simpa using hnodup, ?_, ?_, fun i st hmem => ?_⟩
    · rw [hfinished, he.retention_eq]
      exact QueueState.newest_append_newest.trans (by simp)
    · rw [hdead, he.retention_eq]
      exact QueueState.newest_append_newest
    · rcases List.mem_append.mp hmem with hmem | hmem
      · exact hended i st hmem
      · obtain ⟨rfl, rfl⟩ : i = id ∧ st = status := by simpa using hmem
        exact ⟨(QueueAnswer.finish?_eq_some_iff.mp hfinish).2, .inl hstage⟩

/-! ## Histories -/

theorem Moment.traces_history {m : Moment α} (h : m.queue.Linked) (ht : m.queue.Traces [] [])
    (os : List (QueueOperation α)) :
    (m.run os).queue.Traces (finishes (m.history os)) (burials (m.history os)) := by
  induction os using List.reverseRecOn with
  | nil => exact ht
  | append_singleton os o ih =>
    rw [run_concat, history_concat, finishes_concat, burials_concat]
    exact ((m.run os).effect o).traces (linked_run h os) ih

theorem Moment.retention_run (m : Moment α) (os : List (QueueOperation α)) :
    (m.run os).queue.retention = m.queue.retention := by
  induction os generalizing m with
  | nil => rfl
  | cons o os ih => exact (ih (m.perform o).2).trans (m.effect o).retention_eq

/-! ## What is known of each job -/

namespace QueueState

variable {s : QueueState α}

theorem Linked.length_waiting (h : s.Linked) : s.waiting.length = s.order.length := by
  refine List.filterMap_length_eq_length.mpr fun id hid => ?_
  obtain ⟨w, hw⟩ := exists_getElem? ((h.indexed.mem_order_iff id).mp hid)
  rw [hw]
  rfl

/-- Every status is that of a job that waits, runs, or is remembered as finished. -/
theorem Linked.tracked_eq (h : s.Linked) : s.tracked = s.waiting.length + s.running.size + s.finished.length := by
  have hconsistent := h.consistent
  have hnodup : (s.order ++ (s.running.keys ++ s.finished)).Nodup := by
    refine h.indexed.nodup_order.append (s.running.nodup_keys.append hconsistent.nodup_finished ?_) ?_
    · exact fun id hr hf => hconsistent.running_not_finished id (Std.HashMap.mem_keys.mp hr) hf
    · intro id ho hrest
      have hpending := (h.indexed.mem_order_iff id).mp ho
      rcases List.mem_append.mp hrest with hr | hf
      · exact hconsistent.pending_not_running id hpending (Std.HashMap.mem_keys.mp hr)
      · exact hconsistent.pending_not_finished id hpending hf
  have hperm : s.statuses.keys.Perm (s.order ++ (s.running.keys ++ s.finished)) := by
    refine (List.perm_ext_iff_of_nodup s.statuses.nodup_keys hnodup).mpr fun id => ?_
    simp only [Std.HashMap.mem_keys, List.mem_append, hconsistent.mem_statuses_iff, h.indexed.mem_order_iff]
  have hlength := hperm.length_eq
  simp only [Std.HashMap.length_keys, List.length_append] at hlength
  rw [QueueState.tracked, hlength, h.length_waiting, Nat.add_assoc]

/-- What a queue knows of its jobs that remembers the last `n` of the jobs that have `finished` and of those `buried`. -/
structure Remembers (n : Nat) (finished : List (JobId × JobStatus)) (buried : List (DeadLetter α))
    (s : QueueState α) : Prop where
  /-- A job finishes once. -/
  nodup : (finished.map (·.1)).Nodup
  pending_iff : ∀ id, s.status? id = some .pending ↔ id ∈ s.pending
  running_iff : ∀ id, s.status? id = some .running ↔ id ∈ s.running
  /-- The status of a finished job is known as long as it is one of the last. -/
  finished_iff : ∀ id status, status.isTerminal = true →
    (s.status? id = some status ↔ (id, status) ∈ finished.rtake n)
  forgotten : ∀ id status, (id, status) ∈ finished.rdrop n → s.status? id = none
  tracked_eq : s.tracked = s.waiting.length + s.running.size + min n finished.length
  deadLetters_eq : s.deadLetters = buried.rtake n

namespace Traces

variable {finished : List (JobId × JobStatus)} {buried : List (DeadLetter α)} {id : JobId} {status last : JobStatus}

/-- What is still known of a finished job is its last status. -/
theorem eq_of_status (ht : s.Traces finished buried) (hmem : (id, last) ∈ finished)
    (hs : s.status? id = some status) : status = last := by
  have hstage := stage_of_status hs
  rcases (ht.ended id last hmem).2 with hknown | hforgotten
  · cases hstage.symm.trans hknown
    rfl
  · cases hstage.symm.trans hforgotten

theorem status?_eq_some_iff (ht : s.Traces finished buried) (h : s.Linked) (hterminal : status.isTerminal = true) :
    s.status? id = some status ↔ (id, status) ∈ finished.rtake s.retention := by
  have hmem : id ∈ s.finished ↔ ∃ last, (id, last) ∈ finished.rtake s.retention := by
    rw [ht.finished_eq, ← map_newest, newest_eq_rtake]
    simp
  have hfinished {last : JobStatus} (hlast : (id, last) ∈ finished.rtake s.retention) : (id, last) ∈ finished :=
    List.mem_of_mem_drop hlast
  constructor
  · intro hs
    obtain ⟨last, hlast⟩ := hmem.mp ((h.tracked.finished_iff id).mp ⟨status, hs, hterminal⟩)
    rwa [ht.eq_of_status (hfinished hlast) hs]
  · intro hlast
    obtain ⟨known, hknown, -⟩ := (h.tracked.finished_iff id).mpr (hmem.mpr ⟨status, hlast⟩)
    rwa [ht.eq_of_status (hfinished hlast) hknown] at hknown

/-- A job that finished before the last ones is forgotten. -/
theorem status?_of_mem_rdrop (ht : s.Traces finished buried) (h : s.Linked)
    (hmem : (id, last) ∈ finished.rdrop s.retention) : s.status? id = none := by
  cases hs : s.status? id with
  | none => rfl
  | some status =>
    have hfinished : (id, last) ∈ finished := List.mem_of_mem_take hmem
    obtain rfl := ht.eq_of_status hfinished hs
    have hnewest := (ht.status?_eq_some_iff h (ht.ended id status hfinished).1).mp hs
    have hnodup := ht.nodup
    rw [← outdated_append_newest s.retention finished, List.map_append] at hnodup
    exact absurd rfl ((List.nodup_append.mp hnodup).2.2 id (List.mem_map_of_mem hmem) id (List.mem_map_of_mem hnewest))

theorem remembers (ht : s.Traces finished buried) (h : s.Linked) : s.Remembers s.retention finished buried where
  nodup := ht.nodup
  pending_iff := h.tracked.pending_iff
  running_iff := h.tracked.running_iff
  finished_iff _ _ hterminal := ht.status?_eq_some_iff h hterminal
  forgotten _ _ hmem := ht.status?_of_mem_rdrop h hmem
  tracked_eq := by rw [h.tracked_eq, ht.finished_eq, length_newest, List.length_map]
  deadLetters_eq := ht.deadLetters_eq

end Traces

end QueueState

/-- **A queue remembers the last jobs that have finished, the last dead letters, and every job that has not finished.** -/
theorem remembers_run (policy : RetryPolicy) (retention : Nat) (os : List (QueueOperation α)) :
    let m : Moment α := .start policy retention
    (∀ e ∈ m.history os, ∀ id status, status.isTerminal = true →
      (e.Marks id status ↔ e.finish? = some (id, status))) ∧
    (m.run os).queue.Remembers (max retention 1) (finishes (m.history os)) (burials (m.history os)) := by
  intro m
  have h : m.queue.Linked := Moment.linked_start policy retention
  have ht := Moment.traces_history h (QueueState.traces_empty policy retention) os
  refine ⟨fun e he id status hterminal => ?_, ?_⟩
  · have hreported := (Moment.forall_mem_history h (fun _ o hm => Moment.accounted_event hm o) os e he).reported
    have hne : status ≠ .pending := fun heq => by simp [heq, JobStatus.isTerminal] at hterminal
    exact (hreported id status hne).trans (QueueAnswer.finish?_eq_some_iff.trans (and_iff_left hterminal)).symm
  · have hremembers := ht.remembers (Moment.linked_run h os)
    rwa [m.retention_run os] at hremembers

end Rollout
