import Rollout.Proofs.Work.Looks

/-!
# What a context stops, and when

A wait under a context has one of four ends (`GuardedWait.ends`): what is guarded is done first, or the token
is cancelled first, or the deadline passes first, or nothing of this ever comes. A context that is stopped at the call
ends it there. So it ends as the instants of the context say it does (`GuardedWait.outcome_eq_guard`), however often it
is woken in between.

Only what is cancelled after the call at the very instant of the deadline, or of the end of what is guarded, is left
open (`GuardedWait.IsUntied`): which of the two is seen first depends on who is woken first.
-/

namespace Rollout

/-! ## Guarded waits -/

namespace GuardedWait

variable {β : Type} {w : GuardedWait β} {s : Sight} {t c d f : Instant} {b : β}

/-- The instant at which the token or the first of its ancestors is cancelled. -/
def cancelledAt (w : GuardedWait β) : Option Instant := w.timed.cancelledAt

/-- It was cancelled before the call. -/
def IsCancelledBefore (w : GuardedWait β) : Prop := ∃ e ∈ w.before, e.2 <:+ w.context.token

/-- The deadline had passed at the call. -/
def IsExpired (w : GuardedWait β) : Prop := ∃ d, w.context.deadline = some d ∧ d ≤ w.call

/-- A cancellation after the call does not coincide with the deadline, nor with the end of what is guarded. -/
def IsUntied (w : GuardedWait β) : Prop :=
  w.IsCancelledBefore ∨ ∀ c, w.cancelledAt = some c →
    w.context.deadline ≠ some c ∧ ∀ f b, w.done = some (f, b) → f ≠ c

def events (w : GuardedWait β) : List (Instant × Happening) := (w.call, .look) :: w.after

/-- What is to be seen at the looks. -/
def looks (w : GuardedWait β) : List Sight := sights (w.before.map (·.2)) w.events

theorem mem_cancels {e : Instant × TokenPath} : e ∈ w.cancels ↔ e ∈ w.before ∨ (e.1, .cancel e.2) ∈ w.after := by
  obtain ⟨t, a⟩ := e
  simp only [cancels, List.mem_append, List.mem_filterMap]
  refine or_congr_right ⟨?_, fun h => ⟨_, h, rfl⟩⟩
  rintro ⟨⟨u, happening⟩, hmem, heq⟩
  cases happening with
  | look => cases heq
  | cancel a' =>
    cases heq
    exact hmem

/-- What is seen cancelled after the call has been cancelled by then. -/
theorem le_of_hasCancelled (hearly : ¬w.IsCancelledBefore) (hs : s ∈ w.looks)
    (h : s.hasCancelled w.context.token = true) : ∃ c, w.cancelledAt = some c ∧ c ≤ s.now := by
  obtain ⟨a, ha, hsuffix⟩ := Sight.hasCancelled_iff.mp h
  have hmem : ∃ t ≤ s.now, (t, a) ∈ w.cancels := by
    obtain ⟨-, hseen⟩ := of_mem_sights w.ordered hs
    rcases hseen a ha with hbefore | ⟨t, hle, hcancel⟩
    · obtain ⟨e, he, rfl⟩ := List.mem_map.mp hbefore
      exact absurd ⟨e, he, hsuffix⟩ hearly
    · rcases List.mem_cons.mp hcancel with heq | hcancel
      · cases heq
      · exact ⟨t, hle, mem_cancels.mpr (.inr hcancel)⟩
  obtain ⟨t, hle, hmem⟩ := hmem
  exact Context.hasPassed_iff.mp ((TokenPath.hasPassed_token _ _).mpr ⟨(t, a), hmem, hle, hsuffix⟩)

theorem exists_look_of_cancelledAt (hearly : ¬w.IsCancelledBefore) (h : w.cancelledAt = some c) :
    ∃ s ∈ w.looks, s.now = c ∧ s.hasCancelled w.context.token = true := by
  obtain ⟨⟨e, he, rfl, hsuffix⟩, -⟩ := TokenPath.cancelledAt_token_eq_some h
  rcases mem_cancels.mp he with hbefore | hafter
  · exact absurd ⟨e, hbefore, hsuffix⟩ hearly
  · have hwakes : WakesOnCancel w.context.token w.events := w.wakesOnCancel
    exact exists_sight_of_cancel hwakes (List.mem_cons_of_mem _ hafter) hsuffix _

theorem exists_look (h : (t, .look) ∈ w.after) : ∃ s ∈ w.looks, s.now = t :=
  exists_sight (List.mem_cons_of_mem _ h) _

/-- A look at which there is no reason to stop gives what is guarded, if it is done. -/
theorem guard_of_running (hcancelled : s.hasCancelled w.context.token = false)
    (hrunning : ∀ d, w.context.deadline = some d → s.now < d) :
    w.context.guard (.ofDone w.done) s = (Source.ofDone w.done s).map .ok := by
  refine JobContext.guard_of_ok (JobContext.check_eq_ok_iff.mpr ?_)
  rw [JobContext.isCancelled, hcancelled, Bool.false_or]
  exact Context.hasPassed_eq_false_iff.mpr hrunning

/-- What the guard gives at a look, if it is ready. -/
theorem guard_cases {result : Except Stop β} (hearly : ¬w.IsCancelledBefore) (hs : s ∈ w.looks)
    (h : w.context.guard (.ofDone w.done) s = some result) :
    (∃ c, w.cancelledAt = some c ∧ c ≤ s.now ∧ result = .error .cancelled) ∨
      (∃ d, w.context.deadline = some d ∧ d ≤ s.now ∧ result = .error .deadlineExceeded) ∨
      ∃ f b, w.done = some (f, b) ∧ f ≤ s.now ∧ (∀ d, w.context.deadline = some d → s.now < d) ∧ result = .ok b := by
  cases hcancelled : s.hasCancelled w.context.token with
  | true =>
    obtain ⟨c, hc, hle⟩ := le_of_hasCancelled hearly hs hcancelled
    rw [JobContext.guard_of_error (JobContext.check_of_cancelled hcancelled)] at h
    exact .inl ⟨c, hc, hle, (Option.some.inj h).symm⟩
  | false =>
    cases hpassed : Context.hasPassed s.now w.context.deadline with
    | true =>
      rw [JobContext.guard_of_error (JobContext.check_of_passed hcancelled hpassed)] at h
      obtain ⟨d, hd, hle⟩ := Context.hasPassed_iff.mp hpassed
      exact .inr (.inl ⟨d, hd, hle, (Option.some.inj h).symm⟩)
    | false =>
      have hlater := Context.hasPassed_eq_false_iff.mp hpassed
      rw [guard_of_running hcancelled hlater] at h
      obtain ⟨b, hb, rfl⟩ := Option.map_eq_some_iff.mp h
      obtain ⟨f, hf, hle⟩ := Source.ofDone_eq_some_iff.mp hb
      exact .inr (.inr ⟨f, b, hf, hle, hlater, rfl⟩)

theorem hasCancelled_eq_false (hearly : ¬w.IsCancelledBefore) (hs : s ∈ w.looks)
    (hlater : ∀ c, w.cancelledAt = some c → s.now < c) : s.hasCancelled w.context.token = false := by
  rw [Bool.eq_false_iff]
  intro h
  obtain ⟨c, hc, hle⟩ := le_of_hasCancelled hearly hs h
  exact Nat.not_le.mpr (hlater c hc) hle

/-- The look at the call. -/
def firstLook (w : GuardedWait β) : Sight := ⟨w.call, w.before.map (·.2)⟩

theorem hasCancelled_firstLook : w.firstLook.hasCancelled w.context.token = true ↔ w.IsCancelledBefore := by
  rw [Sight.hasCancelled_iff]
  constructor
  · rintro ⟨a, ha, hsuffix⟩
    obtain ⟨e, he, rfl⟩ := List.mem_map.mp ha
    exact ⟨e, he, hsuffix⟩
  · rintro ⟨e, he, hsuffix⟩
    exact ⟨e.2, List.mem_map_of_mem he, hsuffix⟩

/-- What is ready at the call ends the wait. -/
theorem outcome_of_firstLook {result : Except Stop β}
    (h : w.context.guard (.ofDone w.done) w.firstLook = some result) : w.outcome = some (w.call, result) := by
  have hlook : w.context.guard (.ofDone w.done) ⟨w.call, w.before.map (·.2)⟩ = some result := h
  rw [outcome, await, hlook]

theorem outcome_of_cancelledBefore (h : w.IsCancelledBefore) : w.outcome = some (w.call, .error .cancelled) :=
  outcome_of_firstLook (JobContext.guard_of_error (JobContext.check_of_cancelled (hasCancelled_firstLook.mpr h)))

theorem outcome_of_expired (hearly : ¬w.IsCancelledBefore) (h : w.IsExpired) :
    w.outcome = some (w.call, .error .deadlineExceeded) := by
  obtain ⟨d, hd, hle⟩ := h
  refine outcome_of_firstLook (JobContext.guard_of_error (JobContext.check_of_passed ?_ ?_))
  · rw [Bool.eq_false_iff, Ne, hasCancelled_firstLook]
    exact hearly
  · rw [hd]
    exact Context.hasPassed_some.mpr hle

theorem call_lt_of_not_expired (h : ¬w.IsExpired) (hd : w.context.deadline = some d) : w.call < d :=
  Nat.lt_of_not_le fun hle => h ⟨d, hd, hle⟩

/-- A cancellation that comes first ends the wait. -/
theorem outcome_of_cancelled (hearly : ¬w.IsCancelledBefore) (huntied : w.IsUntied) (hc : w.cancelledAt = some c)
    (hdeadline : ∀ d, w.context.deadline = some d → c < d) (hdone : ∀ f b, w.done = some (f, b) → ¬f < c) :
    w.outcome = some (c, .error .cancelled) := by
  obtain ⟨s, hs, hnow, hcancelled⟩ := exists_look_of_cancelledAt hearly hc
  refine await_of_first w.ordered ⟨s, hs, hnow, ?_⟩ fun s' hs' result hresult => ?_
  · exact JobContext.guard_of_error (JobContext.check_of_cancelled hcancelled)
  · obtain ⟨c', hc', hle, rfl⟩ | ⟨d, hd, hle, -⟩ | ⟨f, b, hf, hle, -, -⟩ := guard_cases hearly hs' hresult
    · cases hc.symm.trans hc'
      exact .inr ⟨hle, rfl⟩
    · exact .inl ((hdeadline d hd).trans_le hle)
    · have hne : f ≠ c := (huntied.resolve_left hearly c hc).2 f b hf
      have hlt : c < f := Nat.lt_of_le_of_ne (Nat.not_lt.mp (hdone f b hf)) hne.symm
      exact .inl (hlt.trans_le hle)

/-- A deadline that comes first ends the wait. -/
theorem outcome_of_deadline (hearly : ¬w.IsCancelledBefore) (hexpired : ¬w.IsExpired)
    (hd : w.context.deadline = some d) (hcancelled : ∀ c, w.cancelledAt = some c → d < c)
    (hdone : ∀ f b, w.done = some (f, b) → ¬f < d) : w.outcome = some (d, .error .deadlineExceeded) := by
  obtain ⟨s, hs, hnow⟩ := exists_look (w.wakesOnDeadline d hd (call_lt_of_not_expired hexpired hd))
  refine await_of_first w.ordered ⟨s, hs, hnow, ?_⟩ fun s' hs' result hresult => ?_
  · refine JobContext.guard_of_error (JobContext.check_of_passed ?_ ?_)
    · exact hasCancelled_eq_false hearly hs fun c hc => hnow ▸ hcancelled c hc
    · rw [hd, hnow]
      exact Context.hasPassed_some.mpr le_rfl
  · obtain ⟨c, hc, hle, -⟩ | ⟨d', hd', hle, rfl⟩ | ⟨f, b, hf, hle, hlater, -⟩ := guard_cases hearly hs' hresult
    · exact .inl ((hcancelled c hc).trans_le hle)
    · cases hd.symm.trans hd'
      exact .inr ⟨hle, rfl⟩
    · exact absurd (hle.trans_lt (hlater d hd)) (hdone f b hf)

/-- What is done first comes through. -/
theorem outcome_of_done (hearly : ¬w.IsCancelledBefore) (hexpired : ¬w.IsExpired) (hf : w.done = some (f, b))
    (hcancelled : ∀ c, w.cancelledAt = some c → f < c) (hdeadline : ∀ d, w.context.deadline = some d → f < d) :
    w.outcome = some (max w.call f, .ok b) := by
  have hready {s : Sight} (hcancelled : s.hasCancelled w.context.token = false)
      (hlater : ∀ d, w.context.deadline = some d → s.now < d) (hle : f ≤ s.now) :
      w.context.guard (.ofDone w.done) s = some (.ok b) := by
    rw [guard_of_running hcancelled hlater, Source.ofDone_eq_some_iff.mpr ⟨f, hf, hle⟩, Option.map_some]
  rcases Nat.lt_or_ge w.call f with hlt | hle
  · obtain ⟨s, hs, rfl⟩ := exists_look (w.wakesOnDone f b hf hlt)
    rw [max_eq_right hlt.le]
    refine await_of_first w.ordered ⟨s, hs, rfl, ?_⟩ fun s' hs' result hresult => ?_
    · exact hready (hasCancelled_eq_false hearly hs hcancelled) hdeadline le_rfl
    · obtain ⟨c, hc, hle, -⟩ | ⟨d, hd, hle, -⟩ | ⟨f', b', hf', hle, -, rfl⟩ := guard_cases hearly hs' hresult
      · exact .inl ((hcancelled c hc).trans_le hle)
      · exact .inl ((hdeadline d hd).trans_le hle)
      · cases hf.symm.trans hf'
        exact .inr ⟨hle, rfl⟩
  · rw [max_eq_left hle]
    have hnot : w.firstLook.hasCancelled w.context.token = false := by
      rw [Bool.eq_false_iff, Ne, hasCancelled_firstLook]
      exact hearly
    exact outcome_of_firstLook (hready hnot (fun d hd => call_lt_of_not_expired hexpired hd) hle)

theorem outcome_of_never (hcancelled : w.cancelledAt = none) (hdeadline : w.context.deadline = none)
    (hdone : w.done = none) : w.outcome = none := by
  have hearly : ¬w.IsCancelledBefore := by
    rintro ⟨e, he, hsuffix⟩
    exact TokenPath.cancelledAt_token_eq_none hcancelled (mem_cancels.mpr (.inl he)) hsuffix
  refine await_of_never fun s hs => Option.eq_none_iff_forall_ne_some.mpr fun result hresult => ?_
  obtain ⟨c, hc, -⟩ | ⟨d, hd, -⟩ | ⟨f, b, hf, -⟩ := guard_cases hearly hs hresult
  · cases hcancelled.symm.trans hc
  · cases hdeadline.symm.trans hd
  · cases hdone.symm.trans hf

/-- Without a stop at the call, one of the two comes first, or neither comes. -/
theorem first_cases (hearly : ¬w.IsCancelledBefore) (huntied : w.IsUntied) :
    (∃ c, w.cancelledAt = some c ∧ ∀ d, w.context.deadline = some d → c < d) ∨
      (∃ d, w.context.deadline = some d ∧ ∀ c, w.cancelledAt = some c → d < c) ∨
      (w.cancelledAt = none ∧ w.context.deadline = none) := by
  cases hc : w.cancelledAt with
  | none =>
    cases hd : w.context.deadline with
    | none => exact .inr (.inr ⟨rfl, rfl⟩)
    | some d => exact .inr (.inl ⟨d, rfl, fun c hc => by cases hc⟩)
  | some c =>
    cases hd : w.context.deadline with
    | none => exact .inl ⟨c, rfl, fun d hd => by cases hd⟩
    | some d =>
      have hne : d ≠ c := fun heq => (huntied.resolve_left hearly c hc).1 (heq ▸ hd)
      rcases Nat.lt_or_gt_of_ne hne with hlt | hlt
      · exact .inr (.inl ⟨d, rfl, fun c' hc' => Option.some.inj hc' ▸ hlt⟩)
      · exact .inl ⟨c, rfl, fun d' hd' => Option.some.inj hd' ▸ hlt⟩

theorem exists_done_or (w : GuardedWait β) (m : Instant) :
    (∃ f b, w.done = some (f, b) ∧ f < m) ∨ ∀ f b, w.done = some (f, b) → ¬f < m := by
  rw [or_iff_not_imp_left]
  intro hnone f b hf hlt
  exact hnone ⟨f, b, hf, hlt⟩

/-- How a wait ends that is not stopped at the call, by what comes first. -/
inductive Ends (w : GuardedWait β) : Prop where
  | through {f : Instant} {b : β} (hdone : w.done = some (f, b)) (hcancelled : ∀ c, w.cancelledAt = some c → f < c)
    (hdeadline : ∀ d, w.context.deadline = some d → f < d) (houtcome : w.outcome = some (max w.call f, .ok b))
  | cancelled {c : Instant} (hcancelled : w.cancelledAt = some c)
    (hdeadline : ∀ d, w.context.deadline = some d → c < d) (hdone : ∀ f b, w.done = some (f, b) → ¬f < c)
    (houtcome : w.outcome = some (c, .error .cancelled))
  | deadlineExceeded {d : Instant} (hdeadline : w.context.deadline = some d)
    (hcancelled : ∀ c, w.cancelledAt = some c → d < c) (hdone : ∀ f b, w.done = some (f, b) → ¬f < d)
    (houtcome : w.outcome = some (d, .error .deadlineExceeded))
  | never (hcancelled : w.cancelledAt = none) (hdeadline : w.context.deadline = none) (hdone : w.done = none)
    (houtcome : w.outcome = none)

theorem ends (hearly : ¬w.IsCancelledBefore) (hexpired : ¬w.IsExpired) (huntied : w.IsUntied) : w.Ends := by
  obtain ⟨c, hc, hfirst⟩ | ⟨d, hd, hfirst⟩ | ⟨hc, hd⟩ := first_cases hearly huntied
  · obtain ⟨f, b, hf, hlt⟩ | hdone := w.exists_done_or c
    · have hcancelled : ∀ c', w.cancelledAt = some c' → f < c' := by
        intro c' hc'
        cases hc.symm.trans hc'
        exact hlt
      have hdeadline : ∀ d, w.context.deadline = some d → f < d := fun d hd => hlt.trans (hfirst d hd)
      exact .through hf hcancelled hdeadline (outcome_of_done hearly hexpired hf hcancelled hdeadline)
    · exact .cancelled hc hfirst hdone (outcome_of_cancelled hearly huntied hc hfirst hdone)
  · obtain ⟨f, b, hf, hlt⟩ | hdone := w.exists_done_or d
    · have hcancelled : ∀ c, w.cancelledAt = some c → f < c := fun c hc => hlt.trans (hfirst c hc)
      have hdeadline : ∀ d', w.context.deadline = some d' → f < d' := by
        intro d' hd'
        cases hd.symm.trans hd'
        exact hlt
      exact .through hf hcancelled hdeadline (outcome_of_done hearly hexpired hf hcancelled hdeadline)
    · exact .deadlineExceeded hd hfirst hdone (outcome_of_deadline hearly hexpired hd hfirst hdone)
  · cases hf : w.done with
    | none => exact .never hc hd hf (outcome_of_never hc hd hf)
    | some done =>
      obtain ⟨f, b⟩ := done
      have hcancelled : ∀ c, w.cancelledAt = some c → f < c := by simp [hc]
      have hdeadline : ∀ d, w.context.deadline = some d → f < d := by simp [hd]
      exact .through hf hcancelled hdeadline (outcome_of_done hearly hexpired hf hcancelled hdeadline)

/-! ### The context ahead of time -/

theorem hasPassed_cancelledAt (w : GuardedWait β) (t : Instant) :
    Context.hasPassed t w.timed.cancelledAt = (w.sightAt t).hasCancelled w.context.token := by
  rw [Bool.eq_iff_iff, timed, Context.ofToken, TokenPath.hasPassed_token, Sight.hasCancelled_iff]
  simp only [sightAt, List.mem_map, List.mem_filter, decide_eq_true_iff]
  constructor
  · rintro ⟨e, he, hle, hsuffix⟩
    exact ⟨e.2, ⟨e, ⟨he, hle⟩, rfl⟩, hsuffix⟩
  · rintro ⟨_, ⟨e, ⟨he, hle⟩, rfl⟩, hsuffix⟩
    exact ⟨e, he, hle, hsuffix⟩

/-- Polling is the same by the instants of a context as by what there is to be seen. -/
theorem check_timed (w : GuardedWait β) (t : Instant) : w.timed.check t = w.context.check (w.sightAt t) := by
  have hdeadline : w.timed.deadline = w.context.deadline := rfl
  unfold Context.check Context.stop? JobContext.check
  rw [hasPassed_cancelledAt, hdeadline, sightAt]
  cases Sight.hasCancelled _ w.context.token <;> cases Context.hasPassed t w.context.deadline <;> rfl

theorem isCancelled_timed (w : GuardedWait β) (t : Instant) :
    w.timed.isCancelled t = w.context.isCancelled (w.sightAt t) := by
  rw [Context.isCancelled, hasPassed_cancelledAt]
  rfl

theorem guard_of_stopsAt {reason : Stop} (h : w.timed.stopsAt w.call = some (t, reason))
    (hdone : ∀ f b, w.done = some (f, b) → ¬max w.call f < t) :
    w.timed.guard w.call w.done = some (t, .error reason) := by
  unfold Context.guard
  rw [h]
  cases hd : w.done with
  | none => rfl
  | some done => exact if_neg (hdone done.1 done.2 hd)

theorem guard_of_done (hf : w.done = some (f, b))
    (h : ∀ t reason, w.timed.stopsAt w.call = some (t, reason) → max w.call f < t) :
    w.timed.guard w.call w.done = some (max w.call f, .ok b) := by
  unfold Context.guard
  rw [hf]
  cases hstops : w.timed.stopsAt w.call with
  | none => rfl
  | some stop => exact if_pos (h stop.1 stop.2 hstops)

theorem stopsAt_of_cancelledBefore (h : w.IsCancelledBefore) : w.timed.stopsAt w.call = some (w.call, .cancelled) := by
  refine Context.stopsAt_of_stop? ?_
  obtain ⟨e, he, hsuffix⟩ := h
  have hpassed : Context.hasPassed w.call w.timed.cancelledAt = true :=
    (TokenPath.hasPassed_token _ _).mpr ⟨e, mem_cancels.mpr (.inl he), w.past e he, hsuffix⟩
  rw [Context.stop?, if_pos hpassed]

/-- A cancellation or a deadline that comes first is the stop. -/
theorem stopsAt_of_cancelled (hcall : w.call ≤ c) (hc : w.cancelledAt = some c)
    (hfirst : ∀ d, w.context.deadline = some d → c < d) : w.timed.stopsAt w.call = some (c, .cancelled) := by
  refine Context.stopsAt_of_first hcall (Context.stop?_of_cancelled hc le_rfl) fun u _ hu => ?_
  refine Context.stop?_eq_none_iff.mpr ⟨Context.hasPassed_eq_false hc hu, ?_⟩
  exact Context.hasPassed_eq_false_iff.mpr fun d hd => hu.trans (hfirst d hd)

theorem stopsAt_of_deadline (hcall : w.call ≤ d) (hd : w.context.deadline = some d)
    (hfirst : ∀ c, w.cancelledAt = some c → d < c) : w.timed.stopsAt w.call = some (d, .deadlineExceeded) := by
  refine Context.stopsAt_of_first hcall (Context.stop?_of_deadline hd le_rfl ?_) fun u _ hu => ?_
  · exact Context.hasPassed_eq_false_iff.mpr hfirst
  · refine Context.stop?_eq_none_iff.mpr ⟨?_, Context.hasPassed_eq_false hd hu⟩
    exact Context.hasPassed_eq_false_iff.mpr fun c hc => hu.trans (hfirst c hc)

/-- If it is not stopped at the call, it is not before the deadline or the cancellation. -/
theorem lt_of_stopsAt {m : Instant} {reason : Stop} (h : w.timed.stopsAt w.call = some (t, reason))
    (hcancelled : ∀ c, w.cancelledAt = some c → m < c) (hdeadline : ∀ d, w.context.deadline = some d → m < d) :
    m < t := by
  refine Nat.lt_of_not_le fun hle => ?_
  have hnone : w.timed.stop? t = none := by
    refine Context.stop?_eq_none_iff.mpr ⟨?_, ?_⟩
    · exact Context.hasPassed_eq_false_iff.mpr fun c hc => hle.trans_lt (hcancelled c hc)
    · exact Context.hasPassed_eq_false_iff.mpr fun d hd => hle.trans_lt (hdeadline d hd)
  cases hnone.symm.trans (Context.stop?_of_stopsAt h)

/-- The context ahead of time says how the wait ends, if nothing is cancelled after the call at its very instant. -/
theorem outcome_eq_guard (huntied : w.IsUntied)
    (hlate : w.IsCancelledBefore ∨ ∀ c, w.cancelledAt = some c → w.call < c) :
    w.outcome = w.timed.guard w.call w.done := by
  have hnever (f : Instant) : ¬max w.call f < w.call := Nat.not_lt.mpr (le_max_left _ _)
  by_cases hearly : w.IsCancelledBefore
  · rw [outcome_of_cancelledBefore hearly,
      guard_of_stopsAt (stopsAt_of_cancelledBefore hearly) fun f _ _ => hnever f]
  have hlater := hlate.resolve_left hearly
  by_cases hexpired : w.IsExpired
  · obtain ⟨d, hd, hle⟩ := id hexpired
    have hstop : w.timed.stop? w.call = some .deadlineExceeded :=
      Context.stop?_of_deadline hd hle (Context.hasPassed_eq_false_iff.mpr hlater)
    rw [outcome_of_expired hearly hexpired, guard_of_stopsAt (Context.stopsAt_of_stop? hstop) fun f _ _ => hnever f]
  have hcall : ∀ d, w.context.deadline = some d → w.call < d := fun d hd => call_lt_of_not_expired hexpired hd
  cases ends hearly hexpired huntied with
  | @through f b hf hc hd hw =>
    rw [hw, guard_of_done hf]
    intro t reason hstops
    exact max_lt (lt_of_stopsAt hstops hlater hcall) (lt_of_stopsAt hstops hc hd)
  | @cancelled c hc hfirst hdone hw =>
    rw [hw, guard_of_stopsAt (stopsAt_of_cancelled (hlater c hc).le hc hfirst)]
    exact fun f b hf hlt => hdone f b hf ((le_max_right _ _).trans_lt hlt)
  | @deadlineExceeded d hd hfirst hdone hw =>
    rw [hw, guard_of_stopsAt (stopsAt_of_deadline (hcall d hd).le hd hfirst)]
    exact fun f b hf hlt => hdone f b hf ((le_max_right _ _).trans_lt hlt)
  | never hc hd hdone hw =>
    have hnone : w.timed.stopsAt w.call = none := by
      cases hstops : w.timed.stopsAt w.call with
      | none => rfl
      | some stop =>
        obtain ⟨t, reason⟩ := stop
        have hlt : t < t := lt_of_stopsAt hstops (fun c hc' => by cases hc.symm.trans hc') fun d hd' => by
          cases hd.symm.trans hd'
        exact absurd hlt (lt_irrefl _)
    simp only [hw, Context.guard, hnone, hdone]

/-- How a wait ends, by the instants of the cancellation and the deadline and of the end of what is guarded. -/
structure Settles (w : GuardedWait β) : Prop where
  /-- A context that is stopped at the call lets nothing through, and of two reasons the cancellation counts. -/
  cancelledBefore : w.IsCancelledBefore → w.outcome = some (w.call, .error .cancelled)
  expired : ¬w.IsCancelledBefore → w.IsExpired → w.outcome = some (w.call, .error .deadlineExceeded)
  /-- Otherwise what is guarded comes through just if it is done before the cancellation and before the deadline. -/
  through : ¬w.IsCancelledBefore → ¬w.IsExpired → ∀ t b, w.outcome = some (t, .ok b) ↔
    ∃ f, w.done = some (f, b) ∧ t = max w.call f ∧ (∀ c, w.cancelledAt = some c → f < c) ∧
      ∀ d, w.context.deadline = some d → f < d
  /-- If it is not, the wait fails at the first of the two, for its reason. -/
  cancelled : ¬w.IsCancelledBefore → ¬w.IsExpired → ∀ c, w.cancelledAt = some c →
    (∀ d, w.context.deadline = some d → c < d) → (∀ f b, w.done = some (f, b) → ¬f < c) →
    w.outcome = some (c, .error .cancelled)
  deadlineExceeded : ¬w.IsCancelledBefore → ¬w.IsExpired → ∀ d, w.context.deadline = some d →
    (∀ c, w.cancelledAt = some c → d < c) → (∀ f b, w.done = some (f, b) → ¬f < d) →
    w.outcome = some (d, .error .deadlineExceeded)
  endless : w.cancelledAt = none → w.context.deadline = none → w.done = none → w.outcome = none
  /-- A wait that fails does so for the reason that polling gives at that look. -/
  polled : ∀ t reason, w.outcome = some (t, .error reason) →
    ∃ s ∈ w.looks, s.now = t ∧ w.context.check s = .error reason
  /-- The context ahead of time says the same, and polls the same at every instant. -/
  guard_timed : w.IsCancelledBefore ∨ (∀ c, w.cancelledAt = some c → w.call < c) →
    w.outcome = w.timed.guard w.call w.done
  check_timed : ∀ t, w.timed.check t = w.context.check (w.sightAt t)
  isCancelled_timed : ∀ t, w.timed.isCancelled t = w.context.isCancelled (w.sightAt t)

/--
**A context stops what waits under it when it should**: at the first of cancellation and deadline, unless it is done
before, and polling tells the same at every moment. Cancelling a child stops nothing.
-/
theorem settles_of_isUntied (w : GuardedWait β) (h : w.IsUntied) :
    w.Settles ∧ w.context.Polls ∧ w.context.Inherits := by
  refine ⟨?_, w.context.polls, w.context.inherits⟩
  constructor
  case cancelledBefore => exact outcome_of_cancelledBefore
  case expired => exact outcome_of_expired
  case through =>
    intro hearly hexpired t b
    constructor
    · intro ht
      cases ends hearly hexpired h with
      | through hf hc hd hw =>
        cases ht.symm.trans hw
        exact ⟨_, hf, rfl, hc, hd⟩
      | cancelled _ _ _ hw => cases ht.symm.trans hw
      | deadlineExceeded _ _ _ hw => cases ht.symm.trans hw
      | never _ _ _ hw => cases ht.symm.trans hw
    · rintro ⟨f, hf, rfl, hc, hd⟩
      exact outcome_of_done hearly hexpired hf hc hd
  case cancelled => exact fun hearly _ c hc hfirst hdone => outcome_of_cancelled hearly h hc hfirst hdone
  case deadlineExceeded =>
    exact fun hearly hexpired d hd hfirst hdone => outcome_of_deadline hearly hexpired hd hfirst hdone
  case endless => exact outcome_of_never
  case polled =>
    intro t reason ht
    obtain ⟨s, hs, hnow, hguard⟩ := exists_sight_of_await ht
    exact ⟨s, hs, hnow, JobContext.guard_eq_error_iff.mp hguard⟩
  case guard_timed => exact outcome_eq_guard h
  case check_timed => exact w.check_timed
  case isCancelled_timed => exact w.isCancelled_timed

/-! ### A child whose parent is cancelled -/

/-- Its own child is cancelled first, then its parent, and then its deadline passes. -/
def orphaned : GuardedWait String where
  context := ⟨[1, 0], some 10⟩
  done := some (12, "built")
  before := [(1, [2, 0])]
  call := 2
  after := [(3, .cancel [5, 1, 0]), (3, .look), (7, .cancel [0]), (7, .look), (10, .look), (12, .look)]
  past := by decide
  ordered := by decide
  wakesOnCancel := by simp [WakesOnCancel]
  wakesOnDeadline := by simp
  wakesOnDone := by simp

theorem settles_orphaned : orphaned.IsUntied ∧ orphaned.outcome = some (7, .error .cancelled) := by
  have hc : orphaned.cancelledAt = some 7 := by decide
  have hearly : ¬orphaned.IsCancelledBefore := by
    rintro ⟨e, he, hsuffix⟩
    cases List.mem_singleton.mp he
    revert hsuffix
    decide
  have hexpired : ¬orphaned.IsExpired := by
    rintro ⟨d, hd, hle⟩
    cases hd
    exact absurd hle (by decide)
  have huntied : orphaned.IsUntied := by
    refine .inr fun c hc' => ?_
    cases hc.symm.trans hc'
    refine ⟨by decide, fun f b hf => ?_⟩
    cases hf
    decide
  refine ⟨huntied, (settles_of_isUntied orphaned huntied).1.cancelled hearly hexpired 7 hc ?_ ?_⟩
  · intro d hd
    cases hd
    decide
  · intro f b hf
    cases hf
    decide

end GuardedWait

end Rollout
