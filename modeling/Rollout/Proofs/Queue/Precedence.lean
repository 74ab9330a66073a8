import Mathlib
import Rollout.Proofs.Queue.History
import Rollout.Proofs.Queue.Live

/-!
# Newer and older work under one key

Pieces of work are numbered in the order in which they are enqueued, and a retry carries on the work of the job it
retries: a `Ledger` keeps these numbers beside a history. Work is given up in favour of a job that waits with its key
(`Event.GivesUp`) when it is superseded, and when it failed and would be tried again.

Superseding always gives up the older work. A failure can give up the newer one, and it does so just when the work that
is kept was already running as the other was enqueued (`number_le_iff`): one of two workers that run jobs of one key has
then failed before the other, and its retry waits (`racingWorkers`).
-/

namespace Rollout

variable {α : Type}

/-! ## Numbers of work -/

/-- Which work the jobs of a queue stand for. -/
structure Ledger where
  /-- How many pieces of work have been enqueued. -/
  enqueued : Nat
  /-- The number of the work of a job. -/
  number : JobId → Nat
  /-- Whether the first of two pieces of work was running when the second was enqueued. -/
  Alongside : Nat → Nat → Prop

namespace Ledger

def empty : Ledger := ⟨0, fun _ => 0, fun _ _ => False⟩

/-- A new job `id` for new work, while some other jobs run. -/
def enqueue (l : Ledger) (id : JobId) (runs : JobId → Prop) : Ledger where
  enqueued := l.enqueued + 1
  number i := if i = id then l.enqueued + 1 else l.number i
  Alongside m n := if n = l.enqueued + 1 then ∃ i, runs i ∧ l.number i = m else l.Alongside m n

/-- A new job `id` for the work of another. -/
def retry (l : Ledger) (id failed : JobId) : Ledger :=
  { l with number := fun i => if i = id then l.number failed else l.number i }

/-- The accounts after an event. A failure that created a job created a retry. -/
def record (l : Ledger) (e : Event α) : Ledger :=
  match e.operation with
  | .enqueue _ => l.enqueue e.after.queue.created (· ∈ e.before.queue.running)
  | .fail id _ _ =>
    if e.before.queue.created < e.after.queue.created then l.retry e.after.queue.created id else l
  | _ => l

theorem number_enqueue_self (l : Ledger) (id : JobId) (runs : JobId → Prop) :
    (l.enqueue id runs).number id = l.enqueued + 1 := if_pos rfl

theorem number_enqueue_of_ne (l : Ledger) {id i : JobId} (runs : JobId → Prop) (h : i ≠ id) :
    (l.enqueue id runs).number i = l.number i := if_neg h

theorem alongside_enqueue_self (l : Ledger) (id : JobId) (runs : JobId → Prop) (m : Nat) :
    (l.enqueue id runs).Alongside m (l.enqueued + 1) ↔ ∃ i, runs i ∧ l.number i = m := by
  simp only [enqueue, if_true]

theorem alongside_enqueue_of_ne (l : Ledger) (id : JobId) (runs : JobId → Prop) (m : Nat) {n : Nat}
    (h : n ≠ l.enqueued + 1) : (l.enqueue id runs).Alongside m n ↔ l.Alongside m n := by
  simp only [enqueue, if_neg h]

section Record

variable {l : Ledger} {e : Event α} {id : JobId} {error : String} {kind : FailureKind}

theorem record_of_not_retried (ho : e.operation = .fail id error kind)
    (hcreated : e.after.queue.created = e.before.queue.created) : l.record e = l := by
  simp only [record, ho, hcreated, Nat.lt_irrefl, if_false]

theorem record_of_retried (ho : e.operation = .fail id error kind)
    (hcreated : e.after.queue.created = e.before.queue.created + 1) :
    l.record e = l.retry (e.before.queue.created + 1) id := by
  simp only [record, ho, hcreated, Nat.lt_succ_self, if_true]

end Record

end Ledger

/-- The accounts after the operations `os`. -/
def Moment.ledger (m : Moment α) (os : List (QueueOperation α)) : Ledger :=
  (m.history os).foldl Ledger.record .empty

/-- The work of the job `lost` is given up without running again, and `kept` is the job that waits with its key. -/
inductive Event.GivesUp (e : Event α) (lost kept : JobId) : Prop where
  | superseded (p : Prepared α) (ho : e.operation = .enqueue p)
      (ha : e.answer = .enqueued (.superseded kept lost))
  | coalesced (error : String) (job : Job α) (ho : e.operation = .fail lost error .retryable)
      (hrunning : e.before.queue.running[lost]? = some job)
      (hattempts : job.attempt < e.before.queue.policy.maxAttempts)
      (hcreated : e.after.queue.created = e.before.queue.created) {k : String} {w : Waiting α}
      (hk : job.key = some k) (hkept : e.after.queue.pending[kept]? = some w) (hkey : w.job.key = some k)

/-! ## The accounts fit the queue -/

/-- Of two live jobs with one key, the older work was running when the newer was enqueued. -/
structure Ledger.Fits (l : Ledger) (s : QueueState α) : Prop where
  number_le : ∀ id, l.number id ≤ l.enqueued
  lt_of_alongside : ∀ m n, l.Alongside m n → m < n
  alongside : ∀ (a b : JobId) (ja jb : Job α) (k : String), s.Live a ja → s.Live b jb → ja.key = some k →
    jb.key = some k → l.number a < l.number b → l.Alongside (l.number a) (l.number b)

namespace Ledger.Fits

variable {l : Ledger} {s s' : QueueState α}

theorem mono (hl : l.Fits s) (hlive : ∀ id job, s'.Live id job → s.Live id job) : l.Fits s' where
  number_le := hl.number_le
  lt_of_alongside := hl.lt_of_alongside
  alongside a b ja jb k ha hb := hl.alongside a b ja jb k (hlive a ja ha) (hlive b jb hb)

theorem enqueue (hl : l.Fits s) (h : s.Linked) (p : Prepared α) :
    (l.enqueue (s.created + 1) (· ∈ s.running)).Fits (s.enqueue p).2 where
  number_le id := by
    have := hl.number_le id
    simp only [Ledger.enqueue]
    split <;> omega
  lt_of_alongside m n hmn := by
    by_cases hn : n = l.enqueued + 1
    · rw [hn, Ledger.alongside_enqueue_self] at hmn
      obtain ⟨id, -, rfl⟩ := hmn
      exact hn ▸ Nat.lt_succ_of_le (hl.number_le id)
    · rw [Ledger.alongside_enqueue_of_ne l _ _ _ hn] at hmn
      exact hl.lt_of_alongside m n hmn
  alongside a b ja jb k ha hb hka hkb hlt := by
    have hnumber (id : JobId) (job : Job α) (hid : s.Live id job) :
        (l.enqueue (s.created + 1) (· ∈ s.running)).number id = l.number id :=
      Ledger.number_enqueue_of_ne l _ (Nat.ne_of_lt (Nat.lt_succ_of_le (h.id_le_created_of_live hid)))
    have hle (id : JobId) : l.number id < l.enqueued + 1 := Nat.lt_succ_of_le (hl.number_le id)
    rcases h.live_enqueue hb with ⟨rfl, rfl⟩ | ⟨hb, -⟩
    · -- the newest work: what is live beside it under its key runs
      rw [Ledger.number_enqueue_self] at hlt ⊢
      rcases h.live_enqueue ha with ⟨rfl, -⟩ | ⟨ha, hruns⟩
      · rw [Ledger.number_enqueue_self] at hlt
        exact absurd hlt (Nat.lt_irrefl _)
      · have hrunning : a ∈ s.running := hruns.resolve_right fun hne => hne k hkb hka
        rw [hnumber a ja ha, Ledger.alongside_enqueue_self]
        exact ⟨a, hrunning, rfl⟩
    · rw [hnumber b jb hb] at hlt ⊢
      rcases h.live_enqueue ha with ⟨rfl, -⟩ | ⟨ha, -⟩
      · rw [Ledger.number_enqueue_self] at hlt
        exact absurd hlt (Nat.lt_asymm (hle b))
      · rw [hnumber a ja ha] at hlt ⊢
        rw [Ledger.alongside_enqueue_of_ne l _ _ _ (Nat.ne_of_lt (hle b))]
        exact hl.alongside a b ja jb k ha hb hka hkb hlt

theorem retry (hl : l.Fits s) (h : s.Linked) {id : JobId} {job : Job α} (hid : s.running[id]? = some job)
    {w : Waiting α} (hnew : w.job.id = s.created + 1) (hkey : w.job.key = job.key) :
    (l.retry (s.created + 1) id).Fits ((s.settle id .failed).enlist w) where
  number_le i := by
    have := hl.number_le i
    have := hl.number_le id
    simp only [Ledger.retry]
    split <;> assumption
  lt_of_alongside := hl.lt_of_alongside
  alongside a b ja jb k ha hb hka hkb hlt := by
    -- the new job takes the part of the one that failed
    have hpart (i : JobId) (j : Job α) (hi : ((s.settle id .failed).enlist w).Live i j) (hk : j.key = some k) :
        ∃ i' j', s.Live i' j' ∧ j'.key = some k ∧ (l.retry (s.created + 1) id).number i = l.number i' := by
      rcases QueueState.live_enlist hi with ⟨rfl, rfl⟩ | hi
      · exact ⟨id, job, .inr hid, hkey ▸ hk, by rw [hnew]; exact if_pos rfl⟩
      · have hlive := QueueState.live_settle hi
        exact ⟨i, j, hlive, hk, if_neg (Nat.ne_of_lt (Nat.lt_succ_of_le (h.id_le_created_of_live hlive)))⟩
    obtain ⟨a', ja', ha', hka', hna⟩ := hpart a ja ha hka
    obtain ⟨b', jb', hb', hkb', hnb⟩ := hpart b jb hb hkb
    rw [hna, hnb] at hlt ⊢
    exact hl.alongside a' b' ja' jb' k ha' hb' hka' hkb' hlt

theorem empty (policy : RetryPolicy) (retention : Nat) :
    Ledger.empty.Fits (QueueState.empty policy retention : QueueState α) where
  number_le _ := Nat.le_refl _
  lt_of_alongside m n hmn := hmn.elim
  alongside a b ja jb k ha := by simp [QueueState.Live, QueueState.empty] at ha

/-- The accounts fit again after every event. -/
theorem record (hl : l.Fits s) (h : s.Linked) {now now' : Instant} {o : QueueOperation α} {answer : QueueAnswer α}
    (he : Effect now s o answer s') : (l.record ⟨⟨now, s⟩, o, answer, ⟨now', s'⟩⟩).Fits s' := by
  cases he with
  | @enlisted p hfree =>
    have hfits := hl.enqueue h p
    rw [QueueState.enqueue_of_free hfree] at hfits
    exact hfits
  | @superseded p replaced hcovered =>
    have hfits := hl.enqueue h p
    rw [QueueState.enqueue_of_covered hcovered] at hfits
    exact hfits
  | handedOut hfirst hw => exact hl.mono fun _ _ => h.live_handOut hw
  | succeeded hid => exact hl.mono fun _ _ => QueueState.live_settle
  | covered hid =>
    rw [Ledger.record_of_not_retried rfl rfl]
    exact hl.mono fun _ _ => QueueState.live_settle
  | retried hid =>
    rw [Ledger.record_of_retried rfl rfl]
    exact hl.retry h hid rfl rfl
  | @buried id error kind job hid =>
    rw [Ledger.record_of_not_retried rfl rfl]
    exact hl.mono fun _ _ hlive => QueueState.live_settle (s := s.bury job error) hlive
  | notFailed hid =>
    rw [Ledger.record_of_not_retried rfl rfl]
    exact hl
  | idle | notSucceeded | advanced => exact hl

end Ledger.Fits

section Histories

variable {m : Moment α}

theorem Moment.fits_history {l : Ledger} (hl : l.Fits m.queue) (h : m.queue.Linked) (os : List (QueueOperation α)) :
    ((m.history os).foldl Ledger.record l).Fits (m.run os).queue := by
  induction os generalizing l m with
  | nil => exact hl
  | cons o os ih => exact ih (hl.record h (m.effect o)) (linked_perform h o)

theorem Moment.ledger_concat (os : List (QueueOperation α)) (o : QueueOperation α) :
    m.ledger (os ++ [o]) = (m.ledger os).record ((m.run os).event o) := by
  simp only [ledger, history_concat, List.foldl_append, List.foldl_cons, List.foldl_nil]

theorem Effect.of_superseded {now : Instant} {s s' : QueueState α} {p : Prepared α} {lost kept : JobId}
    (he : Effect now s (.enqueue p) (.enqueued (.superseded kept lost)) s') :
    kept = s.created + 1 ∧ s'.created = s.created + 1 ∧ s.covering? (s.entry p).job = some lost := by
  cases he with
  | superseded hcovered => exact ⟨rfl, rfl, hcovered⟩

theorem Effect.pending_of_not_retried {now : Instant} {s s' : QueueState α} {id : JobId} {error : String}
    {kind : FailureKind} {answer : QueueAnswer α} (he : Effect now s (.fail id error kind) answer s')
    (hcreated : s'.created = s.created) : s'.pending = s.pending := by
  cases he with
  | retried => exact absurd hcreated (Nat.succ_ne_self _)
  | notFailed | covered | buried => rfl

/-- Whose work is given up in an event, when the accounts before it fit. -/
theorem Ledger.Fits.of_givesUp {l : Ledger} (hl : l.Fits m.queue) (h : m.queue.Linked) {o : QueueOperation α}
    {lost kept : JobId} (hg : (m.event o).GivesUp lost kept) :
    let l' := l.record (m.event o)
    (l'.number kept < l'.number lost ↔ l'.Alongside (l'.number kept) (l'.number lost)) ∧
      ((∃ p, o = .enqueue p) → l'.number lost < l'.number kept) := by
  intro l'
  have hfits : l'.Fits (m.event o).after.queue := hl.record h (m.effect o)
  have hback : l'.Alongside (l'.number kept) (l'.number lost) → l'.number kept < l'.number lost :=
    hfits.lt_of_alongside _ _
  have he := m.effect o
  cases hg with
  | superseded p ho ha =>
    have ho : o = .enqueue p := ho
    have ha : (m.perform o).1 = .enqueued (.superseded kept lost) := ha
    rw [ha, ho] at he
    obtain ⟨hkept, hcreated, hcovered⟩ := he.of_superseded
    obtain ⟨k, w, -, hw, -⟩ := h.indexed.covering hcovered
    have hne : lost ≠ m.queue.created + 1 := fun heq =>
      h.not_mem_pending (heq ▸ Nat.lt_succ_self m.queue.created) (mem_of_getElem? hw)
    have hl' : l' = l.enqueue (m.queue.created + 1) (· ∈ m.queue.running) := by
      simp only [l', Ledger.record, Moment.event, ho, hcreated]
    have hlt : l'.number lost < l'.number kept := by
      rw [hl', hkept, Ledger.number_enqueue_self, Ledger.number_enqueue_of_ne l _ hne]
      exact Nat.lt_succ_of_le (hl.number_le lost)
    exact ⟨⟨fun hlt' => absurd hlt' (Nat.lt_asymm hlt), hback⟩, fun _ => hlt⟩
  | coalesced error job ho hrunning hattempts hcreated hk hkept hkey =>
    have hl' : l' = l := Ledger.record_of_not_retried ho hcreated
    have ho : o = .fail lost error .retryable := ho
    refine ⟨⟨fun hlt => ?_, hback⟩, fun ⟨p, hp⟩ => ?_⟩
    · rw [ho] at he hcreated hkept
      have hpending := he.pending_of_not_retried hcreated
      rw [hl'] at hlt ⊢
      exact hl.alongside kept lost _ job _ (.inl ⟨_, hpending ▸ hkept, rfl⟩) (.inr hrunning) hkey hk hlt
    · simp [hp] at ho

/-- **Work is given up for equal or newer work, unless that was running when it was enqueued**, and for newer work when
it is superseded. -/
theorem number_le_iff (policy : RetryPolicy) (retention : Nat) (os : List (QueueOperation α)) (o : QueueOperation α)
    {lost kept : JobId} (hg : (((Moment.start policy retention).run os).event o).GivesUp lost kept) :
    let l := (Moment.start policy retention).ledger (os ++ [o])
    (l.number lost ≤ l.number kept ↔ ¬l.Alongside (l.number kept) (l.number lost)) ∧
      ((∃ p, o = .enqueue p) → l.number lost < l.number kept) := by
  have hlinked : (Moment.start policy retention : Moment α).queue.Linked := Moment.linked_start policy retention
  have hfits := Moment.fits_history (.empty policy retention) hlinked os
  obtain ⟨hiff, hnewer⟩ := hfits.of_givesUp (Moment.linked_run hlinked os) hg
  rw [Moment.ledger_concat]
  exact ⟨Nat.not_lt.symm.trans (not_congr hiff), hnewer⟩

end Histories

/-! ## Two workers -/

/-- Two workers run jobs of one key, and the one with the older work fails first. -/
def racingWorkers : List (QueueOperation Nat) :=
  [.enqueue ⟨1, some "site"⟩, .dequeue, .enqueue ⟨2, some "site"⟩, .dequeue, .fail 1 "timeout" .retryable]

/-- The newer work is given up when it fails too: the retry of the older one waits already. -/
theorem givesUp_racingWorkers :
    (((Moment.start ⟨3, .zero, .zero⟩ 16).run racingWorkers).event (.fail 2 "timeout" .retryable)).GivesUp 2 3 :=
  .coalesced "timeout" ⟨2, 1, 2, some "site"⟩ rfl (by cbv) (by cbv) (by cbv) rfl
    (w := ⟨⟨3, 2, 1, some "site"⟩, some 0⟩) (by cbv) rfl

theorem number_le_iff_racingWorkers :
    let l := (Moment.start ⟨3, .zero, .zero⟩ 16).ledger (racingWorkers ++ [.fail 2 "timeout" .retryable])
    (l.number 2 ≤ l.number 3 ↔ ¬l.Alongside (l.number 3) (l.number 2)) ∧
      ((∃ p, QueueOperation.fail 2 "timeout" .retryable = (.enqueue p : QueueOperation Nat)) →
        l.number 2 < l.number 3) :=
  number_le_iff ⟨3, .zero, .zero⟩ 16 racingWorkers (.fail 2 "timeout" .retryable) givesUp_racingWorkers

/-- **A pending job with the key of a failed one need not be newer work.** -/
theorem not_number_le_of_givesUp :
    ¬∀ (policy : RetryPolicy) (retention : Nat) (os : List (QueueOperation Nat)) (o : QueueOperation Nat)
      (lost kept : JobId), (((Moment.start policy retention).run os).event o).GivesUp lost kept →
      ((Moment.start policy retention).ledger (os ++ [o])).number lost ≤
        ((Moment.start policy retention).ledger (os ++ [o])).number kept := by
  intro h
  have hle := h ⟨3, .zero, .zero⟩ 16 racingWorkers (.fail 2 "timeout" .retryable) 2 3 givesUp_racingWorkers
  have hlost : ((Moment.start ⟨3, .zero, .zero⟩ 16).ledger
      (racingWorkers ++ [.fail 2 "timeout" .retryable])).number 2 = 2 := by cbv
  have hkept : ((Moment.start ⟨3, .zero, .zero⟩ 16).ledger
      (racingWorkers ++ [.fail 2 "timeout" .retryable])).number 3 = 1 := by cbv
  omega

end Rollout
