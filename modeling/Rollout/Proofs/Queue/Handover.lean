import Rollout.Proofs.Queue.Ancestry
import Rollout.Proofs.Queue.Precedence
import Rollout.Proofs.Queue.Tasks

/-!
# The order in which work is handed out

Jobs of one key are handed out in the order in which their work was enqueued, with one exception: while newer work is
handed out, older work of the key may still be running, and if it fails after that, it is tried again after the newer
work (`pairwise_handsOut`). Two workers are enough for that (`not_pairwise_handsOut`).

At most one job waits under a key. So when a job is handed out, whatever else is live under its key runs, and every job
of the key that comes to wait later is newer work, or the next attempt at something that runs (`Descends`).
-/

namespace Rollout

variable {α : Type}

/-! ## Numbers do not change -/

section Numbers

variable {now now' : Instant} {s s' : QueueState α} {o : QueueOperation α} {answer : QueueAnswer α}

theorem Effect.created_le (he : Effect now s o answer s') : s.created ≤ s'.created := by
  cases he with
  | enlisted | superseded | retried => exact Nat.le_succ _
  | handedOut | succeeded | covered | buried | idle | notSucceeded | notFailed | advanced => exact Nat.le_refl _

theorem Ledger.enqueued_le_record (l : Ledger) (e : Event α) : l.enqueued ≤ (l.record e).enqueued := by
  unfold record
  split
  · exact Nat.le_succ _
  · split
    · exact Nat.le_refl _
    · exact Nat.le_refl _
  · exact Nat.le_refl _

/-- Only a new job is given a number. -/
theorem Ledger.number_record (l : Ledger) (he : Effect now s o answer s') {id : JobId} (hid : id ≤ s.created) :
    (l.record ⟨⟨now, s⟩, o, answer, ⟨now', s'⟩⟩).number id = l.number id := by
  have hne : id ≠ s.created + 1 := Nat.ne_of_lt (Nat.lt_succ_of_le hid)
  cases he with
  | enlisted | superseded => exact number_enqueue_of_ne l _ hne
  | retried =>
    rw [record_of_retried rfl rfl]
    exact if_neg hne
  | covered | buried | notFailed => rw [record_of_not_retried rfl rfl]
  | handedOut | succeeded | idle | notSucceeded | advanced => rfl

theorem Moment.number_history {m : Moment α} (l : Ledger) (os : List (QueueOperation α)) {id : JobId}
    (hid : id ≤ m.queue.created) : ((m.history os).foldl Ledger.record l).number id = l.number id := by
  induction os generalizing m l with
  | nil => rfl
  | cons o os ih =>
    have he := m.effect o
    rw [history, List.foldl_cons, ih (l.record (m.event o)) (Nat.le_trans hid he.created_le)]
    exact l.number_record he hid

end Numbers

/-! ## What is live goes back to what was live -/

/--
How a job that is live at some later moment goes back to the queue `s`, at which so much work has been enqueued: it was
live and does not wait anew, or it is newer work, or a later attempt at what was live.
-/
inductive Descends (l : Ledger) (enqueued : Nat) (s s' : QueueState α) (id : JobId) (job : Job α) : Prop where
  | live (hlive : s.Live id job) (hwaits : id ∈ s'.pending → id ∈ s.pending)
  | newer (hnumber : enqueued < l.number id)
  | retry {i : JobId} {old : Job α} (hlive : s.Live i old) (hkey : old.key = job.key)
      (hattempt : old.attempt < job.attempt) (hnumber : l.number i = l.number id)

namespace Descends

variable {now now' : Instant} {s s' s'' : QueueState α} {o : QueueOperation α} {answer : QueueAnswer α} {l l' : Ledger}
  {id : JobId} {job : Job α}

/-- In one operation. -/
theorem of_effect (he : Effect now s o answer s') (h : s.Linked) (l : Ledger)
    (hl' : ∀ i, i ≤ s'.created → l'.number i = (l.record ⟨⟨now, s⟩, o, answer, ⟨now', s'⟩⟩).number i)
    (hl : s'.Live id job) : Descends l' l.enqueued s s' id job := by
  cases he.origin h hl with
  | kept hlive hwaits => exact .live hlive hwaits
  | @enqueued p hid hjob hcreated =>
    have hnumber : l'.number id = l.enqueued + 1 := by
      rw [hl' id (by rw [hid, hcreated]), hid]
      simp only [Ledger.record, hcreated]
      exact l.number_enqueue_self _ _
    exact .newer (by omega)
  | @retried old error hold hattempts hid hjob hcreated =>
    have hle : old.id ≤ s.created := h.id_le_created_of_live (.inr hold)
    have hne : old.id ≠ s.created + 1 := h.ne_of_live rfl (.inr hold)
    have hnumber : l'.number old.id = l'.number id := by
      rw [hl' id (by rw [hid, hcreated]), hl' old.id (Nat.le_trans hle (by rw [hcreated]; exact Nat.le_succ _)),
        Ledger.record_of_retried rfl hcreated, hid]
      exact (if_neg hne).trans (if_pos rfl).symm
    exact .retry (.inr hold) (hjob ▸ rfl) (hjob ▸ Nat.lt_succ_self _) hnumber

/-- In one operation and whatever comes after it. -/
theorem trans (he : Effect now s o answer s') (h : s.Linked) (l : Ledger)
    (hl' : ∀ i, i ≤ s'.created → l'.number i = (l.record ⟨⟨now, s⟩, o, answer, ⟨now', s'⟩⟩).number i)
    (hd : Descends l' (l.record ⟨⟨now, s⟩, o, answer, ⟨now', s'⟩⟩).enqueued s' s'' id job) :
    Descends l' l.enqueued s s'' id job := by
  cases hd with
  | live hlive hwaits =>
    cases of_effect he h l hl' hlive with
    | live hlive' hwaits' => exact .live hlive' fun hm => hwaits' (hwaits hm)
    | newer hnumber => exact .newer hnumber
    | retry hlive' hkey hattempt hnumber => exact .retry hlive' hkey hattempt hnumber
  | newer hnumber => exact .newer (Nat.lt_of_le_of_lt (l.enqueued_le_record _) hnumber)
  | retry hlive hkey hattempt hnumber =>
    cases of_effect he h l hl' hlive with
    | live hlive' => exact .retry hlive' hkey hattempt hnumber
    | newer hnumber' => exact .newer (hnumber ▸ hnumber')
    | retry hlive' hkey' hattempt' hnumber' =>
      exact .retry hlive' (hkey'.trans hkey) (Nat.lt_trans hattempt' hattempt) (hnumber'.trans hnumber)

end Descends

/-- Through a whole history. -/
theorem Moment.descends {m : Moment α} (h : m.queue.Linked) (l : Ledger) (os : List (QueueOperation α)) {e : Event α}
    (he : e ∈ m.history os) {id : JobId} {job : Job α} (hl : e.before.queue.Live id job) :
    Descends ((m.history os).foldl Ledger.record l) l.enqueued m.queue e.before.queue id job := by
  induction os generalizing m l with
  | nil => simp [history] at he
  | cons o os ih =>
    rcases List.mem_cons.mp he with rfl | he
    · exact .live hl fun hm => hm
    · refine .trans (m.effect o) h l (fun i hi => ?_) (ih (linked_perform h o) (l.record (m.event o)) he)
      rw [history, List.foldl_cons]
      exact number_history (l.record (m.event o)) os hi

/-! ## The order -/

section Order

variable {m : Moment α} {o : QueueOperation α} {a b : Job α}

/-- A job of the key that is live beside the one just handed out runs: at most one has been waiting. -/
theorem QueueState.Linked.running_of_live_handOut {s : QueueState α} (h : s.Linked) {w : Waiting α}
    (hw : s.pending[w.job.id]? = some w) {k : String} (hk : w.job.key = some k) {id : JobId} {job : Job α}
    (hl : (s.handOut w.job.id w.job).Live id job) (hkey : job.key = some k) :
    (s.handOut w.job.id w.job).running[id]? = some job := by
  rcases hl with ⟨v, hv, rfl⟩ | hr
  · have hcovered := (h.handOut hw).indexed.covering?_of_pending hk hv hkey
    cases hcovered.symm.trans (h.covering?_handOut hw)
  · exact hr

/-- What is handed out after a job of the same key is newer work, or a later attempt at what ran beside that job. -/
theorem Moment.number_le_or_running (h : m.queue.Linked) {l : Ledger} (hl : ∀ id, l.number id ≤ l.enqueued)
    (os : List (QueueOperation α)) (ha : (m.event o).HandsOut a) {e : Event α}
    (he : e ∈ (m.perform o).2.history os) (hb : e.HandsOut b) {k : String} (hka : a.key = some k)
    (hkb : b.key = some k) :
    let l' := (m.history (o :: os)).foldl Ledger.record l
    l'.number a.id ≤ l'.number b.id ∨
      ∃ old : Job α, m.queue.running[old.id]? = some old ∧ old.key = some k ∧ old.attempt < b.attempt ∧
        l'.number old.id = l'.number b.id := by
  intro l'
  have hnext := linked_perform h o
  obtain ⟨w, hw, rfl, hafter⟩ := pending_of_handsOut h ha
  obtain ⟨v, hv, hvb⟩ := pending_of_mem_history hnext he hb
  have hruns {i : JobId} {old : Job α} (hlive : (m.perform o).2.queue.Live i old) (hkey : old.key = some k) :
      (m.queue.handOut w.job.id w.job).running[i]? = some old :=
    h.running_of_live_handOut hw hka (hafter ▸ hlive) hkey
  cases descends hnext (l.record (m.event o)) os he (.inl ⟨v, hv, hvb⟩) with
  | live hlive hwaits =>
    have hwaiting := hwaits (mem_of_getElem? hv)
    rw [hafter] at hnext hwaiting
    exact absurd (mem_of_getElem? (hruns hlive hkb)) (hnext.not_mem_running hwaiting)
  | newer hnumber =>
    have hid : w.job.id ≤ m.queue.created := h.id_le_created_of_live (.inl ⟨w, hw, rfl⟩)
    have hsame : l'.number w.job.id = l.number w.job.id := number_history l (o :: os) hid
    have hnumber : (l.record (m.event o)).enqueued < l'.number b.id := hnumber
    have hle : l.enqueued ≤ (l.record (m.event o)).enqueued := l.enqueued_le_record _
    have := hl w.job.id
    exact .inl (by omega)
  | @retry i old hlive hkey hattempt hnumber =>
    have hr := hruns hlive (hkey.trans hkb)
    simp only [QueueState.handOut, QueueState.start, QueueState.remove, QueueState.setStatus, getElem?_inserted] at hr
    split at hr
    · next heq => exact .inl (Nat.le_of_eq (heq ▸ hnumber))
    · obtain rfl := h.id_eq i old hr
      exact .inr ⟨old, hr, hkey.trans hkb, hattempt, hnumber⟩

/--
The two jobs are handed out in the order in which their work was enqueued, or an earlier attempt at the second one was
running when the first one was handed out.
-/
def InTurn (l : Ledger) (e e' : Event α) : Prop :=
  ∀ (a b : Job α) (k : String), e.HandsOut a → e'.HandsOut b → a.key = some k → b.key = some k →
    l.number a.id ≤ l.number b.id ∨
      ∃ old : Job α, e.before.queue.running[old.id]? = some old ∧ old.key = some k ∧ old.attempt < b.attempt ∧
        l.number old.id = l.number b.id

theorem Moment.pairwise_inTurn (h : m.queue.Linked) {l : Ledger} (hl : l.Fits m.queue) (os : List (QueueOperation α)) :
    (m.history os).Pairwise (InTurn ((m.history os).foldl Ledger.record l)) := by
  induction os generalizing m l with
  | nil => exact .nil
  | cons o os ih =>
    refine List.pairwise_cons.mpr ⟨fun e he a b k ha hb hka hkb => ?_, ?_⟩
    · exact number_le_or_running h hl.number_le os ha he hb hka hkb
    · exact ih (linked_perform h o) (hl.record h (m.effect o))

/-- **Work of one key is handed out in the order in which it was enqueued, unless it was running when newer work was
handed out**, and is tried again. -/
theorem pairwise_handsOut (policy : RetryPolicy) (retention : Nat) (os : List (QueueOperation α)) :
    let m := Moment.start policy retention
    (m.history os).Pairwise (InTurn (m.ledger os)) :=
  Moment.pairwise_inTurn (Moment.linked_start policy retention) (.empty policy retention) os

end Order

/-! ## Out of turn -/

/-- The newer of the two jobs is done, and the retry of the older one is handed out after it. -/
def racingRetry : List (QueueOperation Nat) := racingWorkers ++ [.succeed 2, .dequeue]

/-- **Older work can be handed out after newer work of its key.** -/
theorem not_pairwise_handsOut :
    ¬∀ (policy : RetryPolicy) (retention : Nat) (os : List (QueueOperation Nat)),
      ((Moment.start policy retention).history os).Pairwise fun e e' => ∀ (a b : Job Nat) (k : String),
        e.HandsOut a → e'.HandsOut b → a.key = some k → b.key = some k →
          ((Moment.start policy retention).ledger os).number a.id ≤
            ((Moment.start policy retention).ledger os).number b.id := by
  intro h
  have hlength : ((Moment.start ⟨3, .zero, .zero⟩ 16).history racingRetry).length = 7 := by cbv
  have hturn := List.pairwise_iff_getElem.mp (h ⟨3, .zero, .zero⟩ 16 racingRetry) 3 6 (by omega) (by omega) (by omega)
  have hle := hturn ⟨2, 1, 2, some "site"⟩ ⟨3, 2, 1, some "site"⟩ "site" (by cbv) (by cbv) rfl rfl
  have hnewer : ((Moment.start ⟨3, .zero, .zero⟩ 16).ledger racingRetry).number 2 = 2 := by cbv
  have holder : ((Moment.start ⟨3, .zero, .zero⟩ 16).ledger racingRetry).number 3 = 1 := by cbv
  rw [hnewer, holder] at hle
  omega

end Rollout
