import Mathlib.Data.List.Basic

/-!
# Parties that share something

Parties come in, take steps and leave, in any order, and others may change what the parties share. A `Sharing` says what
one step is and what is allowed; a `Scene` is the parties that are there and what they share. `Scene.run` carries out
any actions, of which those that are not allowed do nothing.

What an action can come to is said once (`Scene.Goes`). What every such change keeps holds at all times
(`Scene.run_induction`), in particular around each turn of a history (`Scene.forall_mem_history`).
-/

namespace Rollout

/-- How parties of type `π` share something of type `σ`. A party comes in with an errand of type `ι`. -/
structure Sharing (ι π σ : Type) where
  enter : ι → π
  /-- Whether a party may come in with this errand beside others. -/
  admits : List π → ι → Bool
  step : π → σ → π × σ
  /-- Whether someone who is no party may change what is shared so. -/
  permits : σ → σ → Bool

structure Scene (π σ : Type) where
  parties : List π
  shared : σ

inductive Action (ι σ : Type) where
  | enter (errand : ι)
  /-- The party in this place takes a step. -/
  | step (place : Nat)
  | leave (place : Nat)
  | elsewhere (change : σ → σ)

/-- One action, with the scenes around it. -/
structure Scene.Turn (ι π σ : Type) where
  before : Scene π σ
  action : Action ι σ
  after : Scene π σ

namespace Scene

variable {ι π σ : Type} (P : Sharing ι π σ)

def perform (s : Scene π σ) : Action ι σ → Scene π σ
  | .enter errand => if P.admits s.parties errand then ⟨s.parties ++ [P.enter errand], s.shared⟩ else s
  | .step i =>
    match s.parties[i]? with
    | none => s
    | some p => ⟨s.parties.set i (P.step p s.shared).1, (P.step p s.shared).2⟩
  | .leave i => ⟨s.parties.eraseIdx i, s.shared⟩
  | .elsewhere change => if P.permits s.shared (change s.shared) then ⟨s.parties, change s.shared⟩ else s

/-- The scene after some actions. -/
def run (s : Scene π σ) (as : List (Action ι σ)) : Scene π σ := as.foldl (perform P) s

/-- What happens on some actions. -/
def history (s : Scene π σ) : List (Action ι σ) → List (Turn ι π σ)
  | [] => []
  | a :: as => ⟨s, a, s.perform P a⟩ :: (s.perform P a).history as

/-- The ways in which a scene can go on. -/
inductive Goes : Scene π σ → Scene π σ → Prop where
  | stays (s : Scene π σ) : Goes s s
  | enters {ps : List π} {s : σ} {errand : ι} (h : P.admits ps errand = true) :
    Goes ⟨ps, s⟩ ⟨ps ++ [P.enter errand], s⟩
  | steps {before after : List π} {p p' : π} {s s' : σ} (h : P.step p s = (p', s')) :
    Goes ⟨before ++ p :: after, s⟩ ⟨before ++ p' :: after, s'⟩
  | leaves {before after : List π} {p : π} {s : σ} : Goes ⟨before ++ p :: after, s⟩ ⟨before ++ after, s⟩
  | changes {ps : List π} {s s' : σ} (h : P.permits s s' = true) : Goes ⟨ps, s⟩ ⟨ps, s'⟩

variable {P}

theorem run_append (s : Scene π σ) (as as' : List (Action ι σ)) : s.run P (as ++ as') = (s.run P as).run P as' :=
  List.foldl_append

theorem run_concat (s : Scene π σ) (as : List (Action ι σ)) (a : Action ι σ) :
    s.run P (as ++ [a]) = (s.run P as).perform P a := run_append s as [a]

theorem perform_step {s : Scene π σ} {i : Nat} {p : π} (h : s.parties[i]? = some p) :
    s.perform P (.step i) = ⟨s.parties.set i (P.step p s.shared).1, (P.step p s.shared).2⟩ := by
  simp only [perform, h]

/-- A list around the place of one of its elements. -/
theorem exists_split {ps : List π} {i : Nat} {p : π} (h : ps[i]? = some p) :
    ∃ before after, ps = before ++ p :: after ∧ (∀ p', ps.set i p' = before ++ p' :: after) ∧
      ps.eraseIdx i = before ++ after := by
  obtain ⟨hlt, rfl⟩ := List.getElem?_eq_some_iff.mp h
  refine ⟨ps.take i, ps.drop (i + 1), ?_, fun p' => List.set_eq_take_append_cons_drop .. |>.trans (if_pos hlt),
    List.eraseIdx_eq_take_drop_succ ..⟩
  rw [List.getElem_cons_drop, List.take_append_drop]

theorem goes_perform (s : Scene π σ) (a : Action ι σ) : Goes P s (s.perform P a) := by
  obtain ⟨ps, shared⟩ := s
  cases a with
  | enter errand =>
    rw [perform]
    split
    · next h => exact .enters h
    · exact .stays _
  | step i =>
    cases h : ps[i]? with
    | none => simpa only [perform, h] using .stays _
    | some p =>
      obtain ⟨before, after, hsplit, hset, -⟩ := exists_split h
      rw [perform_step h, hset]
      simpa only [hsplit] using .steps rfl
  | leave i =>
    cases h : ps[i]? with
    | none =>
      rw [perform, List.eraseIdx_of_length_le (List.getElem?_eq_none_iff.mp h)]
      exact .stays _
    | some p =>
      obtain ⟨before, after, hsplit, -, herase⟩ := exists_split h
      rw [perform, herase]
      simpa only [hsplit] using .leaves
  | elsewhere change =>
    rw [perform]
    split
    · next h => exact .changes h
    · exact .stays _

/-- **What every change keeps holds at all times.** -/
theorem run_induction {I : Scene π σ → Prop} (hgoes : ∀ s s', I s → Goes P s s' → I s') {s : Scene π σ} (h : I s)
    (as : List (Action ι σ)) : I (s.run P as) := by
  induction as generalizing s with
  | nil => exact h
  | cons a as ih => exact ih (hgoes s _ h (goes_perform s a))

/-- What every change keeps holds before each turn of a history. -/
theorem forall_mem_history {I : Scene π σ → Prop} (hgoes : ∀ s s', I s → Goes P s s' → I s') {s : Scene π σ} (h : I s)
    (as : List (Action ι σ)) : ∀ e ∈ s.history P as, I e.before ∧ e.after = e.before.perform P e.action := by
  induction as generalizing s with
  | nil => simp [history]
  | cons a as ih =>
    rw [history, List.forall_mem_cons]
    exact ⟨⟨h, rfl⟩, ih (hgoes s _ h (goes_perform s a))⟩

/-- Every action of a list is a turn of its history. -/
theorem turn_mem_history (s : Scene π σ) (as : List (Action ι σ)) (a : Action ι σ) (as' : List (Action ι σ)) :
    ⟨s.run P as, a, (s.run P as).perform P a⟩ ∈ s.history P (as ++ a :: as') := by
  induction as generalizing s with
  | nil => exact List.mem_cons_self
  | cons a' as ih => exact List.mem_cons_of_mem _ (ih (s.perform P a'))

end Scene

end Rollout
