import Rollout.Job.Dispatch

/-!
# Delivery

Events go to dispatchers one delivery after another: each event to all of them, in the order of the bus, before the next
event (`deliveries`). Deliveries are accepted as long as no dispatcher fails (`Accepts`). A dispatch ends after all of
its deliveries, or at the first that is refused (`accepts_or_rejects`); none is made after it.
-/

namespace Rollout

variable {π σ : Type}

theorem eq_take_append_cons_drop {β : Type} {xs : List β} {i : Nat} {x : β} (h : xs[i]? = some x) :
    xs = xs.take i ++ x :: xs.drop (i + 1) := by
  obtain ⟨hlt, hget⟩ := List.getElem?_eq_some_iff.mp h
  rw [← hget, List.getElem_cons_drop, List.take_append_drop]

/-- An event on its way to a dispatcher. -/
structure Delivery (π σ : Type) where
  dispatcher : Dispatcher π σ
  notice : Notice π

/-- The deliveries of one event to the subscribers of a bus. -/
def deliveriesOf (ds : List (Dispatcher π σ)) (n : Notice π) : List (Delivery π σ) := ds.map (⟨·, n⟩)

/-- The deliveries of events to the subscribers of a bus, in order. -/
def deliveries (ds : List (Dispatcher π σ)) (ns : List (Notice π)) : List (Delivery π σ) :=
  ns.flatMap (deliveriesOf ds)

/-- These deliveries and no others were made, one after another, and each was accepted. -/
inductive Accepts : List (Delivery π σ) → σ → σ → Prop
  | nil (h : σ) : Accepts [] h h
  | cons {d : Delivery π σ} {ds : List (Delivery π σ)} {h h₁ h₂ : σ} :
      d.dispatcher d.notice h = (.ok (), h₁) → Accepts ds h₁ h₂ → Accepts (d :: ds) h h₂

theorem Accepts.append {ds ds' : List (Delivery π σ)} {h h₁ h₂ : σ} (hd : Accepts ds h h₁) (hd' : Accepts ds' h₁ h₂) :
    Accepts (ds ++ ds') h h₂ := by
  induction hd with
  | nil h => exact hd'
  | cons hok _ ih => exact .cons hok (ih hd')

theorem Accepts.of_append {ds ds' : List (Delivery π σ)} {h h₂ : σ} (hd : Accepts (ds ++ ds') h h₂) :
    ∃ h₁, Accepts ds h h₁ ∧ Accepts ds' h₁ h₂ := by
  induction ds generalizing h with
  | nil => exact ⟨h, .nil h, hd⟩
  | cons d ds ih =>
    cases hd with
    | cons hok hrest =>
      obtain ⟨h₁, hds, hds'⟩ := ih hrest
      exact ⟨h₁, .cons hok hds, hds'⟩

namespace Dispatcher

/-! ## One event -/

/-- What comes after the subscribers that accepted an event. -/
theorem bus_append {ds : List (Dispatcher π σ)} {n : Notice π} {h h₁ : σ} (ha : Accepts (deliveriesOf ds n) h h₁)
    (ds' : List (Dispatcher π σ)) : bus (ds ++ ds') n h = bus ds' n h₁ := by
  induction ds generalizing h with
  | nil =>
    cases ha
    rfl
  | cons d ds ih =>
    cases ha with
    | cons hok hrest =>
      have hok : d n h = _ := hok
      simp only [List.cons_append, bus, hok, ih hrest]

/-- The subscriber `j` refuses an event that those before it accepted. -/
def Refuses (ds : List (Dispatcher π σ)) (n : Notice π) (h : σ) (j : Nat) (error : DispatchError) (h' : σ) : Prop :=
  ∃ d h₁, ds[j]? = some d ∧ Accepts (deliveriesOf (ds.take j) n) h h₁ ∧ d n h₁ = (.error error, h')

theorem bus_of_accepts {ds : List (Dispatcher π σ)} {n : Notice π} {h h' : σ} (ha : Accepts (deliveriesOf ds n) h h') :
    bus ds n h = (.ok (), h') := by
  have hbus := bus_append ha []
  rwa [List.append_nil] at hbus

theorem bus_of_refuses {ds : List (Dispatcher π σ)} {n : Notice π} {h h' : σ} {j : Nat} {error : DispatchError}
    (hr : Refuses ds n h j error h') : bus ds n h = (.error error, h') := by
  obtain ⟨d, h₁, hj, ha, hd⟩ := hr
  rw [eq_take_append_cons_drop hj, bus_append ha]
  simp only [bus, hd]

theorem accepts_or_refuses (ds : List (Dispatcher π σ)) (n : Notice π) (h : σ) :
    (∃ h', Accepts (deliveriesOf ds n) h h') ∨ ∃ j error h', Refuses ds n h j error h' := by
  induction ds generalizing h with
  | nil => exact .inl ⟨h, .nil h⟩
  | cons d ds ih =>
    rcases hd : d n h with ⟨error | _, h₁⟩
    · exact .inr ⟨0, error, h₁, d, h, rfl, .nil h, hd⟩
    · rcases ih h₁ with ⟨h', ha⟩ | ⟨j, error, h', d', h₂, hj, ha, hd'⟩
      · exact .inl ⟨h', .cons hd ha⟩
      · exact .inr ⟨j + 1, error, h', d', h₂, hj, .cons hd ha, hd'⟩

/-! ## Many events -/

theorem go_append {ds : List (Dispatcher π σ)} {ns : List (Notice π)} {h h₁ : σ} (ha : Accepts (deliveries ds ns) h h₁)
    (done : Nat) (ns' : List (Notice π)) :
    dispatchAll.go (bus ds) done (ns ++ ns') h = dispatchAll.go (bus ds) (done + ns.length) ns' h₁ := by
  induction ns generalizing h done with
  | nil =>
    cases ha
    rfl
  | cons n ns ih =>
    obtain ⟨h₂, hfirst, hrest⟩ := Accepts.of_append ha
    simp only [List.cons_append, dispatchAll.go, bus_of_accepts hfirst, ih hrest, List.length_cons]
    congr 1
    omega

/-- The event `i` is the first that is refused, by the subscriber `j`; all deliveries before that were accepted. -/
def Rejects (ds : List (Dispatcher π σ)) (ns : List (Notice π)) (h : σ) (i j : Nat) (error : DispatchError) (h' : σ) :
    Prop :=
  ∃ n h₁, ns[i]? = some n ∧ Accepts (deliveries ds (ns.take i)) h h₁ ∧ Refuses ds n h₁ j error h'

/-- **A dispatch goes through** when every subscriber accepts every event in turn. -/
theorem dispatchAll_of_accepts {ds : List (Dispatcher π σ)} {ns : List (Notice π)} {h h' : σ}
    (ha : Accepts (deliveries ds ns) h h') : (bus ds).dispatchAll ns h = (.ok (), h') := by
  have hgo := go_append ha 0 []
  rwa [List.append_nil] at hgo

/-- **A dispatch stops at the first refusal**, and accounts for every event. -/
theorem dispatchAll_of_rejects {ds : List (Dispatcher π σ)} {ns : List (Notice π)} {h h' : σ} {i j : Nat}
    {error : DispatchError} (hr : Rejects ds ns h i j error h') :
    (bus ds).dispatchAll ns h = (.error (i, ns.length - i, error), h') := by
  obtain ⟨n, h₁, hi, ha, hrefused⟩ := hr
  obtain ⟨hlt, -⟩ := List.getElem?_eq_some_iff.mp hi
  have hgo := go_append ha 0 (n :: ns.drop (i + 1))
  rw [← eq_take_append_cons_drop hi] at hgo
  have hdone : 0 + (ns.take i).length = i := by simp; omega
  have hpending : (ns.drop (i + 1)).length + 1 = ns.length - i := by simp; omega
  rw [dispatchAll, hgo, dispatchAll.go, bus_of_refuses hrefused]
  simp only [hdone, hpending]

theorem accepts_or_rejects (ds : List (Dispatcher π σ)) (ns : List (Notice π)) (h : σ) :
    (∃ h', Accepts (deliveries ds ns) h h') ∨ ∃ i j error h', Rejects ds ns h i j error h' := by
  induction ns generalizing h with
  | nil => exact .inl ⟨h, .nil h⟩
  | cons n ns ih =>
    rcases accepts_or_refuses ds n h with ⟨h₁, hfirst⟩ | ⟨j, error, h', hrefused⟩
    · rcases ih h₁ with ⟨h', hrest⟩ | ⟨i, j, error, h', n', h₂, hi, hrest, hrefused⟩
      · exact .inl ⟨h', hfirst.append hrest⟩
      · exact .inr ⟨i + 1, j, error, h', n', h₂, hi, hfirst.append hrest, hrefused⟩
    · exact .inr ⟨0, j, error, h', n, h, rfl, .nil h, hrefused⟩

end Dispatcher

end Rollout
