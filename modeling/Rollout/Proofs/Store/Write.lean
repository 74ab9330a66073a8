import Rollout.Proofs.Store.Delivery
import Rollout.Proofs.Store.Transaction

/-!
# Writing aggregates

A write stores all pending events of some aggregates or none. What went wrong with its transaction is its result, and
then nothing has happened to the tables, to the aggregates or to the subscribers. Once the events are stored they stay
so, the aggregates keep none of them, and they go to the subscribers in the order in which they were stored, up to the
first subscriber that refuses one (`write_atomic`).
-/

namespace Rollout

/-- Whether a write with this result stored the events, be it that not all of them got through to the subscribers. -/
def wasStored : Except StoreError Unit → Bool
  | .ok _ | .error (.undispatched ..) => true
  | .error _ => false

namespace Database

variable {A ε σ : Type} [Aggregate A ε]

/-- A write whose transaction fails does nothing. -/
theorem write_of_refuses {db : Database} {as : List A} {error : DatabaseError}
    (h : db.Refuses (Aggregate.apply A) (pendingEvents as) error) (d : Dispatcher Payload σ) (hub : σ) :
    ∃ k, db.write d as hub = (.error (.database error), as, db.skip k, hub) := by
  obtain ⟨k, hk⟩ := transact_of_refuses h
  exact ⟨k, by simp only [write, hk]⟩

/-- A write whose transaction goes through stores everything, whatever the dispatcher. -/
theorem write_of_not_refuses {db : Database} {as : List A}
    (h : ∀ error, ¬db.Refuses (Aggregate.apply A) (pendingEvents as) error) (d : Dispatcher Payload σ) (hub : σ) :
    ∃ result tables k hub', (pendingEvents as).foldlM (Aggregate.apply A) db.tables = .ok tables ∧
      wasStored result = true ∧
      db.write d as hub = (result, as.map Aggregate.cleared, { db.skip k with tables }, hub') := by
  obtain ⟨tables, happlied, htransact⟩ := transact_of_not_refuses h
  rcases hdispatch : d.dispatchAll ((pendingEvents as).map (Aggregate.notice A)) hub with
    ⟨⟨dispatched, pending, source⟩ | _, hub'⟩
  · refine ⟨.error (.undispatched dispatched pending source), tables, (pendingEvents as).length + 2, hub',
      happlied, rfl, ?_⟩
    simp only [write, htransact, hdispatch]
  · refine ⟨.ok (), tables, (pendingEvents as).length + 2, hub', happlied, rfl, ?_⟩
    simp only [write, htransact, hdispatch]

/-- **A write does nothing or stores everything**, whatever the dispatcher. -/
theorem write_cases (db : Database) (d : Dispatcher Payload σ) (as : List A) (hub : σ) :
    (∃ error k, db.write d as hub = (.error (.database error), as, db.skip k, hub)) ∨
    ∃ result tables k hub', (pendingEvents as).foldlM (Aggregate.apply A) db.tables = .ok tables ∧
      wasStored result = true ∧
      db.write d as hub = (result, as.map Aggregate.cleared, { db.skip k with tables }, hub') := by
  by_cases hrefused : ∃ error, db.Refuses (Aggregate.apply A) (pendingEvents as) error
  · obtain ⟨error, hrefused⟩ := hrefused
    exact .inl ⟨error, write_of_refuses hrefused d hub⟩
  · exact .inr (write_of_not_refuses (fun error h => hrefused ⟨error, h⟩) d hub)

section Stored

variable {db db' : Database} {as : List A} {ds : List (Dispatcher Payload σ)} {hub hub' : σ}
  (htransact : db.transact (Aggregate.apply A) (pendingEvents as) = (.ok (), db'))

include htransact

theorem write_of_accepts (ha : Accepts (deliveries ds ((pendingEvents as).map (Aggregate.notice A))) hub hub') :
    db.write (.bus ds) as hub = (.ok (), as.map Aggregate.cleared, db', hub') := by
  simp only [write, htransact, Dispatcher.dispatchAll_of_accepts ha]

theorem write_of_rejects {i j : Nat} {error : DispatchError}
    (hr : Dispatcher.Rejects ds ((pendingEvents as).map (Aggregate.notice A)) hub i j error hub') :
    db.write (.bus ds) as hub =
      (.error (.undispatched i ((pendingEvents as).length - i) error), as.map Aggregate.cleared, db', hub') := by
  simp only [write, htransact, Dispatcher.dispatchAll_of_rejects hr, List.length_map]

end Stored

theorem pending_of_mem_cleared {as : List A} : ∀ a ∈ as.map Aggregate.cleared, Aggregate.pending a = [] := by
  intro a ha
  obtain ⟨b, -, rfl⟩ := List.mem_map.mp ha
  exact Aggregate.pending_cleared b

/-- **A write does nothing or stores everything**, and then accounts for what the subscribers got. -/
theorem write_atomic (db : Database) (as : List A) (ds : List (Dispatcher Payload σ)) (hub : σ) :
    ∃ result as' db' hub', db.write (.bus ds) as hub = (result, as', db', hub') ∧
      (∀ error, db.Refuses (Aggregate.apply A) (pendingEvents as) error →
        result = .error (.database error) ∧ as' = as ∧ db'.tables = db.tables ∧ hub' = hub) ∧
      ((∀ error, ¬db.Refuses (Aggregate.apply A) (pendingEvents as) error) →
        (pendingEvents as).foldlM (Aggregate.apply A) db.tables = .ok db'.tables ∧
        as' = as.map Aggregate.cleared ∧ (∀ a ∈ as', Aggregate.pending a = []) ∧
        (∀ i j error h, Dispatcher.Rejects ds ((pendingEvents as).map (Aggregate.notice A)) hub i j error h →
          result = .error (.undispatched i ((pendingEvents as).length - i) error) ∧ hub' = h) ∧
        ((∀ i j error h, ¬Dispatcher.Rejects ds ((pendingEvents as).map (Aggregate.notice A)) hub i j error h) →
          result = .ok () ∧ Accepts (deliveries ds ((pendingEvents as).map (Aggregate.notice A))) hub hub')) := by
  rcases hwrite : db.write (.bus ds) as hub with ⟨result, as', db', hub'⟩
  refine ⟨result, as', db', hub', rfl, fun error hrefused => ?_, fun hnot => ?_⟩
  · obtain ⟨k, hrefuses⟩ := write_of_refuses hrefused (.bus ds) hub
    cases hwrite.symm.trans hrefuses
    exact ⟨rfl, rfl, tables_skip, rfl⟩
  · obtain ⟨tables, happlied, htransact⟩ := transact_of_not_refuses hnot
    have hrejected (i j : Nat) (error : DispatchError) (h : σ)
        (hr : Dispatcher.Rejects ds ((pendingEvents as).map (Aggregate.notice A)) hub i j error h) :
        result = .error (.undispatched i ((pendingEvents as).length - i) error) ∧ hub' = h := by
      cases hwrite.symm.trans (write_of_rejects htransact hr)
      exact ⟨rfl, rfl⟩
    rcases Dispatcher.accepts_or_rejects ds ((pendingEvents as).map (Aggregate.notice A)) hub with
      ⟨hub', ha⟩ | ⟨i, j, error, hub', hr⟩
    · cases hwrite.symm.trans (write_of_accepts htransact ha)
      exact ⟨happlied, rfl, pending_of_mem_cleared, hrejected, fun _ => ⟨rfl, ha⟩⟩
    · cases hwrite.symm.trans (write_of_rejects htransact hr)
      exact ⟨happlied, rfl, pending_of_mem_cleared, hrejected, fun hnone => absurd hr (hnone i j error hub')⟩

end Database

namespace Store

/-- A question fails or is answered from the tables, which stay as they are. -/
theorem query_cases {β : Type} (s : Store) (question : Tables → Except StoreError β) :
    (∃ error s', s.query question = (.error error, s') ∧ s'.db.tables = s.db.tables) ∨
    ∃ b s', s.query question = (.ok b, s') ∧ question s.db.tables = .ok b ∧ s'.db.tables = s.db.tables := by
  rw [query]
  rcases s.db.query_cases question with ⟨error, hquery⟩ | hquery
  · rw [hquery]
    exact .inl ⟨_, _, rfl, Database.tables_skip⟩
  · rw [hquery]
    cases question s.db.tables with
    | error error => exact .inl ⟨error, _, rfl, Database.tables_skip⟩
    | ok b => exact .inr ⟨b, _, rfl, rfl, Database.tables_skip⟩

theorem write_cases {A ε : Type} [Aggregate A ε] (s : Store) (as : List A) :
    (∃ error k, s.write as = (.error (.database error), as, { s with db := s.db.skip k })) ∨
    ∃ result tables k hub, (pendingEvents as).foldlM (Aggregate.apply A) s.db.tables = .ok tables ∧
      wasStored result = true ∧
      s.write as = (result, as.map Aggregate.cleared, { s with db := { s.db.skip k with tables }, hub }) := by
  rcases s.db.write_cases (.bus (dispatchersOf Work.registry s.bus)) as s.hub with
    ⟨error, k, hwrite⟩ | ⟨result, tables, k, hub, happlied, hstored, hwrite⟩
  · exact .inl ⟨error, k, by simp only [write, writeTo, hwrite]⟩
  · exact .inr ⟨result, tables, k, hub, happlied, hstored, by simp only [write, writeTo, hwrite]⟩

/-- The store after `k` accesses that left the tables alone. -/
def skip (s : Store) (k : Nat) : Store := { s with db := s.db.skip k }

variable {s : Store}

@[simp] theorem tables_skip (k : Nat) : (s.skip k).db.tables = s.db.tables := Database.tables_skip

@[simp] theorem skip_skip (j k : Nat) : (s.skip j).skip k = s.skip (j + k) := by
  rw [skip, skip, skip, Database.skip_skip]

theorem skip_zero : s.skip 0 = s := by
  rw [skip, Database.skip_zero]

section Transactions

variable {A ε : Type} [Aggregate A ε] {as : List A}

/-- A write whose transaction fails does nothing. -/
theorem write_of_refuses {error : DatabaseError} (h : s.db.Refuses (Aggregate.apply A) (pendingEvents as) error) :
    ∃ k, s.write as = (.error (.database error), as, s.skip k) := by
  obtain ⟨k, hwrite⟩ := Database.write_of_refuses h (.bus (dispatchersOf Work.registry s.bus)) s.hub
  refine ⟨k, ?_⟩
  simp only [write, writeTo, hwrite, skip]

/-- A write whose transaction goes through stores everything. -/
theorem write_of_not_refuses (h : ∀ error, ¬s.db.Refuses (Aggregate.apply A) (pendingEvents as) error) :
    wasStored (s.write as).1 = true ∧
      (pendingEvents as).foldlM (Aggregate.apply A) s.db.tables = .ok (s.write as).2.2.db.tables := by
  obtain ⟨result, tables, k, hub, happlied, hstored, hwrite⟩ :=
    Database.write_of_not_refuses h (.bus (dispatchersOf Work.registry s.bus)) s.hub
  simp only [write, writeTo, hwrite]
  exact ⟨hstored, happlied⟩

end Transactions

/-- A question fails at the database, or is answered. -/
theorem query_eq {α : Type} (s : Store) (question : Tables → Except StoreError α) :
    (∃ error, s.query question = (.error (.database error), s.skip 1)) ∨
      s.query question = (question s.db.tables, s.skip 1) := by
  rw [query]
  rcases s.db.query_cases question with ⟨error, hquery⟩ | hquery
  · exact .inl ⟨error, by rw [hquery]; rfl⟩
  · exact .inr (by rw [hquery]; rfl)

end Store

end Rollout
