import Rollout.Store

/-!
# Transactions

A transaction makes one access to the database to begin, one for each event, and one to commit; the n-th access from now
fails if the database says so (`Database.refusal?`). What can go wrong with a transaction is said without running it
(`Database.Refuses`): it fails just so (`transact_of_refuses`), and otherwise its events change the tables one after
another (`transact_of_not_refuses`).
-/

namespace Rollout.Database

variable {ε : Type} {db : Database} {apply : Tables → ε → Except DatabaseError Tables} {es : List ε}
  {tables tables' : Tables} {error : DatabaseError} {k : Nat}

/-! ## Accesses -/

/-- The failure of the access that comes after `k` others. -/
def refusal? (db : Database) (k : Nat) : Option DatabaseError :=
  if db.isClosed then some .closed else db.faults[k]?.join

/-- The database after `k` accesses that left the tables alone. -/
def skip (db : Database) (k : Nat) : Database :=
  if db.isClosed then db else { db with faults := db.faults.drop k }

@[simp] theorem tables_skip : (db.skip k).tables = db.tables := by
  unfold skip
  split <;> rfl

@[simp] theorem skip_zero : db.skip 0 = db := by
  unfold skip
  split <;> rfl

@[simp] theorem skip_skip (j : Nat) : (db.skip j).skip k = db.skip (j + k) := by
  unfold skip
  split
  · simp [*]
  · simp [*, List.drop_drop]

@[simp] theorem refusal?_skip (j : Nat) : (db.skip j).refusal? k = db.refusal? (j + k) := by
  unfold skip refusal?
  split
  · simp [*]
  · simp [*]

theorem access_of_refusal (h : db.refusal? 0 = some error) : db.access = (.error error, db.skip 1) := by
  obtain ⟨tables, isClosed, faults⟩ := db
  cases isClosed with
  | true => simpa [refusal?, access, skip] using h
  | false => rcases faults with _ | ⟨_ | e, faults⟩ <;> simp_all [refusal?, access, skip]

theorem access_of_granted (h : db.refusal? 0 = none) : db.access = (.ok (), db.skip 1) := by
  obtain ⟨tables, isClosed, faults⟩ := db
  cases isClosed with
  | true => simp [refusal?] at h
  | false => rcases faults with _ | ⟨_ | e, faults⟩ <;> simp_all [refusal?, access, skip]

/-- A question is answered from the tables, unless its access fails. -/
theorem query_cases {β : Type} (db : Database) (question : Tables → Except StoreError β) :
    (∃ error, db.query question = (.error (.database error), db.skip 1)) ∨
    db.query question = (question db.tables, db.skip 1) := by
  unfold query
  cases h : db.refusal? 0 with
  | some error => exact .inl ⟨error, by rw [access_of_refusal h]⟩
  | none => exact .inr (by rw [access_of_granted h]; simp only [tables_skip])

/-- Whether the next `n` accesses succeed. -/
def Grants (db : Database) (n : Nat) : Prop := ∀ k < n, db.refusal? k = none

theorem grants_succ_iff {n : Nat} : db.Grants (n + 1) ↔ db.refusal? 0 = none ∧ (db.skip 1).Grants n := by
  simp only [Grants, refusal?_skip, Nat.add_comm 1]
  refine ⟨fun h => ⟨h 0 (Nat.zero_lt_succ n), fun k hk => h (k + 1) (Nat.succ_lt_succ hk)⟩, fun ⟨h₀, h⟩ k hk => ?_⟩
  cases k with
  | zero => exact h₀
  | succ k => exact h k (Nat.lt_of_succ_lt_succ hk)

/-! ## Events -/

theorem foldlM_cons_of_ok {ev : ε} (h : apply tables ev = .ok tables') (es : List ε) :
    (ev :: es).foldlM apply tables = es.foldlM apply tables' := by
  rw [List.foldlM_cons, h]
  rfl

theorem exists_of_foldlM_cons {ev : ε} (h : (ev :: es).foldlM apply tables = .ok tables') :
    ∃ next, apply tables ev = .ok next ∧ es.foldlM apply next = .ok tables' := by
  rw [List.foldlM_cons] at h
  cases hev : apply tables ev with
  | error e => rw [hev] at h; cases h
  | ok next => rw [hev] at h; exact ⟨next, rfl, h⟩

/-- What comes after the events that went through. -/
theorem applyAll_append (hgrants : db.Grants es.length) (happlied : es.foldlM apply tables = .ok tables')
    (rest : List ε) :
    applyAll apply (es ++ rest) tables db = applyAll apply rest tables' (db.skip es.length) := by
  induction es generalizing tables db with
  | nil =>
    obtain rfl : tables = tables' := Except.ok.inj happlied
    simp
  | cons ev es ih =>
    obtain ⟨hfirst, hgrants⟩ := grants_succ_iff.mp hgrants
    obtain ⟨next, hev, happlied⟩ := exists_of_foldlM_cons happlied
    rw [List.cons_append, applyAll, access_of_granted hfirst]
    simp only [hev, ih hgrants happlied, skip_skip, List.length_cons, Nat.add_comm]

/-- The event `ev` cannot be applied in its access. -/
def RefusesEvent (apply : Tables → ε → Except DatabaseError Tables) (db : Database) (tables : Tables) (ev : ε)
    (error : DatabaseError) : Prop :=
  db.refusal? 0 = some error ∨ db.refusal? 0 = none ∧ apply tables ev = .error error

theorem applyAll_of_refusesEvent {ev : ε} (h : RefusesEvent apply db tables ev error) (rest : List ε) :
    applyAll apply (ev :: rest) tables db = (.error error, db.skip 1) := by
  rcases h with h | ⟨h, hev⟩
  · rw [applyAll, access_of_refusal h]
  · rw [applyAll, access_of_granted h]
    simp only [hev]

/-- Either all events go through, or one is refused after those before it. -/
theorem applyAll_cases (apply : Tables → ε → Except DatabaseError Tables) (es : List ε) (tables : Tables)
    (db : Database) :
    (∃ tables', db.Grants es.length ∧ es.foldlM apply tables = .ok tables') ∨
    ∃ before ev after tables' error, es = before ++ ev :: after ∧ db.Grants before.length ∧
      before.foldlM apply tables = .ok tables' ∧ RefusesEvent apply (db.skip before.length) tables' ev error := by
  induction es generalizing tables db with
  | nil => exact .inl ⟨tables, fun k hk => absurd hk (Nat.not_lt_zero k), rfl⟩
  | cons ev es ih =>
    have hnone : db.Grants ([] : List ε).length := fun k hk => absurd hk (Nat.not_lt_zero k)
    cases hrefusal : db.refusal? 0 with
    | some e => exact .inr ⟨[], ev, es, tables, e, rfl, hnone, rfl, .inl (by simpa using hrefusal)⟩
    | none =>
      cases hev : apply tables ev with
      | error e => exact .inr ⟨[], ev, es, tables, e, rfl, hnone, rfl, .inr ⟨by simpa using hrefusal, hev⟩⟩
      | ok next =>
        rcases ih next (db.skip 1) with ⟨tables', hgrants, happlied⟩ | hrefused
        · exact .inl ⟨tables', grants_succ_iff.mpr ⟨hrefusal, hgrants⟩, (foldlM_cons_of_ok hev es).trans happlied⟩
        · obtain ⟨before, ev', after, tables', e, rfl, hgrants, happlied, hrefused⟩ := hrefused
          refine .inr ⟨ev :: before, ev', after, tables', e, rfl, grants_succ_iff.mpr ⟨hrefusal, hgrants⟩,
            (foldlM_cons_of_ok hev before).trans happlied, ?_⟩
          rwa [skip_skip, Nat.add_comm] at hrefused

/-! ## Transactions -/

/-- What goes wrong with a transaction over the events `es`. -/
inductive Refuses (db : Database) (apply : Tables → ε → Except DatabaseError Tables) (es : List ε) :
    DatabaseError → Prop
  | begin {error : DatabaseError} (h : db.refusal? 0 = some error) : Refuses db apply es error
  | event {before after : List ε} {ev : ε} {tables : Tables} {error : DatabaseError} (hes : es = before ++ ev :: after)
      (hgrants : db.Grants (before.length + 1)) (happlied : before.foldlM apply db.tables = .ok tables)
      (hrefused : RefusesEvent apply (db.skip (before.length + 1)) tables ev error) : Refuses db apply es error
  | commit {tables : Tables} {error : DatabaseError} (hgrants : db.Grants (es.length + 1))
      (happlied : es.foldlM apply db.tables = .ok tables) (h : db.refusal? (es.length + 1) = some error) :
      Refuses db apply es error

/-- **A transaction fails as a whole**: its error is that of what went wrong, and the tables stay. -/
theorem transact_of_refuses (h : db.Refuses apply es error) :
    ∃ k, db.transact apply es = (.error error, db.skip k) := by
  cases h with
  | begin h => exact ⟨1, by rw [transact, access_of_refusal h]⟩
  | @event before after ev tables _ hes hgrants happlied hrefused =>
    obtain ⟨hfirst, hgrants⟩ := grants_succ_iff.mp hgrants
    have hall : applyAll apply es (db.skip 1).tables (db.skip 1) =
        (.error error, (db.skip (before.length + 1)).skip 1) := by
      rw [hes, tables_skip, applyAll_append hgrants happlied, skip_skip, Nat.add_comm 1,
        applyAll_of_refusesEvent hrefused]
    exact ⟨before.length + 1 + 1, by rw [transact, access_of_granted hfirst]; simp only [hall, skip_skip]⟩
  | @commit tables _ hgrants happlied h =>
    obtain ⟨hfirst, hgrants⟩ := grants_succ_iff.mp hgrants
    have hall := applyAll_append hgrants happlied []
    rw [List.append_nil, skip_skip, Nat.add_comm 1, applyAll] at hall
    have hcommit : (db.skip (es.length + 1)).access = (.error error, (db.skip (es.length + 1)).skip 1) :=
      access_of_refusal (by simpa using h)
    refine ⟨es.length + 1 + 1, ?_⟩
    rw [transact, access_of_granted hfirst]
    simp only [tables_skip, hall, hcommit, skip_skip]

/-- **A transaction that nothing goes wrong with** leaves the tables that its events make one after another. -/
theorem transact_of_not_refuses (h : ∀ error, ¬db.Refuses apply es error) :
    ∃ tables, es.foldlM apply db.tables = .ok tables ∧
      db.transact apply es = (.ok (), { db.skip (es.length + 2) with tables }) := by
  cases hfirst : db.refusal? 0 with
  | some e => exact absurd (.begin hfirst) (h e)
  | none =>
    rcases applyAll_cases apply es db.tables (db.skip 1) with ⟨tables, hgrants, happlied⟩ | hrefused
    · have hgrants' := grants_succ_iff.mpr ⟨hfirst, hgrants⟩
      have hall := applyAll_append hgrants happlied []
      rw [List.append_nil, skip_skip, Nat.add_comm 1, applyAll] at hall
      cases hcommit : db.refusal? (es.length + 1) with
      | some e => exact absurd (.commit hgrants' happlied hcommit) (h e)
      | none =>
        have haccess : (db.skip (es.length + 1)).access = (.ok (), (db.skip (es.length + 1)).skip 1) :=
          access_of_granted (by simpa using hcommit)
        refine ⟨tables, happlied, ?_⟩
        rw [transact, access_of_granted hfirst]
        simp only [tables_skip, hall, haccess, skip_skip]
    · obtain ⟨before, ev, after, tables, e, hes, hgrants, happlied, hrefused⟩ := hrefused
      rw [skip_skip, Nat.add_comm 1] at hrefused
      exact absurd (.event hes (grants_succ_iff.mpr ⟨hfirst, hgrants⟩) happlied hrefused) (h e)

end Rollout.Database
