import Rollout.Proofs.UseCases.Naming
import Rollout.Store.NamingQuery

/-!
# The two naming checks agree

The check for a stored app compares its row with the others, and the check for a new app looks for rows of a name. On
the tables without the row of the app they ask for the same (`Tables.requirement_deleteApp`), so that each slot is told
the same by both, whatever the other slot is (`Store.checks_agree`). The checks are what the database answers to their
queries (`NamingQuery.ask?_ofNew`, `NamingQuery.ask?_ofStored`).
-/

namespace Rollout

/-! ## Queries -/

namespace NamingQuery

variable {t : Tables} {id : AppId} {production staging : Option EnvConfig} {subject : AppRow}

/-- The query for a new app numbers its parameters as they are bound. -/
theorem ask?_ofNew (t : Tables) (name : AppName) (production staging : EnvConfig) :
    (ofNew name production staging).ask? (some production) (some staging) t =
      some (.ok (t.checkNaming name production staging)) := rfl

/-- Whether the target of a slot can be used; a slot that is not checked has none. -/
def found (t : Tables) : Option EnvConfig → Bool
  | none => false
  | some c => t.isUsable c.target

/-- Whether no app but the subject has its name on the target of a slot. -/
def available (t : Tables) (subject : AppRow) : Option EnvConfig → Bool
  | none => false
  | some c => !t.apps.any fun r => (r.id ≠ subject.id && r.name = subject.name) && r.isOn c.target

/-- Whichever slots are checked, the values that they bind are those that their own columns read. -/
theorem row?_ofStored (t : Tables) (id : AppId) (production staging : Option EnvConfig) :
    (ofStored id production staging).query.numbered.row? t ((ofStored id production staging).bound[· - 1]?) =
      (t.app? id).map fun subject =>
        [("production_target_exists", found t production), ("production_available", available t subject production),
         ("staging_target_exists", found t staging), ("staging_available", available t subject staging)] := by
  cases production <;> cases staging <;> rfl

theorem requirement_some {c : EnvConfig} (hid : subject.id = .value id) :
    requirement (some c) (found t (some c)) (available t subject (some c)) =
      t.requirement (·.id.holds id) subject.name c := by
  simp only [requirement, found, available, Tables.requirement, Tables.isFree, hid, Column.holds, decide_not]

theorem ask?_ofStored (t : Tables) (id : AppId) (production staging : Option EnvConfig) :
    (ofStored id production staging).ask? production staging t = some (t.checkNamingById id production staging) := by
  rw [ask?, row?_ofStored, Tables.checkNamingById]
  cases hrow : t.app? id with
  | none => rfl
  | some subject =>
    have hfound : t.apps.find? (·.id.holds id) = some subject := hrow
    have hholds := List.find?_some hfound
    have hid : subject.id = .value id := Column.holds_iff.mp hholds
    have hread : requirements? production staging
        [("production_target_exists", found t production), ("production_available", available t subject production),
          ("staging_target_exists", found t staging), ("staging_available", available t subject staging)] =
        some (requirement production (found t production) (available t subject production),
          requirement staging (found t staging) (available t subject staging)) := rfl
    simp only [Option.map_some, hread]
    cases production <;> cases staging <;> simp only [requirement_some hid] <;> rfl

end NamingQuery

/-! ## One slot -/

namespace Tables

variable {t : Tables} {id : AppId} {production staging : Option EnvConfig} {row : AppRow}

theorem pick_checkNaming (t : Tables) (name : AppName) (production staging : EnvConfig) (e : Environment) :
    e.pick (t.checkNaming name production staging) =
      t.requirement (fun _ => false) (.value name.text) (e.pick (production, staging)) := by
  cases e <;> rfl

theorem checkNamingById_of_missing (h : t.app? id = none) :
    t.checkNamingById id production staging = .error (.notFound "app") := by
  rw [checkNamingById, h]

theorem pick_checkNamingById_of_absent {e : Environment} (hrow : t.app? id = some row)
    (habsent : e.pick (production, staging) = none) :
    (t.checkNamingById id production staging).map e.pick = .ok .empty := by
  rw [checkNamingById, hrow]
  cases e <;> cases habsent <;> rfl

theorem pick_checkNamingById_of_present {e : Environment} {c : EnvConfig} (hrow : t.app? id = some row)
    (hpresent : e.pick (production, staging) = some c) :
    (t.checkNamingById id production staging).map e.pick = .ok (t.requirement (·.id.holds id) row.name c) := by
  rw [checkNamingById, hrow]
  cases e <;> cases hpresent <;> rfl

/-- An app does not stand in its own way: leaving its row out comes to the same as taking it away. -/
theorem requirement_deleteApp (t : Tables) (id : AppId) (name : Column String) (c : EnvConfig) :
    (t.deleteApp id).requirement (fun _ => false) name c = t.requirement (·.id.holds id) name c := by
  have hfree : (t.deleteApp id).isFree (fun _ => false) name c.target = t.isFree (·.id.holds id) name c.target := by
    simp only [isFree, deleteApp, List.any_filter, Bool.not_false, Bool.true_and, Bool.and_assoc]
  rw [requirement, requirement, hfree]
  rfl

end Tables

/-! ## Stores -/

namespace Store

variable {s : Store} {id : AppId} {production staging : Option EnvConfig} {α β : Type}

/-- The store on the same database without the row of the app. -/
def withoutApp (s : Store) (id : AppId) : Store := { s with db := { s.db with tables := s.db.tables.deleteApp id } }

/-- The answer to a question, if the database gives one. -/
def answer (s : Store) (a : Except StoreError β) : Except StoreError β := (s.query fun _ => a).1

theorem fst_query (s : Store) (question : Tables → Except StoreError β) :
    (s.query question).1 = s.answer (question s.db.tables) := by
  have htables := s.db.tables_access
  rcases haccess : s.db.access with ⟨e | u, db⟩
  · simp only [answer, query, Database.query, haccess]
  · rw [haccess] at htables
    simp only [answer, query, Database.query, haccess]
    rw [htables]

theorem map_answer (s : Store) (f : α → β) (a : Except StoreError α) : (s.answer a).map f = s.answer (a.map f) := by
  rcases haccess : s.db.access with ⟨e | u, db⟩
  · simp only [answer, query, Database.query, haccess, Except.map]
  · simp only [answer, query, Database.query, haccess]

/-- Whether the database answers does not depend on its apps. -/
theorem answer_withoutApp (s : Store) (id : AppId) (a : Except StoreError β) :
    (s.withoutApp id).answer a = s.answer a := by
  obtain ⟨⟨tables, isClosed, faults⟩, bus, hub⟩ := s
  cases isClosed with
  | true => rfl
  | false => rcases faults with _ | ⟨_ | e, faults⟩ <;> rfl

theorem fst_checkNamingById (h : production.isSome ∨ staging.isSome) :
    (s.checkNamingById id production staging).1 = s.answer (s.db.tables.checkNamingById id production staging) := by
  have hasked : (production.isNone && staging.isNone) = false := by
    rcases h with h | h
    · rw [Option.isNone_eq_false_iff.mpr h, Bool.false_and]
    · rw [Option.isNone_eq_false_iff.mpr h, Bool.and_false]
  rw [checkNamingById, hasked, if_neg Bool.false_ne_true, fst_query]

/-- What the check for a stored app answers for each of its slots, and that both checks are what the database answers to
their queries. -/
structure NamingAgrees (s : Store) (id : AppId) (production staging : Option EnvConfig) : Prop where
  query_new : ∀ (t : Tables) (input : NewApp),
    (NamingQuery.ofNew input.name input.production input.staging).ask? (some input.production) (some input.staging) t =
      some (.ok (t.checkNaming input.name input.production input.staging))
  query_stored : ∀ t : Tables,
    (NamingQuery.ofStored id production staging).ask? production staging t =
      some (t.checkNamingById id production staging)
  missing : s.db.tables.app? id = none →
    (s.checkNamingById id production staging).1 = s.answer (.error (.notFound "app"))
  absent : ∀ (row : AppRow) (e : Environment), s.db.tables.app? id = some row → e.pick (production, staging) = none →
    (s.checkNamingById id production staging).1.map e.pick = s.answer (.ok .empty)
  /-- Whatever the row calls the app, be it the name of an app or not. -/
  present : ∀ (row : AppRow) (e : Environment) (c : EnvConfig), s.db.tables.app? id = some row →
    e.pick (production, staging) = some c →
    (s.checkNamingById id production staging).1.map e.pick =
      s.answer (.ok ((s.withoutApp id).db.tables.requirement (fun _ => false) row.name c))
  /-- Whatever the other slot is, here and for the new app. -/
  agrees : ∀ (row : AppRow) (e : Environment) (c : EnvConfig) (input : NewApp), s.db.tables.app? id = some row →
    e.pick (production, staging) = some c → row.name = .value input.name.text →
    e.pick (input.production, input.staging) = c →
    (s.checkNamingById id production staging).1.map e.pick = ((s.withoutApp id).checkNew input).1.map e.pick

/-- A slot that is to change is told what a new app of the same name would be told if the app were not there. -/
theorem checks_agree (s : Store) (id : AppId) (production staging : Option EnvConfig)
    (h : production.isSome ∨ staging.isSome) : NamingAgrees s id production staging := by
  have hasked : (s.checkNamingById id production staging).1 =
      s.answer (s.db.tables.checkNamingById id production staging) := fst_checkNamingById h
  have hpresent (row : AppRow) (e : Environment) (c : EnvConfig) (hrow : s.db.tables.app? id = some row)
      (hc : e.pick (production, staging) = some c) : (s.checkNamingById id production staging).1.map e.pick =
        s.answer (.ok ((s.withoutApp id).db.tables.requirement (fun _ => false) row.name c)) := by
    have hwithout : (s.withoutApp id).db.tables.requirement (fun _ => false) row.name c =
        s.db.tables.requirement (·.id.holds id) row.name c := Tables.requirement_deleteApp ..
    rw [hasked, map_answer, Tables.pick_checkNamingById_of_present hrow hc, hwithout]
  constructor
  case query_new => exact fun t input => NamingQuery.ask?_ofNew t input.name input.production input.staging
  case query_stored => exact fun t => NamingQuery.ask?_ofStored t id production staging
  case missing =>
    intro hrow
    rw [hasked, Tables.checkNamingById_of_missing hrow]
  case absent =>
    intro row e hrow habsent
    rw [hasked, map_answer, Tables.pick_checkNamingById_of_absent hrow habsent]
  case present => exact hpresent
  case agrees =>
    intro row e c input hrow hc hname hsame
    have hnew : ((s.withoutApp id).checkNew input).1 =
        s.answer (.ok ((s.withoutApp id).db.tables.checkNaming input.name input.production input.staging)) := by
      rw [checkNew, fst_query, answer_withoutApp]
    rw [hpresent row e c hrow hc, hnew, map_answer, Except.map, Tables.pick_checkNaming, hsame, hname]

/-! ## Two apps of one name -/

namespace Twins

def east : TargetId := default

def west : TargetId := ⟨⟨1⟩⟩

def config (target : TargetId) : EnvConfig := ⟨target, default, none⟩

theorem isValid_cafe : AppName.isValid "cafe".toList := by decide

def name : AppName := ⟨"cafe", isValid_cafe⟩

def first : AppId := default

def second : AppId := ⟨⟨1⟩⟩

/-- An app with both of its environments on one target. -/
def row (id : AppId) (target : TargetId) : AppRow :=
  .ofCreated id name (config target) (config target) ⟨default, default⟩

/-- Two apps of one name, each of which has a target for itself. -/
def site : Store :=
  ⟨⟨⟨[⟨east, false⟩, ⟨west, false⟩], [row first east, row second west], []⟩, false, []⟩, [],
    ⟨.empty ⟨1, .zero, .zero⟩ 1, []⟩⟩

/-- Asks for one target in both environments. -/
def input : NewApp := ⟨name, config west, config west, none⟩

end Twins

open Twins in
/-- The first app may stay where it is, but not join the second one. -/
theorem checks_agree_twins :
    ((some (config west)).isSome ∨ (some (config east)).isSome) ∧
      NamingAgrees site first (some (config west)) (some (config east)) ∧
      site.db.tables.app? first = some (row first east) ∧
      (site.checkNamingById first (some (config west)) (some (config east))).1 =
        .ok (.of (config west) true false, .of (config east) true true) ∧
      ((site.withoutApp first).checkNew input).1 = .ok (.of (config west) true false, .of (config west) true false) :=
  ⟨.inl rfl, checks_agree site first (some (config west)) (some (config east)) (.inl rfl), by decide +kernel,
    by decide +kernel, by decide +kernel⟩

end Store

end Rollout
