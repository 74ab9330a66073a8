import Rollout.Proofs.Store.Write
import Rollout.UseCases

/-!
# What use cases come to

A use case looks at the store, builds an aggregate from what it is told, and writes it. So it fails at the store, is
refused by what it was to build, or has written what was built (`Store.Comes`); in the first two cases the tables stay
as they are.
-/

namespace Rollout

namespace Tables

variable {t : Tables} {e : StoreError}

theorem wasStored_of_app {id : AppId} (h : t.app id = .error e) : wasStored (.error e) = false := by
  unfold app readRow at h
  split at h
  · cases h
    rfl
  · next row _ =>
    cases hread : row.toApp with
    | error error =>
      rw [hread] at h
      cases h
      rfl
    | ok a =>
      rw [hread] at h
      cases h

theorem wasStored_of_checkNamingById {id : AppId} {production staging : Option EnvConfig}
    (h : t.checkNamingById id production staging = .error e) : wasStored (.error e) = false := by
  unfold checkNamingById at h
  split at h
  · cases h
    rfl
  · cases h

theorem wasStored_of_nextNumber {app : AppId} (h : t.nextNumber app = .error e) : wasStored (.error e) = false := by
  unfold nextNumber at h
  split at h
  · cases h
    rfl
  · split at h
    · cases h
    · cases h
      rfl

end Tables

namespace Store

variable {A ε β : Type} [Aggregate A ε] {s s' : Store} {answer : β} {result : Except CommandError β}
  {Builds : β → Except AppError A → Prop}

/-- What a use case can come to that looks at the store and writes what it builds; `Builds` says what that can be, and
what is answered once it is written. -/
inductive Comes (s : Store) (Builds : β → Except AppError A → Prop) : Except CommandError β → Store → Prop where
  | fails {e : StoreError} (k : Nat) (hnot : wasStored (.error e) = false) :
    Comes s Builds (.error (.store e)) (s.skip k)
  | refused {answer : β} {e : AppError} (k : Nat) (h : Builds answer (.error e)) :
    Comes s Builds (.error (.rejected e)) (s.skip k)
  | written {answer : β} {a : A} {written : Except StoreError Unit} {as : List A} {s' : Store} (k : Nat)
      (h : Builds answer (.ok a)) (hwrite : (s.skip k).write [a] = (written, as, s'))
      (hstored : wasStored written = true) :
    Comes s Builds ((written.map fun _ => answer).mapError .store) s'

/-- A use case leaves the tables as they are, or has stored what it built. -/
theorem Comes.tables_cases (h : Comes s Builds result s') :
    s'.db.tables = s.db.tables ∨ ∃ answer a, Builds answer (.ok a) ∧
      (Aggregate.pending a).foldlM (Aggregate.apply A) s.db.tables = .ok s'.db.tables := by
  cases h with
  | fails k _ => exact .inl (tables_skip k)
  | refused k _ => exact .inl (tables_skip k)
  | @written answer a written as s' k hbuilds hwrite hstored =>
    rcases (s.skip k).write_cases [a] with ⟨error, j, hrefused⟩ | ⟨result, tables, j, hub, happlied, -, haccepted⟩
    · cases hwrite.symm.trans hrefused
      cases hstored
    · cases hwrite.symm.trans haccepted
      rw [pendingEvents, List.flatMap_singleton, tables_skip] at happlied
      exact .inr ⟨answer, a, hbuilds, happlied⟩

/-- What is answered makes no difference to a commit. -/
theorem commit_map (s : Store) (answer : β) (built : Except AppError A) :
    s.commit () built = ((s.commit answer built).1.map fun _ => (), (s.commit answer built).2) := by
  cases built with
  | error e => rfl
  | ok a =>
    simp only [commit]
    rcases s.write [a] with ⟨_ | _, as, s'⟩ <;> rfl

theorem comes_of_commit {built : Except AppError A} (k : Nat) (hbuilt : Builds answer built)
    (h : (s.skip k).commit answer built = (result, s')) : Comes s Builds result s' := by
  cases built with
  | error e =>
    cases h
    exact .refused k hbuilt
  | ok a =>
    rcases (s.skip k).write_cases [a] with ⟨error, j, hwrite⟩ | ⟨written, tables, j, hub, -, hstored, hwrite⟩
    · rw [commit, hwrite] at h
      cases h
      have hfails : Comes s Builds (.error (.store (.database error))) (s.skip (k + j)) := .fails (k + j) rfl
      rwa [← skip_skip] at hfails
    · have hcomes := Comes.written k hbuilt hwrite hstored
      rw [commit, hwrite] at h
      cases written with
      | error e =>
        cases h
        exact hcomes
      | ok u =>
        cases h
        exact hcomes

/-- A use case that goes on with an answer comes to what it comes to from there on. -/
theorem comes_of_andThen {α : Type} {question : Tables → Except StoreError α}
    {next : α → Store → Except CommandError β × Store} (k : Nat)
    (hquestion : ∀ e, question s.db.tables = .error e → wasStored (.error e) = false)
    (hnext : ∀ a, question s.db.tables = .ok a → next a (s.skip (k + 1)) = (result, s') → Comes s Builds result s')
    (h : andThen ((s.skip k).query question) next = (result, s')) : Comes s Builds result s' := by
  rcases (s.skip k).query_eq question with ⟨error, hquery⟩ | hquery
  · rw [hquery, skip_skip] at h
    cases h
    exact .fails (k + 1) rfl
  · rw [hquery, skip_skip, tables_skip] at h
    cases hanswer : question s.db.tables with
    | error e =>
      rw [hanswer] at h
      cases h
      exact .fails (k + 1) (hquestion e hanswer)
    | ok a =>
      rw [hanswer] at h
      exact hnext a hanswer h

/-! ## The use cases -/

theorem comes_of_createApp {id : AppId} {input : NewApp} {created : Signature}
    {result : Except CommandError AppId} (h : s.createApp id input created = (result, s')) :
    Comes s (fun answer built => answer = id ∧
      built = input.build id (s.db.tables.checkNaming input.name input.production input.staging) created)
      result s' := by
  rw [createApp, checkNew, ← s.skip_zero] at h
  refine comes_of_andThen 0 (fun e he => by cases he) (fun required hrequired h => ?_) h
  cases hrequired
  exact comes_of_commit 1 ⟨rfl, rfl⟩ h

/-- What a call for a change of an app is told of the environments that are to change. -/
def Told (t : Tables) (id : AppId) (input : AppChange) (required : Requirement × Requirement) : Prop :=
  (input.production = none ∧ input.staging = none ∧ required = (.empty, .empty)) ∨
    t.checkNamingById id input.production input.staging = .ok required

theorem comes_of_updateApp {id : AppId} {input : AppChange} {result : Except CommandError Unit}
    (h : s.updateApp id input = (result, s')) :
    Comes s (fun _ built => ∃ required a, Told s.db.tables id input required ∧ s.db.tables.app id = .ok a ∧
      built = input.build a required) result s' := by
  have hload {required : Requirement × Requirement} (k : Nat) (htold : Told s.db.tables id input required)
      (h : andThen ((s.skip k).loadApp id) (fun app s => s.commit () (input.build app required)) = (result, s')) :
      Comes s (fun _ built => ∃ required a, Told s.db.tables id input required ∧ s.db.tables.app id = .ok a ∧
        built = input.build a required) result s' :=
    comes_of_andThen k (fun _ => Tables.wasStored_of_app)
      (fun a ha h => comes_of_commit (k + 1) ⟨required, a, htold, ha, rfl⟩ h) h
  rw [updateApp, checkNamingById, ← s.skip_zero] at h
  split at h
  · next hnone =>
    rw [Bool.and_eq_true, Option.isNone_iff_eq_none, Option.isNone_iff_eq_none] at hnone
    exact hload 0 (.inl ⟨hnone.1, hnone.2, rfl⟩) h
  · exact comes_of_andThen 0 (fun _ => Tables.wasStored_of_checkNamingById)
      (fun required hrequired h => hload 1 (.inr hrequired) h) h

theorem comes_of_requestCleanup {id : AppId} {requested : Signature} {result : Except CommandError Unit}
    (h : s.requestCleanup id requested = (result, s')) :
    Comes s (fun _ built => ∃ a, s.db.tables.app id = .ok a ∧ built = .ok (a.requestCleanup requested))
      result s' := by
  rw [requestCleanup, loadApp, ← s.skip_zero] at h
  exact comes_of_andThen 0 (fun _ => Tables.wasStored_of_app)
    (fun a ha h => comes_of_commit 1 ⟨a, ha, rfl⟩ h) h

theorem comes_of_queueDeployment {app : AppId} {e : Environment} {requested : Signature}
    {result : Except CommandError DeploymentNumber} (h : s.queueDeployment app e requested = (result, s')) :
    Comes s (fun number built => ∃ a, s.db.tables.app app = .ok a ∧ s.db.tables.nextNumber app = .ok number ∧
      built = a.newDeployment number e requested) result s' := by
  rw [queueDeployment, loadApp, ← s.skip_zero] at h
  refine comes_of_andThen 0 (fun _ => Tables.wasStored_of_app) (fun a ha h => ?_) h
  exact comes_of_andThen 1 (fun _ => Tables.wasStored_of_nextNumber)
    (fun number hnumber h => comes_of_commit 2 ⟨a, ha, hnumber, rfl⟩ h) h

end Store

end Rollout
