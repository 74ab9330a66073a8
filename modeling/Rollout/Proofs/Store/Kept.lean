import Rollout.Proofs.App.Operations
import Rollout.Proofs.Deployment.Operations
import Rollout.Proofs.Store.Projection
import Rollout.Proofs.Store.Transaction

/-!
# Aggregates that are kept in rows

An aggregate is changed in memory by its operations, whose events wait in it, and in the tables by those events. What
either of them does is said for single operations and single events (`LawfulKept`), of apps and of deployments. Lists of
events then do to the row of an aggregate what they do to the aggregate (`Kept.load_of_changes`), remove it if one of
them deletes it (`Kept.row?_of_deletes`), and leave all other rows alone (`Kept.row?_of_others`, `Kept.filter_rows`).
-/

namespace Rollout

/-- Aggregates of type `A` with operations of type `ω`, each with a row of type `ρ` under a key of type `κ`. -/
class Kept (A : Type) (ε ω κ ρ : outParam Type) extends Aggregate A ε where
  key : A → κ
  keyOf : ε → κ
  /-- What an event changes in memory. -/
  change : A → ε → A
  /-- The aggregate that an event tells of, if it is a new one. -/
  founded : ε → Option A
  deletes : ε → Bool
  /-- Whether what an event stores is read back as what it is. -/
  Readable : ε → Prop
  /-- Whether the aggregate was just made. -/
  IsNew : A → Prop
  perform : A → ω → Except AppError A
  isDelete : ω → Bool
  /-- Whether what an operation is given is read back as what it is once it is stored. -/
  Sound : ω → Prop
  /-- What rows of such aggregates are called. -/
  entity : String
  rows : Tables → List ρ
  isOf : ρ → κ → Bool
  read : ρ → Except DatabaseError A

namespace Kept

variable {A ε ω κ ρ : Type} [Kept A ε ω κ ρ]

variable (A) in
/-- The row under a key. -/
def row? (t : Tables) (k : κ) : Option ρ := (rows A t).find? (isOf A · k)

/-- The aggregate that is read from the row under a key. -/
def load (t : Tables) (k : κ) : Except StoreError A := Tables.readRow (entity A) read (row? A t k)

theorem load_congr {t t' : Tables} {k : κ} (h : row? A t' k = row? A t k) : load (A := A) t' k = load t k := by
  rw [load, load, h]

theorem load_of_row?_eq_none {t : Tables} {k : κ} (h : row? A t k = none) :
    load (A := A) t k = .error (.notFound (entity A)) := by
  rw [load, h]
  rfl

end Kept

open Kept Aggregate in
class LawfulKept (A : Type) {ε ω κ ρ : Type} [Kept A ε ω κ ρ] : Prop where
  key_cleared (a : A) : key (cleared a) = key a
  key_change (a : A) (e : ε) : key (change a e) = key a
  founded_of_isNew {a : A} (h : IsNew a) :
    ∃ e, pending a = [e] ∧ keyOf A e = key a ∧ founded e = some (cleared a) ∧ deletes A e = false ∧ Readable A e
  /-- An accepted operation changes nothing, or raises one event that says what it changes. -/
  perform_eq_ok {a a' : A} {o : ω} (h : perform a o = .ok a') :
    (a' = a ∧ isDelete A o = false) ∨
    ∃ e, pending a' = pending a ++ [e] ∧ cleared a' = change (cleared a) e ∧ keyOf A e = key a ∧
      founded (A := A) e = none ∧ deletes A e = isDelete A o ∧ (Sound A o → Readable A e)
  of_load {t : Tables} {k : κ} {a : A} (h : load t k = .ok a) : key a = k ∧ pending a = [] ∧ cleared a = a
  load_of_change {t t' : Tables} {base : A} {e : ε} (hbase : load t (keyOf A e) = .ok base)
    (hnew : founded (A := A) e = none) (hkept : deletes A e = false) (hreadable : Readable A e)
    (h : Aggregate.apply A t e = .ok t') : load t' (keyOf A e) = .ok (change base e)
  load_of_founded {t t' : Tables} {a : A} {e : ε} (hnew : founded e = some a) (h : Aggregate.apply A t e = .ok t') :
    load t' (keyOf A e) = .ok a
  row?_of_delete {t t' : Tables} {e : ε} (hdeletes : deletes A e = true) (h : Aggregate.apply A t e = .ok t') :
    row? A t' (keyOf A e) = none
  row?_of_none {t t' : Tables} {e : ε} (hnew : founded (A := A) e = none) (hnone : row? A t (keyOf A e) = none)
    (h : Aggregate.apply A t e = .ok t') : row? A t' (keyOf A e) = none
  row?_of_ne {t t' : Tables} {e : ε} {k : κ} (hk : keyOf A e ≠ k) (h : Aggregate.apply A t e = .ok t') :
    row? A t' k = row? A t k
  filter_of_others {t t' : Tables} {e : ε} {kept : ρ → Bool}
    (hothers : ∀ r, kept r = true → isOf A r (keyOf A e) = false) (h : Aggregate.apply A t e = .ok t') :
    (rows A t').filter kept = (rows A t).filter kept

/-! ## Lists of events -/

namespace Kept

variable {A ε ω κ ρ : Type} [Kept A ε ω κ ρ] [LawfulKept A] {t t' : Tables} {es : List ε} {k : κ}

/-- Events of other keys leave a row alone. -/
theorem row?_of_others (hothers : ∀ e ∈ es, keyOf A e ≠ k) (h : es.foldlM (Aggregate.apply A) t = .ok t') :
    row? A t' k = row? A t k := by
  induction es generalizing t with
  | nil =>
    cases h
    rfl
  | cons e es ih =>
    obtain ⟨hfirst, hrest⟩ := List.forall_mem_cons.mp hothers
    obtain ⟨next, he, hes⟩ := Database.exists_of_foldlM_cons h
    exact (ih hrest hes).trans (LawfulKept.row?_of_ne hfirst he)

/-- Rows that no event is about stay as they are. -/
theorem filter_rows {kept : ρ → Bool} (hothers : ∀ e ∈ es, ∀ r, kept r = true → isOf A r (keyOf A e) = false)
    (h : es.foldlM (Aggregate.apply A) t = .ok t') : (rows A t').filter kept = (rows A t).filter kept := by
  induction es generalizing t with
  | nil =>
    cases h
    rfl
  | cons e es ih =>
    obtain ⟨hfirst, hrest⟩ := List.forall_mem_cons.mp hothers
    obtain ⟨next, he, hes⟩ := Database.exists_of_foldlM_cons h
    exact (ih hrest hes).trans (LawfulKept.filter_of_others hfirst he)

/-- **Events do to a row what they do to the aggregate in it.** -/
theorem load_of_changes {base : A} (hbase : load t k = .ok base) (hkeys : ∀ e ∈ es, keyOf A e = k)
    (hnew : ∀ e ∈ es, founded (A := A) e = none) (hkept : ∀ e ∈ es, deletes A e = false)
    (hreadable : ∀ e ∈ es, Readable A e) (h : es.foldlM (Aggregate.apply A) t = .ok t') :
    load t' k = .ok (es.foldl change base) := by
  induction es generalizing t base with
  | nil =>
    cases h
    exact hbase
  | cons e es ih =>
    simp only [List.forall_mem_cons] at hkeys hnew hkept hreadable
    obtain ⟨next, he, hes⟩ := Database.exists_of_foldlM_cons h
    obtain ⟨rfl, hkeys⟩ := hkeys
    have hnext := LawfulKept.load_of_change hbase hnew.1 hkept.1 hreadable.1 he
    exact ih hnext hkeys hnew.2 hkept.2 hreadable.2 hes

theorem row?_of_none (hnone : row? A t k = none) (hkeys : ∀ e ∈ es, keyOf A e = k)
    (hnew : ∀ e ∈ es, founded (A := A) e = none) (h : es.foldlM (Aggregate.apply A) t = .ok t') :
    row? A t' k = none := by
  induction es generalizing t with
  | nil =>
    cases h
    exact hnone
  | cons e es ih =>
    simp only [List.forall_mem_cons] at hkeys hnew
    obtain ⟨next, he, hes⟩ := Database.exists_of_foldlM_cons h
    obtain ⟨rfl, hkeys⟩ := hkeys
    exact ih (LawfulKept.row?_of_none hnew.1 hnone he) hkeys hnew.2 hes

/-- An aggregate that is deleted has no row any more, whatever comes after that. -/
theorem row?_of_deletes (hdeletes : ∃ e ∈ es, deletes A e = true) (hkeys : ∀ e ∈ es, keyOf A e = k)
    (hnew : ∀ e ∈ es, founded (A := A) e = none) (h : es.foldlM (Aggregate.apply A) t = .ok t') :
    row? A t' k = none := by
  obtain ⟨e, he, hdeletes⟩ := hdeletes
  obtain ⟨before, after, rfl⟩ := List.append_of_mem he
  rw [List.foldlM_append, bind_eq_ok] at h
  obtain ⟨next, -, h⟩ := h
  obtain ⟨next', hdeleted, hafter⟩ := Database.exists_of_foldlM_cons h
  have hnone := LawfulKept.row?_of_delete hdeletes hdeleted
  rw [hkeys e he] at hnone
  refine row?_of_none hnone (fun e' he' => hkeys e' ?_) (fun e' he' => hnew e' ?_) hafter
  · exact List.mem_append_right _ (List.mem_cons_of_mem _ he')
  · exact List.mem_append_right _ (List.mem_cons_of_mem _ he')

end Kept

/-! ## Apps -/

instance : Kept App AppEvent AppOperation AppId AppRow where
  key := App.id
  keyOf := AppEvent.id
  change := App.apply
  founded := AppEvent.founded
  deletes := AppEvent.deletes
  Readable := AppEvent.Readable
  IsNew a := ∃ id name production staging created, App.create id name production staging created = .ok a
  perform := App.perform
  isDelete
    | .delete => true
    | _ => false
  Sound
    | .useVersionControl config => Url.parse config.url.toText = .ok config.url
    | _ => True
  entity := "app"
  rows := Tables.apps
  isOf r id := r.id.holds id
  read := AppRow.toApp

/-- What is read from the row of an app is what the store answers. -/
example (t : Tables) (id : AppId) : Kept.load (A := App) t id = t.app id := rfl

instance : LawfulKept App where
  key_cleared _ := rfl
  key_change := App.id_apply
  founded_of_isNew := by
    rintro a ⟨id, name, production, staging, created, h⟩
    obtain ⟨p, s, -, -, rfl⟩ := App.create_eq_ok.mp h
    exact ⟨_, rfl, rfl, rfl, rfl, trivial⟩
  perform_eq_ok := by
    intro a a' o h
    rcases App.perform_eq_ok h with ⟨rfl, hkept⟩ | ⟨e, hraises, rfl⟩
    · refine .inl ⟨rfl, ?_⟩
      cases o with
      | delete => exact absurd rfl hkept
      | _ => rfl
    · refine .inr ⟨e, rfl, ?_, ?_⟩
      · cases e with
        | envChanged _ e _ => cases e <;> rfl
        | _ => rfl
      · cases hraises with
        | versionControlConfigured => exact ⟨rfl, rfl, rfl, id⟩
        | _ => exact ⟨rfl, rfl, rfl, fun _ => trivial⟩
  of_load := by
    intro t k a h
    obtain ⟨r, hr, hshows⟩ := Tables.app_eq_ok.mp h
    have hevents := hshows.events
    obtain ⟨id, name, production, staging, versionControl, cleanupRequested, created, events⟩ := a
    cases hevents
    exact ⟨Tables.id_of_app?_shows hr hshows, rfl, rfl⟩
  load_of_change hbase hnew hkept hreadable h := Tables.app_applyAppEvent hbase rfl hnew hkept hreadable h
  load_of_founded hnew h := Tables.app_of_founded hnew h
  row?_of_delete hdeletes h := Tables.app?_of_deletes hdeletes h
  row?_of_none hnew hnone h := Tables.app?_applyAppEvent_of_none hnew hnone h
  row?_of_ne hk h := Tables.app?_applyAppEvent_of_ne hk h
  filter_of_others hothers h := Tables.filter_apps_applyAppEvent hothers h

/-! ## Deployments -/

instance : Kept Deployment DeploymentEvent DeploymentOperation DeploymentId DeploymentRow where
  key := Deployment.id
  keyOf := DeploymentEvent.id
  change := Deployment.apply
  founded := DeploymentEvent.founded
  deletes _ := false
  Readable _ := True
  IsNew d := ∃ id config requested, Deployment.create id config requested = d
  perform := Deployment.perform
  isDelete _ := false
  Sound _ := True
  entity := "deployment"
  rows := Tables.deployments
  isOf := DeploymentRow.isOf
  read := DeploymentRow.toDeployment

example (t : Tables) (id : DeploymentId) : Kept.load (A := Deployment) t id = t.deployment id := rfl

instance : LawfulKept Deployment where
  key_cleared _ := rfl
  key_change d e := by cases e <;> rfl
  founded_of_isNew := by
    rintro d ⟨id, config, requested, rfl⟩
    exact ⟨_, rfl, rfl, rfl, rfl, trivial⟩
  perform_eq_ok := by
    intro d d' o h
    obtain ⟨state, -, rfl⟩ := Deployment.perform_eq_ok h
    exact .inr ⟨.stateChanged d.id state, rfl, rfl, rfl, rfl, rfl, fun _ => trivial⟩
  of_load := by
    intro t k d h
    obtain ⟨r, hr, hshows⟩ := Tables.deployment_eq_ok.mp h
    have hevents := hshows.events
    obtain ⟨id, config, state, requested, events⟩ := d
    cases hevents
    exact ⟨Tables.id_of_shows hr hshows, rfl, rfl⟩
  load_of_change hbase hnew _ _ h := Tables.deployment_applyDeploymentEvent hbase rfl hnew h
  load_of_founded hnew h := Tables.deployment_of_founded hnew h
  row?_of_delete hdeletes _ := nomatch hdeletes
  row?_of_none hnew hnone h := Tables.deployment?_applyDeploymentEvent_of_none hnew hnone h
  row?_of_ne hk h := Tables.deployment?_applyDeploymentEvent_of_ne hk h
  filter_of_others hothers h := Tables.filter_deployments_applyDeploymentEvent hothers h

end Rollout
