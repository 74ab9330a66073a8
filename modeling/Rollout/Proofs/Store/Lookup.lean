import Mathlib.Data.List.Induction
import Rollout.Proofs.Store.Reading

/-!
# Finding rows after a change

The row of an app or a deployment is found by its key, before a change and after it: an update changes the row of its
own key and no other (`Tables.app?_updateApp`, `Tables.deployment?_updateDeployment`). Of several changes of the states
of deployments, each deployment keeps the last one of its own (`Tables.deployment?_changeStates`).
-/

namespace Rollout

namespace Column

variable {α : Type} [DecidableEq α] {c : Column α} {a b : α}

theorem holds_iff : c.holds a = true ↔ c = .value a := decide_eq_true_iff

theorem holds_iff_of_holds (h : c.holds a = true) : c.holds b = true ↔ a = b := by
  rw [holds_iff] at h
  rw [h, holds_iff, Column.value.injEq]

end Column

/-- The row of an app is the one that shows it. -/
theorem AppRow.Shows.id_eq {r : AppRow} {a : App} {id : AppId} (h : r.Shows a) (hr : r.id.holds id = true) :
    a.id = id := by
  have hid := h.id
  rw [Column.holds_iff.mp hr] at hid
  exact (Except.ok.inj hid).symm

namespace DeploymentRow

variable {r : DeploymentRow} {id id' : DeploymentId}

theorem isOf_iff : r.isOf id = true ↔ r.app = id.app ∧ r.number = .integer id.number.toNat := by
  simp [isOf]

theorem isOf_iff_of_isOf (h : r.isOf id = true) : r.isOf id' = true ↔ id = id' := by
  rw [isOf_iff] at h
  rw [isOf_iff, h.1, h.2, Cell.integer.injEq, Int.natCast_inj, DeploymentNumber.toNat_inj]
  cases id
  cases id'
  simp

@[simp] theorem isOf_withState (s : DeploymentState) : (r.withState s).isOf id = r.isOf id := rfl

/-- The row of a deployment is the one that shows it. -/
theorem Shows.id_eq {d : Deployment} (h : r.Shows d) (hr : r.isOf id = true) : d.id = id :=
  (isOf_iff_of_isOf (isOf_iff.mpr ⟨h.app, h.number⟩)).mp hr

end DeploymentRow

namespace Tables

variable {t : Tables}

theorem readRow_eq_ok {ρ β : Type} {entity : String} {read : ρ → Except DatabaseError β} {found : Option ρ} {b : β} :
    readRow entity read found = .ok b ↔ ∃ r, found = some r ∧ read r = .ok b := by
  cases found with
  | none => simp [readRow]
  | some r => simp [readRow, mapError_eq_ok]

theorem app_eq_ok {id : AppId} {a : App} : t.app id = .ok a ↔ ∃ r, t.app? id = some r ∧ r.Shows a := by
  simp only [app, readRow_eq_ok, AppRow.toApp_eq_ok]

theorem deployment_eq_ok {id : DeploymentId} {d : Deployment} :
    t.deployment id = .ok d ↔ ∃ r, t.deployment? id = some r ∧ r.Shows d := by
  simp only [deployment, readRow_eq_ok, DeploymentRow.toDeployment_eq_ok]

theorem id_of_app?_shows {id : AppId} {a : App} {r : AppRow} (hr : t.app? id = some r) (h : r.Shows a) : a.id = id := by
  have hfound : t.apps.find? (·.id.holds id) = some r := hr
  have hholds := List.find?_some hfound
  exact h.id_eq hholds

theorem id_of_shows {id : DeploymentId} {d : Deployment} {r : DeploymentRow} (hr : t.deployment? id = some r)
    (h : r.Shows d) : d.id = id := by
  have hfound : t.deployments.find? (·.isOf id) = some r := hr
  have hof := List.find?_some hfound
  exact h.id_eq hof

/-- What is found in a list in which the elements that are looked for may have been changed. -/
theorem find?_map_if {β : Type} {rows : List β} {looked changed : β → Bool} {f : β → β} {same : Prop} [Decidable same]
    (hf : ∀ r, looked (f r) = looked r) (hsame : ∀ r, looked r = true → (changed r = true ↔ same)) :
    (rows.map fun r => if changed r then f r else r).find? looked =
      (rows.find? looked).map fun r => if same then f r else r := by
  have hlooked : looked ∘ (fun r => if changed r then f r else r) = looked := by
    funext r
    simp only [Function.comp]
    split
    · exact hf r
    · rfl
  rw [List.find?_map, hlooked]
  cases hr : rows.find? looked with
  | none => rfl
  | some r => simp only [Option.map_some, hsame r (List.find?_some hr)]

/-- Elements that are not changed stay as they are, and where they are. -/
theorem filter_map_if {β : Type} {rows : List β} {changed kept : β → Bool} {f : β → β}
    (h : ∀ r, changed r = true → kept r = false ∧ kept (f r) = false) :
    (rows.map fun r => if changed r then f r else r).filter kept = rows.filter kept := by
  induction rows with
  | nil => rfl
  | cons r rows ih =>
    rw [List.map_cons, List.filter_cons, List.filter_cons, ih]
    cases hr : changed r with
    | true => simp [h r hr]
    | false => simp

theorem app?_updateApp {f : AppRow → AppRow} (hf : ∀ r, (f r).id = r.id) (id id' : AppId) :
    (t.updateApp id f).app? id' = (t.app? id').map fun r => if id' = id then f r else r :=
  find?_map_if (fun r => by rw [hf]) fun _ => Column.holds_iff_of_holds

theorem deployment?_updateDeployment {f : DeploymentRow → DeploymentRow} (hf : ∀ r id, (f r).isOf id = r.isOf id)
    (id id' : DeploymentId) :
    (t.updateDeployment id f).deployment? id' = (t.deployment? id').map fun r => if id' = id then f r else r :=
  find?_map_if (fun r => hf r id') fun _ => DeploymentRow.isOf_iff_of_isOf

/-! ## Changes of states -/

/-- The tables with the states that deployments have come to. -/
def changeStates (t : Tables) (ds : List Deployment) : Tables :=
  ds.foldl (fun t d => t.updateDeployment d.id (·.withState d.state)) t

theorem changeStates_concat (ds : List Deployment) (d : Deployment) :
    t.changeStates (ds ++ [d]) = (t.changeStates ds).updateDeployment d.id (·.withState d.state) := by
  rw [changeStates, List.foldl_append, ← changeStates]
  rfl

theorem deployment?_changeStates (ds : List Deployment) (id : DeploymentId) :
    (t.changeStates ds).deployment? id =
      (t.deployment? id).map fun r =>
        match (ds.filter (·.id = id)).getLast? with
        | some d => r.withState d.state
        | none => r := by
  induction ds using List.reverseRecOn with
  | nil => simp [changeStates]
  | append_singleton ds d ih =>
    rw [changeStates_concat, deployment?_updateDeployment (fun r id => r.isOf_withState _), ih, Option.map_map,
      List.filter_append]
    congr 1
    funext r
    by_cases hid : d.id = id
    · simp only [Function.comp, hid, if_true, List.filter_cons_of_pos, decide_true, List.filter_nil,
        List.getLast?_append, List.getLast?_singleton, Option.some_or]
      split <;> rfl
    · simp [Function.comp, hid, Ne.symm hid]

end Tables

end Rollout
