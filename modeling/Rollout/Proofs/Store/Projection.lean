import Rollout.Proofs.Store.Lookup

/-!
# What events do to rows

An event changes the row of its own app as it changes the app in memory: a row that shows an app shows the changed app
afterwards (`AppRow.Shows.project`), and the row of a new app shows it (`AppRow.shows_ofCreated`). The same holds of
deployments. Rows of other apps and deployments are left alone.
-/

namespace Rollout

/-! ## Apps -/

namespace AppEvent

/-- The app that the event tells of, if it is a new one. -/
def founded : AppEvent → Option App
  | .created id name production staging signature =>
    some ⟨id, name, production, staging, none, none, signature, .empty⟩
  | _ => none

def deletes : AppEvent → Bool
  | .deleted _ => true
  | _ => false

/-- An address in the event is read back as what it is when it is stored. -/
def Readable : AppEvent → Prop
  | .versionControlConfigured _ config => Url.parse config.url.toText = .ok config.url
  | _ => True

end AppEvent

theorem SlotRow.shows_ofConfig (c : EnvConfig) (e : Environment) : (SlotRow.ofConfig c).Shows e c := ⟨rfl, rfl, rfl⟩

namespace AppRow

variable {r : AppRow} {a : App} {e : AppEvent}

/-- The row after an event that changes it. -/
def project (r : AppRow) : AppEvent → AppRow
  | .envChanged _ .production config => { r with production := .ofConfig config }
  | .envChanged _ .staging config => { r with staging := .ofConfig config }
  | .versionControlConfigured _ config =>
    { r with url := .value (some config.url.toText), token := .value config.token }
  | .versionControlRemoved _ => { r with url := .value none, token := .value none }
  | .cleanupRequested _ requested =>
    { r with cleanupAt := .value (some requested.time), cleanupBy := .value (some requested.user) }
  | .created .. => r
  | .deleted _ => r

@[simp] theorem id_project (r : AppRow) (e : AppEvent) : (r.project e).id = r.id := by
  cases e with
  | envChanged _ e _ => cases e <;> rfl
  | _ => rfl

@[simp] theorem name_project (r : AppRow) (e : AppEvent) : (r.project e).name = r.name := by
  cases e with
  | envChanged _ e _ => cases e <;> rfl
  | _ => rfl

theorem shows_ofCreated (h : e.founded = some a) :
    ∃ id name production staging created, e = .created id name production staging created ∧
      (AppRow.ofCreated id name production staging created).Shows a := by
  cases e with
  | created id name production staging created =>
    cases h
    exact ⟨_, _, _, _, _, rfl, rfl, rfl, SlotRow.shows_ofConfig .., SlotRow.shows_ofConfig ..,
      ⟨_, _, _, rfl, rfl, rfl, rfl⟩, ⟨_, _, rfl, rfl, rfl⟩, rfl, rfl, rfl⟩
  | _ => cases h

/-- **A row and the app it shows change alike.** -/
theorem Shows.project (h : r.Shows a) (hreadable : e.Readable) : (r.project e).Shows (a.apply e) := by
  cases e with
  | envChanged _ e config =>
    cases e with
    | production => exact { h with production := SlotRow.shows_ofConfig .. }
    | staging => exact { h with staging := SlotRow.shows_ofConfig .. }
  | versionControlConfigured _ config =>
    have hurl : readUrl config.url.toText = .ok config.url := readUrl_eq_ok.mpr hreadable
    refine { h with versionControl := ⟨some config.url.toText, config.token, some config.url, rfl, rfl, ?_, rfl⟩ }
    simp [Option.mapM_some, hurl]
  | versionControlRemoved _ => exact { h with versionControl := ⟨none, none, none, rfl, rfl, rfl, rfl⟩ }
  | cleanupRequested _ requested =>
    exact { h with cleanup := ⟨some requested.time, some requested.user, rfl, rfl, rfl⟩ }
  | created => exact h
  | deleted => exact h

end AppRow

namespace Tables

variable {t t' : Tables} {a : App} {e : AppEvent} {id : AppId}

theorem applyAppEvent_of_change (hnew : e.founded = none) (hkept : e.deletes = false) :
    t.applyAppEvent e = .ok (t.updateApp e.id (·.project e)) := by
  cases e with
  | created => cases hnew
  | deleted => cases hkept
  | envChanged _ e _ => cases e <;> rfl
  | versionControlConfigured => rfl
  | versionControlRemoved => rfl
  | cleanupRequested => rfl

theorem insertApp_eq_ok {row : AppRow} :
    t.insertApp row = .ok t' ↔ (∀ r ∈ t.apps, r.id ≠ row.id) ∧ t' = { t with apps := t.apps ++ [row] } := by
  unfold insertApp
  split
  · next htaken =>
    obtain ⟨r, hr, hid⟩ := List.any_eq_true.mp htaken
    exact ⟨fun h => (nomatch h), fun h => absurd (of_decide_eq_true hid) (h.1 r hr)⟩
  · next hfree =>
    simp only [Except.ok.injEq, eq_comm (b := t'), iff_and_self]
    intro _ r hr hid
    exact hfree (List.any_eq_true.mpr ⟨r, hr, decide_eq_true hid⟩)

/-- A new row is found if there was none for its app. -/
theorem app?_insertApp {row : AppRow} {k : AppId} (hrow : row.id = .value k) (h : t.insertApp row = .ok t')
    (id : AppId) :
    t'.app? id = if id = k then some row else t.app? id := by
  obtain ⟨hfree, rfl⟩ := insertApp_eq_ok.mp h
  have hholds : row.id.holds id = true ↔ k = id := by rw [Column.holds_iff, hrow, Column.value.injEq]
  rw [app?, List.find?_append]
  by_cases hid : id = k
  · subst hid
    have hnone : t.apps.find? (·.id.holds id) = none := List.find?_eq_none.mpr fun r hr hr' =>
      hfree r hr ((Column.holds_iff.mp hr').trans hrow.symm)
    simp [hnone, hholds]
  · have hnot : row.id.holds id = false := Bool.eq_false_iff.mpr fun h => hid (hholds.mp h).symm
    simp [hnot, hid, app?]

theorem app?_deleteApp (k id : AppId) : (t.deleteApp k).app? id = if id = k then none else t.app? id := by
  by_cases hid : id = k
  · subst hid
    have hnone : (t.apps.filter (!·.id.holds id)).find? (·.id.holds id) = none :=
      List.find?_eq_none.mpr fun r hr => by simpa using (List.mem_filter.mp hr).2
    rw [if_pos rfl]
    exact hnone
  · have hpredicate (r : AppRow) : (!r.id.holds k && r.id.holds id) = r.id.holds id := by
      cases hr : r.id.holds id with
      | false => simp
      | true =>
        have hnot : r.id.holds k = false := Bool.eq_false_iff.mpr fun hk => hid ((Column.holds_iff_of_holds hr).mp hk)
        simp [hnot]
    simp [app?, deleteApp, List.find?_filter, hpredicate, hid]

/-- **An app in memory and its row change alike.** -/
theorem app_applyAppEvent {base : App} (hbase : t.app id = .ok base) (hid : e.id = id) (hnew : e.founded = none)
    (hkept : e.deletes = false) (hreadable : e.Readable) (h : t.applyAppEvent e = .ok t') :
    t'.app id = .ok (base.apply e) := by
  obtain ⟨r, hr, hshows⟩ := app_eq_ok.mp hbase
  rw [applyAppEvent_of_change hnew hkept] at h
  cases h
  refine app_eq_ok.mpr ⟨r.project e, ?_, hshows.project hreadable⟩
  rw [app?_updateApp fun r => r.id_project e, hr, hid]
  simp

theorem app_of_founded (hnew : e.founded = some a) (h : t.applyAppEvent e = .ok t') : t'.app e.id = .ok a := by
  obtain ⟨id, name, production, staging, created, rfl, hshows⟩ := AppRow.shows_ofCreated hnew
  refine app_eq_ok.mpr ⟨_, ?_, hshows⟩
  rw [app?_insertApp rfl h, AppEvent.id, if_pos rfl]

theorem app?_of_deletes (hdeletes : e.deletes = true) (h : t.applyAppEvent e = .ok t') : t'.app? e.id = none := by
  cases e with
  | deleted id =>
    cases h
    rw [app?_deleteApp, AppEvent.id, if_pos rfl]
  | _ => cases hdeletes

/-- An app that has no row gets none, unless it is new. -/
theorem app?_applyAppEvent_of_none (hnew : e.founded = none) (hnone : t.app? e.id = none)
    (h : t.applyAppEvent e = .ok t') : t'.app? e.id = none := by
  cases hdeletes : e.deletes with
  | true => exact app?_of_deletes hdeletes h
  | false =>
    rw [applyAppEvent_of_change hnew hdeletes] at h
    cases h
    rw [app?_updateApp fun r => r.id_project e, hnone]
    rfl

theorem app?_applyAppEvent_of_ne (hid : e.id ≠ id) (h : t.applyAppEvent e = .ok t') : t'.app? id = t.app? id := by
  have hne : id ≠ e.id := Ne.symm hid
  cases e with
  | created => exact (app?_insertApp rfl h id).trans (if_neg hne)
  | deleted =>
    cases h
    exact (app?_deleteApp _ id).trans (if_neg hne)
  | _ =>
    rw [applyAppEvent_of_change rfl rfl] at h
    cases h
    rw [app?_updateApp fun r => r.id_project _]
    simp [hne]

theorem filter_apps_applyAppEvent {kept : AppRow → Bool} (hothers : ∀ r, kept r = true → r.id.holds e.id = false)
    (h : t.applyAppEvent e = .ok t') : t'.apps.filter kept = t.apps.filter kept := by
  have hown (r : AppRow) (hr : r.id.holds e.id = true) : kept r = false :=
    Bool.eq_false_iff.mpr fun hkept => by simp [hothers r hkept] at hr
  cases e with
  | created id name production staging created =>
    obtain ⟨-, rfl⟩ := insertApp_eq_ok.mp h
    have hnew := hown (.ofCreated id name production staging created) (Column.holds_iff.mpr rfl)
    simp [hnew]
  | deleted id =>
    cases h
    rw [deleteApp, List.filter_filter]
    refine List.filter_congr fun r _ => ?_
    cases hkept : kept r with
    | false => simp
    | true =>
      have hother : r.id.holds id = false := hothers r hkept
      simp [hother]
  | _ =>
    rw [applyAppEvent_of_change rfl rfl] at h
    cases h
    refine filter_map_if fun r hr => ⟨hown r hr, hown _ ?_⟩
    rw [AppRow.id_project]
    exact hr

end Tables

/-! ## Deployments -/

/-- The deployment that the event tells of, if it is a new one. -/
def DeploymentEvent.founded : DeploymentEvent → Option Deployment
  | .created id config state requested => some ⟨id, config, state, requested, .empty⟩
  | _ => none

namespace DeploymentRow

variable {r : DeploymentRow} {d : Deployment} {e : DeploymentEvent}

theorem shows_ofCreated (h : e.founded = some d) :
    ∃ id config state requested, e = .created id config state requested ∧
      (DeploymentRow.ofCreated id config state requested).Shows d := by
  cases e with
  | created id config state requested =>
    cases h
    exact ⟨_, _, _, _, rfl, rfl, rfl, rfl, rfl, rfl, rfl, rfl, rfl, rfl, rfl, rfl, rfl, rfl⟩
  | stateChanged => cases h

theorem Shows.withState (h : r.Shows d) (state : DeploymentState) : (r.withState state).Shows { d with state } :=
  { h with status := rfl, error := rfl, startedAt := rfl, finishedAt := rfl }

end DeploymentRow

namespace Tables

variable {t t' : Tables} {d : Deployment} {e : DeploymentEvent} {id : DeploymentId}

theorem insertDeployment_eq_ok {row : DeploymentRow} :
    t.insertDeployment row = .ok t' ↔
      (∀ r ∈ t.deployments, ¬(r.app = row.app ∧ r.number = row.number)) ∧ (∃ r ∈ t.apps, r.id.holds row.app = true) ∧
        t' = { t with deployments := t.deployments ++ [row] } := by
  unfold insertDeployment
  split
  · next htaken =>
    obtain ⟨r, hr, hsame⟩ := List.any_eq_true.mp htaken
    exact ⟨fun h => (nomatch h), fun h => absurd (by simpa using hsame) (h.1 r hr)⟩
  · next hfree =>
    have hfree : ∀ r ∈ t.deployments, ¬(r.app = row.app ∧ r.number = row.number) := fun r hr hsame =>
      hfree (List.any_eq_true.mpr ⟨r, hr, by simpa using hsame⟩)
    split
    · next happ =>
      simp only [Except.ok.injEq, eq_comm (b := t')]
      exact ⟨fun h => ⟨hfree, List.any_eq_true.mp happ, h⟩, fun h => h.2.2⟩
    · next hnone => exact ⟨fun h => (nomatch h), fun h => absurd (List.any_eq_true.mpr h.2.1) hnone⟩

/-- A deployment is inserted only if its app is stored and its number is free. -/
theorem isFree_of_insertDeployment {row : DeploymentRow} {k : DeploymentId} (hrow : row.isOf k = true)
    (h : t.insertDeployment row = .ok t') : (t.app? k.app).isSome = true ∧ t.deployment? k = none := by
  obtain ⟨hfree, happ, -⟩ := insertDeployment_eq_ok.mp h
  obtain ⟨hrowapp, hrownumber⟩ := DeploymentRow.isOf_iff.mp hrow
  rw [hrowapp] at hfree happ
  rw [hrownumber] at hfree
  refine ⟨List.find?_isSome.mpr happ, List.find?_eq_none.mpr fun r hr hof => hfree r hr ?_⟩
  exact DeploymentRow.isOf_iff.mp hof

theorem deployment?_insertDeployment {row : DeploymentRow} {k : DeploymentId} (hrow : row.isOf k = true)
    (h : t.insertDeployment row = .ok t') (id : DeploymentId) :
    t'.deployment? id = if id = k then some row else t.deployment? id := by
  have hnone := (isFree_of_insertDeployment hrow h).2
  obtain ⟨-, -, rfl⟩ := insertDeployment_eq_ok.mp h
  rw [deployment?] at hnone ⊢
  rw [List.find?_append]
  by_cases hid : id = k
  · subst hid
    simp [hnone, hrow]
  · have hnot : row.isOf id = false :=
      Bool.eq_false_iff.mpr fun h => hid ((DeploymentRow.isOf_iff_of_isOf hrow).mp h).symm
    simp [hnot, hid, deployment?]

/-- **A deployment in memory and its row change alike.** -/
theorem deployment_applyDeploymentEvent {base : Deployment} (hbase : t.deployment id = .ok base) (hid : e.id = id)
    (hnew : e.founded = none) (h : t.applyDeploymentEvent e = .ok t') : t'.deployment id = .ok (base.apply e) := by
  cases e with
  | created => cases hnew
  | stateChanged k state =>
    obtain rfl : k = id := hid
    cases h
    obtain ⟨r, hr, hshows⟩ := deployment_eq_ok.mp hbase
    refine deployment_eq_ok.mpr ⟨r.withState state, ?_, hshows.withState state⟩
    rw [deployment?_updateDeployment (fun r id => r.isOf_withState _), hr]
    simp

theorem deployment_of_founded (hnew : e.founded = some d) (h : t.applyDeploymentEvent e = .ok t') :
    t'.deployment e.id = .ok d := by
  obtain ⟨id, config, state, requested, rfl, hshows⟩ := DeploymentRow.shows_ofCreated hnew
  have hrow : (DeploymentRow.ofCreated id config state requested).isOf id = true :=
    DeploymentRow.isOf_iff.mpr ⟨rfl, rfl⟩
  refine deployment_eq_ok.mpr ⟨_, ?_, hshows⟩
  exact (deployment?_insertDeployment hrow h id).trans (if_pos rfl)

/-- A deployment that has no row gets none, unless it is new. -/
theorem deployment?_applyDeploymentEvent_of_none (hnew : e.founded = none) (hnone : t.deployment? e.id = none)
    (h : t.applyDeploymentEvent e = .ok t') : t'.deployment? e.id = none := by
  cases e with
  | created => cases hnew
  | stateChanged id state =>
    cases h
    have hnone : t.deployment? id = none := hnone
    rw [deployment?_updateDeployment (fun r id => r.isOf_withState _), DeploymentEvent.id, hnone]
    rfl

theorem deployment?_applyDeploymentEvent_of_ne (hid : e.id ≠ id) (h : t.applyDeploymentEvent e = .ok t') :
    t'.deployment? id = t.deployment? id := by
  have hne : id ≠ e.id := Ne.symm hid
  cases e with
  | created k config state requested =>
    have hrow : (DeploymentRow.ofCreated k config state requested).isOf k = true :=
      DeploymentRow.isOf_iff.mpr ⟨rfl, rfl⟩
    exact (deployment?_insertDeployment hrow h id).trans (if_neg hne)
  | stateChanged k state =>
    cases h
    rw [deployment?_updateDeployment (fun r id => r.isOf_withState _)]
    have hne : id ≠ k := hne
    simp [hne]

theorem filter_deployments_applyDeploymentEvent {kept : DeploymentRow → Bool}
    (hothers : ∀ r, kept r = true → r.isOf e.id = false) (h : t.applyDeploymentEvent e = .ok t') :
    t'.deployments.filter kept = t.deployments.filter kept := by
  have hown (r : DeploymentRow) (hr : r.isOf e.id = true) : kept r = false :=
    Bool.eq_false_iff.mpr fun hkept => by simp [hothers r hkept] at hr
  cases e with
  | created id config state requested =>
    obtain ⟨-, -, rfl⟩ := insertDeployment_eq_ok.mp h
    have hnew := hown (.ofCreated id config state requested) (DeploymentRow.isOf_iff.mpr ⟨rfl, rfl⟩)
    simp [hnew]
  | stateChanged id state =>
    cases h
    exact filter_map_if fun r hr => ⟨hown r hr, hown _ hr⟩

end Tables

end Rollout
