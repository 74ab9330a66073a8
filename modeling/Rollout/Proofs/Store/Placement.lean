import Mathlib.Data.List.Nodup
import Rollout.Proofs.Store.Projection
import Rollout.Proofs.Store.Transaction

/-!
# Where apps are deployed to

An event names the targets that it puts an app on (`AppEvent.targets`). After some events of one app that do not delete
it, each row is one of another app from before, or a row of that app which has kept its name and is on no target but
those that it was on and those that the events name (`Tables.rowFrom_of_events`). No row is lost
(`Tables.persists_of_events`), and rows keep different identifiers (`Tables.nodup_of_events`).
-/

namespace Rollout

/-- The targets that the event puts the app on. -/
def AppEvent.targets : AppEvent → List TargetId
  | .created _ _ production staging _ => [production.target, staging.target]
  | .envChanged _ _ config => [config.target]
  | _ => []

theorem SlotRow.isOn_ofConfig {c : EnvConfig} {target : TargetId} :
    (SlotRow.ofConfig c).isOn target = true ↔ c.target = target := by
  simp [isOn, ofConfig, Column.holds_iff]

namespace AppRow

variable {r : AppRow} {e : AppEvent} {target : TargetId}

theorem isOn_iff : r.isOn target = true ↔ r.production.isOn target = true ∨ r.staging.isOn target = true :=
  Bool.or_eq_true_iff

theorem isOn_ofCreated {id : AppId} {name : AppName} {production staging : EnvConfig} {created : Signature} :
    (AppRow.ofCreated id name production staging created).isOn target = true ↔
      target ∈ (AppEvent.created id name production staging created).targets := by
  have hproduction : (SlotRow.ofConfig production).isOn target = true ↔ production.target = target :=
    SlotRow.isOn_ofConfig
  have hstaging : (SlotRow.ofConfig staging).isOn target = true ↔ staging.target = target := SlotRow.isOn_ofConfig
  rw [isOn_iff, ofCreated, hproduction, hstaging, AppEvent.targets, List.mem_pair, eq_comm,
    eq_comm (a := staging.target)]

/-- An event that changes a row puts it on no target but those that it names. -/
theorem isOn_of_project (h : (r.project e).isOn target = true) : r.isOn target = true ∨ target ∈ e.targets := by
  cases e with
  | envChanged _ e config =>
    cases e with
    | production =>
      rcases isOn_iff.mp h with h | h
      · exact .inr (List.mem_singleton.mpr (SlotRow.isOn_ofConfig.mp h).symm)
      · exact .inl (isOn_iff.mpr (.inr h))
    | staging =>
      rcases isOn_iff.mp h with h | h
      · exact .inl (isOn_iff.mpr (.inl h))
      · exact .inr (List.mem_singleton.mpr (SlotRow.isOn_ofConfig.mp h).symm)
  | _ => exact .inl h

end AppRow

namespace Tables

variable {t t' t'' : Tables} {id : AppId} {es es' : List AppEvent} {e : AppEvent} {r r' : AppRow}

/-- Where a row comes from that is there after the events `es` of the app `id`. -/
inductive RowFrom (t : Tables) (id : AppId) (es : List AppEvent) (r' : AppRow) : Prop where
  | other (h : r' ∈ t.apps) (hid : r'.id ≠ .value id)
  | kept {r : AppRow} (h : r ∈ t.apps) (hid : r.id = .value id) (hid' : r'.id = r.id) (hname : r'.name = r.name)
    (hold : ∀ e ∈ es, e.founded = none)
    (hon : ∀ target, r'.isOn target = true → r.isOn target = true ∨ target ∈ es.flatMap AppEvent.targets)
  | created {e : AppEvent} {a : App} (he : e ∈ es) (hnew : e.founded = some a) (hid : r'.id = .value id)
    (hname : r'.name = .value a.name.text)
    (hon : ∀ target, r'.isOn target = true → target ∈ es.flatMap AppEvent.targets)

theorem RowFrom.of_mem (h : r ∈ t.apps) : t.RowFrom id [] r := by
  by_cases hid : r.id = .value id
  · exact .kept h hid rfl rfl (List.forall_mem_nil _) fun _ hon => .inl hon
  · exact .other h hid

/-- Some events, and others after them. -/
theorem RowFrom.trans (hfirst : ∀ r ∈ t'.apps, t.RowFrom id es r) (h : t'.RowFrom id es' r') :
    t.RowFrom id (es ++ es') r' := by
  cases h with
  | other hr hid =>
    cases hfirst r' hr with
    | other hr hid => exact .other hr hid
    | kept _ hid' hid'' => exact absurd (hid''.trans hid') hid
    | created _ _ hid' => exact absurd hid' hid
  | @kept r hr hid hid' hname hold hon =>
    cases hfirst r hr with
    | other _ hne => exact absurd hid hne
    | kept hr₀ hid₀ hid₀' hname₀ hold₀ hon₀ =>
      have hold := List.forall_mem_append.mpr ⟨hold₀, hold⟩
      refine .kept hr₀ hid₀ (hid'.trans hid₀') (hname.trans hname₀) hold fun target htarget => ?_
      rw [List.flatMap_append, List.mem_append]
      rcases hon target htarget with htarget | hlater
      · exact (hon₀ target htarget).imp_right .inl
      · exact .inr (.inr hlater)
    | created he hnew hid₀ hname₀ hon₀ =>
      refine .created (List.mem_append_left _ he) hnew (hid'.trans hid₀) (hname.trans hname₀) fun target htarget => ?_
      rw [List.flatMap_append, List.mem_append]
      rcases hon target htarget with htarget | hlater
      · exact .inl (hon₀ target htarget)
      · exact .inr hlater
  | created he hnew hid hname hon =>
    refine .created (List.mem_append_right _ he) hnew hid hname fun target htarget => ?_
    rw [List.flatMap_append, List.mem_append]
    exact .inr (hon target htarget)

theorem rowFrom_applyAppEvent (hkept : e.deletes = false) (h : t.applyAppEvent e = .ok t') (hr : r' ∈ t'.apps) :
    t.RowFrom e.id [e] r' := by
  have htargets : [e].flatMap AppEvent.targets = e.targets := List.flatMap_singleton ..
  cases hnew : e.founded with
  | some a =>
    obtain ⟨id, name, production, staging, created, rfl, hshows⟩ := AppRow.shows_ofCreated hnew
    obtain ⟨hfree, rfl⟩ := insertApp_eq_ok.mp h
    rcases List.mem_append.mp hr with hr | hr
    · exact .other hr (hfree r' hr)
    · obtain rfl := List.mem_singleton.mp hr
      have hname : (AppRow.ofCreated id name production staging created).name.read "name" = .ok name.text := rfl
      have hname : a.name.text = name.text := Except.ok.inj (hshows.name.symm.trans hname)
      refine .created List.mem_cons_self hnew rfl (congrArg Column.value hname.symm) fun target htarget => ?_
      rw [htargets]
      exact AppRow.isOn_ofCreated.mp htarget
  | none =>
    rw [applyAppEvent_of_change hnew hkept] at h
    cases h
    obtain ⟨r, hmem, rfl⟩ := List.mem_map.mp hr
    split
    · next hid =>
      have hnone : ∀ e' ∈ [e], e'.founded = none := List.forall_mem_singleton.mpr hnew
      refine .kept hmem (Column.holds_iff.mp hid) (r.id_project e) (r.name_project e) hnone fun target htarget => ?_
      rw [htargets]
      exact AppRow.isOn_of_project htarget
    · next hid => exact .other hmem fun h => hid (Column.holds_iff.mpr h)

theorem rowFrom_of_events (hown : ∀ e ∈ es, e.id = id ∧ e.deletes = false)
    (h : es.foldlM applyAppEvent t = .ok t') (hr : r' ∈ t'.apps) : t.RowFrom id es r' := by
  induction es generalizing t with
  | nil =>
    cases h
    exact .of_mem hr
  | cons e es ih =>
    obtain ⟨⟨rfl, hkept⟩, hown⟩ := List.forall_mem_cons.mp hown
    obtain ⟨next, he, hes⟩ := Database.exists_of_foldlM_cons h
    exact .trans (fun r hr => rowFrom_applyAppEvent hkept he hr) (ih hown hes)

/-- Every row is still there, under its name. -/
def Persists (t t' : Tables) : Prop := ∀ r ∈ t.apps, ∃ r' ∈ t'.apps, r'.id = r.id ∧ r'.name = r.name

theorem persists_applyAppEvent (hkept : e.deletes = false) (h : t.applyAppEvent e = .ok t') : t.Persists t' := by
  intro r hr
  cases hnew : e.founded with
  | some a =>
    obtain ⟨id, name, production, staging, created, rfl, -⟩ := AppRow.shows_ofCreated hnew
    obtain ⟨-, rfl⟩ := insertApp_eq_ok.mp h
    exact ⟨r, List.mem_append_left _ hr, rfl, rfl⟩
  | none =>
    rw [applyAppEvent_of_change hnew hkept] at h
    cases h
    refine ⟨_, List.mem_map_of_mem hr, ?_, ?_⟩
    · split <;> simp
    · split <;> simp

theorem persists_of_events (hkept : ∀ e ∈ es, e.deletes = false) (h : es.foldlM applyAppEvent t = .ok t') :
    t.Persists t' := by
  induction es generalizing t with
  | nil =>
    cases h
    exact fun r hr => ⟨r, hr, rfl, rfl⟩
  | cons e es ih =>
    obtain ⟨hfirst, hkept⟩ := List.forall_mem_cons.mp hkept
    obtain ⟨next, he, hes⟩ := Database.exists_of_foldlM_cons h
    intro r hr
    obtain ⟨r₁, hr₁, hid₁, hname₁⟩ := persists_applyAppEvent hfirst he r hr
    obtain ⟨r₂, hr₂, hid₂, hname₂⟩ := ih hkept hes r₁ hr₁
    exact ⟨r₂, hr₂, hid₂.trans hid₁, hname₂.trans hname₁⟩

theorem nodup_applyAppEvent (hids : (t.apps.map (·.id)).Nodup) (h : t.applyAppEvent e = .ok t') :
    (t'.apps.map (·.id)).Nodup := by
  cases hnew : e.founded with
  | some a =>
    obtain ⟨id, name, production, staging, created, rfl, -⟩ := AppRow.shows_ofCreated hnew
    obtain ⟨hfree, rfl⟩ := insertApp_eq_ok.mp h
    rw [List.map_append, List.nodup_append]
    refine ⟨hids, List.nodup_singleton _, fun i hi j hj => ?_⟩
    obtain ⟨r, hr, rfl⟩ := List.mem_map.mp hi
    rw [List.mem_singleton.mp hj]
    exact hfree r hr
  | none =>
    cases hdeletes : e.deletes with
    | true =>
      cases e with
      | deleted id =>
        cases h
        exact hids.sublist (List.filter_sublist.map _)
      | _ => cases hdeletes
    | false =>
      rw [applyAppEvent_of_change hnew hdeletes] at h
      cases h
      have hsame : (t.updateApp e.id (·.project e)).apps.map (·.id) = t.apps.map (·.id) := by
        rw [updateApp, List.map_map]
        refine List.map_congr_left fun r _ => ?_
        simp only [Function.comp]
        split <;> simp
      rwa [hsame]

theorem nodup_of_events (hids : (t.apps.map (·.id)).Nodup) (h : es.foldlM applyAppEvent t = .ok t') :
    (t'.apps.map (·.id)).Nodup := by
  induction es generalizing t with
  | nil =>
    cases h
    exact hids
  | cons e es ih =>
    obtain ⟨next, he, hes⟩ := Database.exists_of_foldlM_cons h
    exact ih (nodup_applyAppEvent hids he) hes

end Tables

end Rollout
