import Rollout.Proofs.App.Operations
import Rollout.Proofs.Store.Placement
import Rollout.UseCases

/-!
# Names in use

Before it writes, a call is told on which of the targets that it asks for the name of its app is free (`Clears`). The
events that it then writes put its app only on such targets (`Builds`).
-/

namespace Rollout

/-! ## What calls are told -/

/-- The targets that are asked for. -/
def askedTargets (required : Requirement × Requirement) : List TargetId :=
  (required.1.config.toList ++ required.2.config.toList).map (·.target)

/-- The name was free on the target. -/
def Requirement.Clears (q : Requirement) (target : TargetId) : Prop :=
  ∃ c, q.config = some c ∧ c.target = target ∧ q.nameAvailable = true

/-- The name was free on the target, which is asked for. -/
def Clears (required : Requirement × Requirement) (target : TargetId) : Prop :=
  required.1.Clears target ∨ required.2.Clears target

variable {required : Requirement × Requirement} {target : TargetId} {id : AppId} {name : Column String}

theorem Requirement.clears_of_met {q : Requirement} {c : EnvConfig} (h : q.met = .ok c) : q.Clears c.target := by
  obtain ⟨hconfig, -, hfree⟩ := Requirement.met_eq_ok_iff.mp h
  exact ⟨c, hconfig, rfl, hfree⟩

theorem mem_askedTargets (h : Clears required target) : target ∈ askedTargets required := by
  rcases h with ⟨c, hc, rfl, -⟩ | ⟨c, hc, rfl, -⟩
  · exact List.mem_map_of_mem (List.mem_append_left _ (Option.mem_toList.mpr hc))
  · exact List.mem_map_of_mem (List.mem_append_right _ (Option.mem_toList.mpr hc))

theorem Requirement.not_clears_empty : ¬Requirement.empty.Clears target := by
  rintro ⟨c, hc, -⟩
  cases hc

theorem not_clears_empty : ¬Clears (.empty, .empty) target := by
  rintro (h | h)
  · exact Requirement.not_clears_empty h
  · exact Requirement.not_clears_empty h

namespace Tables

variable {t : Tables} {except : AppRow → Bool}

/-- What is free is taken by no row that counts. -/
theorem not_isOn_of_clears {c : EnvConfig} (h : (t.requirement except name c).Clears target) {r : AppRow}
    (hr : r ∈ t.apps) (hname : r.name = name) (hcounts : except r = false) : r.isOn target = false := by
  obtain ⟨_, hc, rfl, hfree⟩ := h
  cases hc
  have hfree : t.apps.any (fun r => !except r && r.name = name && r.isOn c.target) = false := by
    simpa [requirement, Requirement.of, isFree] using hfree
  simpa [hname, hcounts] using List.any_eq_false.mp hfree r hr

theorem not_isOn_of_checkNaming {n : AppName} {production staging : EnvConfig}
    (h : Clears (t.checkNaming n production staging) target) {r : AppRow} (hr : r ∈ t.apps)
    (hname : r.name = .value n.text) : r.isOn target = false := by
  rcases h with h | h
  · exact not_isOn_of_clears h hr hname rfl
  · exact not_isOn_of_clears h hr hname rfl

/-- Only a row that is there has its environments checked, and by its own name. -/
theorem of_checkNamingById {production staging : Option EnvConfig}
    (h : t.checkNamingById id production staging = .ok required) :
    ∃ row ∈ t.apps, row.id = .value id ∧ ∀ target, Clears required target → ∀ r ∈ t.apps, r.name = row.name →
      r.id ≠ .value id → r.isOn target = false := by
  unfold checkNamingById at h
  split at h
  · cases h
  · next row hrow =>
    cases h
    have hfound : t.apps.find? (·.id.holds id) = some row := hrow
    refine ⟨row, List.mem_of_find?_eq_some hfound, ?_, fun target hclears r hr hname hid => ?_⟩
    · have hholds := List.find?_some hfound
      exact Column.holds_iff.mp hholds
    · have hcounts : r.id.holds id = false := Bool.eq_false_iff.mpr fun h => hid (Column.holds_iff.mp h)
      rcases hclears with h | h
      · cases production with
        | none => exact absurd h Requirement.not_clears_empty
        | some c => exact not_isOn_of_clears h hr hname hcounts
      · cases staging with
        | none => exact absurd h Requirement.not_clears_empty
        | some c => exact not_isOn_of_clears h hr hname hcounts

end Tables

/-! ## What calls build -/

/-- The events that an app is going to write are its own, and put it only on targets where its name was free. -/
structure Builds (app : AppId) (name : Column String) (required : Requirement × Requirement) (a : App) : Prop where
  id : a.id = app
  events : ∀ e ∈ Aggregate.pending a, e.id = app ∧ e.deletes = false
  targets : ∀ e ∈ Aggregate.pending a, ∀ target ∈ e.targets, Clears required target
  founded : ∀ e ∈ Aggregate.pending a, ∀ b, e.founded = some b → .value b.name.text = name

/-- Whether a call may have an app perform the operation. -/
def AppOperation.IsCleared (required : Requirement × Requirement) : AppOperation → Prop
  | .updateEnvironment _ q => q = required.1 ∨ q = required.2
  | .useVersionControl _ | .removeVersionControl => True
  | _ => False

namespace Builds

variable {a a' : App} {o : AppOperation}

theorem targets_of_raises {e : AppEvent} (he : a.Raises o e) (ho : o.IsCleared required) :
    ∀ target ∈ e.targets, Clears required target := by
  intro target htarget
  cases he with
  | envChanged _ hmet _ =>
    have hclears := Requirement.clears_of_met hmet
    have hsame : target = _ := List.mem_singleton.mp htarget
    rw [EnvConfig.consolidate] at hsame
    obtain rfl : target = _ := hsame.trans (by split <;> rfl)
    rcases ho with rfl | rfl
    · exact .inl hclears
    · exact .inr hclears
  | _ => cases htarget

theorem perform (h : Builds id name required a) (ho : o.IsCleared required) (hperform : a.perform o = .ok a') :
    Builds id name required a' := by
  rcases App.perform_eq_ok hperform with ⟨rfl, -⟩ | ⟨e, hraises, rfl⟩
  · exact h
  · have hpending : Aggregate.pending (a.raise e) = Aggregate.pending a ++ [e] := rfl
    have htargets := targets_of_raises hraises ho
    have hown : e.id = id ∧ e.deletes = false ∧ e.founded = none := by
      cases hraises with
      | deleted => exact ho.elim
      | _ => exact ⟨h.id, rfl, rfl⟩
    constructor
    case id => exact (a.id_apply e).trans h.id
    all_goals rw [hpending, List.forall_mem_append, List.forall_mem_singleton]
    · exact ⟨h.events, hown.1, hown.2.1⟩
    · exact ⟨h.targets, htargets⟩
    · exact ⟨h.founded, fun b hb => nomatch hown.2.2.symm.trans hb⟩

theorem mem_pending_of_perform {e : AppEvent} (he : e ∈ Aggregate.pending a) (hperform : a.perform o = .ok a') :
    e ∈ Aggregate.pending a' := by
  rcases App.perform_eq_ok hperform with ⟨rfl, -⟩ | ⟨e', -, rfl⟩
  · exact he
  · exact List.mem_append_left [e'] he

/-- A new app, which says so in its events. -/
theorem of_new {input : NewApp} {created : Signature} (h : input.build id required created = .ok a) :
    Builds id (.value input.name.text) required a ∧ ∃ e ∈ Aggregate.pending a, e.founded ≠ none := by
  rw [NewApp.build, bind_eq_ok] at h
  obtain ⟨app, happ, h⟩ := h
  obtain ⟨production, staging, hproduction, hstaging, rfl⟩ := App.create_eq_ok.mp happ
  have hbuilds : Builds id (.value input.name.text) required
      ⟨id, input.name, production, staging, none, none, created,
        EventBuffer.empty.record (.created id input.name production staging created)⟩ := by
    refine ⟨rfl, List.forall_mem_singleton.mpr ⟨rfl, rfl⟩, List.forall_mem_singleton.mpr fun target htarget => ?_,
      List.forall_mem_singleton.mpr fun b hb => ?_⟩
    · rcases List.mem_pair.mp htarget with rfl | rfl
      · exact .inl (Requirement.clears_of_met hproduction)
      · exact .inr (Requirement.clears_of_met hstaging)
    · cases hb
      rfl
  cases hinput : input.versionControl with
  | none =>
    rw [hinput] at h
    cases pure_eq_ok.mp h
    exact ⟨hbuilds, _, List.mem_cons_self, nofun⟩
  | some config =>
    rw [hinput] at h
    have hperform : App.perform _ (.useVersionControl config) = .ok a := h
    have hbuilds := hbuilds.perform (o := .useVersionControl config) trivial hperform
    exact ⟨hbuilds, _, mem_pending_of_perform List.mem_cons_self hperform, nofun⟩

theorem moveTo {e : Environment} {q : Requirement} (h : Builds id name required a)
    (hq : q = required.1 ∨ q = required.2) (hmove : AppChange.moveTo a e q = .ok a') : Builds id name required a' := by
  unfold AppChange.moveTo at hmove
  split at hmove
  · cases hmove
    exact h
  · exact h.perform (o := .updateEnvironment e q) hq hmove

/-- An app that is changed. -/
theorem of_change {input : AppChange} (hid : a.id = id) (hevents : a.events = .empty)
    (h : input.build a required = .ok a') : Builds id name required a' := by
  have hpending : Aggregate.pending a = [] := congrArg EventBuffer.events hevents
  have hbegin : Builds id name required a := by
    constructor
    case id => exact hid
    all_goals rw [hpending]; exact List.forall_mem_nil _
  simp only [AppChange.build, bind_eq_ok] at h
  obtain ⟨a₁, hproduction, a₂, hstaging, h⟩ := h
  have hmoved := (hbegin.moveTo (.inl rfl) hproduction).moveTo (.inr rfl) hstaging
  cases hinput : input.versionControl with
  | keep =>
    rw [hinput] at h
    cases pure_eq_ok.mp h
    exact hmoved
  | use config =>
    rw [hinput] at h
    exact hmoved.perform (o := .useVersionControl config) trivial h
  | remove =>
    rw [hinput] at h
    exact hmoved.perform (o := .removeVersionControl) trivial h

end Builds

end Rollout
