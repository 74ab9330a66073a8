import Rollout.App
import Rollout.Proofs.Results

/-!
# Operations on apps

An operation is refused, changes nothing, or raises the one event that says what it changes (`App.perform_eq_ok`).
-/

namespace Rollout

inductive AppOperation where
  | updateEnvironment (e : Environment) (required : Requirement)
  | useVersionControl (config : VersionControl)
  | removeVersionControl
  | requestCleanup (requested : Signature)
  | delete

namespace App

variable {a a' : App} {o : AppOperation}

def perform (a : App) : AppOperation → Except AppError App
  | .updateEnvironment e required => a.updateEnvironment e required
  | .useVersionControl config => a.useVersionControl config
  | .removeVersionControl => a.removeVersionControl
  | .requestCleanup requested => .ok (a.requestCleanup requested)
  | .delete => a.delete

/-- The event that an operation raises, if it is accepted and changes something. -/
inductive Raises (a : App) : AppOperation → AppEvent → Prop where
  | envChanged {e : Environment} {required : Requirement} {config : EnvConfig} (hopen : a.cleanupRequested = none)
      (hmet : required.met = .ok config) (hnew : (a.environment e).hasSameValues config = false) :
    Raises a (.updateEnvironment e required) (.envChanged a.id e (config.consolidate (a.environment e)))
  | versionControlConfigured {config : VersionControl} (hopen : a.cleanupRequested = none)
      (hnew : a.versionControl ≠ some config) :
    Raises a (.useVersionControl config) (.versionControlConfigured a.id config)
  | versionControlRemoved (hopen : a.cleanupRequested = none) (hsome : a.versionControl.isSome = true) :
    Raises a .removeVersionControl (.versionControlRemoved a.id)
  | cleanupRequested {requested : Signature} (hopen : a.cleanupRequested = none) :
    Raises a (.requestCleanup requested) (.cleanupRequested a.id requested)
  | deleted (hrequested : a.cleanupRequested.isSome = true) : Raises a .delete (.deleted a.id)

theorem create_eq_ok {id : AppId} {name : AppName} {production staging : Requirement} {created : Signature} :
    create id name production staging created = .ok a ↔
      ∃ p s, production.met = .ok p ∧ staging.met = .ok s ∧
        a = ⟨id, name, p, s, none, none, created, EventBuffer.empty.record (.created id name p s created)⟩ := by
  simp only [create, bind_eq_ok, pure_eq_ok]
  constructor
  · rintro ⟨p, hp, s, hs, rfl⟩
    exact ⟨p, s, hp, hs, rfl⟩
  · rintro ⟨p, s, hp, hs, rfl⟩
    exact ⟨p, hp, s, hs, rfl⟩

theorem ensureNotCleaningUp_eq_ok {u : Unit} : a.ensureNotCleaningUp = .ok u ↔ a.cleanupRequested = none := by
  unfold ensureNotCleaningUp
  cases a.cleanupRequested <;> simp

theorem updateEnvironment_eq_ok {e : Environment} {required : Requirement} :
    a.updateEnvironment e required = .ok a' ↔
      a.cleanupRequested = none ∧ ∃ config, required.met = .ok config ∧
        a' = if (a.environment e).hasSameValues config then a
          else a.raise (.envChanged a.id e (config.consolidate (a.environment e))) := by
  simp only [updateEnvironment, bind_eq_ok, ensureNotCleaningUp_eq_ok, exists_and_left, exists_const]
  refine and_congr_right fun _ => exists_congr fun config => and_congr_right fun _ => ?_
  split <;> exact pure_eq_ok.trans eq_comm

theorem useVersionControl_eq_ok {config : VersionControl} :
    a.useVersionControl config = .ok a' ↔
      a.cleanupRequested = none ∧
        a' = if a.versionControl = some config then a else a.raise (.versionControlConfigured a.id config) := by
  simp only [useVersionControl, bind_eq_ok, ensureNotCleaningUp_eq_ok, exists_and_left, exists_const]
  refine and_congr_right fun _ => ?_
  split <;> exact pure_eq_ok.trans eq_comm

theorem removeVersionControl_eq_ok :
    a.removeVersionControl = .ok a' ↔
      a.cleanupRequested = none ∧
        a' = if a.versionControl.isNone then a else a.raise (.versionControlRemoved a.id) := by
  simp only [removeVersionControl, bind_eq_ok, ensureNotCleaningUp_eq_ok, exists_and_left, exists_const]
  refine and_congr_right fun _ => ?_
  split <;> exact pure_eq_ok.trans eq_comm

/-- **An accepted operation changes nothing, or what its event says.** -/
theorem perform_eq_ok (h : a.perform o = .ok a') : (a' = a ∧ o ≠ .delete) ∨ ∃ e, a.Raises o e ∧ a' = a.raise e := by
  cases o with
  | updateEnvironment e required =>
    obtain ⟨hopen, config, hmet, rfl⟩ := updateEnvironment_eq_ok.mp h
    split
    · exact .inl ⟨rfl, nofun⟩
    · next hnew => exact .inr ⟨_, .envChanged hopen hmet (by simpa using hnew), rfl⟩
  | useVersionControl config =>
    obtain ⟨hopen, rfl⟩ := useVersionControl_eq_ok.mp h
    split
    · exact .inl ⟨rfl, nofun⟩
    · next hnew => exact .inr ⟨_, .versionControlConfigured hopen hnew, rfl⟩
  | removeVersionControl =>
    obtain ⟨hopen, rfl⟩ := removeVersionControl_eq_ok.mp h
    split
    · exact .inl ⟨rfl, nofun⟩
    · next hsome => exact .inr ⟨_, .versionControlRemoved hopen (by simpa [Option.isSome_iff_ne_none] using hsome), rfl⟩
  | requestCleanup requested =>
    obtain rfl : a.requestCleanup requested = a' := Except.ok.inj h
    unfold requestCleanup
    split
    · exact .inl ⟨rfl, nofun⟩
    · next hopen => exact .inr ⟨_, .cleanupRequested (by simpa using hopen), rfl⟩
  | delete =>
    have h : a.delete = .ok a' := h
    unfold delete at h
    split at h
    · cases h
    · next hrequested =>
      cases h
      exact .inr ⟨_, .deleted (by simpa [Option.isSome_iff_ne_none] using hrequested), rfl⟩

end App

end Rollout
