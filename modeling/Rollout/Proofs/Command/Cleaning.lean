import Rollout.Command.Cleanup
import Rollout.Proofs.Command.Changes
import Rollout.Proofs.Store.Course

/-!
# What a cleanup command changes

A step of a cleanup command deletes its app or leaves the tables as they are (`CleaningUp.Effect`). If the app is about
to be cleaned up as long as it is stored (`CleaningUp.Entitled`), a job whose command has come to its end for good
leaves no app behind.
-/

namespace Rollout

/-- An event that is raised is the only one pending, if none was. -/
theorem pendingEvents_raise {a : App} (hevents : a.events = .empty) (e : AppEvent) : pendingEvents [a.raise e] = [e] := by
  show (a.events.record e).drain.1 ++ [] = [e]
  rw [hevents]
  rfl

/-- An app without a row is not found. -/
theorem Tables.app_of_app?_eq_none {t : Tables} {app : AppId} (h : t.app? app = none) :
    t.app app = .error (.notFound "app") :=
  congrArg (readRow "app" AppRow.toApp) h

/-- Only an app without a row is not found. -/
theorem Tables.app?_of_isNotFound {t : Tables} {app : AppId} {e : StoreError} (h : t.app app = .error e)
    (he : e.isNotFound = true) : t.app? app = none := by
  cases hr : t.app? app with
  | none => rfl
  | some r =>
    rw [Tables.app, hr] at h
    obtain ⟨error, -, rfl⟩ := mapError_eq_error.mp h
    cases he

namespace CleaningUp

variable {p p' : CleaningUp} {s s' : System} {t t' : Tables} {a : App}

/-- Whether the command takes no more steps. -/
def isOver (p : CleaningUp) : Bool :=
  match p.phase with
  | .ended _ => true
  | _ => false

/-- The app as the command has loaded it. -/
def copy? (p : CleaningUp) : Option App :=
  match p.phase with
  | .loaded a | .cleared a => some a
  | _ => none

/-- The command has loaded its own app, with nothing to write. -/
structure Informed (p : CleaningUp) : Prop where
  id : ∀ a, p.copy? = some a → a.id = p.app
  events : ∀ a, p.copy? = some a → a.events = .empty

/-- The app is about to be cleaned up, and the command has found it so. -/
structure Entitled (t : Tables) (p : CleaningUp) : Prop where
  leaves : (t.app? p.app).isSome = true → t.Leaves p.app
  marked : ∀ a, p.copy? = some a → a.cleanupRequested.isSome = true

/-- What a step can make of a command, and of the tables. -/
inductive Effect (p : CleaningUp) (t : Tables) : CleaningUp → Tables → Prop where
  | fails {e : CommandError} (he : CommandError.toJobResult (.error e) ≠ .ok ()) : Effect p t (p.fail e) t
  /-- The app was cleaned up before. -/
  | misses (hnone : t.app? p.app = none) : Effect p t (p.goTo (.ended (.ok ()))) t
  | loads {a : App} (ha : t.app p.app = .ok a) : Effect p t (p.goTo (.loaded a)) t
  | refuses {a : App} {e : AppError} (hcopy : p.copy? = some a) (hnot : a.cleanupRequested.isNone = true) :
    Effect p t (p.fail (.rejected e)) t
  | clears {a : App} (hcopy : p.copy? = some a) : Effect p t (p.goTo (.cleared a)) t
  | deletes {a : App} {result : Except CommandError Unit} (hcopy : p.copy? = some a) :
    Effect p t (p.goTo (.ended result)) (t.deleteApp a.id)

theorem effect_of_load (h : p.load s = (p', s')) : Effect p s.tables p' s'.tables ∧ s'.calls = s.calls := by
  unfold load at h
  split at h
  · cases h
    exact ⟨.fails CommandError.toJobResult_cancelled, rfl⟩
  · -- a question leaves the tables as they are
    have htables : (s.store.skip 1).db.tables = s.tables := Store.tables_skip 1
    rcases s.store.query_eq fun t => t.app p.app with ⟨error, hquery⟩ | hquery
    · simp only [Store.loadApp, hquery] at h
      cases h
      refine ⟨?_, rfl⟩
      simp only [System.tables, htables]
      exact .fails (CommandError.toJobResult_store rfl)
    · cases ha : s.store.db.tables.app p.app with
      | ok a =>
        simp only [Store.loadApp, hquery, ha] at h
        cases h
        refine ⟨?_, rfl⟩
        simp only [System.tables, htables]
        exact .loads ha
      | error e =>
        simp only [Store.loadApp, hquery, ha] at h
        split at h
        · next hnotFound =>
          cases h
          refine ⟨?_, rfl⟩
          simp only [System.tables, htables]
          exact .misses (Tables.app?_of_isNotFound ha hnotFound)
        · next hnot =>
          cases h
          refine ⟨?_, rfl⟩
          simp only [System.tables, htables]
          exact .fails (CommandError.toJobResult_store (Bool.eq_false_iff.mpr hnot))

theorem effect_of_clear (hcopy : p.copy? = some a) (h : p.clear a s = (p', s')) :
    Effect p s.tables p' s'.tables ∧ s'.calls = s.calls := by
  unfold clear at h
  split at h
  · next hnot =>
    cases h
    exact ⟨.refuses hcopy hnot, rfl⟩
  · dsimp only at h
    split at h
    · cases h
      exact ⟨.clears hcopy, rfl⟩
    · next failure _ =>
      cases h
      refine ⟨.fails ?_, rfl⟩
      split
      · exact CommandError.toJobResult_cancelled
      · exact CommandError.toJobResult_artifact _

theorem effect_of_delete (hcopy : p.copy? = some a) (hevents : a.events = .empty) (h : p.delete a s = (p', s')) :
    Effect p s.tables p' s'.tables ∧ s'.calls = s.calls := by
  unfold delete App.delete at h
  split at h
  · next e he =>
    cases h
    split at he
    · next hnot => exact ⟨.refuses hcopy hnot, rfl⟩
    · cases he
  · next a' ha' =>
    split at ha'
    · cases ha'
    · cases ha'
      rcases s.store.write_cases [a.raise (.deleted a.id)] with
        ⟨error, k, hwrite⟩ | ⟨result, tables, k, hub, happlied, hstored, hwrite⟩
      · simp only [hwrite] at h
        cases h
        have htables : (s.store.db.skip k).tables = s.store.db.tables := Database.tables_skip
        refine ⟨?_, rfl⟩
        simp only [System.tables, htables]
        exact .fails (CommandError.toJobResult_store rfl)
      · rw [pendingEvents_raise hevents] at happlied
        have htables : s.tables.deleteApp a.id = tables := Except.ok.inj happlied
        cases result with
        | ok _ =>
          simp only [hwrite] at h
          cases h
          exact ⟨htables ▸ .deletes hcopy, rfl⟩
        | error e =>
          simp only [hwrite] at h
          cases h
          exact ⟨htables ▸ .deletes hcopy, rfl⟩

/-- **A step has one of the effects**, and calls no runner. -/
theorem effect_of_step (hinformed : p.Informed) (hgoes : p.isOver = false) (h : p.step s = (p', s')) :
    Effect p s.tables p' s'.tables ∧ s'.calls = s.calls := by
  unfold step at h
  split at h
  case h_1 => exact effect_of_load h
  case h_2 a hphase => exact effect_of_clear (by rw [copy?, hphase]) h
  case h_3 a hphase =>
    have hcopy : p.copy? = some a := by rw [copy?, hphase]
    exact effect_of_delete hcopy (hinformed.events a hcopy) h
  case h_4 result hphase =>
    rw [isOver, hphase] at hgoes
    cases hgoes

theorem step_of_isOver (h : p.isOver = true) : p.step s = (p, s) := by
  obtain ⟨app, context, phase⟩ := p
  cases phase <;> first | rfl | cases h

theorem Informed.of_copy?_eq_none (h : p.copy? = none) : p.Informed := by
  constructor
  all_goals
    intro a ha
    cases h.symm.trans ha

theorem Entitled.of_copy?_eq_none (hleaves : (t.app? p.app).isSome = true → t.Leaves p.app) (h : p.copy? = none) :
    p.Entitled t :=
  ⟨hleaves, fun a ha => by cases h.symm.trans ha⟩

namespace Effect

theorem app_eq (h : Effect p t p' t') : p'.app = p.app := by cases h <;> rfl

theorem informed (h : Effect p t p' t') (hinformed : p.Informed) : p'.Informed := by
  cases h with
  | @loads a ha =>
    obtain ⟨r, hr, hshows⟩ := Tables.app_eq_ok.mp ha
    constructor
    all_goals
      intro b hb
      obtain rfl : a = b := Option.some.inj hb
    · exact Tables.id_of_app?_shows hr hshows
    · exact hshows.events
  | @clears a hcopy =>
    constructor
    all_goals
      intro b hb
      obtain rfl : a = b := Option.some.inj hb
    · exact hinformed.id a hcopy
    · exact hinformed.events a hcopy
  | fails | misses | refuses | deletes => exact .of_copy?_eq_none rfl

/-- The app of the command is deleted, or nothing is changed. -/
theorem tables_cases (h : Effect p t p' t') (hinformed : p.Informed) : t' = t ∨ t' = t.deleteApp p.app := by
  cases h with
  | deletes hcopy => exact .inr (by rw [hinformed.id _ hcopy])
  | fails | misses | refuses | clears | loads => exact .inl rfl

theorem change (h : Effect p t p' t') (hinformed : p.Informed) (issued : List AppId) :
    Tables.Change issued t [] t' := by
  rcases h.tables_cases hinformed with rfl | rfl
  · exact .retains (.of_eq rfl rfl)
  · exact .deletes p.app

theorem entitled (h : Effect p t p' t') (hinformed : p.Informed) (hentitled : p.Entitled t) : p'.Entitled t' := by
  cases h with
  | @loads a ha =>
    refine ⟨hentitled.leaves, fun b hb => ?_⟩
    obtain rfl : a = b := Option.some.inj hb
    obtain ⟨r, hr, hshows⟩ := Tables.app_eq_ok.mp ha
    obtain ⟨r', hr', hmarked⟩ := hentitled.leaves (by rw [hr]; rfl)
    cases hr.symm.trans hr'
    exact hshows.isMarked_iff.mp hmarked
  | @clears a hcopy =>
    refine ⟨hentitled.leaves, fun b hb => ?_⟩
    obtain rfl : a = b := Option.some.inj hb
    exact hentitled.marked a hcopy
  | @deletes a result hcopy =>
    refine .of_copy?_eq_none (fun hsome => ?_) rfl
    have hsome : ((t.deleteApp a.id).app? p.app).isSome = true := hsome
    rw [hinformed.id a hcopy, Tables.app?_deleteApp, if_pos rfl] at hsome
    cases hsome
  | fails | misses | refuses => exact .of_copy?_eq_none hentitled.leaves rfl

/-- A job whose command has come to its end for good leaves no app behind. -/
theorem app?_eq_none (h : Effect p t p' t') (hinformed : p.Informed) (hentitled : p.Entitled t)
    {result : Except CommandError Unit} (hresult : p'.result? = some result)
    (hok : CommandError.toJobResult result = .ok ()) : t'.app? p.app = none := by
  cases h with
  | fails he =>
    cases hresult
    exact absurd hok he
  | misses hnone => exact hnone
  | loads | clears => cases hresult
  | refuses hcopy hnot =>
    have hmarked := hentitled.marked _ hcopy
    rw [Option.isNone_iff_eq_none.mp hnot] at hmarked
    cases hmarked
  | deletes hcopy => rw [hinformed.id _ hcopy, Tables.app?_deleteApp, if_pos rfl]

end Effect

theorem app_of_step (hinformed : p.Informed) : (p.step s).1.app = p.app := by
  cases hover : p.isOver with
  | true => rw [step_of_isOver hover]
  | false => exact (effect_of_step hinformed hover rfl).1.app_eq

theorem informed_of_step (hinformed : p.Informed) : (p.step s).1.Informed := by
  cases hover : p.isOver with
  | true => rwa [step_of_isOver hover]
  | false => exact (effect_of_step hinformed hover rfl).1.informed hinformed

end CleaningUp

end Rollout
