import Mathlib.Data.List.Induction
import Rollout.Proofs.Artifacts
import Rollout.Proofs.Command.Cleaning
import Rollout.Proofs.Command.Undisturbed
import Rollout.Proofs.Interleaving

/-!
# What is left behind by a cleanup

Deploy and cleanup commands take their steps on one system in any order; whatever else is on it may change at any time,
except for its files. A build is two steps here: the build directory is made, and then the runner is called. Taken one
after the other they are the build of the command (`Undertaking.step_of_started`).

A cleanup removes the files of its app first and deletes the app after that. A deploy command that has started makes its
build directory without another look at the app, so that an app may be deleted with a directory left behind
(`hasDirectory_of_straying`). Directories are left behind in no other way: such a command made one after the files had
been removed (`hasDirectory_iff_revived`).
-/

namespace Rollout

/-! ## Builds in two steps -/

namespace Deploying

variable (p : Deploying) (d : Deployment) (s : System)

/-- Makes the build directory, unless there is a reason to stop. -/
def prepare : Except Failure Unit × System :=
  match p.context.stop? s.now with
  | some reason => (.error (.ofStop reason), s)
  | none =>
    let (result, files) := Artifacts.prepareBuild p.context s.now s.dataDir d.id s.files
    (result.mapError ArtifactError.failure, { s with files })

/-- Calls the runner, unless there is a reason to stop. -/
def callRunner : Option (Except Failure Unit) × Context × System :=
  match p.context.stop? s.now with
  | some reason => (some (.error (.ofStop reason)), p.context, s)
  | none =>
    let call := Build.call d
    let b := Build.start s.files call.log s.now p.context
    let (ending, b) := (b.writeLine (Build.heading d)).runAndClose p.holds call (s.runner call)
    let s := { s with files := b.files, now := b.now, calls := s.calls ++ [call] }
    match ending with
    | .finished result => (some result, b.context, s)
    | .stopped reason => (some (.error (.ofStop reason)), b.context, s)
    | .never => (none, b.context, s)

/-- Calls the runner if the build directory has been made. -/
def goOn : Except Failure Unit × System → Option (Except Failure Unit) × Context × System
  | (.error failure, s) => (some (.error failure), p.context, s)
  | (.ok _, s) => p.callRunner d s

/-- Takes down what the build came to. -/
def conclude : Option (Except Failure Unit) × Context × System → Deploying × System
  | (none, context, s) => ({ p with context, phase := .stuck }, s)
  | (some outcome, context, s) =>
    ({ p with context, phase := .built d outcome (!outcome.isOk && context.isCancelled s.now) }, s)

variable {p d s}

theorem build_eq : p.build d s = p.conclude d (p.runBuild d s) := by
  unfold build conclude
  rcases p.runBuild d s with ⟨_ | outcome, context, s'⟩ <;> rfl

/-- Without a break the context has not stopped when the runner is called. -/
theorem runBuild_eq : p.runBuild d s = p.goOn d (p.prepare d s) := by
  cases hstop : p.context.stop? s.now with
  | some reason => simp only [runBuild, prepare, goOn, hstop]
  | none =>
    rcases hmade : Artifacts.prepareBuild p.context s.now s.dataDir d.id s.files with ⟨e | _, files⟩
    · simp only [runBuild, prepare, goOn, hstop, hmade, Except.mapError]
    · rcases hended : ((Build.start files (Build.call d).log s.now p.context).writeLine (Build.heading d)).runAndClose
        p.holds (Build.call d) (s.runner (Build.call d)) with ⟨_ | _ | _, b⟩
      all_goals simp only [runBuild, prepare, goOn, callRunner, hstop, hmade, hended, Except.mapError]

/-! ## Files -/

theorem files_prepare : (p.prepare d s).2.files = s.files ∨
    (p.prepare d s).2.files = (Artifacts.prepareBuild p.context s.now s.dataDir d.id s.files).2 := by
  unfold prepare
  split
  · exact .inl rfl
  · exact .inr rfl

theorem files_conclude (x : Option (Except Failure Unit) × Context × System) :
    (p.conclude d x).2.files = x.2.2.files := by
  rcases x with ⟨_ | outcome, context, s'⟩ <;> rfl

theorem writes_callRunner : s.files.Writes (p.callRunner d s).2.2.files := by
  unfold callRunner
  split
  · exact .refl _
  · have hheaded := Build.writes_writeLine (Build.start s.files (Build.call d).log s.now p.context) (Build.heading d)
    have hover := hheaded.trans (Build.writes_runAndClose p.holds (Build.call d) (s.runner (Build.call d)) _)
    dsimp only
    split <;> exact hover

theorem files_andThen {β : Type} (answer : Except StoreError β × Store) (next : β → DeployPhase) :
    (p.andThen s answer next).2.files = s.files := by
  unfold andThen
  dsimp only
  split <;> rfl

theorem files_commit (next : List Deployment → DeployPhase) (x : Except AppError (List Deployment)) :
    (p.commit s next x).2.files = s.files := by
  cases x with
  | error e => rfl
  | ok ds => exact files_andThen ..

/-- Only a build gets at the files. -/
theorem files_of_step (hphase : ∀ d, p.phase ≠ .started d) : (p.step s).2.files = s.files := by
  unfold step
  split
  · unfold load
    split
    · rfl
    · exact files_andThen ..
  · split
    · exact files_andThen ..
    · exact files_commit ..
    · rfl
  · exact files_commit ..
  · next d hstarted => exact absurd hstarted (hphase d)
  · unfold record
    split <;> exact files_commit ..
  · rfl
  · rfl

/-- The copy that a command has of its own deployment is of the deployment that it was given. -/
theorem Effect.own_id {p' : Deploying} {t t' : Tables} (h : Effect p t p' t')
    (hp : ∀ d, p.own? = some d → d.id = p.id) : ∀ d, p'.own? = some d → d.id = p'.id := by
  intro d' hd'
  cases h with
  | ends _ hover | records _ _ _ _ hover => cases (own?_of_isOver hover).symm.trans hd'
  | loads hd =>
    cases hd'
    obtain ⟨r, hr, hshows⟩ := Tables.deployment_eq_ok.mp hd
    exact Tables.id_of_shows hr hshows
  | gathers hd _ =>
    cases hd'
    exact hp _ hd
  | builds hd hid hphase =>
    simp only [own?, hphase] at hd'
    cases hd'
    exact (hp _ hd).trans hid.symm
  | starts hd _ hmoved _ hid hphase =>
    rcases hphase with hover | hphase
    · cases (own?_of_isOver hover).symm.trans hd'
    · simp only [own?, hphase] at hd'
      cases hd'
      exact hmoved.id.trans ((hp _ hd).trans hid.symm)

end Deploying

namespace CleaningUp

variable {p : CleaningUp} {s : System} {app : AppId}

/-- The command has removed the files of its app, and deletes the app next. -/
def hasCleared (p : CleaningUp) : Bool :=
  match p.phase with
  | .cleared _ => true
  | _ => false

theorem load_aside : (p.load s).2.files = s.files ∧ (p.load s).1.hasCleared = false := by
  unfold load
  split
  · exact ⟨rfl, rfl⟩
  · dsimp only
    split
    · exact ⟨rfl, rfl⟩
    · split <;> exact ⟨rfl, rfl⟩

theorem delete_aside (a : App) : (p.delete a s).2.files = s.files ∧ (p.delete a s).1.hasCleared = false := by
  unfold delete
  split
  · exact ⟨rfl, rfl⟩
  · dsimp only
    split <;> exact ⟨rfl, rfl⟩

/-- What a step does to the files. -/
structure Clears (p : CleaningUp) (f : Files) (p' : CleaningUp) (f' : Files) : Prop where
  tree : f'.IsTree
  subset : ∀ app, Artifacts.HasDirectory f' app → Artifacts.HasDirectory f app
  gone : p'.hasCleared = true → ¬Artifacts.HasDirectory f' p.app

theorem Clears.aside {p' : CleaningUp} {f f' : Files} (hfiles : f.IsTree) (h : f' = f ∧ p'.hasCleared = false) :
    p.Clears f p' f' := by
  obtain ⟨rfl, hnot⟩ := h
  exact ⟨hfiles, fun _ h => h, fun hcleared => by simp [hnot] at hcleared⟩

theorem clears_of_clear (hfiles : s.files.IsTree) (a : App) :
    p.Clears s.files (p.clear a s).1 (p.clear a s).2.files := by
  unfold clear
  split
  · exact .aside hfiles ⟨rfl, rfl⟩
  · have htree : (Artifacts.cleanup p.context s.now s.dataDir p.app s.files).2.IsTree :=
      Artifacts.isTree_cleanup hfiles
    have hsubset (app : AppId) (h : Artifacts.HasDirectory
        (Artifacts.cleanup p.context s.now s.dataDir p.app s.files).2 app) : Artifacts.HasDirectory s.files app :=
      Artifacts.hasDirectory_of_cleanup h
    rcases hremoved : Artifacts.cleanup p.context s.now s.dataDir p.app s.files with ⟨_ | _, files⟩
    · rw [hremoved] at htree hsubset
      exact ⟨htree, hsubset, fun hcleared => by cases hcleared⟩
    · rw [hremoved] at htree hsubset
      exact ⟨htree, hsubset, fun _ => Artifacts.not_hasDirectory_of_cleanup hfiles hremoved⟩

/-- A step makes no directories, and when it has removed the files of its app there is none of the app. -/
theorem clears_of_step (hfiles : s.files.IsTree) : p.Clears s.files (p.step s).1 (p.step s).2.files := by
  unfold step
  split
  · exact .aside hfiles load_aside
  · exact clears_of_clear hfiles _
  · exact .aside hfiles (delete_aside _)
  · next hphase => exact .aside hfiles ⟨rfl, by simp only [hasCleared, hphase]⟩

end CleaningUp

/-! ## Commands on one system -/

/-- What a command is called for. -/
inductive CommandErrand where
  | deploy (id : DeploymentId) (context : Context) (holds : Bool)
  | cleanup (app : AppId) (context : Context)

/-- A command under way. -/
inductive Undertaking where
  | deploying (p : Deploying)
  /-- The build directory has been made, and the runner is called next. -/
  | prepared (p : Deploying) (d : Deployment)
  | cleaning (p : CleaningUp)

namespace Undertaking

def enter : CommandErrand → Undertaking
  | .deploy id context holds => .deploying (.enter id context holds)
  | .cleanup app context => .cleaning (.enter app context)

/-- A step of a deploy command, of which a build only makes the directory. -/
def proceed (p : Deploying) (s : System) : Undertaking × System :=
  match p.phase with
  | .started d =>
    match p.prepare d s with
    | (.ok _, s) => (.prepared p d, s)
    | (.error failure, s) =>
      let (p, s) := p.conclude d (some (.error failure), p.context, s)
      (.deploying p, s)
  | _ => (.deploying (p.step s).1, (p.step s).2)

def step : Undertaking → System → Undertaking × System
  | .deploying p, s => proceed p s
  | .prepared p d, s =>
    let (p, s) := p.conclude d (p.callRunner d s)
    (.deploying p, s)
  | .cleaning p, s => (.cleaning (p.step s).1, (p.step s).2)

/-- Whether the command takes no more steps. -/
def isOver : Undertaking → Bool
  | .deploying p => p.isOver
  | .prepared .. => false
  | .cleaning p => p.isOver

/-- The command has removed the files of the app, and deletes the app next. -/
def hasCleared (app : AppId) : Undertaking → Bool
  | .cleaning p => p.hasCleared && p.app = app
  | _ => false

/-- The command makes the build directory of a deployment of the app next. -/
def Prepares (app : AppId) (u : Undertaking) : Prop :=
  ∃ p d, u = .deploying p ∧ p.phase = .started d ∧ p.id.app = app

/-- A command goes by copies of what it was called for. -/
def Sound : Undertaking → Prop
  | .deploying p => ∀ d, p.own? = some d → d.id = p.id
  | .prepared p d => d.id = p.id
  | .cleaning p => p.Informed

variable {p : Deploying} {d : Deployment} {u : Undertaking} {s : System} {app : AppId}

theorem proceed_of_ne (hphase : ∀ d, p.phase ≠ .started d) : proceed p s = (.deploying (p.step s).1, (p.step s).2) := by
  unfold proceed
  split
  · next d hstarted => exact absurd hstarted (hphase d)
  · rfl

/-- **The steps of a build are the build** if they are taken one after the other. -/
theorem step_of_started (hphase : p.phase = .started d) :
    (Undertaking.deploying p).step s = (.deploying (p.step s).1, (p.step s).2) ∨
      ∃ s', (Undertaking.deploying p).step s = (.prepared p d, s') ∧
        (Undertaking.prepared p d).step s' = (.deploying (p.step s).1, (p.step s).2) := by
  have hbuild : p.step s = p.conclude d (p.goOn d (p.prepare d s)) := by
    rw [← Deploying.runBuild_eq, ← Deploying.build_eq]
    simp only [Deploying.step, hphase]
  rcases hprepare : p.prepare d s with ⟨failure | _, s'⟩
  · refine .inl ?_
    rw [hbuild, hprepare]
    simp only [step, proceed, hphase, hprepare, Deploying.goOn]
  · refine .inr ⟨s', by simp only [step, proceed, hphase, hprepare], ?_⟩
    rw [hbuild, hprepare]
    rfl

theorem sound_enter (errand : CommandErrand) : (enter errand).Sound := by
  cases errand with
  | deploy id context holds =>
    intro d hd
    cases hd
  | cleanup app context => exact CleaningUp.Informed.of_copy?_eq_none rfl

theorem hasCleared_enter (errand : CommandErrand) : (enter errand).hasCleared app = false := by
  cases errand <;> rfl

theorem hasCleared_proceed (p : Deploying) (s : System) : (proceed p s).1.hasCleared app = false := by
  unfold proceed
  split
  · next d _ => rcases p.prepare d s with ⟨_ | _, s'⟩ <;> rfl
  · rfl

theorem files_proceed (hphase : p.phase = .started d) : (proceed p s).2.files = (p.prepare d s).2.files := by
  rcases hprepare : p.prepare d s with ⟨failure | _, s'⟩
  · simp only [proceed, hphase, hprepare, Deploying.files_conclude]
  · simp only [proceed, hphase, hprepare]

/-- What a build came to is taken down beside the copy. -/
theorem sound_conclude (hid : d.id = p.id) (x : Option (Except Failure Unit) × Context × System) :
    (Undertaking.deploying (p.conclude d x).1).Sound := by
  rcases x with ⟨_ | outcome, context, s'⟩
  · intro d' hd'
    cases hd'
  · intro d' hd'
    cases hd'
    exact hid

theorem sound_step (hu : u.Sound) : (u.step s).1.Sound := by
  cases u with
  | prepared p d => exact sound_conclude hu _
  | cleaning p => exact CleaningUp.informed_of_step hu
  | deploying p =>
    by_cases hphase : ∃ d, p.phase = .started d
    · obtain ⟨d, hphase⟩ := hphase
      have hid : d.id = p.id := hu d (by simp only [Deploying.own?, hphase])
      rcases hprepare : p.prepare d s with ⟨failure | _, s'⟩
      · simp only [step, proceed, hphase, hprepare]
        exact sound_conclude hid _
      · simp only [step, proceed, hphase, hprepare]
        exact hid
    · rw [step, proceed_of_ne (not_exists.mp hphase)]
      exact (Deploying.effect_of_step rfl).own_id hu

/-- **A directory of an app that is new is made by a deploy command of the app** that has started. -/
theorem files_step (hu : u.Sound) (hfiles : s.files.IsTree) :
    (u.step s).2.files.IsTree ∧
      ∀ app, Artifacts.HasDirectory (u.step s).2.files app → Artifacts.HasDirectory s.files app ∨ u.Prepares app := by
  cases u with
  | prepared p d =>
    have hwrites := Deploying.writes_callRunner (p := p) (d := d) (s := s)
    have hconclude : ((Undertaking.prepared p d).step s).2.files = (p.callRunner d s).2.2.files :=
      Deploying.files_conclude _
    rw [hconclude]
    exact ⟨hfiles.writes hwrites, fun app h => .inl ((Artifacts.hasDirectory_of_writes hwrites).mp h)⟩
  | cleaning p =>
    have hclears := p.clears_of_step hfiles
    exact ⟨hclears.tree, fun app h => .inl (hclears.subset app h)⟩
  | deploying p =>
    by_cases hphase : ∃ d, p.phase = .started d
    · obtain ⟨d, hphase⟩ := hphase
      have hid : d.id = p.id := hu d (by simp only [Deploying.own?, hphase])
      rw [step, files_proceed hphase]
      rcases Deploying.files_prepare (p := p) (d := d) (s := s) with hsame | hmade
      · rw [hsame]
        exact ⟨hfiles, fun app h => .inl h⟩
      · rw [hmade]
        refine ⟨Artifacts.isTree_prepareBuild hfiles, fun app h => ?_⟩
        rcases Artifacts.hasDirectory_of_prepareBuild h with h | happ
        · exact .inl h
        · exact .inr ⟨p, d, rfl, hphase, hid ▸ happ⟩
    · rw [step, proceed_of_ne (not_exists.mp hphase)]
      dsimp only
      rw [Deploying.files_of_step (not_exists.mp hphase)]
      exact ⟨hfiles, fun app h => .inl h⟩

/-- A command that has just removed the files of the app has left no directory. -/
theorem not_hasDirectory_of_cleared (hu : u.Sound) (hfiles : s.files.IsTree)
    (hcleared : (u.step s).1.hasCleared app = true) : ¬Artifacts.HasDirectory (u.step s).2.files app := by
  cases u with
  | prepared p d => cases hcleared
  | deploying p => cases (hasCleared_proceed p s).symm.trans hcleared
  | cleaning p =>
    have hcleared : (p.step s).1.hasCleared = true ∧ (p.step s).1.app = app := by
      simpa [hasCleared, step] using hcleared
    rw [CleaningUp.app_of_step hu] at hcleared
    exact hcleared.2 ▸ (p.clears_of_step hfiles).gone hcleared.1

end Undertaking

/-- Commands on one system. Nobody else changes the files. -/
def undertakingSharing : Sharing CommandErrand Undertaking System where
  enter := .enter
  admits _ _ := true
  step := Undertaking.step
  permits s s' := s'.files = s.files

/-- What holds of commands on a system at all times. -/
structure UndertakingScene (c : Scene Undertaking System) : Prop where
  tree : c.shared.files.IsTree
  sound : ∀ u ∈ c.parties, u.Sound

namespace UndertakingScene

variable {c c' : Scene Undertaking System} {a : Action CommandErrand System} {u : Undertaking} {app : AppId}

theorem of_goes (h : UndertakingScene c) (hgoes : Scene.Goes undertakingSharing c c') : UndertakingScene c' := by
  cases hgoes with
  | stays => exact h
  | enters _ =>
    refine ⟨h.tree, List.forall_mem_append.mpr ⟨h.sound, ?_⟩⟩
    exact List.forall_mem_singleton.mpr (Undertaking.sound_enter _)
  | @steps before after u u' s s' hstep =>
    obtain ⟨rfl, rfl⟩ : (u.step s).1 = u' ∧ (u.step s).2 = s' := Prod.mk.inj hstep
    obtain ⟨hbefore, hrest⟩ := List.forall_mem_append.mp h.sound
    obtain ⟨hu, hafter⟩ := List.forall_mem_cons.mp hrest
    exact ⟨(Undertaking.files_step hu h.tree).1,
      List.forall_mem_append.mpr ⟨hbefore, List.forall_mem_cons.mpr ⟨Undertaking.sound_step hu, hafter⟩⟩⟩
  | leaves =>
    obtain ⟨hbefore, hrest⟩ := List.forall_mem_append.mp h.sound
    exact ⟨h.tree, List.forall_mem_append.mpr ⟨hbefore, (List.forall_mem_cons.mp hrest).2⟩⟩
  | @changes ps s s' hpermits =>
    have hfiles : s'.files = s.files := of_decide_eq_true hpermits
    exact ⟨hfiles ▸ h.tree, h.sound⟩

/-- The first directory of an app is made by a deploy command of the app. -/
theorem exists_prepares (h : UndertakingScene c) (hnone : ¬Artifacts.HasDirectory c.shared.files app)
    (hdirectory : Artifacts.HasDirectory (c.perform undertakingSharing a).shared.files app) :
    ∃ i u, a = .step i ∧ c.parties[i]? = some u ∧ u.Prepares app := by
  cases a with
  | enter errand => exact absurd hdirectory hnone
  | leave i => exact absurd hdirectory hnone
  | elsewhere change =>
    rw [Scene.perform] at hdirectory
    split at hdirectory
    · next hpermits =>
      have hfiles : (change c.shared).files = c.shared.files := of_decide_eq_true hpermits
      dsimp only at hdirectory
      rw [hfiles] at hdirectory
      exact absurd hdirectory hnone
    · exact absurd hdirectory hnone
  | step i =>
    cases hu : c.parties[i]? with
    | none =>
      rw [Scene.perform, hu] at hdirectory
      exact absurd hdirectory hnone
    | some u =>
      rw [Scene.perform_step hu] at hdirectory
      have hfiles := Undertaking.files_step (h.sound u (List.mem_of_getElem? hu)) h.tree
      rcases hfiles.2 app hdirectory with hthere | hprepares
      · exact absurd hthere hnone
      · exact ⟨i, u, rfl, hu, hprepares⟩

/-- If the app has a directory, then a command that has removed its files did so earlier. -/
theorem mem_of_cleared (h : UndertakingScene c) (hgoes : Scene.Goes undertakingSharing c c') (hu : u ∈ c'.parties)
    (hcleared : u.hasCleared app = true) (hdirectory : Artifacts.HasDirectory c'.shared.files app) : u ∈ c.parties := by
  cases hgoes with
  | stays => exact hu
  | changes _ => exact hu
  | enters _ =>
    rcases List.mem_append.mp hu with hu | hu
    · exact hu
    · rw [List.mem_singleton.mp hu] at hcleared
      cases (Undertaking.hasCleared_enter _).symm.trans hcleared
  | leaves => exact ((List.sublist_cons_self _ _).append_left _).subset hu
  | @steps before after p u' s s' hstep =>
    rcases List.mem_cons.mp (List.perm_middle.mem_iff.mp hu) with rfl | hu
    · obtain ⟨rfl, rfl⟩ : (p.step s).1 = u ∧ (p.step s).2 = s' := Prod.mk.inj hstep
      exact absurd hdirectory (Undertaking.not_hasDirectory_of_cleared (h.sound p (by simp)) h.tree hcleared)
    · exact List.perm_middle.mem_iff.mpr (List.mem_cons_of_mem p hu)

end UndertakingScene

/-! ## Directories of deleted apps -/

/-- The commands after some actions on a system on which none was under way. -/
def undertakingsAfter (s : System) (as : List (Action CommandErrand System)) : Scene Undertaking System :=
  (Scene.mk [] s).run undertakingSharing as

/-- The app is not stored, or a command has removed its files and deletes it next. -/
def IsVacated (c : Scene Undertaking System) (app : AppId) : Prop :=
  c.shared.tables.app? app = none ∨ ∃ u ∈ c.parties, u.hasCleared app = true

/--
After the actions `before`, with the app vacated and no directory of it left, the deploy command in place `i` makes one,
and the app has a directory all through the actions `after`.
-/
structure Revived (s : System) (app : AppId) (before : List (Action CommandErrand System)) (i : Nat)
    (after : List (Action CommandErrand System)) : Prop where
  vacated : IsVacated (undertakingsAfter s before) app
  bare : ¬Artifacts.HasDirectory (undertakingsAfter s before).shared.files app
  prepares : ∃ u, (undertakingsAfter s before).parties[i]? = some u ∧ u.Prepares app
  stays : ∀ rest, rest <+: after →
    Artifacts.HasDirectory (undertakingsAfter s (before ++ .step i :: rest)).shared.files app

section

variable {s : System} {app : AppId} {as bs : List (Action CommandErrand System)} {a : Action CommandErrand System}

theorem undertakingsAfter_concat (s : System) (as : List (Action CommandErrand System))
    (a : Action CommandErrand System) :
    undertakingsAfter s (as ++ [a]) = (undertakingsAfter s as).perform undertakingSharing a :=
  Scene.run_concat ..

theorem undertakingScene_after (hs : s.files.IsTree) (as : List (Action CommandErrand System)) :
    UndertakingScene (undertakingsAfter s as) :=
  Scene.run_induction (fun _ _ => UndertakingScene.of_goes) ⟨hs, List.forall_mem_nil _⟩ as

/-- A directory of a vacated app has been there since it was revived, or the app is revived now. -/
theorem exists_revived_concat (hs : s.files.IsTree) (hvacated : IsVacated (undertakingsAfter s as) app)
    (hearlier : Artifacts.HasDirectory (undertakingsAfter s as).shared.files app →
      ∃ before i after, as = before ++ .step i :: after ∧ Revived s app before i after)
    (hdirectory : Artifacts.HasDirectory (undertakingsAfter s (as ++ [a])).shared.files app) :
    ∃ before i after, as ++ [a] = before ++ .step i :: after ∧ Revived s app before i after := by
  by_cases hbare : Artifacts.HasDirectory (undertakingsAfter s as).shared.files app
  · obtain ⟨before, i, after, rfl, hrevived⟩ := hearlier hbare
    refine ⟨before, i, after ++ [a], by simp, { hrevived with stays := fun rest hrest => ?_ }⟩
    rcases List.prefix_concat_iff.mp hrest with rfl | hrest
    · simpa using hdirectory
    · exact hrevived.stays rest hrest
  · rw [undertakingsAfter_concat] at hdirectory
    obtain ⟨i, u, rfl, hu, hprepares⟩ := (undertakingScene_after hs as).exists_prepares hbare hdirectory
    refine ⟨as, i, [], rfl, hvacated, hbare, ⟨u, hu, hprepares⟩, fun rest hrest => ?_⟩
    rw [List.prefix_nil.mp hrest, undertakingsAfter_concat]
    exact hdirectory

/-- Between the removal of the files and the deletion of the app, only a revived app has a directory. -/
theorem revived_of_cleared (hs : s.files.IsTree) (as : List (Action CommandErrand System)) :
    (∃ u ∈ (undertakingsAfter s as).parties, u.hasCleared app = true) →
      Artifacts.HasDirectory (undertakingsAfter s as).shared.files app →
        ∃ before i after, as = before ++ .step i :: after ∧ Revived s app before i after := by
  induction as using List.reverseRecOn with
  | nil =>
    rintro ⟨u, hu, -⟩
    cases hu
  | append_singleton as a ih =>
    rintro ⟨u, hu, hcleared⟩ hdirectory
    -- the step that removed the files has left no directory, so that this is another action
    have hmem : u ∈ (undertakingsAfter s as).parties := by
      rw [undertakingsAfter_concat] at hu hdirectory
      exact (undertakingScene_after hs as).mem_of_cleared (Scene.goes_perform _ a) hu hcleared hdirectory
    exact exists_revived_concat hs (.inr ⟨u, hmem, hcleared⟩) (ih ⟨u, hmem, hcleared⟩) hdirectory

/--
**A cleanup leaves directories behind just if the app is revived.** The command in place `i` has removed the files of
the app, and its next step deletes the app, which is not stored again after that. If there is a directory of the app
then, a deploy command made one after the files had been removed, when there was none.
-/
theorem hasDirectory_iff_revived {i : Nat} {u : Undertaking} (hs : s.files.IsTree)
    (hu : (undertakingsAfter s as).parties[i]? = some u) (hcleared : u.hasCleared app = true)
    (hgone : ∀ rest, rest <+: bs → (undertakingsAfter s (as ++ .step i :: rest)).shared.tables.app? app = none) :
    Artifacts.HasDirectory (undertakingsAfter s (as ++ .step i :: bs)).shared.files app ↔
      ∃ before j after, as ++ .step i :: bs = before ++ .step j :: after ∧ Revived s app before j after := by
  constructor
  · intro hdirectory
    have hcleared : ∃ u ∈ (undertakingsAfter s as).parties, u.hasCleared app = true :=
      ⟨u, List.mem_of_getElem? hu, hcleared⟩
    induction bs using List.reverseRecOn with
    | nil => exact exists_revived_concat hs (.inr hcleared) (revived_of_cleared hs as hcleared) hdirectory
    | append_singleton bs b ih =>
      have hgone' (rest : List (Action CommandErrand System)) (hrest : rest <+: bs) :=
        hgone rest (hrest.trans (List.prefix_append bs [b]))
      have hconcat : as ++ .step i :: (bs ++ [b]) = (as ++ .step i :: bs) ++ [b] := by simp
      rw [hconcat] at hdirectory ⊢
      exact exists_revived_concat hs (.inl (hgone' bs (List.prefix_refl bs))) (ih hgone') hdirectory
  · rintro ⟨before, j, after, heq, hrevived⟩
    rw [heq]
    exact hrevived.stays after (List.prefix_refl after)

end

/-! ## An app that is deleted while a deployment of it is carried out -/

namespace Straying

def app : AppId := default

def waiting : DeploymentId := ⟨app, ⟨1⟩⟩

def name : AppName := ⟨"gallery", by decide⟩

/-- The cleanup of the app has been requested. -/
def appRow : AppRow :=
  let config : EnvConfig := ⟨default, default, none⟩
  { AppRow.ofCreated app name config config ⟨default, default⟩ with
    cleanupAt := .value (some default), cleanupBy := .value (some default) }

def deploymentRow : DeploymentRow :=
  .ofCreated waiting ⟨name, .production, default, none⟩ .initial ⟨default, default⟩

/-- A deployment of the app waits. -/
def system : System :=
  { store := { db := { Database.empty with tables := ⟨[], [appRow], [deploymentRow]⟩ }, bus := []
               hub := ⟨.empty ⟨1, .zero, .zero⟩ 1, []⟩ }
    files := .empty, dataDir := "data", now := 0, runner := fun _ => [], calls := []
    worker := ⟨1, .zero, none, .zero⟩ }

/--
The deploy command starts its deployment. Then the cleanup command removes the files of the app, and the deploy command
makes its build directory, calls the runner and records the outcome.
-/
def actions : List (Action CommandErrand System) :=
  [.enter (.deploy waiting .background false), .step 0, .step 0, .step 0,
    .enter (.cleanup app .background), .step 1, .step 1, .step 0, .step 0, .step 0]

/-- The commands before the app is deleted. -/
def scene : Scene Undertaking System := undertakingsAfter system actions

/-- The commands when the app has been deleted. -/
def final : Scene Undertaking System := undertakingsAfter system (actions ++ [.step 1])

theorem exists_cleared : ∃ u, scene.parties[1]? = some u ∧ u.hasCleared app = true := by
  have hcleared : scene.parties[1]?.any (·.hasCleared app) = true := by decide +kernel
  exact (Option.any_eq_true _ _).mp hcleared

theorem app?_final : final.shared.tables.app? app = none := by decide +kernel

theorem hasDirectory_final : Artifacts.HasDirectory final.shared.files app :=
  ⟨Artifacts.appDir app, List.prefix_refl _, by decide +kernel⟩

end Straying

open Straying in
/-- The directories of the deleted app are there because its deploy command made them after the cleanup. -/
theorem hasDirectory_iff_revived_straying :
    ∃ before j after, actions ++ [.step 1] = before ++ .step j :: after ∧ Revived system app before j after := by
  obtain ⟨u, hu, hcleared⟩ := exists_cleared
  refine (hasDirectory_iff_revived Files.isTree_empty hu hcleared fun rest hrest => ?_).mp hasDirectory_final
  rw [List.prefix_nil.mp hrest]
  exact app?_final

open Straying in
/-- **An app may be deleted with directories left behind**, when no command is under way any more to remove them. -/
theorem hasDirectory_of_straying :
    (scene.shared.tables.app? app).isSome = true ∧ (∃ u, scene.parties[1]? = some u ∧ u.hasCleared app = true) ∧
      final = scene.perform undertakingSharing (.step 1) ∧ final.shared.tables.app? app = none ∧
        final.parties.all Undertaking.isOver = true ∧ Artifacts.HasDirectory final.shared.files app :=
  ⟨by decide +kernel, exists_cleared, undertakingsAfter_concat .., app?_final, by decide +kernel, hasDirectory_final⟩

end Rollout
