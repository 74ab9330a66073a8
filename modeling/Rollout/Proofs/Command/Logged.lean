import Rollout.Proofs.Command.Interruption
import Rollout.Proofs.Command.Leftovers
import Rollout.Proofs.Writing

/-!
# What reaches a log

Everything that is said to a log is in its file or still buffered (`LogSink.Tells`). A build whose runner comes back, be
it with a failure or because it has noticed a stop, lets all of it reach the file. One that is cut short while its
runner waits loses what is buffered: never more than the buffer holds, but all that was said if it fits in there
(`Deploying.keepsLog`).
-/

namespace Rollout

/-! ## Sinks -/

namespace LogSink

variable {l : LogSink} {f : Files} {log place : Path} {before kept said old : String}

/-- Lines as they are written. -/
def textOf (lines : List String) : String := String.join (lines.map (· ++ "\n"))

theorem textOf_nil : textOf [] = "" := rfl

theorem textOf_cons (line : String) (lines : List String) : textOf (line :: lines) = line ++ "\n" ++ textOf lines :=
  String.join_cons

theorem textOf_append (lines lines' : List String) : textOf (lines ++ lines') = textOf lines ++ textOf lines' := by
  induction lines with
  | nil => exact String.empty_append.symm
  | cons line lines ih => rw [List.cons_append, textOf_cons, textOf_cons, ih, ← String.append_assoc]

/-- The file of the log has `kept` behind what it held before, and the rest of what was said is buffered. -/
structure Tells (l : LogSink) (f : Files) (log : Path) (before kept said : String) : Prop where
  path : l.path = log
  file : f.writable log = .ok (log, before ++ kept)
  rest : kept ++ l.buffered = said
  bounded : l.buffered.utf8ByteSize ≤ capacity
  small : said.utf8ByteSize < capacity → kept = ""

theorem writable_emit (h : f.writable l.path = .ok (place, old)) (text : String) :
    (l.emit text f).writable l.path = .ok (place, old ++ text) := by
  obtain ⟨f', happend, hafter⟩ := Files.append_of_writable h text
  rw [emit, happend]
  exact hafter

namespace Tells

theorem emit (h : l.Tells f log before kept said) (text : String) :
    (l.emit text f).writable log = .ok (log, before ++ kept ++ text) := by
  have hfile := h.file
  rw [← h.path] at hfile ⊢
  exact writable_emit hfile text

theorem put (h : l.Tells f log before kept said) (text : String) :
    ∃ kept', (l.put text f).1.Tells (l.put text f).2 log before kept' (said ++ text) := by
  have hsaid : said.utf8ByteSize = kept.utf8ByteSize + l.buffered.utf8ByteSize := by
    rw [← h.rest, String.utf8ByteSize_append]
  have hsize : (said ++ text).utf8ByteSize = said.utf8ByteSize + text.utf8ByteSize := String.utf8ByteSize_append
  have hflushed : (l.emit l.buffered f).writable log = .ok (log, before ++ said) := by
    rw [h.emit, String.append_assoc, h.rest]
  by_cases hfull : l.buffered.utf8ByteSize + text.utf8ByteSize > capacity
  · by_cases hlarge : text.utf8ByteSize ≥ capacity
    · refine ⟨said ++ text, ?_⟩
      simp only [LogSink.put, if_pos hfull, if_pos hlarge, flush]
      refine ⟨h.path, ?_, String.append_empty, Nat.zero_le _, fun hsmall => by omega⟩
      rw [← h.path] at hflushed ⊢
      rw [← String.append_assoc]
      exact writable_emit (l := { l with buffered := "" }) hflushed text
    · refine ⟨said, ?_⟩
      simp only [LogSink.put, if_pos hfull, if_neg hlarge, flush]
      refine ⟨h.path, hflushed, by rw [String.empty_append], ?_, fun hsmall => by omega⟩
      rw [String.empty_append]
      exact Nat.le_of_not_le hlarge
  · by_cases hlarge : text.utf8ByteSize ≥ capacity
    · have hempty : l.buffered = "" := String.utf8ByteSize_eq_zero_iff.mp (by omega)
      have hkept : kept = said := by rw [← h.rest, hempty, String.append_empty]
      refine ⟨said ++ text, ?_⟩
      simp only [LogSink.put, if_neg hfull, if_pos hlarge]
      refine ⟨h.path, ?_, by rw [hempty, String.append_empty], h.bounded, fun hsmall => by omega⟩
      rw [h.emit, hkept, String.append_assoc]
    · refine ⟨kept, ?_⟩
      simp only [LogSink.put, if_neg hfull, if_neg hlarge]
      refine ⟨h.path, h.file, by rw [← String.append_assoc, h.rest], ?_, fun hsmall => h.small (by omega)⟩
      rw [String.utf8ByteSize_append]
      exact Nat.not_lt.mp hfull

theorem writeLine (h : l.Tells f log before kept said) (line : String) :
    ∃ kept', (l.writeLine line f).1.Tells (l.writeLine line f).2 log before kept' (said ++ (line ++ "\n")) := by
  obtain ⟨kept₁, hline⟩ := h.put line
  rw [← String.append_assoc]
  exact hline.put "\n"

/-- A log that is closed has everything in its file. -/
theorem close (h : l.Tells f log before kept said) : (l.close f).writable log = .ok (log, before ++ said) := by
  rw [← h.rest, ← String.append_assoc]
  exact h.emit l.buffered

end Tells

end LogSink

/-! ## Runners -/

/-- The line that an action writes to the log. -/
def RunnerAction.line? : RunnerAction → Option String
  | .log line => some line
  | _ => none

namespace Build

variable {b : Build} {holds : Bool} {dir log : Path} {before kept said : String} {action : RunnerAction}
  {actions rest : List RunnerAction}

/-- The actions that a runner gets through, up to the one with which it ends. -/
def carried (holds : Bool) (dir : Path) : List RunnerAction → Build → List RunnerAction
  | [], _ => []
  | action :: rest, b =>
    match b.perform holds dir [action] with
    | (.finished (.ok _), b) => action :: carried holds dir rest b
    | _ => []

/-- The lines that a runner writes to the log. -/
def saidLines (holds : Bool) (dir : Path) (actions : List RunnerAction) (b : Build) : List String :=
  (b.carried holds dir actions).filterMap RunnerAction.line?

/-- What the log is told when the runner comes back. -/
def closing : Except Failure Unit → String
  | .ok _ => "deployment succeeded"
  | .error failure => "deployment failed: " ++ failure.fullText

/-- Everything that was said is in the file or buffered. -/
def Tells (b : Build) (log : Path) (before kept said : String) : Prop :=
  b.sink.Tells b.files log before kept said

theorem perform_cons : b.perform holds dir (action :: rest) =
    match b.perform holds dir [action] with
    | (.finished (.ok _), b) => b.perform holds dir rest
    | ended => ended := by
  cases action with
  | file name =>
    simp only [perform]
    cases b.files.write (dir ++ .ofText name) name <;> rfl
  | check =>
    simp only [perform]
    cases b.context.stop? b.now <;> rfl
  | hang =>
    simp only [perform]
    cases b.context.stopsAt b.next <;> rfl
  | log | fail | cancel | elapse => rfl

theorem Tells.writeLine (h : b.Tells log before kept said) (line : String) :
    ∃ kept', (b.writeLine line).Tells log before kept' (said ++ (line ++ "\n")) :=
  LogSink.Tells.writeLine h line

/-- What a runner says is what its first action says and then, if it gets through that, what it says after it. -/
theorem saidLines_cons : b.saidLines holds dir (action :: rest) = action.line?.toList ++
    match b.perform holds dir [action] with
    | (.finished (.ok _), b) => b.saidLines holds dir rest
    | _ => [] := by
  unfold saidLines
  rw [carried]
  cases action with
  | log line => rfl
  | file | fail | check | cancel | elapse | hang =>
    split
    · rfl
    · rfl

/-- An action writes its line to the log, and no file in place of the log. -/
theorem Tells.perform_single (h : b.Tells log before kept said)
    (hapart : ∀ name, action = .file name → (dir ++ Path.ofText name).resolved ≠ log) :
    ∃ kept', (b.perform holds dir [action]).2.Tells log before kept'
      (said ++ LogSink.textOf action.line?.toList) := by
  have hsilent {b' : Build} (h' : b'.Tells log before kept said) :
      ∃ kept', b'.Tells log before kept' (said ++ LogSink.textOf []) :=
    ⟨kept, by rwa [LogSink.textOf_nil, String.append_empty]⟩
  cases action with
  | log line =>
    show ∃ kept', (b.writeLine line).Tells log before kept' (said ++ LogSink.textOf [line])
    rw [LogSink.textOf_cons, LogSink.textOf_nil, String.append_empty]
    exact h.writeLine line
  | file name =>
    simp only [perform]
    cases hwrite : b.files.write (dir ++ .ofText name) name with
    | error e => exact hsilent h
    | ok files =>
      have hfile := Files.writable_of_write h.file hwrite (hapart name rfl)
      exact hsilent ⟨h.path, hfile, h.rest, h.bounded, h.small⟩
  | fail failure => exact hsilent h
  | check =>
    simp only [perform]
    cases b.context.stop? b.now <;> exact hsilent h
  | cancel =>
    simp only [perform]
    split <;> exact hsilent h
  | elapse d => exact hsilent h
  | hang =>
    simp only [perform]
    cases b.context.stopsAt b.next <;> exact hsilent h

/-- **Nothing that a runner has said is lost while it goes on**, however it ends. -/
theorem Tells.perform (h : b.Tells log before kept said)
    (hapart : ∀ name, .file name ∈ actions → (dir ++ Path.ofText name).resolved ≠ log) :
    ∃ kept', (b.perform holds dir actions).2.Tells log before kept'
      (said ++ LogSink.textOf (b.saidLines holds dir actions)) := by
  induction actions generalizing b kept said with
  | nil => exact ⟨kept, by rwa [saidLines, carried, List.filterMap_nil, LogSink.textOf_nil, String.append_empty]⟩
  | cons action rest ih =>
    have hrest (name : String) (hname : .file name ∈ rest) := hapart name (List.mem_cons_of_mem _ hname)
    obtain ⟨kept₁, hfirst⟩ : ∃ kept₁, (b.perform holds dir [action]).2.Tells log before kept₁
        (said ++ LogSink.textOf action.line?.toList) :=
      h.perform_single fun name hname => hapart name (hname ▸ List.mem_cons_self)
    rw [perform_cons, saidLines_cons, LogSink.textOf_append, ← String.append_assoc]
    rcases hone : b.perform holds dir [action] with ⟨ending, b₁⟩
    rw [hone] at hfirst
    have hended : ∃ kept', b₁.Tells log before kept'
        (said ++ LogSink.textOf action.line?.toList ++ LogSink.textOf []) :=
      ⟨kept₁, by rwa [LogSink.textOf_nil, String.append_empty]⟩
    cases ending with
    | stopped | never => exact hended
    | finished result =>
      cases result with
      | error failure => exact hended
      | ok _ => exact ih hfirst hrest

theorem files_close (b : Build) (result : Except Failure Unit) : (b.close result).files =
    (b.writeLine (closing result)).sink.close (b.writeLine (closing result)).files := by
  unfold close closing
  cases result <;> dsimp only

theorem Tells.writable_close (h : b.Tells log before kept said) (result : Except Failure Unit) :
    (b.close result).files.writable log = .ok (log, before ++ (said ++ LogSink.textOf [closing result])) := by
  obtain ⟨kept', hclosing⟩ := h.writeLine (closing result)
  rw [files_close, LogSink.textOf_cons, LogSink.textOf_nil, String.append_empty]
  exact LogSink.Tells.close hclosing

/-- When a runner comes back its log is closed. -/
theorem files_runAndClose {b' : Build} {call : RunnerCall} {result : Except Failure Unit}
    (h : b.perform holds call.buildDir actions = (.finished result, b')) :
    (b.runAndClose holds call actions).2.files = (b'.close result).files := by
  rw [runAndClose, h]
  dsimp only
  split <;> rfl

/-- When a runner does not come back the build is over where the runner is. -/
theorem runAndClose_of_ne {b' : Build} {call : RunnerCall} {ending : BuildEnd}
    (h : b.perform holds call.buildDir actions = (ending, b')) (hne : ∀ result, ending ≠ .finished result) :
    b.runAndClose holds call actions = (ending, b') := by
  rw [runAndClose, h]
  cases ending with
  | finished result => exact absurd rfl (hne result)
  | stopped | never => rfl

end Build

/-! ## Builds -/

namespace Deploying

variable (p : Deploying) (d : Deployment) (s : System)

/-- The build when its runner is called, provided that its directory could be made. -/
def opened : Build :=
  (Build.start (Artifacts.prepareBuild p.context s.now s.dataDir d.id s.files).2 (Build.call d).log s.now
    p.context).writeLine (Build.heading d)

/-- How the runner comes to its end. -/
def runnerEnd : BuildEnd := ((p.opened d s).perform p.holds (Build.call d).buildDir (s.runner (Build.call d))).1

/-- The lines that are passed to the log. There are none if the build is stopped before it begins. -/
def loggedLines : List String :=
  match p.context.stop? s.now with
  | some _ => []
  | none =>
    Build.heading d :: (p.opened d s).saidLines p.holds (Build.call d).buildDir (s.runner (Build.call d)) ++
      match p.runnerEnd d s with
      | .finished result => [Build.closing result]
      | _ => []

/-- The runner is called and does not come back. -/
def IsCutShort : Prop := p.context.stop? s.now = none ∧ ∀ result, p.runnerEnd d s ≠ .finished result

/--
The log of the build in the files `f`: behind what the log held before it holds `kept`, and the rest of what was said is
`lost`.
-/
structure KeepsLog (f : Files) (kept lost : String) : Prop where
  file : f.textAt (Artifacts.logPath d.id) = s.files.textAt (Artifacts.logPath d.id) ++ kept
  lines : kept ++ lost = LogSink.textOf (p.loggedLines d s)
  whole : ¬p.IsCutShort d s → lost = ""
  /-- A build is cut short by a stop alone, if it comes to an end. -/
  stopped : p.IsCutShort d s → ∀ outcome, (p.runBuild d s).1 = some outcome →
    ∃ reason, outcome = .error (.ofStop reason)
  bounded : lost.utf8ByteSize ≤ LogSink.capacity
  small : p.IsCutShort d s → (LogSink.textOf (p.loggedLines d s)).utf8ByteSize < LogSink.capacity → kept = ""

variable {p d s}

/-- After a build the files stay as they are. -/
theorem files_run_of_started (hphase : p.phase = .started d) (n : Nat) :
    (p.run (n + 1) s).2.files = (p.runBuild d s).2.2.files := by
  have hbuild : p.step s = p.conclude d (p.runBuild d s) := by
    rw [← build_eq]
    simp only [step, hphase]
  rw [run_succ, hbuild, ← files_conclude (p := p) (d := d) (p.runBuild d s)]
  rcases p.runBuild d s with ⟨_ | outcome, context, s₁⟩
  · rw [run_of_isOver rfl]
  · cases n with
    | zero => rfl
    | succ n =>
      -- the outcome is recorded, and then the command is over
      have hover (s₂ : System) : ((p.conclude d (some outcome, context, s₁)).1.step s₂).1.isOver = true := by
        simp only [conclude, step, record]
        cases outcome <;> exact isOver_of_isSome isSome_result?_record
      rw [run_succ, run_of_isOver (hover _)]
      exact files_of_step fun d' hd' => by cases hd'

section Opened

variable (hgo : p.context.stop? s.now = none)
  (hmade : ∀ failure, (Artifacts.prepareBuild p.context s.now s.dataDir d.id s.files).1 ≠ .error (.failed failure))

include hgo hmade

theorem exists_prepareBuild :
    ∃ files, Artifacts.prepareBuild p.context s.now s.dataDir d.id s.files = (.ok (), files) := by
  rw [Artifacts.prepareBuild_eq] at hmade ⊢
  exact Artifacts.exists_performIn hgo hmade

/-- A build that is not stopped before it begins is that of its runner. -/
theorem runBuild_of_opened :
    let x := (p.opened d s).runAndClose p.holds (Build.call d) (s.runner (Build.call d))
    (p.runBuild d s).2.2.files = x.2.files ∧
      ∀ outcome, (p.runBuild d s).1 = some outcome →
        x.1 = .finished outcome ∨ ∃ reason, x.1 = .stopped reason ∧ outcome = .error (.ofStop reason) := by
  obtain ⟨files, hprepare⟩ := exists_prepareBuild hgo hmade
  have hopened : p.opened d s = (Build.start files (Build.call d).log s.now p.context).writeLine (Build.heading d) := by
    rw [opened, hprepare]
  simp only [runBuild, hgo, hprepare, hopened]
  rcases ((Build.start files (Build.call d).log s.now p.context).writeLine (Build.heading d)).runAndClose p.holds
    (Build.call d) (s.runner (Build.call d)) with ⟨result | reason | _, b⟩
  · exact ⟨rfl, fun outcome h => .inl (congrArg BuildEnd.finished (Option.some.inj h))⟩
  · exact ⟨rfl, fun outcome h => .inr ⟨reason, rfl, (Option.some.inj h).symm⟩⟩
  · exact ⟨rfl, fun outcome h => by cases h⟩

/-- The log that is opened has its heading to tell. -/
theorem tells_opened :
    ∃ kept, (p.opened d s).Tells (Artifacts.logPath d.id) (s.files.textAt (Artifacts.logPath d.id)) kept
      (LogSink.textOf [Build.heading d]) := by
  obtain ⟨files, hprepare⟩ := exists_prepareBuild hgo hmade
  have hstart : (Build.start files (Build.call d).log s.now p.context).Tells (Artifacts.logPath d.id)
      (s.files.textAt (Artifacts.logPath d.id)) "" "" := by
    refine ⟨rfl, ?_, rfl, Nat.zero_le _, fun _ => rfl⟩
    rw [String.append_empty]
    exact Artifacts.writable_of_prepareBuild hprepare
  obtain ⟨kept, hheading⟩ := hstart.writeLine (Build.heading d)
  refine ⟨kept, ?_⟩
  rw [opened, hprepare, LogSink.textOf_cons, LogSink.textOf_nil, String.append_empty]
  rwa [String.empty_append] at hheading

/-- **The log of a build that has begun.** -/
theorem keepsLog_of_opened
    (hapart : ∀ name, .file name ∈ s.runner (Build.call d) →
      ((Build.call d).buildDir ++ Path.ofText name).resolved ≠ Artifacts.logPath d.id) :
    ∃ kept lost, p.KeepsLog d s (p.runBuild d s).2.2.files kept lost := by
  obtain ⟨hfiles, houtcome⟩ := runBuild_of_opened hgo hmade
  obtain ⟨kept₁, hopened⟩ := tells_opened hgo hmade
  obtain ⟨kept, htells⟩ : ∃ kept, ((p.opened d s).perform p.holds (Build.call d).buildDir
      (s.runner (Build.call d))).2.Tells (Artifacts.logPath d.id) (s.files.textAt (Artifacts.logPath d.id)) kept _ :=
    hopened.perform hapart
  rcases hperform : (p.opened d s).perform p.holds (Build.call d).buildDir (s.runner (Build.call d)) with ⟨ending, b⟩
  rw [hperform, ← LogSink.textOf_append] at htells
  have hending : p.runnerEnd d s = ending := by rw [runnerEnd, hperform]
  by_cases hback : ∃ result, ending = .finished result
  · obtain ⟨result, rfl⟩ := hback
    have hlines : p.loggedLines d s = [Build.heading d] ++ (p.opened d s).saidLines p.holds (Build.call d).buildDir
        (s.runner (Build.call d)) ++ [Build.closing result] := by
      simp only [loggedLines, hgo, hending, List.singleton_append]
    have hnot : ¬p.IsCutShort d s := fun hcut => hcut.2 result hending
    refine ⟨LogSink.textOf (p.loggedLines d s), "", ?_, String.append_empty, fun _ => rfl, fun hcut => absurd hcut hnot,
      Nat.zero_le _, fun hcut => absurd hcut hnot⟩
    rw [hfiles, Build.files_runAndClose hperform, hlines, LogSink.textOf_append]
    exact Files.textAt_of_writable (htells.writable_close result)
  · have hne (result : Except Failure Unit) : ending ≠ .finished result := fun heq => hback ⟨result, heq⟩
    have hlines : p.loggedLines d s = [Build.heading d] ++ (p.opened d s).saidLines p.holds (Build.call d).buildDir
        (s.runner (Build.call d)) := by
      simp only [loggedLines, hgo, hending]
      cases ending with
      | finished result => exact absurd rfl (hne result)
      | stopped | never => exact List.append_nil _
    have hcut : p.IsCutShort d s := ⟨hgo, fun result => hending ▸ hne result⟩
    have hended := Build.runAndClose_of_ne hperform hne
    rw [hended] at hfiles houtcome
    refine ⟨kept, b.sink.buffered, ?_, hlines ▸ htells.rest, fun hnot => absurd hcut hnot, fun _ outcome h => ?_,
      htells.bounded, fun _ => hlines ▸ htells.small⟩
    · rw [hfiles]
      exact Files.textAt_of_writable htells.file
    · rcases houtcome outcome h with heq | ⟨reason, -, houtcome⟩
      · exact absurd heq (hne outcome)
      · exact ⟨reason, houtcome⟩

end Opened

/--
**What was passed to the log of a build is in its file when the command is over**, in order and behind what it held
before, if no file operation fails and the runner writes no file in place of the log; but a build that is cut short
loses what is buffered.
-/
theorem keepsLog (hphase : p.phase = .started d)
    (hmade : ∀ failure, (Artifacts.prepareBuild p.context s.now s.dataDir d.id s.files).1 ≠ .error (.failed failure))
    (hapart : ∀ name, .file name ∈ s.runner (Build.call d) →
      ((Build.call d).buildDir ++ Path.ofText name).resolved ≠ Artifacts.logPath d.id) (n : Nat) :
    ∃ kept lost, p.KeepsLog d s (p.run (n + 1) s).2.files kept lost := by
  rw [files_run_of_started hphase]
  cases hstop : p.context.stop? s.now with
  | none => exact keepsLog_of_opened hstop hmade hapart
  | some reason =>
    have hbuild : p.runBuild d s = (some (.error (.ofStop reason)), p.context, s) := by simp only [runBuild, hstop]
    have hlines : p.loggedLines d s = [] := by simp only [loggedLines, hstop]
    have hnot : ¬p.IsCutShort d s := fun hcut => by cases hstop.symm.trans hcut.1
    refine ⟨"", "", ?_, ?_, fun _ => rfl, fun hcut => absurd hcut hnot, Nat.zero_le _, fun _ _ => rfl⟩
    · rw [hbuild, String.append_empty]
    · rw [hlines]
      rfl

end Deploying

/-! ## Runners that are cut short -/

namespace Unheard

open Straying (name waiting)

/-- A runner that says something, cancels its token and waits. -/
def quiet : List RunnerAction := [.log "a", .cancel, .hang]

/-- Another one, which writes a file as well. -/
def busy : List RunnerAction := [.log "a", .file "x", .cancel, .hang]

/-- A deployment waits. -/
def system (actions : List RunnerAction) : System := { Straying.system with runner := fun _ => actions }

/-- The deployment when its build begins. -/
def deployment : Deployment :=
  { id := waiting, config := ⟨name, .production, default, none⟩
    state := { DeploymentState.initial with status := .running, startedAt := some (.ofInstant 0) }
    requested := ⟨default, default⟩, events := .empty }

/-- The deploy command with the system when the build begins. -/
def begun (actions : List RunnerAction) : Deploying × System :=
  (Deploying.enter waiting .background true).run 3 (system actions)

theorem phase_quiet : (begun quiet).1.phase = .started deployment := Deploying.phase_of_started? (by decide +kernel)

theorem phase_busy : (begun busy).1.phase = .started deployment := Deploying.phase_of_started? (by decide +kernel)

/-- The directory of the build can be made. -/
theorem prepareBuild_busy : (Artifacts.prepareBuild (begun busy).1.context (begun busy).2.now (begun busy).2.dataDir
    deployment.id (begun busy).2.files).1 = .ok () := by decide +kernel

/-- The file that the runner writes is not the log. -/
theorem resolved_of_busy : ∀ file, .file file ∈ (begun busy).2.runner (Build.call deployment) →
    ((Build.call deployment).buildDir ++ Path.ofText file).resolved ≠ Artifacts.logPath deployment.id := by
  intro file hfile
  have hactions : (begun busy).2.runner (Build.call deployment) = busy := by decide +kernel
  rw [hactions] at hfile
  obtain rfl : file = "x" := by simpa [busy] using hfile
  have hparts : Path.ofText "x" = ["x"] := by
    rw [Path.ofText, String.splitOn, String.splitOnAux, String.splitOnAux]
    decide +kernel
  rw [hparts]
  decide +kernel

end Unheard

open Unheard in
theorem keepsLog_unheard : (begun busy).1.phase = .started deployment ∧
    ∃ kept lost, (begun busy).1.KeepsLog deployment (begun busy).2 ((begun busy).1.run 2 (begun busy).2).2.files
      kept lost := by
  refine ⟨phase_busy, Deploying.keepsLog phase_busy (fun failure h => ?_) resolved_of_busy 1⟩
  cases prepareBuild_busy.symm.trans h

open Unheard in
/-- **Lines may be lost**: the command is cancelled while its runner waits, and its log is empty afterwards. -/
theorem textAt_unheard :
    ((system quiet).deploy Straying.waiting .background true).1 = some (.error .cancelled) ∧
      (begun quiet).1.phase = .started deployment ∧
        (Artifacts.prepareBuild (begun quiet).1.context (begun quiet).2.now (begun quiet).2.dataDir deployment.id
          (begun quiet).2.files).1 = .ok () ∧
          (begun quiet).1.loggedLines deployment (begun quiet).2 = [Build.heading deployment, "a"] ∧
            ((system quiet).deploy Straying.waiting .background true).2.files.textAt
              (Artifacts.logPath Straying.waiting) = "" :=
  ⟨by decide +kernel, phase_quiet, by decide +kernel, by decide +kernel, by decide +kernel⟩

open Unheard in
/-- A runner that looks whether it should stop, where the other one waits, has everything in its log. -/
example : ((system [.log "a", .cancel, .check]).deploy Straying.waiting .background true).2.files.textAt
    (Artifacts.logPath Straying.waiting) =
      LogSink.textOf [Build.heading deployment, "a", "deployment failed: job cancelled"] := by
  decide +kernel

end Rollout
