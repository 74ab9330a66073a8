import Rollout.System

/-!
# Cleaning up an app

The command loads the app, removes its files and deletes it from the store. Like a deployment it comes to its end in
phases (`CleaningUp.step`). An app that is not stored any more has been cleaned up before; one whose cleanup was not
requested is left alone.
-/

namespace Rollout

inductive CleanupPhase where
  | entered
  | loaded (a : App)
  | cleared (a : App)
  | ended (result : Except CommandError Unit)

/-- A cleanup command under way. -/
structure CleaningUp where
  app : AppId
  context : Context
  phase : CleanupPhase

namespace CleaningUp

def enter (app : AppId) (context : Context) : CleaningUp := ⟨app, context, .entered⟩

def goTo (p : CleaningUp) (phase : CleanupPhase) : CleaningUp := { p with phase }

def fail (p : CleaningUp) (e : CommandError) : CleaningUp := p.goTo (.ended (.error e))

/-- Loads the app, unless there is a reason to stop. -/
def load (p : CleaningUp) (s : System) : CleaningUp × System :=
  match p.context.stop? s.now with
  | some _ => (p.fail .cancelled, s)
  | none =>
    let (answer, store) := s.store.loadApp p.app
    let s := { s with store }
    match answer with
    | .ok a => (p.goTo (.loaded a), s)
    | .error e => if e.isNotFound then (p.goTo (.ended (.ok ())), s) else (p.fail (.store e), s)

/-- Removes the files of an app whose cleanup was requested. -/
def clear (p : CleaningUp) (a : App) (s : System) : CleaningUp × System :=
  if a.cleanupRequested.isNone then (p.fail (.rejected .cleanupNotRequested), s)
  else
    let (result, files) := Artifacts.cleanup p.context s.now s.dataDir p.app s.files
    let s := { s with files }
    match result with
    | .ok _ => (p.goTo (.cleared a), s)
    | .error e => (p.fail (if p.context.isCancelled s.now then .cancelled else .artifact e.failure), s)

/-- Deletes the app. -/
def delete (p : CleaningUp) (a : App) (s : System) : CleaningUp × System :=
  match a.delete with
  | .error e => (p.fail (.rejected e), s)
  | .ok a =>
    let (result, _, store) := s.store.write [a]
    let s := { s with store }
    match result with
    | .ok _ => (p.goTo (.ended (.ok ())), s)
    | .error e => (p.fail (.store e), s)

/-- Goes through one phase. -/
def step (p : CleaningUp) (s : System) : CleaningUp × System :=
  match p.phase with
  | .entered => p.load s
  | .loaded a => p.clear a s
  | .cleared a => p.delete a s
  | .ended _ => (p, s)

/-- Goes through at most so many phases. -/
def run : Nat → CleaningUp → System → CleaningUp × System
  | 0, p, s => (p, s)
  | n + 1, p, s =>
    let (p, s) := p.step s
    run n p s

/-- The result of a command that has ended. -/
def result? (p : CleaningUp) : Option (Except CommandError Unit) :=
  match p.phase with
  | .ended result => some result
  | _ => none

end CleaningUp

/-- Cleans up an app without a break. -/
def System.cleanup (s : System) (app : AppId) (c : Context) : Option (Except CommandError Unit) × System :=
  let (p, s) := (CleaningUp.enter app c).run 3 s
  (p.result?, s)

end Rollout
