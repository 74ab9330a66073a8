import Rollout.Deployment.Number
import Rollout.Failure
import Rollout.Files
import Rollout.Job.Context

/-!
# Build directories and deployment logs

Below the data directory, every app has a directory with a build directory and a log for each of its deployments. A
build directory is made anew for every run; a log only grows (`LogSink`).
-/

namespace Rollout

/-- Why something could not be done with the files: there was a reason to stop, or it failed. -/
inductive ArtifactError where
  | stopped (reason : Stop)
  | failed (failure : Failure)
deriving DecidableEq

def ArtifactError.failure : ArtifactError → Failure
  | .stopped reason => .ofStop reason
  | .failed failure => failure

namespace Artifacts

def appDir (app : AppId) : Path := ["apps", toString app]

def buildDir (id : DeploymentId) : Path := appDir id.app ++ ["deployments", toString id.number]

def logsDir (app : AppId) : Path := appDir app ++ ["logs"]

def logPath (id : DeploymentId) : Path := logsDir id.app ++ [toString id.number ++ ".log"]

/-- A path as the operating system has it, behind the data directory. -/
def shown (dataDir : String) (p : Path) : String := "/".intercalate (dataDir :: p)

/-- What is done to the files at a path, and how its failure is told. -/
structure Task where
  context : String
  path : Path
  act : Files → Except FileError Unit × Files

/-- Does one task after another until one fails; what was done before stays done. -/
def perform (dataDir : String) : List Task → Files → Except Failure Unit × Files
  | [], f => (.ok (), f)
  | t :: ts, f =>
    match t.act f with
    | (.ok _, f) => perform dataDir ts f
    | (.error e, f) => (.error ((Failure.of e.message).within (t.context ++ " " ++ shown dataDir t.path)), f)

/-- Removes a directory; nothing to remove is no failure. -/
def clear (p : Path) (f : Files) : Except FileError Unit × Files :=
  match f.removeDirectory p with
  | .ok f => (.ok (), f)
  | .error .notFound => (.ok (), f)
  | .error e => (.error e, f)

/-- Sees that there is a file. -/
def touch (p : Path) (f : Files) : Except FileError Unit × Files :=
  match f.append p "" with
  | .ok f => (.ok (), f)
  | .error e => (.error e, f)

/-- Does the tasks, unless there is a reason to stop. -/
def performIn (c : Context) (now : Instant) (dataDir : String) (ts : List Task) (f : Files) :
    Except ArtifactError Unit × Files :=
  match c.stop? now with
  | some reason => (.error (.stopped reason), f)
  | none =>
    let (result, f) := perform dataDir ts f
    (result.mapError .failed, f)

/--
Makes a fresh build directory, and sees that the log is there. Once what an earlier run has left is gone, there may be a
reason to stop again.
-/
def prepareBuild (c : Context) (now : Instant) (dataDir : String) (id : DeploymentId) (f : Files) :
    Except ArtifactError Unit × Files :=
  match performIn c now dataDir [⟨"Failed to clear build directory", buildDir id, clear (buildDir id)⟩] f with
  | (.error e, f) => (.error e, f)
  | (.ok _, f) =>
    performIn c now dataDir
      [⟨"Failed to create build directory", buildDir id, fun f => f.createDirectory (buildDir id)⟩,
       ⟨"Failed to create logs directory", logsDir id.app, fun f => f.createDirectory (logsDir id.app)⟩,
       ⟨"Failed to open deployment log", logPath id, touch (logPath id)⟩] f

/-- Removes everything that is stored for an app. -/
def cleanup (c : Context) (now : Instant) (dataDir : String) (app : AppId) (f : Files) :
    Except ArtifactError Unit × Files :=
  performIn c now dataDir [⟨"Failed to remove app directory", appDir app, clear (appDir app)⟩] f

end Artifacts

/-- An open log, with the text that has not reached the file yet. -/
structure LogSink where
  path : Path
  buffered : String
deriving DecidableEq

namespace LogSink

/-- The size in bytes that the buffered text does not pass. -/
def capacity : Nat := 8192

def ofPath (p : Path) : LogSink := ⟨p, ""⟩

/-- Adds text to the file. -/
def emit (l : LogSink) (text : String) (f : Files) : Files := (f.append l.path text).toOption.getD f

def flush (l : LogSink) (f : Files) : LogSink × Files := ({ l with buffered := "" }, l.emit l.buffered f)

/-- Takes in text: what does not fit beside the buffered text pushes that out; what does not fit at all goes past. -/
def put (l : LogSink) (text : String) (f : Files) : LogSink × Files :=
  let (l, f) := if l.buffered.utf8ByteSize + text.utf8ByteSize > capacity then l.flush f else (l, f)
  if text.utf8ByteSize ≥ capacity then (l, l.emit text f) else ({ l with buffered := l.buffered ++ text }, f)

def writeLine (l : LogSink) (line : String) (f : Files) : LogSink × Files :=
  let (l, f) := l.put line f
  l.put "\n" f

/-- Lets everything reach the file. -/
def close (l : LogSink) (f : Files) : Files := (l.flush f).2

/-- Writes lines one after another. -/
def writeLines (l : LogSink) (lines : List String) (f : Files) : LogSink × Files :=
  lines.foldl (fun (l, f) line => l.writeLine line f) (l, f)

end LogSink

end Rollout
