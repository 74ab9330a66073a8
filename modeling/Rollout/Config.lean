import Rollout.Job.Worker
import Rollout.Job.Retry
import Rollout.Text.Decimal
import Rollout.Text.Utf8

/-!
# Configuration

How the system is set up. `Config.ofVariables` reads it from environment variables, each with a default; the first
number that cannot be read, in the order of the fields, is the failure.
-/

namespace Rollout

structure Config where
  databaseUrl : String
  dataDir : String
  concurrency : Nat
  pollInterval : Duration
  jobTimeout : Option Duration
  stopGrace : Duration
  maxAttempts : Nat
  retryBaseDelay : Duration

/-- A number in an environment variable that cannot be read. -/
structure ConfigError where
  name : String
  cause : Text.Decimal.ReadError
deriving DecidableEq

def ConfigError.message (e : ConfigError) : String := e.name ++ " must be a valid number: " ++ e.cause.message

namespace Config

/-- Names and values of environment variables, the values as bytes. -/
abbrev Variables := List (String × List Nat)

/-- The text of a variable. One whose bytes are no text counts as unset. -/
def text? (vars : Variables) (name : String) : Option String :=
  (vars.find? (·.1 = name)).bind fun v => Text.ofUtf8? v.2

/-- The number in a variable, if it is set. -/
def number? (limit : Nat) (vars : Variables) (name : String) : Except ConfigError (Option Nat) :=
  match text? vars name with
  | none => .ok none
  | some s =>
    match Text.Decimal.readBounded limit s with
    | .ok n => .ok (some n)
    | .error cause => .error ⟨name, cause⟩

theorem number?_le {limit n : Nat} {vars : Variables} {name : String} (h : number? limit vars name = .ok (some n)) :
    n ≤ limit := by
  unfold number? at h
  split at h
  · cases h
  · split at h
    · next hread =>
      cases h
      exact Text.Decimal.readBounded_le hread
    · cases h

def number (limit : Nat) (vars : Variables) (name : String) (default : Nat) : Except ConfigError Nat :=
  (number? limit vars name).map (·.getD default)

/-- The largest number of 64 bits. -/
def limit64 : Nat := 18446744073709551615

/-- The largest number of 32 bits. -/
def limit32 : Nat := 4294967295

def ofVariables (vars : Variables) : Except ConfigError Config := do
  let concurrency ← number limit64 vars "WORKER_CONCURRENCY" 4
  let pollInterval ← number limit64 vars "WORKER_POLL_INTERVAL_MS" 1000
  let jobTimeout ← number? limit64 vars "JOB_TIMEOUT_SECS"
  let stopGrace ← number limit64 vars "JOB_STOP_GRACE_SECS" 30
  let maxAttempts ← number limit32 vars "JOB_MAX_ATTEMPTS" 3
  let retryBaseDelay ← number limit64 vars "JOB_RETRY_BASE_DELAY_MS" 1000
  return {
    databaseUrl := (text? vars "DATABASE_URL").getD "sqlite://data/deployer.db?mode=rwc"
    dataDir := (text? vars "DATA_DIR").getD "data"
    concurrency, pollInterval := .ofMillis pollInterval, jobTimeout := jobTimeout.map .ofSecs
    stopGrace := .ofSecs stopGrace, maxAttempts, retryBaseDelay := .ofMillis retryBaseDelay }

/-- A database in memory, one job at a time, and retries without delay. -/
def forTests (dataDir : String) : Config :=
  { databaseUrl := "sqlite::memory:", dataDir, concurrency := 1, pollInterval := .ofMillis 10, jobTimeout := none
    stopGrace := .ofSecs 5, maxAttempts := 3, retryBaseDelay := .zero }

/-- Retries wait for an hour at most. -/
def policy (c : Config) : RetryPolicy := ⟨c.maxAttempts, c.retryBaseDelay, .ofSecs 3600⟩

def worker (c : Config) : WorkerConfig := ⟨c.concurrency, c.pollInterval, c.jobTimeout, c.stopGrace⟩

end Config

end Rollout
