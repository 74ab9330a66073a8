import Rollout.Artifacts
import Rollout.Command.Error
import Rollout.Json

/-!
# Reports of failures

Those who use the system from outside get answers as JSON values. A failure is reported by its kind, a word that does
not change with its details, and mostly by its message.
-/

namespace Rollout.Report

def ok : Json := .string "ok"

/-! ## Names of types in messages -/

def payloadMark : String := "invalid payload: expected "

/-- What stands before the first double colon. -/
def untilColons : List Char → List Char
  | ':' :: ':' :: _ => []
  | c :: cs => c :: untilColons cs
  | [] => []

/--
A message in which the type that a payload was expected to have goes by its bare name: of what stands behind the first
mark of such a payload, only what follows the last double colon is told.
-/
def withBareType (message : String) : String :=
  match message.splitOn payloadMark with
  | before :: expected@(_ :: _) =>
    before ++ payloadMark ++
      String.ofList (untilColons (payloadMark.intercalate expected).toList.reverse).reverse
  | _ => message

/-! ## Failures -/

def failure (kind : String) : Json := .object [("error", .string kind)]

def failureWith (kind message : String) : Json := .object [("error", .string kind), ("message", .string message)]

def appErrorKind : AppError → String
  | .invalidName _ => "InvalidName"
  | .nameAlreadyTaken _ => "NameAlreadyTaken"
  | .targetNotFound _ => "TargetNotFound"
  | .configRequired => "ConfigRequired"
  | .cleanupRequested => "CleanupRequested"
  | .cleanupNotRequested => "CleanupNotRequested"
  | .deploymentAlreadyStarted => "DeploymentAlreadyStarted"
  | .deploymentNotRunning => "DeploymentNotRunning"
  | .deploymentFailed _ => "DeploymentFailed"

def jobErrorKind : JobError → String
  | .invalidPayload _ => "InvalidPayload"
  | .noHandler _ => "NoHandler"
  | .cancelled => "Cancelled"
  | .deadlineExceeded => "DeadlineExceeded"
  | .infra _ => "Infra"

def dispatchErrorKind : DispatchError → String
  | .prepare .. => "Prepare"
  | .enqueue .. => "Enqueue"
  | .subscriber .. => "Subscriber"

def ofAppError (e : AppError) : Json := failureWith (appErrorKind e) e.message

def ofJobError (e : JobError) : Json := failureWith (jobErrorKind e) (withBareType e.message)

def ofStop (s : Stop) : Json := ofJobError (.ofStop s)

def ofDispatchError (e : DispatchError) : Json :=
  failureWith ("Dispatch." ++ dispatchErrorKind e) (withBareType e.message)

/-- A column that cannot be read is reported by its name, without a message. -/
def ofStoreError (e : StoreError) : Json :=
  let message := withBareType e.message
  match e with
  | .notFound _ => failureWith "Store.NotFound" message
  | .database (.column name _) => .object [("error", .string "Store.ColumnDecode"), ("column", .string name)]
  | .database (.result index _) =>
    .object [("error", .string "Store.ColumnDecode"), ("column", .string (toString index))]
  | .database _ => failureWith "Store.Database" message
  | .undispatched dispatched pending source =>
    .object [("error", .string "Store.Undispatched"), ("message", .string message),
      ("dispatched", .ofNat dispatched), ("pending", .ofNat pending), ("source", .string (dispatchErrorKind source))]

def ofCommandError (e : CommandError) : Json :=
  match e with
  | .rejected error => failureWith ("Rejected." ++ appErrorKind error) error.message
  | .store error => ofStoreError error
  | .artifact _ => failureWith "Artifact" e.message
  | .cancelled => failureWith "Cancelled" e.message

def ofArtifactError : ArtifactError → Json
  | .stopped reason => ofStop reason
  | .failed f => failureWith "Artifact" f.fullText

def ofFileError (e : FileError) : Json := failureWith "Io" e.kind

def ofDatabaseError (e : DatabaseError) : Json := failureWith "Sql" e.message

def ofResult {ε α : Type} (error : ε → Json) (value : α → Json) : Except ε α → Json
  | .ok a => value a
  | .error e => error e

/-- The report of something that gives no value when it succeeds. -/
def ofUnit {ε : Type} (error : ε → Json) : Except ε Unit → Json := ofResult error fun _ => ok

end Rollout.Report
