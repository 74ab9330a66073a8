import Rollout.Job.Error

/-!
# Failures of the store

Reading fails when a row is missing or does not hold what it should; writing fails when the database refuses it, and
then nothing is stored. A write whose events could not all be handed to the subscribers has been stored nevertheless.
-/

namespace Rollout

inductive DatabaseError where
  | uniqueViolation (columns : String)
  | foreignKeyViolation
  | notNullViolation (name : String)
  | noSuchColumn (name : String)
  /-- A column does not hold a value of its type. -/
  | column (name cause : String)
  /-- A value that was computed is not of the type that was asked for; values are counted from 0. -/
  | result (index : Nat) (cause : String)
  /-- Every column holds a value of its type, but one of them is refused. -/
  | decode (cause : String)
  | closed
  | protocol (text : String)
deriving DecidableEq, Repr

namespace DatabaseError

/-- The answer of the database engine to a statement that would break a constraint. -/
def constraintMessage (code : Nat) (text : String) : String :=
  "error returned from database: (code: " ++ toString code ++ ") " ++ text ++ " constraint failed"

def message : DatabaseError → String
  | .uniqueViolation columns => constraintMessage 1555 "UNIQUE" ++ ": " ++ columns
  | .foreignKeyViolation => constraintMessage 787 "FOREIGN KEY"
  | .notNullViolation name => constraintMessage 1299 "NOT NULL" ++ ": " ++ name
  | .noSuchColumn name => "error returned from database: (code: 1) no such column: " ++ name
  | .column name cause => "error occurred while decoding column \"" ++ name ++ "\": " ++ cause
  | .result index cause => "error occurred while decoding column " ++ toString index ++ ": " ++ cause
  | .decode cause => "error occurred while decoding: " ++ cause
  | .closed => "attempted to acquire a connection on a closed pool"
  | .protocol text => "encountered unexpected or invalid data: " ++ text

end DatabaseError

inductive StoreError where
  | notFound (entity : String)
  | database (cause : DatabaseError)
  /-- Stored, but `dispatched` events got through to the subscribers and `pending` did not. -/
  | undispatched (dispatched pending : Nat) (source : DispatchError)
deriving DecidableEq, Repr

namespace StoreError

def message : StoreError → String
  | .notFound entity => entity ++ " not found"
  | .database cause => "database error: " ++ cause.message
  | .undispatched dispatched pending source =>
    "committed but " ++ toString pending ++ " event(s) undispatched after " ++ toString dispatched ++ ": " ++
      source.message

def isNotFound : StoreError → Bool
  | .notFound _ => true
  | _ => false

end StoreError

end Rollout
