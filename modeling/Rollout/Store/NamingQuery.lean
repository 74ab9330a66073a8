import Rollout.Store.Tables

/-!
# The queries of the naming checks

Each of the two naming checks is one query that answers with a row of flags, read by the names of its columns. The query
for a new app is fixed, and numbers its parameters. The query for a stored app is put together slot by slot, every
parameter standing for the next of the values that are bound on the way; it joins the row of the app with those of the
others.
-/

namespace Rollout

/-- A value that is bound to a parameter. -/
inductive BoundValue where
  | text (s : String)
  | id (u : Uuid)
deriving DecidableEq

/-- A parameter as a query writes it: with its number, or as the next one. -/
inductive Placeholder where
  | numbered (n : Nat)
  | next
deriving DecidableEq

/-- A condition on the rows of apps. -/
inductive AppTest (P : Type) where
  /-- Is not the subject of the query. -/
  | isOther
  /-- Has the name of the subject. -/
  | isNamesake
  | isNamed (name : P)
  | isOn (e : Environment) (target : P)
  | both (a b : AppTest P)
  | either (a b : AppTest P)
deriving DecidableEq

/-- What a column is asked for. -/
inductive Flag (P : Type) where
  /-- Nothing; the flag is not set. -/
  | zero
  /-- Whether the target exists and is not about to be cleaned up. -/
  | targetExists (target : P)
  | noApp (test : AppTest P)
deriving DecidableEq

structure FlagQuery (P : Type) where
  columns : List (String × Flag P)
  /-- The app that the query is about, without whose row there is no answer. -/
  subject : Option P
deriving DecidableEq

/-! ## Numbers of parameters -/

section Numbers

variable {P Q : Type} {m : Type → Type} [Monad m]

/-- A parameter without a number is given the one after the largest so far. -/
def Placeholder.number : Placeholder → StateM Nat Nat
  | .numbered n => fun last => (n, max last n)
  | .next => fun last => (last + 1, last + 1)

def AppTest.mapM (f : P → m Q) : AppTest P → m (AppTest Q)
  | .isOther => return .isOther
  | .isNamesake => return .isNamesake
  | .isNamed name => return .isNamed (← f name)
  | .isOn e target => return .isOn e (← f target)
  | .both a b => return .both (← a.mapM f) (← b.mapM f)
  | .either a b => return .either (← a.mapM f) (← b.mapM f)

def Flag.mapM (f : P → m Q) : Flag P → m (Flag Q)
  | .zero => return .zero
  | .targetExists target => return .targetExists (← f target)
  | .noApp test => return .noApp (← test.mapM f)

def FlagQuery.mapM (f : P → m Q) (q : FlagQuery P) : m (FlagQuery Q) :=
  return {
    columns := ← q.columns.mapM fun (name, flag) => return (name, ← flag.mapM f)
    subject := ← q.subject.mapM f }

/-- The query with the numbers of its parameters, given out from left to right. -/
def FlagQuery.numbered (q : FlagQuery Placeholder) : FlagQuery Nat := (q.mapM Placeholder.number 0).1

end Numbers

/-! ## Answers -/

section Answers

variable (t : Tables) (value : Nat → Option BoundValue)

/-- Whether the test holds of an app, beside the row of the subject. -/
def AppTest.holds (subject : Option AppRow) : AppTest Nat → AppRow → Bool
  | .isOther, r => subject.any fun s => r.id ≠ s.id
  | .isNamesake, r => subject.any fun s => r.name = s.name
  | .isNamed n, r =>
    match value n with
    | some (.text s) => r.name.holds s
    | _ => false
  | .isOn e n, r =>
    match value n with
    | some (.id u) => (r.slot e).isOn ⟨u⟩
    | _ => false
  | .both a b, r => a.holds subject r && b.holds subject r
  | .either a b, r => a.holds subject r || b.holds subject r

def Flag.isSet (subject : Option AppRow) : Flag Nat → Bool
  | .zero => false
  | .targetExists n =>
    match value n with
    | some (.id u) => t.isUsable ⟨u⟩
    | _ => false
  | .noApp test => !t.apps.any (test.holds value subject)

/-- The flags by the names of their columns, beside the row of the subject. -/
def FlagQuery.row (q : FlagQuery Nat) (subject : Option AppRow) : List (String × Bool) :=
  q.columns.map fun (name, flag) => (name, flag.isSet t value subject)

/-- The row of the answer, if there is one. -/
def FlagQuery.row? (q : FlagQuery Nat) : Option (List (String × Bool)) :=
  match q.subject with
  | none => some (q.row t value none)
  | some n =>
    match value n with
    | some (.id u) => (t.app? ⟨u⟩).map fun subject => q.row t value (some subject)
    | _ => none

end Answers

/-! ## The naming checks -/

/-- A query together with the values bound to its parameters, the first of which has the number 1. -/
structure NamingQuery where
  query : FlagQuery Placeholder
  bound : List BoundValue

namespace NamingQuery

/-- For a new app: the name is the first parameter, and the targets of the slots are the second and the third. -/
def ofNew (name : AppName) (production staging : EnvConfig) : NamingQuery where
  query := {
    columns := [
      ("production_target_exists", .targetExists (.numbered 2)),
      ("production_available", .noApp (.both (.isNamed (.numbered 1))
        (.either (.isOn .production (.numbered 2)) (.isOn .staging (.numbered 2))))),
      ("staging_target_exists", .targetExists (.numbered 3)),
      ("staging_available", .noApp (.both (.isNamed (.numbered 1))
        (.either (.isOn .production (.numbered 3)) (.isOn .staging (.numbered 3)))))]
    subject := none }
  bound := [.text name.text, .id production.target.uuid, .id staging.target.uuid]

/-- Appends the columns of one slot; a slot that is not checked has constants. -/
def pushSlot (e : Environment) (config : Option EnvConfig) (q : NamingQuery) : NamingQuery :=
  let found := e.columnPrefix ++ "_target_exists"
  let available := e.columnPrefix ++ "_available"
  match config with
  | none => { q with query.columns := q.query.columns ++ [(found, .zero), (available, .zero)] }
  | some c => {
    query.subject := q.query.subject
    query.columns := q.query.columns ++ [
      (found, .targetExists .next),
      (available, .noApp (.both (.both .isOther .isNamesake)
        (.either (.isOn .production .next) (.isOn .staging .next))))]
    bound := q.bound ++ [.id c.target.uuid, .id c.target.uuid, .id c.target.uuid] }

/-- Makes the app the subject. -/
def about (id : AppId) (q : NamingQuery) : NamingQuery :=
  { query := { q.query with subject := some .next }, bound := q.bound ++ [.id id.uuid] }

/-- For a stored app. -/
def ofStored (id : AppId) (production staging : Option EnvConfig) : NamingQuery :=
  ((NamingQuery.mk ⟨[], none⟩ []).pushSlot .production production).pushSlot .staging staging |>.about id

/-- What the flags say of one slot; a slot that is not checked requires nothing. -/
def requirement (config : Option EnvConfig) (targetFound nameAvailable : Bool) : Requirement :=
  match config with
  | none => .empty
  | some c => .of c targetFound nameAvailable

/-- Reads the flags by the names of their columns, if all of them are there. -/
def requirements? (production staging : Option EnvConfig) (row : List (String × Bool)) :
    Option (Requirement × Requirement) :=
  return (requirement production (← row.lookup "production_target_exists") (← row.lookup "production_available"),
    requirement staging (← row.lookup "staging_target_exists") (← row.lookup "staging_available"))

/-- The answer to the query for these slots, if all columns are there to be read. -/
def ask? (q : NamingQuery) (production staging : Option EnvConfig) (t : Tables) :
    Option (Except StoreError (Requirement × Requirement)) :=
  match q.query.numbered.row? t (fun n => q.bound[n - 1]?) with
  | none => some (.error (.notFound "app"))
  | some row => (requirements? production staging row).map .ok

end NamingQuery

end Rollout
