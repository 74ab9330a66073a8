import Rollout.Store.Tables
import Rollout.Work

/-!
# The store

The store asks questions of a database and writes the pending events of aggregates to it. All events of a write are
stored or none is (`Database.transact`). Once they are stored, the aggregates keep none of them, and the events are
handed to a dispatcher in the order in which they were stored (`Database.write`); a dispatcher that fails then does not
undo the write.

Any access to a database can fail: a closed one refuses all of them, and `faults` says which of the coming ones fail.
-/

namespace Rollout

structure Database where
  tables : Tables
  isClosed : Bool
  /-- The failures of the coming accesses, one entry for each; the accesses after them succeed. -/
  faults : List (Option DatabaseError)
deriving DecidableEq

namespace Database

variable {ε β : Type}

def empty : Database := ⟨.empty, false, []⟩

/-- The outcome of the next access, and the database after it. -/
def access (db : Database) : Except DatabaseError Unit × Database :=
  if db.isClosed then (.error .closed, db)
  else
    match db.faults with
    | [] => (.ok (), db)
    | none :: faults => (.ok (), { db with faults })
    | some e :: faults => (.error e, { db with faults })

/-- An access takes up a failure at most and leaves the tables alone. -/
@[simp] theorem tables_access (db : Database) : db.access.2.tables = db.tables := by
  unfold access
  split
  · rfl
  · split <;> rfl

def query (db : Database) (question : Tables → Except StoreError β) : Except StoreError β × Database :=
  match db.access with
  | (.error e, db) => (.error (.database e), db)
  | (.ok _, db) => (question db.tables, db)

/-- Changes the tables in one access. -/
def execute (db : Database) (change : Tables → Except DatabaseError (β × Tables)) : Except DatabaseError β × Database :=
  match db.access with
  | (.error e, db) => (.error e, db)
  | (.ok _, db) =>
    match change db.tables with
    | .ok (b, tables) => (.ok b, { db with tables })
    | .error e => (.error e, db)

/-- Applies events to `tables` one after another, each in an access of its own. -/
def applyAll (apply : Tables → ε → Except DatabaseError Tables) :
    List ε → Tables → Database → Except DatabaseError Tables × Database
  | [], tables, db => (.ok tables, db)
  | e :: es, tables, db =>
    match db.access with
    | (.error error, db) => (.error error, db)
    | (.ok _, db) =>
      match apply tables e with
      | .ok tables => applyAll apply es tables db
      | .error error => (.error error, db)

/-- Begins a transaction, applies all events and commits; a failure leaves the tables as they were. -/
def transact (apply : Tables → ε → Except DatabaseError Tables) (es : List ε) (db : Database) :
    Except DatabaseError Unit × Database :=
  match db.access with
  | (.error e, db) => (.error e, db)
  | (.ok _, db) =>
    match applyAll apply es db.tables db with
    | (.error e, db) => (.error e, db)
    | (.ok tables, db) =>
      match db.access with
      | (.error e, db) => (.error e, db)
      | (.ok _, db) => (.ok (), { db with tables })

@[simp] theorem tables_query (db : Database) (question : Tables → Except StoreError β) :
    (db.query question).2.tables = db.tables := by
  unfold query
  have h := db.tables_access
  split <;> simp_all

end Database

/-- What the events of `A` are, how they change the tables, and how subscribers see them. -/
class Aggregate (A : Type) (ε : outParam Type) where
  /-- The pending events, oldest first. -/
  pending : A → List ε
  /-- The aggregate without pending events. -/
  cleared : A → A
  pending_cleared : ∀ a, pending (cleared a) = []
  apply : Tables → ε → Except DatabaseError Tables
  notice : ε → Notice Payload

instance : Aggregate App AppEvent where
  pending a := a.takeEvents.1
  cleared a := a.takeEvents.2
  pending_cleared _ := rfl
  apply := Tables.applyAppEvent
  notice := AppEvent.notice

instance : Aggregate Deployment DeploymentEvent where
  pending d := d.takeEvents.1
  cleared d := d.takeEvents.2
  pending_cleared _ := rfl
  apply := Tables.applyDeploymentEvent
  notice := DeploymentEvent.notice

/-- The pending events of aggregates, in the order of the aggregates. -/
def pendingEvents {A ε : Type} [Aggregate A ε] (as : List A) : List ε := as.flatMap Aggregate.pending

/--
Writes the pending events of aggregates and hands them to `d`: the result, the aggregates, the database, and what the
dispatcher writes to.
-/
def Database.write {A ε σ : Type} [Aggregate A ε] (db : Database) (d : Dispatcher Payload σ) (as : List A) (hub : σ) :
    Except StoreError Unit × List A × Database × σ :=
  match db.transact (Aggregate.apply A) (pendingEvents as) with
  | (.error e, db) => (.error (.database e), as, db, hub)
  | (.ok _, db) =>
    match d.dispatchAll ((pendingEvents as).map (Aggregate.notice A)) hub with
    | (.ok _, hub) => (.ok (), as.map Aggregate.cleared, db, hub)
    | (.error (dispatched, pending, source), hub) =>
      (.error (.undispatched dispatched pending source), as.map Aggregate.cleared, db, hub)

structure Store where
  db : Database
  /-- The subscribers of the bus, in the order in which they subscribed. -/
  bus : List Subscriber
  hub : Hub Work

namespace Store

variable {A ε β : Type}

def query (s : Store) (question : Tables → Except StoreError β) : Except StoreError β × Store :=
  let (result, db) := s.db.query question
  (result, { s with db })

/-- Hands a notice to subscribers. -/
def dispatch (s : Store) (n : Notice Payload) : Except DispatchError Unit × Store :=
  let (result, hub) := s.hub.dispatch Work.registry s.bus n
  (result, { s with hub })

/-- Writes the pending events of aggregates and hands them to `subscribers`. -/
def writeTo [Aggregate A ε] (s : Store) (subscribers : List Subscriber) (as : List A) :
    Except StoreError Unit × List A × Store :=
  let (result, as, db, hub) := s.db.write (.bus (dispatchersOf Work.registry subscribers)) as s.hub
  (result, as, { s with db, hub })

/-- Writes the pending events of aggregates and hands them to the bus. -/
def write [Aggregate A ε] (s : Store) (as : List A) : Except StoreError Unit × List A × Store := s.writeTo s.bus as

end Store

end Rollout
