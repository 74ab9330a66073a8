import Rollout.App
import Rollout.Json.Shape
import Rollout.Store.Row
import Rollout.Time.Reader

/-!
# Types of columns

How the cells of a column are read as values of its type. A cell of a kind that the type is never kept as is refused
before it is looked at.
-/

namespace Rollout

structure ColumnType (α : Type) where
  /-- The name of the type in the message about a cell of the wrong kind. -/
  name : String
  /-- The kind of cell that values of the type are kept as. -/
  kind : String
  /-- Whether a cell is of a kind that can be read. -/
  accepts : Cell → Bool
  read : Cell → Except String α
  /-- Whether a cell that can be read is the one that the value is kept as. -/
  isNative : Cell → Bool

namespace ColumnType

variable {α : Type}

/-- The column that a cell becomes. -/
def column (t : ColumnType α) (c : Cell) : Column α :=
  if t.accepts c then
    match t.read c with
    | .ok a => if t.isNative c then .value a else .foreign c a
    | .error cause => .unreadable c cause
  else
    .unreadable c (Cell.mismatchMessage t.name t.kind c.kind)

/-- A column that may be empty. -/
def optional (t : ColumnType α) : ColumnType (Option α) where
  name := "core::option::Option<" ++ t.name ++ ">"
  kind := t.kind
  accepts c := c = .null || t.accepts c
  read
    | .null => .ok none
    | c => (t.read c).map some
  isNative c := c = .null || t.isNative c

/-- A type whose values are kept as texts. -/
def ofText (name kind : String) (read : String → Except String α) : ColumnType α where
  name
  kind
  accepts c := c.kind = "TEXT"
  read
    | .text s => read s
    | _ => .error ""
  isNative _ := true

def stringName : String := "alloc::string::String"

def text : ColumnType String := .ofText stringName "TEXT" .ok

def time : ColumnType Timestamp :=
  .ofText "chrono::datetime::DateTime<chrono::offset::utc::Utc>" "DATETIME" fun s =>
    match Timestamp.readStored? s with
    | some t => .ok t
    | none => .error ("invalid datetime: " ++ s)

/-- The name of the type of dictionaries of values of the type `value`. -/
def dictName (value : String) : String :=
  "alloc::collections::btree::map::BTreeMap<" ++ stringName ++ ", " ++ value ++ ">"

def vars : ColumnType EnvVars :=
  .ofText ("sqlx_core::types::json::Json<" ++ dictName (dictName stringName) ++ ">") "TEXT" fun s =>
    (Json.Shape.read (.dict (.dict .text)) s).mapError Json.ReadError.message

/-- The words of the cases of an enumeration. -/
def word (path name : String) (ofWord? : String → Option α) : ColumnType α :=
  .ofText (path ++ name) "TEXT" fun s =>
    match ofWord? s with
    | some a => .ok a
    | none => .error ("invalid value " ++ Text.quote s ++ " for enum " ++ name)

def modelsPath : String := "deployer::domains::deployment::models::"

def environment : ColumnType Environment :=
  .word (modelsPath ++ "environment::") "Environment" Environment.ofText?

def status : ColumnType DeploymentStatus :=
  .word (modelsPath ++ "deployment::") "DeploymentStatus" DeploymentStatus.ofText?

/-- An identifier is read from its sixteen bytes, of whatever kind the cell is. -/
def id {e : Entity} : ColumnType (EntityId e) where
  name := "deployer::common::id::Id<deployer::common::entity_ids::" ++ e.word ++ ">"
  kind := "BLOB"
  accepts c := c.kind = "BLOB" || c.kind = "TEXT"
  read c :=
    match Uuid.ofBytes? c.bytes with
    | some u => .ok ⟨u⟩
    | none => .error ("invalid length: expected 16 bytes, found " ++ toString c.bytes.length)
  isNative c := c.kind = "BLOB"

end ColumnType

end Rollout
