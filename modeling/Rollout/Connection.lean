import Rollout.Connection.FileName

/-!
# Connections

A database is given by an address: the name of its file behind `sqlite:` or `sqlite://`, and parameters that say how to
open it. What the name and the parameters come to is an `Opening`; one that lives in its connection can be opened.
-/

namespace Rollout

structure ConnectionOptions where
  database : String
  inMemory : Bool
  isReadOnly : Bool
  isImmutable : Bool
  /-- The name of the way to reach files, if not the usual one. -/
  vfs : Option String
deriving DecidableEq

inductive ConnectError where
  | invalidAddress (address : String)
  | failed
  /-- Opened, but its tables cannot be created. -/
  | notMigrated
deriving DecidableEq, Repr

def ConnectError.message : ConnectError → String
  | .invalidAddress address => "Invalid DATABASE_URL: " ++ address
  | .failed => "Failed to connect to database"
  | .notMigrated => "Failed to run migrations"

/-- What a connection reaches. -/
structure Connection where
  tables : List String
  maxConnections : Nat
deriving DecidableEq

namespace Connection

def dropPrefixes (front : List Char) : Nat → List Char → List Char
  | 0, cs => cs
  | fuel + 1, cs => if front.isPrefixOf cs then dropPrefixes front fuel (cs.drop front.length) else cs

/-- The address without its scheme. -/
def withoutScheme (address : String) : List Char :=
  let cs := address.toList
  let cs := dropPrefixes "sqlite://".toList cs.length cs
  dropPrefixes "sqlite:".toList cs.length cs

/-- A value or name of a parameter, with `+` for a blank. -/
def unescape (cs : List Char) : List Char :=
  let bytes := Url.percentDecode (cs.map fun c => if c = '+' then ' ' else c)
  ((Text.ofUtf8? bytes).getD "\ufffd").toList

/-- The parameters of an address, names before values. -/
def parameters (cs : List Char) : List (String × String) :=
  ((String.ofList cs).splitOn "&").filterMap fun p =>
    if p.isEmpty then none
    else
      let name := p.toList.takeWhile (· ≠ '=')
      let value := (p.toList.dropWhile (· ≠ '=')).drop 1
      some (String.ofList (unescape name), String.ofList (unescape value))

/-- Takes a parameter into account, if there is one of this name with this value. -/
def setParameter? (o : ConnectionOptions) : String × String → Option ConnectionOptions
  | ("mode", "ro") => some { o with isReadOnly := true }
  | ("mode", "rw") => some o
  | ("mode", "rwc") => some o
  | ("mode", "memory") => some { o with inMemory := true }
  | ("cache", "private") => some o
  | ("cache", "shared") => some o
  | ("immutable", "true") => some { o with isImmutable := true }
  | ("immutable", "1") => some { o with isImmutable := true }
  | ("immutable", "false") => some { o with isImmutable := false }
  | ("immutable", "0") => some { o with isImmutable := false }
  | ("vfs", name) => some { o with vfs := some name }
  | _ => none

def options? (address : String) : Option ConnectionOptions := do
  let cs := withoutScheme address
  let database := cs.takeWhile (· ≠ '?')
  let o : ConnectionOptions ←
    if database = ":memory:".toList then some ⟨":memory:", true, false, false, none⟩
    else (Text.ofUtf8? (Url.percentDecode database)).map fun file => ⟨file, false, false, false, none⟩
  (parameters ((cs.dropWhile (· ≠ '?')).drop 1)).foldlM setParameter? o

/-- Whether `part` stands somewhere in `text`. -/
def contains (text part : String) : Bool := (text.splitOn part).length > 1

/-- An address that speaks of memory gets a single connection. -/
def speaksOfMemory (address : String) : Bool := contains address ":memory:" || contains address "mode=memory"

def access (o : ConnectionOptions) : Access :=
  (if o.isReadOnly then Access.readOnly else Access.readWriteCreate) + if o.inMemory then Access.memory else 0

/-- What the options open. Where they ask for more than the name can tell, the name of the file is taken as it is. -/
def opening? (o : ConnectionOptions) : Option Opening :=
  if o.isImmutable || o.vfs.isSome then
    some {
      file := Opening.untilNul (o.database.toList.flatMap Text.utf8), access := access o, isImmutable := o.isImmutable
      vfs := o.vfs.map fun name => Opening.untilNul (name.toList.flatMap Text.utf8) }
  else Opening.ofName? (access o) o.database

/-- Opens a database and creates its tables. -/
def connect (address : String) : Except ConnectError Connection :=
  match options? address with
  | none => .error (.invalidAddress address)
  | some o =>
    match opening? o with
    | none => .error .failed
    | some opening =>
      if opening.succeeds = false then .error .failed
      else if opening.isReadOnly then .error .notMigrated
      else .ok ⟨["apps", "deployments", "targets"], if speaksOfMemory address then 1 else 10⟩

end Connection

end Rollout
