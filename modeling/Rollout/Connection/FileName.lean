import Rollout.Text.Split
import Rollout.Url.Percent

/-!
# Names of database files

A name that begins with `file:` is an address of its own: behind the path, parameters say how the file is opened. Any
other name is just the name of a file.
-/

namespace Rollout

/--
What may be done with a database, as a sum: 1 to read only, or 2 to write and 4 to create it, and 128 if it is kept in
memory.
-/
abbrev Access := Nat

namespace Access

def readOnly : Access := 1

def readWrite : Access := 2

def readWriteCreate : Access := 6

def memory : Access := 128

def isInMemory (a : Access) : Bool := a ≥ memory

def isReadOnly (a : Access) : Bool := a % 2 = 1

end Access

/-- What is opened, and how. -/
structure Opening where
  file : String
  access : Access
  isImmutable : Bool
  /-- The name of the way to reach files, if not the usual one. -/
  vfs : Option String
deriving DecidableEq

namespace Opening

/-- Some bytes as a text that ends before the first NUL. -/
def untilNul (bytes : List Nat) : String := (Text.ofUtf8? (bytes.takeWhile (· ≠ 0))).getD "\ufffd"

def decode (cs : List Char) : String := untilNul (Url.percentDecode cs)

/-- What a mode of access stands for. -/
def accessOf? : String → Option Access
  | "ro" => some Access.readOnly
  | "rw" => some Access.readWrite
  | "rwc" => some Access.readWriteCreate
  | "memory" => some Access.memory
  | _ => none

/-- Takes a parameter into account. A mode must not ask for more than what is allowed before it. -/
def setParameter? (o : Opening) (name value : String) : Option Opening :=
  match name with
  | "vfs" => some { o with vfs := some value }
  | "cache" => if value = "shared" ∨ value = "private" then some o else none
  | "mode" => do
    let a ← accessOf? value
    if a % Access.memory > o.access then none else some { o with access := a }
  | "immutable" => some { o with isImmutable := ["1", "on", "true", "yes"].contains value }
  | _ => some o

/-- A parameter without a name says nothing. -/
def readParameter? (o : Opening) (cs : List Char) : Option Opening :=
  let name := decode (cs.takeWhile (· ≠ '='))
  if name = "" then some o else o.setParameter? name (decode ((cs.dropWhile (· ≠ '=')).drop 1))

/-- The part behind the host, which is this machine if there is one at all. -/
def afterHost? : List Char → Option (List Char)
  | '/' :: '/' :: rest =>
    let host := String.ofList (rest.takeWhile (· ≠ '/'))
    if host = "" ∨ host = "localhost" then some (rest.dropWhile (· ≠ '/')) else none
  | cs => some cs

def ofAddress? (access : Access) (cs : List Char) : Option Opening := do
  let cs := (← afterHost? cs).takeWhile (· ≠ '#')
  let o : Opening := ⟨decode (cs.takeWhile (· ≠ '?')), access, false, none⟩
  (Text.splitOn '&' ((cs.dropWhile (· ≠ '?')).drop 1)).foldlM readParameter? o

/-- What a name that holds no NUL stands for. -/
def ofName? (access : Access) (name : String) : Option Opening :=
  let cs := name.toList
  if cs.contains '\x00' then none
  else if "file:".toList.isPrefixOf cs then ofAddress? access (cs.drop 5)
  else some ⟨name, access, false, none⟩

/-- The ways to reach files that there are, the last one of which keeps them in memory. -/
def fileSystems : List String := ["unix", "unix-none", "unix-dotfile", "unix-excl", "memdb"]

/-- Whether what is opened lives in the connection, so that no file has to be there. -/
def isVolatile (o : Opening) : Bool :=
  o.access.isInMemory || o.file = "" || o.file = ":memory:" || o.vfs = some "memdb"

/-- Whether opening succeeds. No file can be opened, only what lives in the connection. -/
def succeeds (o : Opening) : Bool := o.isVolatile && o.vfs.all fileSystems.contains

/-- Whether what was opened cannot be changed. -/
def isReadOnly (o : Opening) : Bool :=
  o.access.isReadOnly ||
    (o.isImmutable && !o.access.isInMemory && o.file ≠ "" && o.file ≠ ":memory:")

end Opening

end Rollout
