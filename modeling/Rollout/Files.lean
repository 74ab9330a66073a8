/-!
# Files

A tree of directories and files, given by the places of what is in it. A place is the list of the names from the root
on; the root itself is a directory that is always there. Directories on the way to an entry are entries themselves.

A path leads to a place. Its parts are names, or say where to go: an empty part and `.` stay in the directory, `..` goes
to the one above, and the root is above itself (`Files.walk`). Only the last part may name what is not there.
-/

namespace Rollout

abbrev Path := List String

namespace Path

/-- The parts of a text between slashes. -/
def ofText (s : String) : Path := s.splitOn "/"

/-- A path as the operating system has it. -/
def toText (p : Path) : String := "/".intercalate p

/-- The sizes in bytes that a name and a whole path do not pass. -/
def nameLimit : Nat := 255

def limit : Nat := 4095

def isStay (part : String) : Bool := part = "" || part = "."

/-- The path without the slashes at its end. -/
def withoutSlash (p : Path) : Path := (p.reverse.dropWhile (· = "")).reverse

end Path

inductive FileNode where
  | directory
  | file (text : String)
deriving DecidableEq

inductive FileError where
  | notFound
  | notADirectory
  | isADirectory
  | alreadyExists
  | nameTooLong
  /-- There is a NUL in the path. -/
  | invalidPath
deriving DecidableEq, Repr

namespace FileError

/-- How the operating system tells the error. -/
def message : FileError → String
  | .notFound => "No such file or directory (os error 2)"
  | .notADirectory => "Not a directory (os error 20)"
  | .isADirectory => "Is a directory (os error 21)"
  | .alreadyExists => "File exists (os error 17)"
  | .nameTooLong => "File name too long (os error 36)"
  | .invalidPath => "file name contained an unexpected NUL byte"

/-- What kind of error it is. -/
def kind : FileError → String
  | .notFound => "entity not found"
  | .notADirectory => "not a directory"
  | .isADirectory => "is a directory"
  | .alreadyExists => "entity already exists"
  | .nameTooLong => "invalid filename"
  | .invalidPath => "invalid input parameter"

end FileError

/-- Refuses a path that the operating system does not take. -/
def Path.check (p : Path) : Except FileError Unit :=
  if p.any (·.toList.contains '\x00') then .error .invalidPath
  else if p.toText.utf8ByteSize > limit then .error .nameTooLong
  else .ok ()

structure Files where
  entries : List (Path × FileNode)
deriving DecidableEq

namespace Files

def empty : Files := ⟨[]⟩

/-! ## Places -/

/-- The node at a place. -/
def node? (f : Files) (place : Path) : Option FileNode :=
  if place = [] then some .directory else (f.entries.find? (·.1 = place)).map (·.2)

def put (f : Files) (place : Path) (n : FileNode) : Files := ⟨f.entries.filter (·.1 ≠ place) ++ [(place, n)]⟩

/-- The tree without what is at a place and below it. -/
def prune (f : Files) (place : Path) : Files := ⟨f.entries.filter fun e => !place.isPrefixOf e.1⟩

/-- Looks a name up in a directory. -/
def find (f : Files) (dir : Path) (name : String) : Except FileError (Option FileNode) :=
  if name.utf8ByteSize > Path.nameLimit then .error .nameTooLong else .ok (f.node? (dir ++ [name]))

/-! ## Ways -/

/-- The place after one part of a way. -/
def enter (f : Files) (dir : Path) (part : String) : Except FileError Path :=
  if Path.isStay part then .ok dir
  else if part = ".." then .ok dir.dropLast
  else do
    match ← f.find dir part with
    | some .directory => return dir ++ [part]
    | some (.file _) => throw .notADirectory
    | none => throw .notFound

/-- The place of the directory that a path leads to. -/
def walk (f : Files) (p : Path) : Except FileError Path := do
  p.check
  p.foldlM f.enter []

/-- What a path is about. -/
inductive Goal where
  /-- A directory that is not named at the end. -/
  | itself
  /-- A name in a directory; a slash behind the name asks for a directory. -/
  | entry (dir : Path) (name : String) (slashed : Bool)

def goal (f : Files) (p : Path) : Except FileError Goal := do
  p.check
  let named := p.withoutSlash
  let dir ← f.walk named.dropLast
  match named.getLast? with
  | none => return .itself
  | some name => return if name = "." ∨ name = ".." then .itself else .entry dir name (named.length < p.length)

/-! ## Operations -/

/-- The place of a file to be written, and its text, which is empty if there is no such file. -/
def writable (f : Files) (p : Path) : Except FileError (Path × String) := do
  match ← f.goal p with
  | .itself => throw .isADirectory
  | .entry dir name slashed =>
    if slashed then throw .isADirectory
    match ← f.find dir name with
    | some .directory => throw .isADirectory
    | some (.file text) => return (dir ++ [name], text)
    | none => return (dir ++ [name], "")

/-- Makes sure that there is a file and adds to its end. -/
def append (f : Files) (p : Path) (text : String) : Except FileError Files :=
  (f.writable p).map fun (place, old) => f.put place (.file (old ++ text))

/-- Writes a file, which may be a new one. -/
def write (f : Files) (p : Path) (text : String) : Except FileError Files :=
  (f.writable p).map fun (place, _) => f.put place (.file text)

/-- The place and the text of a file that is there. -/
def readable (f : Files) (p : Path) : Except FileError (Path × String) := do
  match ← f.goal p with
  | .itself => throw .isADirectory
  | .entry dir name slashed =>
    match ← f.find dir name with
    | some .directory => throw .isADirectory
    | some (.file text) => if slashed then throw .notADirectory else return (dir ++ [name], text)
    | none => throw .notFound

def read (f : Files) (p : Path) : Except FileError String := (f.readable p).map (·.2)

/-- Removes a file. -/
def remove (f : Files) (p : Path) : Except FileError Files := (f.readable p).map fun (place, _) => f.prune place

/-- Removes a directory with everything in it. -/
def removeDirectory (f : Files) (p : Path) : Except FileError Files := (f.walk p).map f.prune

/--
Creates the directories on a way as far as they are missing; what was created before a failure stays. A last part `.`
asks for a directory that is there already. A file at the end of the way exists already, and one on the way is no
directory; but from the first directory on that was `missing`, each part of the way is the end of a way of its own.
-/
def createFrom (f : Files) (missing : Bool) (dir : Path) : Path → Except FileError Unit × Files
  | [] => (.ok (), f)
  | part :: rest =>
    if Path.isStay part then f.createFrom missing dir rest
    else if part = ".." then f.createFrom missing dir.dropLast rest
    else
      let dotted := "." ∈ rest && rest.all Path.isStay
      match f.find dir part with
      | .error e => (.error e, f)
      | .ok (some .directory) => f.createFrom missing (dir ++ [part]) rest
      | .ok (some (.file _)) =>
        (.error (if rest.all (· = "") || (missing && !dotted) then .alreadyExists else .notADirectory), f)
      | .ok none =>
        if dotted then (.error .notFound, f)
        else (f.put (dir ++ [part]) .directory).createFrom true (dir ++ [part]) rest

/-- Creates a directory and those on the way to it, as far as they are missing. -/
def createDirectory (f : Files) (p : Path) : Except FileError Unit × Files :=
  match p.check with
  | .error e => (.error e, f)
  | .ok _ => f.createFrom false [] p

/-- All paths, those of directories with a slash at the end. -/
def listing (f : Files) : List String :=
  f.entries.map fun (p, n) => p.toText ++ match n with
    | .directory => "/"
    | .file _ => ""

end Files

end Rollout
