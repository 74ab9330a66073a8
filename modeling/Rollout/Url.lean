import Rollout.Url.Host

/-!
# Addresses of repositories

`Url.parse` reads an absolute address as the URL Standard does and keeps it in its normal form: scheme and host in lower
case, no default port, `.` and `..` resolved, and what must not stand for itself percent-encoded.
-/

namespace Rollout

/-- The text `scheme:` comes before and the text `?query#fragment` behind what is kept here in order. -/
structure Url where
  scheme : String
  /-- What stands behind `//`, if anything does. -/
  authority : Option String
  path : String
  query : Option String
  fragment : Option String
deriving DecidableEq

namespace Url

def toText (u : Url) : String :=
  let authority := match u.authority with
    | some a => "//" ++ a
    | none => if u.path.startsWith "//" then "/." else ""
  let query := match u.query with
    | some q => "?" ++ q
    | none => ""
  let fragment := match u.fragment with
    | some f => "#" ++ f
    | none => ""
  u.scheme ++ ":" ++ authority ++ u.path ++ query ++ fragment

instance : ToString Url := ⟨toText⟩

/-! ## Schemes -/

/-- The port that a scheme has by default. -/
def defaultPort? (scheme : String) : Option Nat :=
  if scheme = "http" ∨ scheme = "ws" then some 80
  else if scheme = "https" ∨ scheme = "wss" then some 443
  else if scheme = "ftp" then some 21
  else none

/-- The schemes whose hosts are domain names. -/
def isSpecial (scheme : String) : Bool := (defaultPort? scheme).isSome || scheme = "file"

def isSchemeChar (c : Char) : Bool := c.isAlphanum || c = '+' || c = '-' || c = '.'

/-- A letter, any characters of schemes, and a colon. -/
def splitScheme? (cs : List Char) : Option (String × List Char) :=
  match cs with
  | c :: _ =>
    if c.isAlpha then
      match cs.span isSchemeChar with
      | (scheme, ':' :: rest) => some (String.ofList (scheme.map Char.toLower), rest)
      | _ => none
    else none
  | [] => none

/-! ## Authorities -/

/-- User and password with the sign behind them, both encoded. -/
def userinfo (cs : List Char) : List Char :=
  let (user, password) := cs.span (· ≠ ':')
  let user := percentEncode inUserinfoSet user
  let password := percentEncode inUserinfoSet (password.drop 1)
  let text := if password.isEmpty then user else user ++ [':'] ++ password
  if text.isEmpty then [] else text ++ ['@']

/-- The part up to the last `@`, if there is one, and the rest. -/
def splitUserinfo (cs : List Char) : Option (List Char) × List Char :=
  match cs.reverse.span (· ≠ '@') with
  | (_, []) => (none, cs)
  | (back, _ :: front) => (some front.reverse, back.reverse)

/-- The host, up to a colon outside brackets, and what follows it. -/
def splitHost (inBrackets : Bool) : List Char → List Char × List Char
  | [] => ([], [])
  | c :: cs =>
    if c = ':' ∧ inBrackets = false then ([], c :: cs)
    else
      let (h, rest) := splitHost (if c = '[' then true else if c = ']' then false else inBrackets) cs
      (c :: h, rest)

/-- The port written by the digits at the start of `cs`, unless it is the one of the scheme, and the rest, which is
empty or starts with a backslash. -/
def readPort (scheme : String) (cs : List Char) : Except ParseError (Option Nat × List Char) :=
  let (digits, rest) := cs.span Char.isDigit
  if rest.head?.any (· ≠ '\\') then .error .invalidPort
  else
    match Text.Decimal.digits? digits with
    | none => .ok (none, rest)
    | some n =>
      if n > 65535 then .error .invalidPort else .ok (if defaultPort? scheme = some n then none else some n, rest)

/-- The authority written by `cs`, and what stands behind its port. `last` tells that nothing follows the authority. -/
def readAuthority (scheme : String) (last : Bool) (cs : List Char) : Except ParseError (String × List Char) := do
  let (user, rest) := splitUserinfo cs
  if user = some [] ∧ rest.isEmpty ∧ last = false then throw .emptyHost
  let (host, port) := splitHost false rest
  let user := userinfo (user.getD [])
  if host.isEmpty ∧ (isSpecial scheme ∨ port.isEmpty = false) then throw .emptyHost
  let host ← if isSpecial scheme then domainHost host else opaqueHost host
  let (port, rest) ← readPort scheme (port.drop 1)
  if host.isEmpty ∧ user.isEmpty = false then throw .emptyHost
  let port := match port with
    | some n => ":" ++ toString n
    | none => ""
  return (String.ofList (user ++ host) ++ port, rest)

/-! ## Paths -/

def isDot (s : List Char) : Bool :=
  let s := s.map Char.toLower
  s = ['.'] || s = "%2e".toList

def isDotDot (s : List Char) : Bool :=
  let s := s.map Char.toLower
  s = "..".toList || s = ".%2e".toList || s = "%2e.".toList || s = "%2e%2e".toList

def isDriveLetter (s : List Char) : Bool :=
  match s with
  | [a, b] => a.isAlpha && (b = ':' || b = '|')
  | _ => false

/-- Without the last segment; a drive letter stays. -/
def shorten (segments : List (List Char)) : List (List Char) :=
  match segments.getLast? with
  | some s => if isDriveLetter s then segments else segments.dropLast
  | none => []

/-- Adds the segments of a path one by one, resolving dots. The last one has no slash behind it. -/
def addSegments (file : Bool) : List (List Char) → List (List Char) → List (List Char)
  | done, [] => done
  | done, s :: rest =>
    if isDotDot s ∨ isDot s then
      let done := if isDotDot s then shorten done else done
      if rest.isEmpty then done ++ [[]] else addSegments file done rest
    else
      let s := if file && done.isEmpty && isDriveLetter s then s.take 1 ++ [':'] else percentEncode inPathSet s
      addSegments file (done ++ [s]) rest

/-- The segments of a path, without the slash in front of the first. -/
def segments (scheme : String) (cs : List Char) : List (List Char) :=
  let special := isSpecial scheme
  let cs := if special then cs.map fun c => if c = '\\' then '/' else c else cs
  let cs := match cs with
    | '/' :: rest => rest
    | _ => cs
  addSegments (scheme = "file") [] (Text.splitOn '/' cs)

def joinSegments (segments : List (List Char)) : List Char := '/' :: ['/'].intercalate segments

/-- The path that follows an authority or starts with a slash. -/
def absolutePath (scheme : String) (cs : List Char) : String :=
  if cs.isEmpty ∧ isSpecial scheme = false then "" else String.ofList (joinSegments (segments scheme cs))

/-! ## Whole addresses -/

/-- Path, query and fragment: the fragment starts at the first `#`, the query at the first `?` before it. -/
def splitTail (cs : List Char) : List Char × Option (List Char) × Option (List Char) :=
  let (front, fragment) := match cs.span (· ≠ '#') with
    | (front, _ :: f) => (front, some f)
    | (front, []) => (front, none)
  match front.span (· ≠ '?') with
  | (path, _ :: q) => (path, some q, fragment)
  | (path, []) => (path, none, fragment)

def isSlash (special : Bool) (c : Char) : Bool := c = '/' || (special && c = '\\')

/-- Host and path of an address of a local file. The slashes in front of the path count as one, and a path that starts
with a drive letter has no host. -/
def fileAddress (host cs : List Char) : String × String :=
  let path := segments "file" cs
  let host := if path.head?.any isDriveLetter then [] else host
  (String.ofList host, String.ofList ('/' :: (joinSegments path).dropWhile (· = '/')))

/-- Authority and path of an address of a local file. -/
def filePath (cs : List Char) : Except ParseError (String × String) := do
  match cs with
  | a :: b :: rest =>
    if isSlash true a ∧ isSlash true b then
      let (host, path) := rest.span fun c => !isSlash true c
      if host.isEmpty then return fileAddress [] path
      if isDriveLetter host then return fileAddress [] rest
      let host ← domainHost host
      return fileAddress (if host = "localhost".toList then [] else host) path
    else return fileAddress [] cs
  | _ => return fileAddress [] cs

/-- Authority and path of an address, from what stands between the scheme and the query. `last` tells that neither query
nor fragment follows. -/
def hierarchy (scheme : String) (last : Bool) (cs : List Char) : Except ParseError (Option String × String) := do
  if scheme = "file" then
    let (host, path) ← filePath cs
    return (some host, path)
  else
    let special := isSpecial scheme
    let afterSlashes? := if special then some (cs.dropWhile (isSlash true)) else match cs with
      | '/' :: '/' :: rest => some rest
      | _ => none
    match afterSlashes? with
    | some cs =>
      let (authority, path) := cs.span fun c => !isSlash special c
      let (authority, rest) ← readAuthority scheme (last && path.isEmpty) authority
      return (some authority, absolutePath scheme (rest ++ path))
    | none =>
      match cs with
      | '/' :: _ => return (none, absolutePath scheme cs)
      | _ => return (none, String.ofList (percentEncode isControl cs))

/-- Without control characters and spaces at the ends, and without tabs and line breaks anywhere. -/
def cleaned (s : String) : List Char :=
  let outer (c : Char) : Bool := c.toNat ≤ 0x20
  let cs := (s.toList.dropWhile outer).reverse.dropWhile outer |>.reverse
  cs.filter fun c => c ≠ '\t' ∧ c ≠ '\n' ∧ c ≠ '\r'

def parse (s : String) : Except ParseError Url :=
  match splitScheme? (cleaned s) with
  | none => .error .relativeWithoutBase
  | some (scheme, rest) => do
    let (front, query, fragment) := splitTail rest
    let (authority, path) ← hierarchy scheme (query.isNone && fragment.isNone) front
    return {
      scheme, authority, path
      query := query.map fun q => String.ofList (percentEncode (inQuerySet (isSpecial scheme)) q)
      fragment := fragment.map fun f => String.ofList (percentEncode inFragmentSet f) }

end Url

end Rollout
