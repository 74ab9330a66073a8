import Rollout.Text.Decimal
import Rollout.Url.Domain
import Rollout.Url.Percent

/-!
# Hosts

The host of an address in its normal form: a domain name in lower case and ASCII, four numbers joined by dots, or an
IPv6 address in brackets with its longest run of zeros left out. The host of a scheme without rules of its own is kept
as it is.
-/

namespace Rollout.Url

open Text (splitOn)

/-- Why a text is no address. -/
inductive ParseError where
  | relativeWithoutBase
  | emptyHost
  | invalidPort
  | invalidDomainName
  | invalidDomainCharacter
  | invalidIpv4
  | invalidIpv6
deriving DecidableEq, Repr

def ParseError.message : ParseError → String
  | .relativeWithoutBase => "relative URL without a base"
  | .emptyHost => "empty host"
  | .invalidPort => "invalid port number"
  | .invalidDomainName => "invalid international domain name"
  | .invalidDomainCharacter => "invalid domain character"
  | .invalidIpv4 => "invalid IPv4 address"
  | .invalidIpv6 => "invalid IPv6 address"

/-! ## IPv4 -/

/-- A part of an IPv4 address: hexadecimal behind `0x`, octal behind `0`, else decimal. -/
def ipv4Part? (cs : List Char) : Option Nat :=
  let digits (base : Nat) (ds : List Char) : Option Nat :=
    ds.foldlM (fun n c => (Text.Hex.digit? c).bind fun d => if d < base then some (n * base + d) else none) 0
  match cs with
  | [] => none
  | '0' :: 'x' :: ds => digits 16 ds
  | '0' :: 'X' :: ds => digits 16 ds
  | '0' :: d :: ds => digits 8 (d :: ds)
  | ds => digits 10 ds

/-- The labels of a domain name, without the empty one behind a final dot. -/
def labels (cs : List Char) : List (List Char) :=
  let ps := splitOn '.' cs
  if ps.length > 1 ∧ ps.getLast? = some [] then ps.dropLast else ps

def endsInNumber (cs : List Char) : Bool :=
  match (labels cs).getLast? with
  | none => false
  | some [] => false
  | some p => p.all Char.isDigit || (ipv4Part? p).isSome

def ipv4? (cs : List Char) : Option Nat := do
  let ps := labels cs
  if ps.length > 4 then none
  let ns ← ps.mapM ipv4Part?
  let last ← ns.getLast?
  let first := ns.dropLast
  if first.any (· > 255) ∨ last ≥ Nat.pow 256 (5 - ns.length) then none
  else some (first.zipIdx.foldl (fun n (p, i) => n + p * Nat.pow 256 (3 - i)) last)

def writeIpv4 (n : Nat) : List Char :=
  (".".intercalate ([3, 2, 1, 0].map fun i => toString (n / Nat.pow 256 i % 256))).toList

/-! ## IPv6 -/

def hexGroup? (cs : List Char) : Option Nat :=
  if cs.isEmpty ∨ cs.length > 4 then none else Text.Hex.value? cs

/-- The 16-bit groups written by a part of an IPv6 address without `::`. -/
def ipv6Groups? (cs : List Char) : Option (List Nat) :=
  if cs.isEmpty then some []
  else
    let ps := splitOn ':' cs
    match ps.getLast? with
    | none => none
    | some last =>
      if last.contains '.' then do
        let quad := splitOn '.' last
        if quad.length ≠ 4 ∨ quad.any (fun p => p.length > 1 ∧ p.head? = some '0') then none
        let ns ← quad.mapM Text.Decimal.digits?
        if ns.any (· > 255) then none
        let groups ← ps.dropLast.mapM hexGroup?
        match ns with
        | [a, b, c, d] => some (groups ++ [a * 256 + b, c * 256 + d])
        | _ => none
      else ps.mapM hexGroup?

/-- The places where `::` stands in `cs`. -/
def splitGap : List Char → Option (List Char × List Char)
  | ':' :: ':' :: rest => some ([], rest)
  | c :: rest => (splitGap rest).map fun (a, b) => (c :: a, b)
  | [] => none

def ipv6? (cs : List Char) : Option (List Nat) :=
  match splitGap cs with
  | none => do
    let groups ← ipv6Groups? cs
    if groups.length = 8 then some groups else none
  | some (front, back) => do
    let front ← ipv6Groups? front
    let back ← ipv6Groups? back
    let n := front.length + back.length
    if n < 8 then some (front ++ List.replicate (8 - n) 0 ++ back) else none

/-- The length of the run of zeros at the start. -/
def zeroRun (gs : List Nat) : Nat := (gs.takeWhile (· = 0)).length

/-- Start and length of the first longest run of at least two zeros. -/
def longestZeroRun? (gs : List Nat) : Option (Nat × Nat) :=
  (List.range gs.length).foldl (fun best i =>
    let n := zeroRun (gs.drop i)
    match best with
    | none => if n ≥ 2 then some (i, n) else none
    | some (_, m) => if n > m then some (i, n) else best) none

def writeGroup (n : Nat) : String := String.ofList (Nat.toDigits 16 n)

def writeIpv6 (gs : List Nat) : List Char :=
  let join (gs : List Nat) : String := ":".intercalate (gs.map writeGroup)
  let text := match longestZeroRun? gs with
    | none => join gs
    | some (i, n) => join (gs.take i) ++ "::" ++ join (gs.drop (i + n))
  ['['] ++ text.toList ++ [']']

/-! ## Hosts -/

def isForbiddenInHost (c : Char) : Bool :=
  c = '\x00' || ['\t', '\n', '\r', ' ', '#', '/', ':', '<', '>', '?', '@', '[', '\\', ']', '^', '|'].contains c

def bracketed? (cs : List Char) : Option (Except ParseError (List Char)) :=
  match cs with
  | '[' :: rest =>
    if rest.getLast? = some ']' then
      match ipv6? rest.dropLast with
      | some gs => some (.ok (writeIpv6 gs))
      | none => some (.error .invalidIpv6)
    else some (.error .invalidIpv6)
  | _ => none

/-- The host of a scheme whose hosts are domain names. -/
def domainHost (cs : List Char) : Except ParseError (List Char) :=
  match bracketed? cs with
  | some r => r
  | none =>
    match (Text.ofUtf8? (percentDecode cs)).bind fun s => Domain.toAscii? s.toList with
    | none => .error .invalidDomainName
    | some ascii =>
      if ascii.isEmpty then .error .emptyHost
      else if endsInNumber ascii then
        match ipv4? ascii with
        | some n => .ok (writeIpv4 n)
        | none => .error .invalidIpv4
      else .ok ascii

/-- The host of any other scheme. -/
def opaqueHost (cs : List Char) : Except ParseError (List Char) :=
  match bracketed? cs with
  | some r => r
  | none =>
    if cs.any isForbiddenInHost then .error .invalidDomainCharacter else .ok (percentEncode isControl cs)

end Rollout.Url
