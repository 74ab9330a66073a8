import Rollout.Decimal.Binary
import Rollout.Text.Utf8
import Rollout.Uuid

/-!
# Cells

What a statement can put into a column, and how cells are ordered: first numbers, then texts, then identifiers. A column
of integers turns a text that is a number into it (`Cell.asInteger`); arithmetic takes the integer that a text or an
identifier starts with (`Cell.successor?`).
-/

namespace Rollout

inductive Cell where
  | null
  | integer (n : Int)
  /-- A number that is no integer, or too large for one, as a quotient. -/
  | real (num : Int) (den : Nat)
  | text (s : String)
  | id (u : Uuid)
deriving DecidableEq

namespace Cell

/-- What the database calls a cell of this kind. -/
def kind : Cell → String
  | .null => "NULL"
  | .integer _ => "INTEGER"
  | .real .. => "REAL"
  | .text _ => "TEXT"
  | .id _ => "BLOB"

/-- The message about a cell of the kind `found` in the place of one of the kind `kind`, for a value of type `type`. -/
def mismatchMessage (type kind found : String) : String :=
  "mismatched types; Rust type `" ++ type ++ "` (as SQL type `" ++ kind ++ "`) is not compatible with SQL type `" ++
    found ++ "`"

def bytes : Cell → List Nat
  | .text s => s.toList.flatMap Text.utf8
  | .id u => u.bytes
  | _ => []

/-! ## Order -/

def rank : Cell → Nat
  | .null => 0
  | .integer _ | .real .. => 1
  | .text _ => 2
  | .id _ => 3

/-- The value of a number as a quotient. -/
def ratio : Cell → Int × Nat
  | .integer n => (n, 1)
  | .real num den => (num, den)
  | _ => (0, 1)

/-- Whether `a` comes before `b`. -/
def isBefore (a b : Cell) : Bool :=
  if a.rank ≠ b.rank then a.rank < b.rank
  else if a.rank = 1 then a.ratio.1 * (b.ratio.2 : Int) < b.ratio.1 * (a.ratio.2 : Int)
  else decide (a.bytes < b.bytes)

/-- The last of some cells in their order. -/
def greatest? : List Cell → Option Cell
  | [] => none
  | c :: cs =>
    match greatest? cs with
    | none => some c
    | some d => some (if d.isBefore c then c else d)

/-! ## Numbers in texts -/

def leastInteger : Int := -9223372036854775808

def greatestInteger : Int := 9223372036854775807

def isBlank (b : Nat) : Bool := b = 0x20 || (0x09 ≤ b && b ≤ 0x0d)

def isDigit (b : Nat) : Bool := 0x30 ≤ b && b ≤ 0x39

/-- What a text starts with, read as a number: digits, perhaps a point and digits, perhaps an exponent. -/
structure Numeral where
  negative : Bool
  whole : List Nat
  /-- The digits behind a point, if there is a point. -/
  places : Option (List Nat)
  /-- The exponent, if there is a mark of one; it may be missing behind the mark. -/
  exponent : Option (Option Int)
  /-- What follows, without the blanks before it. -/
  rest : List Nat

/-- Whether the first byte is a minus sign, and what stands behind the sign. -/
def takeSign : List Nat → Bool × List Nat
  | 0x2d :: rest => (true, rest)
  | 0x2b :: rest => (false, rest)
  | rest => (false, rest)

/-- The number that digits stand for. -/
def digitsValue (ds : List Nat) : Nat := ds.foldl (fun n d => n * 10 + (d - 0x30)) 0

def takeExponent (bytes : List Nat) : Option (Option Int) × List Nat :=
  match bytes with
  | b :: rest =>
    if b = 0x65 ∨ b = 0x45 then
      let (negative, rest) := takeSign rest
      let (ds, rest) := rest.span isDigit
      let n : Int := digitsValue ds
      (some (if ds.isEmpty then none else some (if negative then -n else n)), rest)
    else (none, bytes)
  | [] => (none, [])

def numeral (bytes : List Nat) : Numeral :=
  let (negative, rest) := takeSign (bytes.dropWhile isBlank)
  let (whole, rest) := rest.span isDigit
  let (places, rest) := match rest with
    | 0x2e :: rest => let (ds, rest) := rest.span isDigit; (some ds, rest)
    | _ => (none, rest)
  let (exponent, rest) := takeExponent rest
  { negative, whole, places, exponent, rest := rest.dropWhile isBlank }

namespace Numeral

def hasDigits (n : Numeral) : Bool := !n.whole.isEmpty || !(n.places.getD []).isEmpty

/-- Whether a point or the mark of an exponent makes the number one with a fraction. -/
def isReal (n : Numeral) : Bool := n.places.isSome || n.exponent.isSome

/-- Whether the whole text is a number. -/
def isWhole (n : Numeral) : Bool := n.rest.isEmpty && n.hasDigits && n.exponent ≠ some none

/-- Whether a text that is no number starts with one that has a fraction. -/
def startsReal (n : Numeral) : Bool :=
  n.hasDigits && n.isReal && ((n.places.isSome && n.exponent.isSome) || n.exponent ≠ some none)

def signed (n : Numeral) (v : Nat) : Int := if n.negative then -(v : Int) else v

/-- The integer that the digits before a point stand for. -/
def integer (n : Numeral) : Int := n.signed (digitsValue n.whole)

/-- The number rounded to binary floating point; what is too large becomes the first power of two beyond all others. -/
def rounded (n : Numeral) : Int × Nat :=
  let places := n.places.getD []
  let e := (n.exponent.getD none).getD 0 - places.length
  match Decimal.Binary.ofDecimal? (digitsValue (n.whole ++ places)) e with
  | some x => (n.signed x.toRatio.1, x.toRatio.2)
  | none => (n.signed (Nat.pow 2 1024), 1)

end Numeral

def isStorable (n : Int) : Bool := leastInteger ≤ n && n ≤ greatestInteger

/-- A rounded number, as an integer if it is one that is small enough to be kept so. -/
def ofRounded (r : Int × Nat) : Cell :=
  let n := r.1 / (r.2 : Int)
  if n * (r.2 : Int) = r.1 ∧ n.natAbs ≤ 9223372036854774784 then .integer n else .real r.1 r.2

/-- What a column of integers makes of a cell. -/
def asInteger (c : Cell) : Cell :=
  match c with
  | .text _ =>
    let n := numeral c.bytes
    if n.isWhole = false then c
    else if n.isReal = false ∧ isStorable n.integer then .integer n.integer
    else ofRounded n.rounded
  | _ => c

/-- What a column of texts makes of a cell. -/
def asText : Cell → Cell
  | .integer n => .text (toString n)
  | c => c

/-- The integer that arithmetic takes a cell for, if it is an integer. -/
def integer? (c : Cell) : Option Int :=
  match c with
  | .null => none
  | .integer n => some n
  | .real .. => none
  | .text _ | .id _ =>
    let n := numeral c.bytes
    if (if n.isWhole then n.isReal else n.startsReal) then none
    else if isStorable n.integer then some n.integer
    else none

/-- One more than a cell, if that is an integer. -/
def successor? (c : Cell) : Option Int :=
  c.integer?.bind fun n => if isStorable (n + 1) then some (n + 1) else none

end Cell

end Rollout
