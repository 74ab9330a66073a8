import Rollout.Text.Blank
import Rollout.Time.Timestamp

/-!
# Reading points in time

Two readers of date, time of day and offset. `Timestamp.read?` takes a relaxed RFC 3339: blanks between the parts,
fields with fewer digits, `UTC` for the offset. `Timestamp.readStored?` takes what a text column may hold: RFC 3339 as
it stands, or a date and a time of day whose seconds and offset may be missing, and where an offset that leads nowhere
is left out of account.

A scanner returns what it reads together with the rest of the text.
-/

namespace Rollout.Timestamp

open Text

/-! ## Scanners -/

/-- Between `least` and `most` digits. -/
def scanDigits? (least most : Nat) (cs : List Char) : Option (Nat × List Char) :=
  let ds := (cs.take most).takeWhile Char.isDigit
  if ds.length < least then none else (Decimal.digits? ds).map fun n => (n, cs.drop ds.length)

/-- At most `most` digits after blanks. -/
def scanField? (most : Nat) (cs : List Char) : Option (Nat × List Char) := scanDigits? 1 most (trimStart cs)

/-- Four digits at most, or any number of them behind a sign. -/
def scanYear? (cs : List Char) : Option (Int × List Char) :=
  match trimStart cs with
  | '-' :: rest => (scanDigits? 1 rest.length rest).map fun (n, rest) => (-(n : Int), rest)
  | '+' :: rest => (scanDigits? 1 rest.length rest).map fun (n, rest) => ((n : Int), rest)
  | rest => (scanDigits? 1 4 rest).map fun (n, rest) => ((n : Int), rest)

def scanChar? (c : Char) : List Char → Option (List Char)
  | d :: rest => if c = d then some rest else none
  | [] => none

/-- The character `c` after blanks. -/
def scanMark? (c : Char) (cs : List Char) : Option (List Char) := scanChar? c (trimStart cs)

/-- The nanoseconds of a fraction, if there is one; digits beyond the ninth are dropped. -/
def scanFraction? : List Char → Option (Nat × List Char)
  | '.' :: rest => do
    let (n, rest') ← scanDigits? 1 9 rest
    return (n * Nat.pow 10 (9 - (rest.length - rest'.length)), rest'.dropWhile Char.isDigit)
  | cs => some (0, cs)

/-- A sign, two digits for the hours, whatever `separator` skips, and two digits for the minutes. -/
def scanOffset? (separator : List Char → Option (List Char)) (cs : List Char) : Option (Int × List Char) := do
  let (sign, rest) ← match cs with
    | '+' :: rest => some ((1 : Int), rest)
    | '-' :: rest => some (-1, rest)
    | '\u2212' :: rest => some (-1, rest)
    | _ => none
  let (hours, rest) ← scanDigits? 2 2 rest
  let rest ← separator rest
  let (minutes, rest) ← scanDigits? 2 2 rest
  if minutes < 60 then some (sign * (hours * 3600 + minutes * 60), rest) else none

/-- Skips any number of colons and blanks. -/
def skipColons (cs : List Char) : Option (List Char) := some (cs.dropWhile fun c => c = ':' || Text.isBlank c)

def isWithinDay (offset : Int) : Bool := -86400 < offset && offset < 86400

def isSeparator (c : Char) : Bool := c = 'T' || c = 't' || c = ' '

/-- Year, month and day, with a hyphen between two of them that `hyphen` finds. -/
def scanDate? (hyphen : List Char → Option (List Char)) (cs : List Char) : Option (Date × List Char) := do
  let (year, cs) ← scanYear? cs
  let cs ← hyphen cs
  let (month, cs) ← scanField? 2 cs
  let cs ← hyphen cs
  let (day, cs) ← scanField? 2 cs
  return (⟨year, month, day⟩, cs)

/-! ## Relaxed RFC 3339 -/

def scanZone? (cs : List Char) : Option (Int × List Char) :=
  match cs with
  | 'Z' :: rest => some (0, rest)
  | 'z' :: rest => some (0, rest)
  | _ => if (cs.take 3).map Char.toUpper = ['U', 'T', 'C'] then some (0, cs.drop 3) else scanOffset? skipColons cs

def read? (s : String) : Option Timestamp := do
  let (date, cs) ← scanDate? (scanMark? '-') s.toList
  let cs ← match cs with
    | c :: rest => if isSeparator c then some rest else none
    | [] => none
  let (hour, cs) ← scanField? 2 cs
  let cs ← scanMark? ':' cs
  let (minute, cs) ← scanField? 2 cs
  let cs ← scanMark? ':' cs
  let (second, cs) ← scanField? 2 cs
  let (nanos, cs) ← scanFraction? cs
  let (offset, cs) ← scanZone? (trimStart cs)
  if (trimStart cs).isEmpty ∧ isWithinDay offset then ofCivil? date hour minute second nanos offset else none

/-! ## Text columns -/

/-- RFC 3339 with nothing left out and nothing added. -/
def readStrict? (s : String) : Option Timestamp := do
  let (year, cs) ← scanDigits? 4 4 s.toList
  let cs ← scanChar? '-' cs
  let (month, cs) ← scanDigits? 2 2 cs
  let cs ← scanChar? '-' cs
  let (day, cs) ← scanDigits? 2 2 cs
  let cs ← match cs with
    | c :: rest => if isSeparator c then some rest else none
    | [] => none
  let (hour, cs) ← scanDigits? 2 2 cs
  let cs ← scanChar? ':' cs
  let (minute, cs) ← scanDigits? 2 2 cs
  let cs ← scanChar? ':' cs
  let (second, cs) ← scanDigits? 2 2 cs
  let (nanos, cs) ← scanFraction? cs
  let (offset, cs) ← match cs with
    | 'Z' :: rest => some ((0 : Int), rest)
    | 'z' :: rest => some (0, rest)
    | _ => scanOffset? (scanChar? ':') cs
  if cs.isEmpty ∧ isWithinDay offset then ofCivil? ⟨year, month, day⟩ hour minute second nanos offset else none

/-- The seconds and their fraction, if there are any. -/
def scanSeconds? : List Char → Option (Nat × Nat × List Char)
  | ':' :: rest => do
    let (second, rest) ← scanField? 2 rest
    let (nanos, rest) ← scanFraction? rest
    return (second, nanos, rest)
  | cs => some (0, 0, cs)

/-- A date and a time of day, in UTC unless an offset says otherwise. An offset of a day or more, or one that leaves the
years that are kept, counts as none. -/
def readCivil? (s : String) : Option Timestamp := do
  let (date, cs) ← scanDate? (scanChar? '-') s.toList
  let cs := match cs with
    | 'T' :: rest => rest
    | _ => trimStart cs
  let (hour, cs) ← scanField? 2 cs
  let cs ← scanChar? ':' cs
  let (minute, cs) ← scanField? 2 cs
  let (second, nanos, cs) ← scanSeconds? cs
  let (offset, cs) ← match cs with
    | [] => some ((0 : Int), [])
    | ['Z'] => some (0, [])
    | _ => scanOffset? skipColons (trimStart cs)
  let read (offset : Int) : Option Timestamp := ofCivil? date hour minute second nanos offset
  if cs.isEmpty = false then none
  else if isWithinDay offset then read offset <|> read 0
  else read 0

def readStored? (s : String) : Option Timestamp := readStrict? s <|> readCivil? s

end Rollout.Timestamp
