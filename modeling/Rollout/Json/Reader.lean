import Rollout.Json
import Rollout.Text.Hex

/-!
# Reading JSON text

`Json.read?` accepts exactly one value between blanks. Strings hold no bare control character, and an escaped surrogate
must come in a pair. Every step of the reader returns what it has not consumed; the fuel, the length of the text, bounds
the depth of the descent and the number of members.
-/

namespace Rollout.Json

def isBlank (c : Char) : Bool := c = ' ' || c = '\t' || c = '\n' || c = '\r'

def skipBlanks (cs : List Char) : List Char := cs.dropWhile isBlank

/-! ## Strings -/

def hex4? (a b c d : Char) : Option Nat := Text.Hex.value? [a, b, c, d]

/-- The character that a backslash and `c` stand for. -/
def simpleEscape? : Char → Option Char
  | '"' => some '"'
  | '\\' => some '\\'
  | '/' => some '/'
  | 'b' => some '\x08'
  | 'f' => some '\x0c'
  | 'n' => some '\n'
  | 'r' => some '\r'
  | 't' => some '\t'
  | _ => none

/-- The rest of a string after its opening quote: its characters in reverse, and what follows the closing quote. -/
def stringBody (acc : List Char) : List Char → Option (String × List Char)
  | [] => none
  | '"' :: rest => some (String.ofList acc.reverse, rest)
  | '\\' :: 'u' :: a :: b :: c :: d :: '\\' :: 'u' :: a' :: b' :: c' :: d' :: rest =>
    match hex4? a b c d with
    | none => none
    | some hi =>
      if 0xD800 ≤ hi ∧ hi ≤ 0xDBFF then
        match hex4? a' b' c' d' with
        | none => none
        | some lo =>
          if 0xDC00 ≤ lo ∧ lo ≤ 0xDFFF then
            stringBody (Char.ofNat (0x10000 + (hi - 0xD800) * 0x400 + (lo - 0xDC00)) :: acc) rest
          else none
      else if 0xDC00 ≤ hi ∧ hi ≤ 0xDFFF then none
      else stringBody (Char.ofNat hi :: acc) ('\\' :: 'u' :: a' :: b' :: c' :: d' :: rest)
  | '\\' :: 'u' :: a :: b :: c :: d :: rest =>
    match hex4? a b c d with
    | none => none
    | some n => if 0xD800 ≤ n ∧ n ≤ 0xDFFF then none else stringBody (Char.ofNat n :: acc) rest
  | '\\' :: c :: rest =>
    match simpleEscape? c with
    | none => none
    | some e => stringBody (e :: acc) rest
  | c :: rest => if c.toNat < 0x20 then none else stringBody (c :: acc) rest

/-! ## Numbers -/

def takeDigits (cs : List Char) : List Char × List Char := cs.span Char.isDigit

/-- The integer part: a lone zero, or digits that do not start with one. -/
def integerPart? (cs : List Char) : Option (List Char × List Char) :=
  match takeDigits cs with
  | ([], _) => none
  | ('0' :: _ :: _, _) => none
  | r => some r

def fractionPart? (cs : List Char) : Option (List Char × List Char) :=
  match cs with
  | '.' :: rest =>
    match takeDigits rest with
    | ([], _) => none
    | (ds, rest) => some ('.' :: ds, rest)
  | _ => some ([], cs)

def exponentPart? (cs : List Char) : Option (List Char × List Char) :=
  match cs with
  | e :: rest =>
    if e = 'e' ∨ e = 'E' then
      let (sign, rest) := match rest with
        | '+' :: rest => (['+'], rest)
        | '-' :: rest => (['-'], rest)
        | _ => ([], rest)
      match takeDigits rest with
      | ([], _) => none
      | (ds, rest) => some (e :: sign ++ ds, rest)
    else some ([], cs)
  | [] => some ([], [])

def number? (cs : List Char) : Option (Json × List Char) := do
  let (sign, cs) := match cs with
    | '-' :: rest => (['-'], rest)
    | _ => ([], cs)
  let (int, cs) ← integerPart? cs
  let (frac, cs) ← fractionPart? cs
  let (exp, cs) ← exponentPart? cs
  return (.number (String.ofList (sign ++ int ++ frac ++ exp)), cs)

/-! ## Values -/

mutual

def value? : Nat → List Char → Option (Json × List Char)
  | 0, _ => none
  | fuel + 1, cs =>
    match cs with
    | 'n' :: 'u' :: 'l' :: 'l' :: rest => some (.null, rest)
    | 't' :: 'r' :: 'u' :: 'e' :: rest => some (.bool true, rest)
    | 'f' :: 'a' :: 'l' :: 's' :: 'e' :: rest => some (.bool false, rest)
    | '"' :: rest => (stringBody [] rest).map fun (s, rest) => (.string s, rest)
    | '[' :: rest =>
      match skipBlanks rest with
      | ']' :: rest => some (.array [], rest)
      | rest => items? fuel [] rest
    | '\x7b' :: rest =>
      match skipBlanks rest with
      | '\x7d' :: rest => some (.object [], rest)
      | rest => members? fuel [] rest
    | _ => number? cs

/-- The items of an array from the next item on; those before it are in `acc`, in reverse. -/
def items? : Nat → List Json → List Char → Option (Json × List Char)
  | 0, _, _ => none
  | fuel + 1, acc, cs =>
    match value? fuel (skipBlanks cs) with
    | none => none
    | some (v, rest) =>
      match skipBlanks rest with
      | ']' :: rest => some (.array (v :: acc).reverse, rest)
      | ',' :: rest => items? fuel (v :: acc) rest
      | _ => none

/-- The members of an object from the next member on; those before it are in `acc`, in reverse. -/
def members? : Nat → List (String × Json) → List Char → Option (Json × List Char)
  | 0, _, _ => none
  | fuel + 1, acc, cs =>
    match skipBlanks cs with
    | '"' :: rest =>
      match stringBody [] rest with
      | none => none
      | some (name, rest) =>
        match skipBlanks rest with
        | ':' :: rest =>
          match value? fuel (skipBlanks rest) with
          | none => none
          | some (v, rest) =>
            match skipBlanks rest with
            | '\x7d' :: rest => some (.object ((name, v) :: acc).reverse, rest)
            | ',' :: rest => members? fuel ((name, v) :: acc) rest
            | _ => none
        | _ => none
    | _ => none

end

def read? (text : String) : Option Json :=
  let cs := text.toList
  match value? (cs.length + 1) (skipBlanks cs) with
  | some (v, rest) => if (skipBlanks rest).isEmpty then some v else none
  | none => none

end Rollout.Json
