import Rollout.Decimal.Shortest
import Rollout.Json.Place
import Rollout.Text.Decimal
import Rollout.Text.Dict
import Rollout.Text.Hex
import Rollout.Text.Quoted
import Rollout.Text.Utf8

/-!
# Reading JSON text of a known shape

A reader of texts (`Shape.text`) and one of objects whose members are all of one shape (`Shape.dict`). Both stop at the
first byte that cannot belong to a value of the shape and tell its place. `Shape.read` reads one value between blanks.

Loops over the text are bounded by its length.
-/

namespace Rollout.Json

/-- A reader of one value, which returns what it has not consumed. -/
abbrev Shape (α : Type) := Cursor → Except ReadError (α × Cursor)

namespace Shape

variable {α : Type}

def byte (c : Char) : Nat := c.toNat

/-! ## Strings -/

def escaped? (b : Nat) : Option Char :=
  match Char.ofNat b with
  | '"' => some '"'
  | '\\' => some '\\'
  | '/' => some '/'
  | 'b' => some '\x08'
  | 'f' => some '\x0c'
  | 'n' => some '\n'
  | 'r' => some '\r'
  | 't' => some '\t'
  | _ => none

def fourDigits (c : Cursor) : Except ReadError (Nat × Cursor) :=
  if c.rest.length < 4 then (c.advance 4).fail .endInString
  else
    match Text.Hex.value? ((c.rest.take 4).map Char.ofNat) with
    | some n => .ok (n, c.advance 4)
    | none => (c.advance 4).fail .badEscape

def isHighSurrogate (n : Nat) : Bool := 0xd800 ≤ n && n ≤ 0xdbff

def isLowSurrogate (n : Nat) : Bool := 0xdc00 ≤ n && n ≤ 0xdfff

/-- The byte `b` inside an escaped pair of surrogates. -/
def inPair (b : Nat) (c : Cursor) : Except ReadError Cursor :=
  match c.next? with
  | none => c.fail .endInString
  | some (d, c) => if d = b then .ok c else c.fail .endOfEscape

/-- The bytes that the digits behind `\u` stand for. -/
def codePoint (c : Cursor) : Except ReadError (List Nat × Cursor) := do
  let (n, c) ← fourDigits c
  if isLowSurrogate n then c.fail .loneSurrogate
  else if isHighSurrogate n then
    let c ← inPair (byte '\\') c
    let c ← inPair (byte 'u') c
    let (m, c) ← fourDigits c
    if isLowSurrogate m then
      return (Text.utf8 (Char.ofNat (0x10000 + (n - 0xd800) * 0x400 + (m - 0xdc00))), c)
    else c.fail .loneSurrogate
  else return (Text.utf8 (Char.ofNat n), c)

/-- The bytes that the characters behind a backslash stand for. -/
def escape (c : Cursor) : Except ReadError (List Nat × Cursor) :=
  match c.next? with
  | none => c.fail .endInString
  | some (b, c) =>
    match escaped? b with
    | some e => .ok (Text.utf8 e, c)
    | none => if b = byte 'u' then codePoint c else c.fail .badEscape

/-- The rest of a string from inside it on; its bytes so far are in `acc`, in reverse. -/
def stringBody : Nat → List Nat → Shape String
  | 0, _, c => c.fail .endInString
  | fuel + 1, acc, c =>
    match c.next? with
    | none => c.fail .endInString
    | some (b, c) =>
      if b = byte '"' then .ok ((Text.ofUtf8? acc.reverse).getD "", c)
      else if b = byte '\\' then do
        let (bytes, c) ← escape c
        stringBody fuel (bytes.reverse ++ acc) c
      else if b < 0x20 then c.fail .controlCharacter
      else stringBody fuel (b :: acc) c

/-- A string from behind its opening quote on. -/
def quoted (c : Cursor) : Except ReadError (String × Cursor) := stringBody (c.rest.length + 1) [] c

/-! ## Numbers

A number counts only where it is not wanted: its text tells what stands there. -/

def isDigit (b : Nat) : Bool := byte '0' ≤ b && b ≤ byte '9'

def digits (c : Cursor) : List Nat × Cursor :=
  let ds := c.rest.takeWhile isDigit
  (ds.map (· - byte '0'), c.advance ds.length)

/-- The greatest number that digits are gathered in. -/
def significandLimit : Nat := 18446744073709551615

/-- Gathers digits on top of `n` as long as the limit allows; what is left, and how many digits are. -/
def gather (limit : Nat) : Nat → List Nat → Nat × Nat
  | n, [] => (n, 0)
  | n, d :: ds => if n * 10 + d ≤ limit then gather limit (n * 10 + d) ds else (n, (d :: ds).length)

/-- Ten to the power `e` times `x`, rounded step by step. -/
def scale? : Nat → Decimal.Binary → Int → Option Decimal.Binary
  | 0, x, _ => some x
  | fuel + 1, x, e =>
    if e.natAbs ≤ 308 then (if 0 ≤ e then x.timesPower? e.toNat else x.overPower? e.natAbs)
    else if x.mantissa = 0 then some x
    else if 0 ≤ e then none
    else (x.overPower? 308).bind fun x => scale? fuel x (e + 308)

/-- What a number with a fraction or an exponent is called. -/
def fractionText (negative : Bool) (x : Decimal.Binary) : String :=
  "floating point `" ++ (if negative then "-" else "") ++ x.write ++ "`"

def fraction (negative : Bool) (significand : Nat) (e : Int) (c : Cursor) : Except ReadError (String × Cursor) :=
  match (Decimal.Binary.ofRatio? significand 1).bind fun x => scale? 5 x e with
  | some x => .ok (fractionText negative x, c)
  | none => c.fail .numberOutOfRange

/-- The exponents that are counted. -/
def exponentLimit : Nat := 2147483647

/-- An exponent from behind its letter on. -/
def exponent (negative : Bool) (significand : Nat) (e : Int) (c : Cursor) : Except ReadError (String × Cursor) :=
  let sign := c.rest.head?
  let c := if sign = some (byte '+') ∨ sign = some (byte '-') then c.advance 1 else c
  let isNegative := sign = some (byte '-')
  match c.next? with
  | none => c.fail .endInValue
  | some (b, behind) =>
    if isDigit b = false then behind.fail .badNumber
    else
      let (ds, last) := digits c
      let (n, left) := gather exponentLimit 0 ds
      if left = 0 then fraction negative significand (if isNegative then e - n else e + n) last
      else if significand ≠ 0 ∧ isNegative = false then (c.advance (ds.length - left + 1)).fail .numberOutOfRange
      else .ok (fractionText negative .zero, last)

def isExponentMark (b : Option Nat) : Bool := b = some (byte 'e') || b = some (byte 'E')

/-- The digits behind a point. -/
def places (negative : Bool) (significand : Nat) (e : Int) (c : Cursor) : Except ReadError (String × Cursor) :=
  let (ds, last) := digits c
  if ds.isEmpty then c.failNext (if c.rest.isEmpty then .endInValue else .badNumber)
  else
    let (n, left) := gather significandLimit significand ds
    let e := e - ((ds.length - left : Nat) : Int)
    if isExponentMark last.rest.head? then exponent negative n e (last.advance 1) else fraction negative n e last

/-- The greatest absolute value of a negative integer. -/
def negativeLimit : Nat := 9223372036854775808

/-- What a number is called, from behind its sign on. -/
def number (negative : Bool) (c : Cursor) : Except ReadError (String × Cursor) :=
  match c.next? with
  | none => c.fail .endInValue
  | some (b, behind) =>
    if isDigit b = false then behind.fail .badNumber
    else if b = byte '0' ∧ behind.rest.head?.any isDigit then behind.failNext .badNumber
    else
      let (ds, last) := digits c
      let (n, left) := gather significandLimit 0 ds
      if last.rest.head? = some (byte '.') then places negative n left (last.advance 1)
      else if isExponentMark last.rest.head? then exponent negative n left (last.advance 1)
      else if left > 0 then fraction negative n left last
      else if negative = false then .ok ("integer `" ++ toString n ++ "`", last)
      else if n = 0 ∨ n > negativeLimit then fraction negative n 0 last
      else .ok ("integer `-" ++ toString n ++ "`", last)

/-! ## Values of another shape -/

/-- The rest of a word. -/
def word : List Char → Cursor → Except ReadError Cursor
  | [], c => .ok c
  | w :: ws, c =>
    match c.next? with
    | none => c.fail .endInValue
    | some (b, c) => if b = byte w then word ws c else c.fail .noWord

/-- Fails because a value that is not `expected` stands at the cursor. -/
def mismatch (expected : String) (c : Cursor) : Except ReadError α := do
  let (found, c) ← match c.next? with
    | none => c.failNext .noValue
    | some (b, behind) =>
      match Char.ofNat b with
      | 'n' => do pure ("null", ← word ['u', 'l', 'l'] behind)
      | 't' => do pure ("boolean `true`", ← word ['r', 'u', 'e'] behind)
      | 'f' => do pure ("boolean `false`", ← word ['a', 'l', 's', 'e'] behind)
      | '-' => number true behind
      | '"' => do
        let (s, c) ← quoted behind
        pure ("string " ++ Text.quote s, c)
      | '[' => .ok ("sequence", c)
      | '\x7b' => .ok ("map", c)
      | _ => if isDigit b then number false c else c.failNext .noValue
  c.fail (.mismatch found expected)

/-! ## Shapes -/

def text : Shape String := fun c =>
  let c := c.skipBlanks
  match c.next? with
  | none => c.failNext .endInValue
  | some (b, behind) => if b = byte '"' then quoted behind else mismatch "a string" c

/-- The colon behind a key. -/
def colon (c : Cursor) : Except ReadError Cursor :=
  let c := c.skipBlanks
  match c.next? with
  | none => c.failNext .endInObject
  | some (b, behind) => if b = byte ':' then .ok behind else c.failNext .noColon

/-- The key at the cursor. -/
def key (c : Cursor) : Except ReadError (String × Cursor) :=
  match c.next? with
  | none => c.failNext .endInValue
  | some (b, behind) =>
    if b = byte '"' then do
      let (k, c) ← quoted behind
      return (k, ← colon c)
    else c.failNext .keyNotText

/-- The key of the member after the first one, from behind the comma on. -/
def laterKey (c : Cursor) : Except ReadError (String × Cursor) :=
  let c := c.skipBlanks
  if c.rest.head? = some (byte '\x7d') then c.failNext .commaAtEnd else key c

/-- The members from the next one on, on top of those before it; `isFirst` tells that there are none. -/
def members (value : Shape α) : Nat → Bool → Text.Dict α → Shape (Text.Dict α)
  | 0, _, _, c => c.fail .endInObject
  | fuel + 1, isFirst, done, c => do
    let c := c.skipBlanks
    match c.next? with
    | none => c.failNext .endInObject
    | some (b, behind) =>
      if b = byte '\x7d' then return (done, behind)
      let (k, c) ←
        if isFirst then key c
        else if b = byte ',' then laterKey behind
        else c.failNext .noCommaOrEnd
      let (v, c) ← value c
      members value fuel false (done.insert k v) c

/-- An object; of several members with one key the last one counts. -/
def dict (value : Shape α) : Shape (Text.Dict α) := fun c =>
  let c := c.skipBlanks
  match c.next? with
  | none => c.failNext .endInValue
  | some (b, behind) =>
    if b = byte '\x7b' then members value (c.rest.length + 1) true .empty behind else mismatch "a map" c

/-- Reads one value with blanks around it. -/
def read (shape : Shape α) (s : String) : Except ReadError α := do
  let (a, c) ← shape ⟨.start, s.toList.flatMap Text.utf8⟩
  let c := c.skipBlanks
  if c.rest.isEmpty then return a else c.failNext .trailing

end Shape

end Rollout.Json
