/-!
# Places in JSON text

A reader that tells where it fails goes through the bytes of a text with a cursor. A place is a line, counted from 1,
and the number of bytes of the line before the place. A failure that concerns the next byte is placed behind it.
-/

namespace Rollout.Json

structure Place where
  line : Nat
  column : Nat
deriving DecidableEq, Repr

def Place.start : Place := ⟨1, 0⟩

/-- The place behind the byte `b`. -/
def Place.behind (p : Place) (b : Nat) : Place := if b = '\n'.toNat then ⟨p.line + 1, 0⟩ else ⟨p.line, p.column + 1⟩

/-- What is left to read, and where it starts. -/
structure Cursor where
  place : Place
  rest : List Nat
deriving DecidableEq, Repr

/-- Why a text is not a value of the shape that was asked for. -/
inductive Fault where
  | endInObject
  | endInString
  | endInValue
  | noColon
  | noCommaOrEnd
  | noWord
  | noValue
  | badEscape
  | endOfEscape
  | loneSurrogate
  | controlCharacter
  | badNumber
  | numberOutOfRange
  | keyNotText
  | commaAtEnd
  | trailing
  /-- A value of another type stands there. -/
  | mismatch (found expected : String)
deriving DecidableEq, Repr

def Fault.message : Fault → String
  | .endInObject => "EOF while parsing an object"
  | .endInString => "EOF while parsing a string"
  | .endInValue => "EOF while parsing a value"
  | .noColon => "expected `:`"
  | .noCommaOrEnd => "expected `,` or `\x7d`"
  | .noWord => "expected ident"
  | .noValue => "expected value"
  | .badEscape => "invalid escape"
  | .endOfEscape => "unexpected end of hex escape"
  | .loneSurrogate => "lone leading surrogate in hex escape"
  | .controlCharacter => "control character (\\u0000-\\u001F) found while parsing a string"
  | .badNumber => "invalid number"
  | .numberOutOfRange => "number out of range"
  | .keyNotText => "key must be a string"
  | .commaAtEnd => "trailing comma"
  | .trailing => "trailing characters"
  | .mismatch found expected => "invalid type: " ++ found ++ ", expected " ++ expected

structure ReadError where
  fault : Fault
  place : Place
deriving DecidableEq, Repr

def ReadError.message (e : ReadError) : String :=
  e.fault.message ++ " at line " ++ toString e.place.line ++ " column " ++ toString e.place.column

namespace Cursor

def next? (c : Cursor) : Option (Nat × Cursor) :=
  match c.rest with
  | [] => none
  | b :: rest => some (b, ⟨c.place.behind b, rest⟩)

/-- The cursor behind `n` bytes, or at the end. -/
def advance : Nat → Cursor → Cursor
  | 0, c => c
  | n + 1, c =>
    match c.next? with
    | some (_, c) => advance n c
    | none => c

def isBlank (b : Nat) : Bool := b = 0x20 || b = 0x09 || b = 0x0a || b = 0x0d

def skipBlanks (c : Cursor) : Cursor := c.advance (c.rest.takeWhile isBlank).length

/-- Fails at the cursor. -/
def fail {α : Type} (c : Cursor) (fault : Fault) : Except ReadError α := .error ⟨fault, c.place⟩

/-- Fails because of the next byte. -/
def failNext {α : Type} (c : Cursor) (fault : Fault) : Except ReadError α := (c.advance 1).fail fault

end Cursor

end Rollout.Json
