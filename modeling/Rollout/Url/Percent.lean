import Rollout.Text.Hex
import Rollout.Text.Utf8

/-!
# Percent-encoding

A byte of the UTF-8 form of a character is written as `%` and two upper-case digits. Characters outside ASCII are always
encoded; which ASCII characters are is the choice of the part of the address they stand in.
-/

namespace Rollout.Url

def isControl (c : Char) : Bool := c.toNat < 0x20 || c.toNat = 0x7f

/-! ## The sets of characters to encode -/

def inFragmentSet (c : Char) : Bool := isControl c || [' ', '"', '<', '>', '\x60'].contains c

def inQuerySet (special : Bool) (c : Char) : Bool :=
  isControl c || [' ', '"', '#', '<', '>'].contains c || (special && c = '\'')

def inPathSet (c : Char) : Bool := inFragmentSet c || ['#', '?', '\x7b', '\x7d'].contains c

def inUserinfoSet (c : Char) : Bool :=
  inPathSet c || ['/', ':', ';', '=', '@', '[', '\\', ']', '^', '|'].contains c

/-! ## Encoding and decoding -/

def encodeByte (b : Nat) : List Char := ['%', upperDigit (b / 16), upperDigit (b % 16)]
where
  upperDigit (n : Nat) : Char := (Nat.digitChar n).toUpper

/-- The characters of `cs`, those of the set `inSet` and those outside ASCII encoded. -/
def percentEncode (inSet : Char → Bool) (cs : List Char) : List Char :=
  cs.flatMap fun c => if c.toNat < 0x80 ∧ inSet c = false then [c] else (Text.utf8 c).flatMap encodeByte

/-- The bytes of `cs` with encoded bytes decoded. A percent sign without two digits stands for itself. -/
def percentDecode : List Char → List Nat
  | '%' :: a :: b :: rest =>
    match Text.Hex.value? [a, b] with
    | some n => n :: percentDecode rest
    | none => Text.utf8 '%' ++ percentDecode (a :: b :: rest)
  | c :: rest => Text.utf8 c ++ percentDecode rest
  | [] => []

end Rollout.Url
