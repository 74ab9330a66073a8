import Rollout.Text.Printable
import Rollout.Text.GraphemeExtend

/-!
# Quoted text

`quote s` writes `s` between double quotes so that nothing in it is invisible: six characters have an escape of their
own, and any other character that cannot be printed, or that would merge with the one before it, is written by its
code point.
-/

namespace Rollout.Text

/-- The code point of `c` in lower-case hexadecimal without leading zeros, such as `\u{301}`. -/
def codePointEscape (c : Char) : List Char :=
  ['\\', 'u', '\x7b'] ++ Nat.toDigits 16 c.toNat ++ ['\x7d']

def quoteChar (c : Char) : List Char :=
  if c = '\x00' then ['\\', '0']
  else if c = '\t' then ['\\', 't']
  else if c = '\r' then ['\\', 'r']
  else if c = '\n' then ['\\', 'n']
  else if c = '"' then ['\\', '"']
  else if c = '\\' then ['\\', '\\']
  else if isGraphemeExtend c || !isPrintable c then codePointEscape c
  else [c]

def quote (s : String) : String :=
  String.ofList (['"'] ++ s.toList.flatMap quoteChar ++ ['"'])

end Rollout.Text
