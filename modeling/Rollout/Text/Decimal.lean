/-!
# Decimal numbers

Writing and reading of unsigned decimal numbers. `readBounded` reads the whole of a text: an optional plus sign and at
least one ASCII digit, with a value up to a given limit, and tells the three ways to fail apart.
-/

namespace Rollout.Text.Decimal

/-- Why a text is not a number within the limit. -/
inductive ReadError where
  | empty
  | invalidDigit
  | tooLarge
deriving DecidableEq, Repr

def ReadError.message : ReadError → String
  | .empty => "cannot parse integer from empty string"
  | .invalidDigit => "invalid digit found in string"
  | .tooLarge => "number too large to fit in target type"

/-- The value of an ASCII digit. -/
def digit? (c : Char) : Option Nat :=
  if '0' ≤ c ∧ c ≤ '9' then some (c.toNat - '0'.toNat) else none

/-- Reads digits on top of the value `n`. The first one that is no digit, or passes the limit, decides the error. -/
def readDigits (limit : Nat) : Nat → List Char → Except ReadError Nat
  | n, [] => .ok n
  | n, c :: cs =>
    match digit? c with
    | none => .error .invalidDigit
    | some d => if n * 10 + d ≤ limit then readDigits limit (n * 10 + d) cs else .error .tooLarge

/-- Reads a number up to `limit`. A plus sign may precede the digits but does not stand for a number. -/
def readBounded (limit : Nat) (s : String) : Except ReadError Nat :=
  match s.toList with
  | [] => .error .empty
  | '+' :: c :: cs => readDigits limit 0 (c :: cs)
  | cs => readDigits limit 0 cs

theorem readDigits_le {limit n m : Nat} {cs : List Char} (hn : n ≤ limit) (h : readDigits limit n cs = .ok m) :
    m ≤ limit := by
  induction cs generalizing n with
  | nil =>
    cases h
    exact hn
  | cons c cs ih =>
    unfold readDigits at h
    split at h
    · cases h
    · split at h
      · next hle => exact ih hle h
      · cases h

theorem readBounded_le {limit n : Nat} {s : String} (h : readBounded limit s = .ok n) : n ≤ limit := by
  unfold readBounded at h
  split at h
  · cases h
  · exact readDigits_le (Nat.zero_le limit) h
  · exact readDigits_le (Nat.zero_le limit) h

/-- The digits of `n`, with zeros in front up to `width` places. -/
def padded (width n : Nat) : String :=
  let ds := (toString n).toList
  String.ofList (List.replicate (width - ds.length) '0' ++ ds)

/-- The number written by a list of ASCII digits, or nothing if the list is empty or has another character. -/
def digits? (cs : List Char) : Option Nat :=
  if cs.isEmpty then none else cs.foldlM (fun n c => (digit? c).map (n * 10 + ·)) 0

end Rollout.Text.Decimal
