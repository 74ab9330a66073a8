/-!
# Binary floating point

Numbers of 53 binary digits, the precision that numbers with a fraction are kept in. A quotient is rounded to the
nearest of them, and to the one with an even mantissa where two are equally near.
-/

namespace Rollout.Decimal

/-- The number `mantissa` times two to the power `exponent`. -/
structure Binary where
  mantissa : Nat
  exponent : Int
deriving DecidableEq, Repr

/-- The quotient rounded to an integer, a half to the even neighbour. -/
def roundDiv (num den : Nat) : Nat :=
  let q := num / den
  let r := num % den
  if 2 * r < den ∨ (2 * r = den ∧ q % 2 = 0) then q else q + 1

namespace Binary

def zero : Binary := ⟨0, 0⟩

/-- The least exponent of a mantissa. -/
def leastExponent : Int := -1074

/-- The exponent from which on numbers are too large. -/
def exponentLimit : Int := 972

/-- The least mantissa of 53 binary digits, and the first one of more. -/
def fullMantissa : Nat := 4503599627370496

def mantissaLimit : Nat := 9007199254740992

/-- `num / den` divided by two to the power `e`, as a quotient. -/
def scaleDown (num den : Nat) (e : Int) : Nat × Nat := (num * Nat.pow 2 (-e).toNat, den * Nat.pow 2 e.toNat)

/-- The exponent that gives the quotient a mantissa of 53 binary digits, unless it is less than the least one. -/
def exponentFor (num den : Nat) : Int :=
  let e : Int := (Nat.log2 num : Int) - (Nat.log2 den : Int) - 53
  let (n, d) := scaleDown num den e
  max leastExponent (if n < mantissaLimit * d then e else e + 1)

/-- The number nearest to `num / den`, if it is not too large. -/
def ofRatio? (num den : Nat) : Option Binary :=
  if num = 0 then some zero
  else
    let e := exponentFor num den
    let (n, d) := scaleDown num den e
    let m := roundDiv n d
    let (m, e) := if m = mantissaLimit then (fullMantissa, e + 1) else (m, e)
    if e < exponentLimit then some (if m = 0 then zero else ⟨m, e⟩) else none

/-- The number nearest to `digits` times ten to the power `exponent`, if it is not too large. -/
def ofDecimal? (digits : Nat) (exponent : Int) : Option Binary :=
  let magnitude := exponent + (Nat.toDigits 10 digits).length
  if digits = 0 ∨ magnitude < -400 then some zero
  else if magnitude > 400 then none
  else ofRatio? (digits * Nat.pow 10 exponent.toNat) (Nat.pow 10 (-exponent).toNat)

/-- The number as a quotient. -/
def toRatio (x : Binary) : Nat × Nat := (x.mantissa * Nat.pow 2 x.exponent.toNat, Nat.pow 2 (-x.exponent).toNat)

/-- The product with ten to the power `k`, which is itself rounded first. -/
def timesPower? (x : Binary) (k : Nat) : Option Binary := do
  let (num, den) := x.toRatio
  let (n, d) := (← ofDecimal? 1 k).toRatio
  ofRatio? (num * n) (den * d)

/-- The quotient by ten to the power `k`, which is itself rounded first. -/
def overPower? (x : Binary) (k : Nat) : Option Binary := do
  let (num, den) := x.toRatio
  let (n, d) := (← ofDecimal? 1 k).toRatio
  ofRatio? (num * d) (den * n)

end Binary

end Rollout.Decimal
