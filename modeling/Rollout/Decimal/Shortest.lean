import Rollout.Decimal.Binary

/-!
# Shortest decimal text

`Binary.write` writes a number with the fewest decimal digits that are read back as the same number, and of those the
digits nearest to it. The point is written where it stands for powers of ten from 10⁻⁵ to 10¹⁶; other numbers have an
exponent.
-/

namespace Rollout.Decimal.Binary

/-- Compares `a` times ten to the power `i` with `b` times two to the power `j`. -/
def compareScaled (a : Nat) (i : Int) (b : Nat) (j : Int) : Ordering :=
  compare (a * Nat.pow 10 i.toNat * Nat.pow 2 (-j).toNat) (b * Nat.pow 2 j.toNat * Nat.pow 10 (-i).toNat)

/-- Whether `digits` times ten to the power `k` is rounded to `x`. -/
def isReadFrom (x : Binary) (digits : Nat) (k : Int) : Bool :=
  let low := if x.mantissa = fullMantissa ∧ leastExponent < x.exponent then 4 * x.mantissa - 1 else 4 * x.mantissa - 2
  let even := x.mantissa % 2 = 0
  let below := compareScaled digits k low (x.exponent - 2)
  let above := compareScaled digits k (4 * x.mantissa + 2) (x.exponent - 2)
  (below = .gt || (below = .eq && even)) && (above = .lt || (above = .eq && even))

/-- The least power of ten above `x`. -/
def magnitude (x : Binary) : Int :=
  let k : Int := ((Nat.log2 x.mantissa : Int) + x.exponent) * 30103 / 100000
  ([k, k + 1].find? fun k => compareScaled 1 k x.mantissa x.exponent = .gt).getD (k + 2)

/-- The number of `n` digits nearest to `x` that is read back as `x`, with its power of ten. -/
def withDigits? (x : Binary) (n : Nat) : Option (Nat × Int) :=
  let k := x.magnitude - (n : Int)
  let (num, den) := x.toRatio
  let num := num * Nat.pow 10 (-k).toNat
  let den := den * Nat.pow 10 k.toNat
  let q := num / den
  let near := roundDiv num den
  let far := if near = q then q + 1 else q
  if x.isReadFrom near k then some (near, k) else if x.isReadFrom far k then some (far, k) else none

/-- Without zeros at the end. -/
def stripZeros : Nat → Nat × Int → Nat × Int
  | 0, d => d
  | fuel + 1, (digits, k) => if digits % 10 = 0 ∧ digits ≠ 0 then stripZeros fuel (digits / 10, k + 1) else (digits, k)

/-- The fewest digits, with the power of ten that they are multiplied by. Seventeen always suffice. -/
def shortest (x : Binary) : Nat × Int :=
  stripZeros 17 (((List.range 17).findSome? fun n => x.withDigits? (n + 1)).getD (x.mantissa, 0))

def write (x : Binary) : String :=
  if x.mantissa = 0 then "0.0"
  else
    let (digits, k) := x.shortest
    let ds := Nat.toDigits 10 digits
    let point : Int := ds.length + k
    let zeros (n : Int) : List Char := List.replicate n.toNat '0'
    String.ofList (
      if 0 ≤ k ∧ point ≤ 16 then ds ++ zeros k ++ ['.', '0']
      else if 0 < point ∧ point ≤ 16 then ds.take point.toNat ++ ['.'] ++ ds.drop point.toNat
      else if -5 < point ∧ point ≤ 0 then ['0', '.'] ++ zeros (-point) ++ ds
      else ds.take 1 ++ (if ds.length = 1 then [] else ['.'] ++ ds.drop 1) ++ ['e'] ++ (toString (point - 1)).toList)

end Rollout.Decimal.Binary
