import Rollout.Text.CombiningClass
import Rollout.Text.Composition

/-!
# Composed text

`composed` gives the one text in which all texts equivalent to it are written: composites are taken apart, the marks
behind each starter are put in the order of their classes, and what can be composed is composed again. It is for texts
without characters that have a pair or a single character standing for them in every composed text.
-/

namespace Rollout.Text

/-- The characters of `c` taken apart `depth` times. -/
def takeApart : Nat → Char → List Char
  | 0, c => [c]
  | depth + 1, c =>
    match split? c with
    | some (a, b) => takeApart depth a ++ [b]
    | none => [c]

/-- No composite is built in more than four steps. -/
def decomposed (cs : List Char) : List Char := cs.flatMap (takeApart 4)

/-- Puts `c` in front, or behind the marks of lower classes if `c` is a mark. -/
def placeMark (c : Char) : List Char → List Char
  | [] => [c]
  | d :: ds =>
    if combiningClass d ≠ 0 ∧ combiningClass d < combiningClass c then d :: placeMark c ds else c :: d :: ds

/-- The text with the marks behind each starter in the order of their classes. -/
def ordered (cs : List Char) : List Char := cs.foldr placeMark []

/-- Composes a text that starts with `starter`, which has the marks `kept` behind it that it was not composed with. -/
def composeFrom (starter : Char) (kept : List Char) : List Char → List Char
  | [] => starter :: kept
  | c :: cs =>
    let blocked := kept.getLast?.any fun m => combiningClass c ≤ combiningClass m
    match if blocked then none else compose? starter c with
    | some s => composeFrom s kept cs
    | none =>
      if combiningClass c = 0 then starter :: kept ++ composeFrom c [] cs
      else composeFrom starter (kept ++ [c]) cs

def composed (cs : List Char) : List Char :=
  match ordered (decomposed cs) with
  | [] => []
  | c :: cs => composeFrom c [] cs

end Rollout.Text
