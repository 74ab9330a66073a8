/-!
# Punycode

A label of a domain name that is not ASCII is written by its ASCII characters, a hyphen, and a number in base 36 for
each other character in increasing order: how far to step before it is inserted. `encode` and `decode?` go both ways.
-/

namespace Rollout.Url.Punycode

def base : Nat := 36

/-- The bias for the next number, from the last one. -/
def adapt (delta points : Nat) (first : Bool) : Nat :=
  let delta := if first then delta / 700 else delta / 2
  let delta := delta + delta / points
  go 64 delta 0
where
  go : Nat → Nat → Nat → Nat
    | 0, delta, k => k + 36 * delta / (delta + 38)
    | fuel + 1, delta, k => if delta > 455 then go fuel (delta / 35) (k + base) else k + 36 * delta / (delta + 38)

/-! ## Digits and thresholds -/

def digit (n : Nat) : Char := if n < 26 then Char.ofNat (n + 97) else Char.ofNat (n - 26 + 48)

/-- The digits below this one end a number. -/
def threshold (bias k : Nat) : Nat := if k ≤ bias then 1 else if k ≥ bias + 26 then 26 else k - bias

/-! ## Encoding -/

/-- The digits of `q`, the lowest first, with thresholds that depend on the bias. -/
def writeNumber (bias : Nat) : Nat → Nat → Nat → List Char
  | 0, _, _ => []
  | fuel + 1, q, k =>
    let t := threshold bias k
    if q < t then [digit q]
    else digit (t + (q - t) % (base - t)) :: writeNumber bias fuel ((q - t) / (base - t)) (k + base)

structure State where
  output : List Char
  delta : Nat
  bias : Nat
  handled : Nat

/-- One pass over the label for the code point `m`. -/
def pass (basic m : Nat) (s : State) (label : List Char) : State :=
  label.foldl (fun s c =>
    if c.toNat < m then { s with delta := s.delta + 1 }
    else if c.toNat = m then
      { output := s.output ++ writeNumber s.bias 32 s.delta base
        delta := 0
        bias := adapt s.delta (s.handled + 1) (s.handled = basic)
        handled := s.handled + 1 }
    else s) s

/-- The code points from `n` on, in increasing order, each inserted by one pass. -/
def passes (basic : Nat) (label : List Char) : Nat → Nat → State → State
  | 0, _, s => s
  | fuel + 1, n, s =>
    match (label.filter (n ≤ ·.toNat)).map Char.toNat |>.min? with
    | none => s
    | some m =>
      let s := { s with delta := s.delta + (m - n) * (s.handled + 1) }
      let s := pass basic m s label
      passes basic label fuel (m + 1) { s with delta := s.delta + 1 }

def encode (label : List Char) : List Char :=
  let ascii := label.filter (·.toNat < 128)
  let start : State := ⟨if ascii.isEmpty then [] else ascii ++ ['-'], 0, 72, ascii.length⟩
  (passes ascii.length label label.length 128 start).output

/-! ## Decoding -/

def digit? (c : Char) : Option Nat :=
  if 'a' ≤ c ∧ c ≤ 'z' then some (c.toNat - 'a'.toNat)
  else if 'A' ≤ c ∧ c ≤ 'Z' then some (c.toNat - 'A'.toNat)
  else if '0' ≤ c ∧ c ≤ '9' then some (c.toNat - '0'.toNat + 26)
  else none

/-- Reads a number on top of `i`, from its digit of weight `w` at place `k` on. -/
def readNumber? (bias : Nat) : Nat → Nat → Nat → List Char → Option (Nat × List Char)
  | _, _, _, [] => none
  | k, w, i, c :: cs =>
    match digit? c with
    | none => none
    | some d =>
      let t := threshold bias k
      if d < t then some (i + d * w, cs) else readNumber? bias (k + base) (w * (base - t)) (i + d * w) cs

/-- Inserts one character for each number in `code`; at most `fuel` of them. -/
def insertAll? : Nat → (bias n i : Nat) → List Char → List Char → Option (List Char)
  | _, _, _, _, output, [] => some output
  | 0, _, _, _, _, _ => none
  | fuel + 1, bias, n, i, output, code =>
    match readNumber? bias base 1 i code with
    | none => none
    | some (j, rest) =>
      let points := output.length + 1
      let n := n + j / points
      if h : n.isValidChar then
        let output := output.insertIdx (j % points) (Char.ofNatAux n h)
        insertAll? fuel (adapt (j - i) points (i = 0)) n (j % points + 1) output rest
      else none

/-- The label that `code` stands for. -/
def decode? (code : List Char) : Option (List Char) :=
  match code.reverse.span (· ≠ '-') with
  | (back, _ :: front) =>
    if front.isEmpty then none else insertAll? code.length 72 128 0 front.reverse back.reverse
  | (_, []) => insertAll? code.length 72 128 0 [] code

end Rollout.Url.Punycode
