/-!
# Hexadecimal digits

Digits that were written are read back as the number they stand for (`value?_digits`).
-/

namespace Rollout.Text.Hex

/-- The value of a hexadecimal digit in either case. -/
def digit? (c : Char) : Option Nat :=
  if '0' ≤ c ∧ c ≤ '9' then some (c.toNat - '0'.toNat)
  else if 'a' ≤ c ∧ c ≤ 'f' then some (c.toNat - 'a'.toNat + 10)
  else if 'A' ≤ c ∧ c ≤ 'F' then some (c.toNat - 'A'.toNat + 10)
  else none

/-- The value of a list of digits, the highest first. -/
def value? (ds : List Char) : Option Nat := ds.foldlM (fun n c => (digit? c).map (n * 16 + ·)) 0

/-- The lowest `n` digits of `v` in lower case, the highest first. -/
def digits : Nat → Nat → List Char
  | 0, _ => []
  | n + 1, v => digits n (v / 16) ++ [Nat.digitChar (v % 16)]

theorem digit?_digitChar {d : Nat} (h : d < 16) : digit? (Nat.digitChar d) = some d := by
  have hall : ∀ d : Fin 16, digit? (Nat.digitChar d) = some (d : Nat) := by decide
  exact hall ⟨d, h⟩

@[simp] theorem length_digits (n v : Nat) : (digits n v).length = n := by
  induction n generalizing v with
  | zero => rfl
  | succ n ih => rw [digits, List.length_append, ih, List.length_singleton]

theorem value?_digits (n v : Nat) : value? (digits n v) = some (v % Nat.pow 16 n) := by
  induction n generalizing v with
  | zero => exact congrArg some (Nat.mod_one v).symm
  | succ n ih =>
    have hrest := ih (v / 16)
    have hlast := digit?_digitChar (Nat.mod_lt v (by decide : 0 < 16))
    simp only [value?] at hrest
    simp only [value?, digits, List.foldlM_append, hrest, Option.bind_eq_bind, Option.bind_some, List.foldlM_cons,
      List.foldlM_nil, hlast, Option.map_some, Option.pure_def]
    have hsplit : v % (16 * Nat.pow 16 n) = v % 16 + 16 * (v / 16 % Nat.pow 16 n) := Nat.mod_mul
    have hpow : Nat.pow 16 (n + 1) = 16 * Nat.pow 16 n := Nat.mul_comm ..
    rw [hpow, hsplit]
    congr 1
    omega

end Rollout.Text.Hex
