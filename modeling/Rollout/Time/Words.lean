import Rollout.Time.Duration

/-!
# Durations in machine words

A machine holds a duration as its whole seconds, in 64 bits, and the nanoseconds beyond them, in 32. It works on the two
by operations on words, each of which goes wrong if its result has no place in a word (`Overflow`). A product whose
seconds have no place is no such failure: it is the longest duration (`Words.scale`).

What words stand for is given by their number of nanoseconds (`Words.toNanos`).
-/

namespace Rollout

/-- An operation on words whose result has no place in one. -/
inductive Overflow where
  | shift
  | product
  | sum
deriving DecidableEq, Repr

namespace Word

/-- `a - b`, or zero where `b` is larger. -/
def monus (a b : UInt32) : UInt32 := if a < b then 0 else a - b

def shiftLeft (a n : UInt32) : Except Overflow UInt32 := if n < 32 then .ok (a <<< n) else .error .shift

/-- The word of a number, or an overflow where it has no place. -/
def checked (n : Nat) (overflow : Overflow) : Except Overflow UInt64 :=
  if n < UInt64.size then .ok (.ofNat n) else .error overflow

def mul (a b : UInt64) : Except Overflow UInt64 := checked (a.toNat * b.toNat) .product

def add (a b : UInt64) : Except Overflow UInt64 := checked (a.toNat + b.toNat) .sum

theorem toNat_monus (a b : UInt32) : (monus a b).toNat = a.toNat - b.toNat := by
  unfold monus
  split
  · next h =>
    have hlt := UInt32.lt_iff_toNat_lt.mp h
    simp only [UInt32.toNat_zero]
    omega
  · next h => exact UInt32.toNat_sub_of_le a b (UInt32.not_lt.mp h)

theorem toNat_min (a b : UInt32) : (min a b).toNat = min a.toNat b.toNat := by
  show (if a ≤ b then a else b).toNat = _
  split
  · next h =>
    have hle := UInt32.le_iff_toNat_le.mp h
    omega
  · next h =>
    have hlt := UInt32.lt_iff_toNat_lt.mp (UInt32.not_le.mp h)
    omega

/-- One bit that is shifted doubles each time, as long as it has a place to go. -/
theorem exists_shiftLeft_one {n : UInt32} (hn : n.toNat < 32) :
    ∃ w, shiftLeft 1 n = .ok w ∧ w.toNat = Nat.pow 2 n.toNat := by
  have hpow : Nat.pow 2 n.toNat < Nat.pow 2 32 := Nat.pow_lt_pow_right (by decide) hn
  refine ⟨1 <<< n, if_pos (UInt32.lt_iff_toNat_lt.mpr hn), ?_⟩
  rw [UInt32.toNat_shiftLeft, Nat.mod_eq_of_lt hn, UInt32.toNat_one, Nat.one_shiftLeft]
  exact Nat.mod_eq_of_lt hpow

/-- A result is a word just if the exact one is. -/
theorem checked_eq_ok_iff {n : Nat} {overflow : Overflow} {c : UInt64} : checked n overflow = .ok c ↔ n = c.toNat := by
  unfold checked
  constructor
  · intro h
    split at h
    · next hlt =>
      cases h
      exact (UInt64.toNat_ofNat_of_lt' hlt).symm
    · cases h
  · rintro rfl
    rw [if_pos c.toNat_lt_size, UInt64.ofNat_toNat]

theorem mul_eq_ok_iff {a b c : UInt64} : mul a b = .ok c ↔ a.toNat * b.toNat = c.toNat := checked_eq_ok_iff

theorem add_eq_ok_iff {a b c : UInt64} : add a b = .ok c ↔ a.toNat + b.toNat = c.toNat := checked_eq_ok_iff

end Word

/-- Whole seconds, and the nanoseconds beyond them. -/
structure Words where
  secs : UInt64
  nanos : UInt32
  nanos_lt : nanos.toNat < 1000000000
deriving DecidableEq

namespace Words

/-- The length of the duration that the words stand for. -/
def toNanos (w : Words) : Nat := w.secs.toNat * 1000000000 + w.nanos.toNat

/-- The longest duration. -/
def longest : Words := ⟨18446744073709551615, 999999999, by decide⟩

/-- Nanoseconds that are whole seconds are carried over to them. -/
def new (secs : UInt64) (nanos : UInt32) : Except Overflow Words :=
  if h : nanos.toNat < 1000000000 then .ok ⟨secs, nanos, h⟩
  else do
    let secs ← Word.add secs (nanos / 1000000000).toUInt64
    return ⟨secs, nanos % 1000000000, by
      rw [UInt32.toNat_mod]
      exact Nat.mod_lt _ (by decide)⟩

/-- The whole seconds of `k` times the words, with those that are carried over from the nanoseconds. -/
def scaleSecs (k : UInt32) (w : Words) (carried : UInt64) : Except Overflow UInt64 := do
  let secs ← Word.mul w.secs k.toUInt64
  Word.add secs carried

/-- `k` times as long, or the longest duration if the seconds have no place in a word. -/
def scale (k : UInt32) (w : Words) : Except Overflow Words := do
  let total ← Word.mul w.nanos.toUInt64 k.toUInt64
  match scaleSecs k w (total / 1000000000) with
  | .ok secs => new secs (total % 1000000000).toUInt32
  | .error _ => return longest

/-- The shorter of two, by the seconds and then by the nanoseconds. -/
protected def min (a b : Words) : Words :=
  if a.secs < b.secs ∨ (a.secs = b.secs ∧ a.nanos ≤ b.nanos) then a else b

theorem toNanos_longest : longest.toNanos = Duration.limit := by decide

theorem toNanos_le (w : Words) : w.toNanos ≤ Duration.limit := by
  have hsecs := w.secs.toNat_lt
  have hnanos := w.nanos_lt
  unfold toNanos Duration.limit
  omega

/-- Words are told by what they stand for. -/
theorem eq_of_toNanos {a b : Words} (h : a.toNanos = b.toNanos) : a = b := by
  obtain ⟨s, n, hn⟩ := a
  obtain ⟨s', n', hn'⟩ := b
  simp only [toNanos] at h
  obtain rfl : s = s' := UInt64.toNat.inj (by omega)
  obtain rfl : n = n' := UInt32.toNat.inj (by omega)
  rfl

theorem toNanos_min (a b : Words) : (a.min b).toNanos = min a.toNanos b.toNanos := by
  have ha := a.nanos_lt
  have hb := b.nanos_lt
  unfold Words.min
  split
  · next h =>
    rw [UInt64.lt_iff_toNat_lt, UInt32.le_iff_toNat_le, ← UInt64.toNat_inj] at h
    unfold toNanos
    omega
  · next h =>
    rw [UInt64.lt_iff_toNat_lt, UInt32.le_iff_toNat_le, ← UInt64.toNat_inj] at h
    unfold toNanos
    omega

theorem new_of_lt {nanos : UInt32} (secs : UInt64) (h : nanos.toNat < 1000000000) :
    new secs nanos = .ok ⟨secs, nanos, h⟩ := dif_pos h

/-- The seconds of a product are a word just if the exact ones have a place. -/
theorem scaleSecs_eq_ok_iff {k : UInt32} {w : Words} {carried s : UInt64} :
    scaleSecs k w carried = .ok s ↔ w.secs.toNat * k.toNat + carried.toNat = s.toNat := by
  unfold scaleSecs
  cases hsecs : Word.mul w.secs k.toUInt64 with
  | ok secs =>
    have hsecs := Word.mul_eq_ok_iff.mp hsecs
    rw [UInt32.toNat_toUInt64] at hsecs
    rw [hsecs]
    exact Word.add_eq_ok_iff
  | error e =>
    constructor
    · intro h
      cases h
    · intro h
      have hlt := s.toNat_lt
      -- A product of its own that fits would have been a word.
      have hsecs' : Word.mul w.secs k.toUInt64 = .ok (.ofNat (w.secs.toNat * k.toNat)) := by
        rw [Word.mul_eq_ok_iff, UInt32.toNat_toUInt64, UInt64.toNat_ofNat_of_lt' (by unfold UInt64.size; omega)]
      cases hsecs.symm.trans hsecs'

/-- The nanoseconds always have a place, before they are carried over. -/
theorem exists_mul_nanos (k : UInt32) (w : Words) :
    ∃ total, Word.mul w.nanos.toUInt64 k.toUInt64 = .ok total ∧ w.nanos.toNat * k.toNat = total.toNat := by
  have hproduct : w.nanos.toNat * k.toNat < 1000000000 * 2 ^ 32 := Nat.mul_lt_mul'' w.nanos_lt k.toNat_lt
  have hfits : w.nanos.toNat * k.toNat < UInt64.size := by
    unfold UInt64.size
    omega
  have hexact := (UInt64.toNat_ofNat_of_lt' hfits).symm
  refine ⟨.ofNat (w.nanos.toNat * k.toNat), ?_, hexact⟩
  rw [Word.mul_eq_ok_iff, UInt32.toNat_toUInt64, UInt32.toNat_toUInt64]
  exact hexact

/-- What is left of them fits the shorter word. -/
theorem toNat_rest (total : UInt64) : (total % 1000000000).toUInt32.toNat = total.toNat % 1000000000 := by
  have hrest : total.toNat % 1000000000 < 1000000000 := Nat.mod_lt _ (by decide)
  rw [UInt64.toNat_toUInt32, UInt64.toNat_mod]
  exact Nat.mod_eq_of_lt (by simpa using by omega)

theorem mul_toNanos (k : Nat) (w : Words) :
    k * w.toNanos = w.secs.toNat * k * 1000000000 + w.nanos.toNat * k := by
  rw [toNanos, Nat.mul_add, ← Nat.mul_assoc, Nat.mul_comm k, Nat.mul_comm k]

/-- A product is exact as long as its seconds have a place, and if they have none the longest duration is shorter. -/
theorem exists_scale (k : UInt32) (w : Words) :
    ∃ v, w.scale k = .ok v ∧ v.toNanos = min (k.toNat * w.toNanos) Duration.limit := by
  obtain ⟨total, hmul, htotal⟩ := exists_mul_nanos k w
  have hcarried : (total / 1000000000).toNat = total.toNat / 1000000000 := UInt64.toNat_div _ _
  have hrest := toNat_rest total
  unfold scale
  rw [hmul, mul_toNanos, htotal]
  cases hsecs : scaleSecs k w (total / 1000000000) with
  | ok secs =>
    have hlt : (total % 1000000000).toUInt32.toNat < 1000000000 := hrest ▸ Nat.mod_lt _ (by decide)
    refine ⟨⟨secs, _, hlt⟩, by simp only [bind, Except.bind, hsecs, new_of_lt secs hlt], ?_⟩
    have hsum := scaleSecs_eq_ok_iff.mp hsecs
    have hexact : toNanos ⟨secs, _, hlt⟩ = w.secs.toNat * k.toNat * 1000000000 + total.toNat := by
      simp only [toNanos, hrest]
      omega
    rw [← hexact]
    exact (Nat.min_eq_left (toNanos_le _)).symm
  | error e =>
    refine ⟨longest, by simp only [bind, Except.bind, hsecs, pure, Except.pure], ?_⟩
    have hlong : UInt64.size ≤ w.secs.toNat * k.toNat + total.toNat / 1000000000 := by
      refine Nat.le_of_not_lt fun hlt => ?_
      have hword := (UInt64.toNat_ofNat_of_lt' hlt).symm
      rw [← hcarried] at hword
      cases hsecs.symm.trans (scaleSecs_eq_ok_iff.mpr hword)
    unfold UInt64.size at hlong
    rw [toNanos_longest]
    unfold Duration.limit
    omega

end Words

namespace Duration

theorem secs_lt (d : Duration) : d.secs < UInt64.size := by
  have hle := d.nanos_le
  unfold limit at hle
  unfold secs UInt64.size
  omega

theorem subsecNanos_lt (d : Duration) : d.subsecNanos < 1000000000 := Nat.mod_lt _ (by decide)

theorem toNat_subsecNanos (d : Duration) : (UInt32.ofNat d.subsecNanos).toNat = d.subsecNanos := by
  have hlt := d.subsecNanos_lt
  exact UInt32.toNat_ofNat_of_lt' (by unfold UInt32.size; omega)

/-- The words that a duration is held in. -/
def words (d : Duration) : Words :=
  ⟨.ofNat d.secs, .ofNat d.subsecNanos, Nat.lt_of_le_of_lt (Nat.le_of_eq d.toNat_subsecNanos) d.subsecNanos_lt⟩

@[simp] theorem toNanos_words (d : Duration) : d.words.toNanos = d.nanos := by
  have hsecs : (UInt64.ofNat d.secs).toNat = d.secs := UInt64.toNat_ofNat_of_lt' d.secs_lt
  simp only [Words.toNanos, words, hsecs, d.toNat_subsecNanos]
  exact Nat.div_add_mod' d.nanos 1000000000

/-- A product is worked out in words as it is without them. -/
theorem scale_words (k : UInt32) (d : Duration) : d.words.scale k = .ok (d.scale k.toNat).words := by
  obtain ⟨v, hscale, hv⟩ := Words.exists_scale k d.words
  rw [hscale]
  refine congrArg Except.ok (Words.eq_of_toNanos ?_)
  rw [hv, toNanos_words, toNanos_words, nanos_scale]

theorem min_words (a b : Duration) : a.words.min b.words = (a.min b).words := by
  refine Words.eq_of_toNanos ?_
  rw [Words.toNanos_min, toNanos_words, toNanos_words, toNanos_words, nanos_min]

end Duration

end Rollout
