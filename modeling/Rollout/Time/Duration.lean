/-!
# Durations and instants

A duration is a whole number of nanoseconds up to 2^64 seconds, less one nanosecond; arithmetic that would pass this
limit stops at it. An instant counts the nanoseconds since a clock was started.
-/

namespace Rollout

/-- The length of the longest duration. -/
def Duration.limit : Nat := 18446744073709551616 * 1000000000 - 1

structure Duration where
  nanos : Nat
  nanos_le : nanos ≤ Duration.limit
deriving DecidableEq

namespace Duration

/-- The duration of `n` nanoseconds, or the longest one. -/
def ofNanos (n : Nat) : Duration := ⟨min n limit, Nat.min_le_right _ _⟩

def ofMillis (n : Nat) : Duration := ofNanos (n * 1000000)

def ofSecs (n : Nat) : Duration := ofNanos (n * 1000000000)

def zero : Duration := ofNanos 0

instance : Inhabited Duration := ⟨zero⟩

/-- The whole seconds. -/
def secs (d : Duration) : Nat := d.nanos / 1000000000

/-- The nanoseconds beyond the whole seconds. -/
def subsecNanos (d : Duration) : Nat := d.nanos % 1000000000

/-- `k` times `d`, or the longest duration. -/
def scale (k : Nat) (d : Duration) : Duration := ofNanos (k * d.nanos)

protected def min (a b : Duration) : Duration := if a.nanos ≤ b.nanos then a else b

@[simp] theorem nanos_ofNanos (n : Nat) : (ofNanos n).nanos = min n limit := rfl

@[simp] theorem nanos_scale (k : Nat) (d : Duration) : (d.scale k).nanos = min (k * d.nanos) limit := rfl

@[simp] theorem nanos_min (a b : Duration) : (a.min b).nanos = min a.nanos b.nanos := by
  unfold Duration.min
  split <;> omega

theorem ofNanos_nanos (d : Duration) : ofNanos d.nanos = d := by
  cases d with
  | mk n h => simp [ofNanos, Nat.min_eq_left h]

end Duration

/-- Nanoseconds since the clock was started. -/
abbrev Instant := Nat

/-- The instant that lies `d` after `t`. -/
def Instant.after (t : Instant) (d : Duration) : Instant := t + d.nanos

def Instant.ofMillis (n : Nat) : Instant := n * 1000000

def Instant.toMillis (t : Instant) : Nat := t / 1000000

end Rollout
