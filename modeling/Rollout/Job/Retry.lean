import Rollout.Time.Words

/-!
# Retry policies

How often failed work is tried, and how long it waits: the delay doubles from attempt to attempt up to a maximum.
`RetryPolicy.delayFor` works it out in numbers, and `RetryPolicy.delayInWords` as a machine does.
-/

namespace Rollout

structure RetryPolicy where
  maxAttempts : Nat
  baseDelay : Duration
  maxDelay : Duration

namespace RetryPolicy

def default : RetryPolicy := ⟨3, .ofSecs 1, .ofSecs 3600⟩

instance : Inhabited RetryPolicy := ⟨default⟩

/-- The delay before attempt `a`. The first retry, attempt 2, waits for the base delay; it doubles at most 31 times. -/
def delayFor (p : RetryPolicy) (a : Nat) : Duration :=
  (p.baseDelay.scale (Nat.pow 2 (min (a - 2) 31))).min p.maxDelay

/-- The delay before an attempt, worked out in words. -/
def delayInWords (p : RetryPolicy) (attempt : UInt32) : Except Overflow Words := do
  let exponent := min (Word.monus attempt 2) 31
  let factor ← Word.shiftLeft 1 exponent
  let delay ← p.baseDelay.words.scale factor
  return delay.min p.maxDelay.words

theorem delayFor_le (p : RetryPolicy) (a : Nat) : (p.delayFor a).nanos ≤ p.maxDelay.nanos := by
  simp only [delayFor, Duration.nanos_min]
  exact Nat.min_le_right _ _

end RetryPolicy

end Rollout
