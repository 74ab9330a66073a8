import Mathlib.Algebra.Group.Nat.Defs
import Rollout.Proofs.Results
import Rollout.System.Jobs

/-!
# The delays of a policy

A policy asks for a delay that doubles from attempt to attempt up to the longest (`RetryPolicy.backoff`, in numbers that
have no limit). What is worked out in words comes to it: no operation overflows, and a product that is cut off at the
longest duration would have been cut off at the longest delay anyway (`RetryPolicy.nanos_delayFor`). That a delay is
doubled 31 times at most shows only where 31 times are too few to reach the longest delay
(`RetryPolicy.nanos_delayFor_of_reaches`), which a whole number of milliseconds never is for a delay of an hour.
-/

namespace Rollout

namespace RetryPolicy

variable {p : RetryPolicy}

/-- The nanoseconds before attempt `a`: the base delay doubled for each attempt after the second, up to the longest. -/
def backoff (p : RetryPolicy) (a : Nat) : Nat := min (p.baseDelay.nanos * 2 ^ (a - 2)) p.maxDelay.nanos

/-- It does not show that a product is cut off at the longest duration. -/
theorem nanos_delayFor (p : RetryPolicy) (a : Nat) :
    (p.delayFor a).nanos = min (p.baseDelay.nanos * 2 ^ min (a - 2) 31) p.maxDelay.nanos := by
  have hmax := p.maxDelay.nanos_le
  simp only [delayFor, Duration.nanos_min, Duration.nanos_scale, Nat.pow_eq, Nat.mul_comm (2 ^ _)]
  omega

theorem delayFor_mono (p : RetryPolicy) {a b : Nat} (h : a ≤ b) : (p.delayFor a).nanos ≤ (p.delayFor b).nanos := by
  have hexponent : min (a - 2) 31 ≤ min (b - 2) 31 := by omega
  have hproduct : p.baseDelay.nanos * 2 ^ min (a - 2) 31 ≤ p.baseDelay.nanos * 2 ^ min (b - 2) 31 :=
    Nat.mul_le_mul_left _ (Nat.pow_le_pow_right (by decide) hexponent)
  rw [nanos_delayFor, nanos_delayFor]
  omega

theorem nanos_delayFor_of_le {a : Nat} (h : a ≤ 33) : (p.delayFor a).nanos = p.backoff a := by
  rw [nanos_delayFor, Nat.min_eq_left (by omega : a - 2 ≤ 31), backoff]

/-- Nor does it show how often a delay is doubled if 31 times are enough to reach the longest. -/
theorem nanos_delayFor_of_reaches (h : p.baseDelay.nanos = 0 ∨ p.maxDelay.nanos ≤ p.baseDelay.nanos * 2 ^ 31)
    (a : Nat) : (p.delayFor a).nanos = p.backoff a := by
  by_cases ha : a ≤ 33
  · exact nanos_delayFor_of_le ha
  · rw [nanos_delayFor, Nat.min_eq_right (by omega : 31 ≤ a - 2), backoff]
    rcases h with hzero | hreaches
    · rw [hzero, Nat.zero_mul, Nat.zero_mul]
    · have hfurther : p.baseDelay.nanos * 2 ^ 31 ≤ p.baseDelay.nanos * 2 ^ (a - 2) :=
        Nat.mul_le_mul_left _ (Nat.pow_le_pow_right (by decide) (by omega))
      rw [Nat.min_eq_right hreaches, Nat.min_eq_right (Nat.le_trans hreaches hfurther)]

/-- By nanoseconds, 31 times are too few for an hour. -/
example : let p : RetryPolicy := ⟨3, .ofNanos 1, .ofSecs 3600⟩
    (p.delayFor 34).nanos = 2 ^ 31 ∧ p.backoff 34 = 2 ^ 32 := by decide

/-- In words no operation overflows, and the delay is the same. -/
theorem delayInWords_eq (p : RetryPolicy) (attempt : UInt32) :
    p.delayInWords attempt = .ok (p.delayFor attempt.toNat).words := by
  have hexponent : (min (Word.monus attempt 2) 31).toNat = min (attempt.toNat - 2) 31 := by
    rw [Word.toNat_min, Word.toNat_monus]
    rfl
  obtain ⟨factor, hfactor, hpow⟩ := Word.exists_shiftLeft_one (n := min (Word.monus attempt 2) 31) (by omega)
  rw [hexponent] at hpow
  simp only [delayInWords, hfactor, bind, Except.bind, Duration.scale_words, pure, Except.pure, Duration.min_words,
    hpow]
  rfl

/-- What the delays of a policy come to. -/
structure BacksOff (p : RetryPolicy) : Prop where
  /-- No operation on words overflows as long as the number of the attempt is a word. -/
  inWords : ∀ attempt : UInt32, p.delayInWords attempt = .ok (p.delayFor attempt.toNat).words
  le_longest : ∀ a, (p.delayFor a).nanos ≤ p.maxDelay.nanos
  /-- Nobody waits shorter after one more failure. -/
  monotone : ∀ a b, a ≤ b → (p.delayFor a).nanos ≤ (p.delayFor b).nanos
  /-- As long as no delay has been doubled more than 31 times, it is the one that is asked for. -/
  doubles : ∀ a, 2 ≤ a → a ≤ 33 → (p.delayFor a).nanos = p.backoff a

theorem backsOff (p : RetryPolicy) : p.BacksOff where
  inWords := p.delayInWords_eq
  le_longest := p.delayFor_le
  monotone _ _ := p.delayFor_mono
  doubles _ _ := nanos_delayFor_of_le

end RetryPolicy

namespace Config

variable {vars : Variables} {c : Config}

/-- The base delay of a configuration is as many milliseconds as its variable says. -/
theorem retryBaseDelay_of_ofVariables (h : ofVariables vars = .ok c) :
    ∃ ms, number limit64 vars "JOB_RETRY_BASE_DELAY_MS" 1000 = .ok ms ∧ c.retryBaseDelay = .ofMillis ms := by
  simp only [ofVariables, bind_eq_ok, pure_eq_ok] at h
  obtain ⟨_, -, _, -, _, -, _, -, _, -, ms, hms, rfl⟩ := h
  exact ⟨ms, hms, rfl⟩

theorem number_le {limit default n : Nat} {name : String} (hdefault : default ≤ limit)
    (h : number limit vars name default = .ok n) : n ≤ limit := by
  rw [number, map_eq_ok] at h
  obtain ⟨_ | m, hnumber, rfl⟩ := h
  · exact hdefault
  · exact number?_le hnumber

theorem nanos_ofMillis {ms : Nat} (h : ms ≤ limit64) : (Duration.ofMillis ms).nanos = ms * 1000000 := by
  refine Nat.min_eq_left ?_
  unfold limit64 at h
  unfold Duration.limit
  omega

/--
**Delays are exact**, in words and without them. For the system of a configuration, whose base delay is a whole number
of milliseconds and whose longest is an hour, they are so at every attempt.
-/
theorem delays_exact : (∀ p : RetryPolicy, p.BacksOff) ∧ ∀ (vars : Variables) (c : Config),
    ofVariables vars = .ok c → ∃ ms, number limit64 vars "JOB_RETRY_BASE_DELAY_MS" 1000 = .ok ms ∧
      ∀ a, 2 ≤ a → ((System.ofConfig c).queue.policy.delayFor a).nanos =
        min (ms * 1000000 * 2 ^ (a - 2)) (3600 * 1000000000) := by
  refine ⟨RetryPolicy.backsOff, fun vars c h => ?_⟩
  obtain ⟨ms, hms, hdelay⟩ := retryBaseDelay_of_ofVariables h
  have hbase : c.policy.baseDelay.nanos = ms * 1000000 := by
    rw [policy, hdelay, nanos_ofMillis (number_le (by decide) hms)]
  have hlongest : c.policy.maxDelay.nanos = 3600 * 1000000000 := rfl
  refine ⟨ms, hms, fun a _ => ?_⟩
  have hreaches : c.policy.baseDelay.nanos = 0 ∨ c.policy.maxDelay.nanos ≤ c.policy.baseDelay.nanos * 2 ^ 31 := by
    rw [hbase, hlongest]
    omega
  show (c.policy.delayFor a).nanos = _
  rw [RetryPolicy.nanos_delayFor_of_reaches hreaches, RetryPolicy.backoff, hbase, hlongest]

def withBaseDelay (ms : String) : Variables := [("JOB_RETRY_BASE_DELAY_MS", ms.toList.map Char.toNat)]

/-- A delay of a millisecond is shorter than an hour at attempt 23, and an hour long from attempt 24 on. -/
theorem delays_exact_millisecond : ∃ c, ofVariables (withBaseDelay "1") = .ok c ∧
    ((System.ofConfig c).queue.policy.delayFor 23).nanos = 2 ^ 21 * 1000000 ∧
    ∀ a, 24 ≤ a → ((System.ofConfig c).queue.policy.delayFor a).nanos = 3600 * 1000000000 := by
  obtain ⟨c, h⟩ : ∃ c, ofVariables (withBaseDelay "1") = .ok c := ⟨_, rfl⟩
  obtain ⟨ms, hms, hexact⟩ := delays_exact.2 _ c h
  obtain rfl : ms = 1 := by
    have hone : number limit64 (withBaseDelay "1") "JOB_RETRY_BASE_DELAY_MS" 1000 = .ok 1 := rfl
    exact Except.ok.inj (hms.symm.trans hone)
  refine ⟨c, h, hexact 23 (by decide), fun a ha => ?_⟩
  have hpow : 2 ^ 22 ≤ 2 ^ (a - 2) := Nat.pow_le_pow_right (by decide) (by omega)
  rw [hexact a (by omega)]
  omega

end Config

end Rollout
