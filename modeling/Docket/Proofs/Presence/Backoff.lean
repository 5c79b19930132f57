import Docket.Presence.Backoff
import Mathlib.Algebra.Group.Nat.Defs

/-!
# Waits that grow

With every further failure the interval doubles, until it is cut off at the
limit. From the first failure on no wait is therefore shorter than the one
before it. The first failure is another matter: it takes the watcher from the
bare interval to one that is cut off, and it shortens the wait when the
interval is longer than the limit.

* `delay_mono_of_pos` — from the first failure on the waits never shrink.
* `delay_mono_iff` — they never shrink at all exactly when the interval is
  within the limit.

What the interval has grown by is counted in 32 bits, and so is what comes of
it cut off at the longest length of time. Neither shows as long as the limit
cuts off earlier.

* `growth_eq_min` — the growth is a power of two, as far as 32 bits go.
* `doubles_iff` — the wait is the doubled interval up to the limit, however
  many failures there are, exactly when the limit is within what 32 bits make
  of the interval.
-/

namespace Docket.Backoff

variable {b : Backoff} {visible : Bool} {i j : Nat}

/-- The interval has grown no less after more failures. -/
theorem growth_mono (h : i ≤ j) : growth i ≤ growth j := by
  unfold growth
  by_cases hj : j ≤ 32
  · have hi : i ≤ 32 := Nat.le_trans h hj
    rw [if_pos hi, if_pos hj]
    have hless : i - 1 ≤ j - 1 := by omega
    exact Nat.pow_le_pow_right (by decide) hless
  · rw [if_neg hj]
    by_cases hi : i ≤ 32
    · rw [if_pos hi]
      have hless : i - 1 ≤ 31 := by omega
      calc 2 ^ (i - 1)
          ≤ 2 ^ 31 := Nat.pow_le_pow_right (by decide) hless
        _ ≤ maxCount := by decide
    · exact Nat.le_of_eq (if_neg hi)

/-- A larger multiple of a length of time is no shorter. -/
theorem times_mono {span m n : Nat} (h : m ≤ n) : Span.times span m ≤ Span.times span n := by
  have hproduct : span * m ≤ span * n := Nat.mul_le_mul_left span h
  unfold Span.times
  omega

theorem delay_zero (b : Backoff) (visible : Bool) : b.delay visible 0 = b.base visible := rfl

theorem delay_of_pos (hi : 0 < i) :
    b.delay visible i = min (Span.times (b.base visible) (growth i)) b.limit := by
  have hne : i ≠ 0 := by omega
  rw [delay, if_neg hne]

/-- The first failure cuts the interval off, and makes it no longer. -/
theorem delay_one (b : Backoff) (visible : Bool) :
    b.delay visible 1 = min (min (b.base visible) Span.longest) b.limit := by
  have hgrowth : growth 1 = 1 := rfl
  rw [delay_of_pos Nat.one_pos, hgrowth, Span.times, Nat.mul_one]

/-- From the first failure on the waits never shrink. -/
theorem delay_mono_of_pos (hi : 0 < i) (h : i ≤ j) : b.delay visible i ≤ b.delay visible j := by
  have hj : 0 < j := by omega
  have htimes : Span.times (b.base visible) (growth i) ≤ Span.times (b.base visible) (growth j) :=
    times_mono (growth_mono h)
  rw [delay_of_pos hi, delay_of_pos hj]
  omega

/-- **Waits never shrink** exactly when the interval is within the limit, and
is a length of time that can be said. -/
theorem delay_mono_iff :
    (∀ i j, i ≤ j → b.delay visible i ≤ b.delay visible j) ↔
      b.base visible ≤ Span.longest ∧ b.base visible ≤ b.limit := by
  constructor
  · intro h
    have hfirst := h 0 1 (Nat.zero_le 1)
    rw [delay_zero, delay_one] at hfirst
    omega
  · rintro ⟨hlongest, hlimit⟩ i j hij
    by_cases hi : 0 < i
    · exact delay_mono_of_pos hi hij
    have hi : i = 0 := by omega
    subst hi
    by_cases hj : 0 < j
    · calc b.delay visible 0
          = b.delay visible 1 := by rw [delay_zero, delay_one]; omega
        _ ≤ b.delay visible j := delay_mono_of_pos Nat.one_pos hj
    · have hj : j = 0 := by omega
      subst hj
      exact Nat.le_refl _

/-- The growth is a power of two, as far as 32 bits go. -/
theorem growth_eq_min (failures : Nat) : growth failures = min (2 ^ (failures - 1)) maxCount := by
  unfold growth
  by_cases hfits : failures ≤ 32
  · have hpow : 2 ^ (failures - 1) ≤ maxCount :=
      calc 2 ^ (failures - 1)
          ≤ 2 ^ 31 := Nat.pow_le_pow_right (by decide) (by omega)
        _ ≤ maxCount := by decide
    rw [if_pos hfits, Nat.min_eq_left hpow]
    rfl
  · have hpow : maxCount ≤ 2 ^ (failures - 1) :=
      calc maxCount
          ≤ 2 ^ 32 := by decide
        _ ≤ 2 ^ (failures - 1) := Nat.pow_le_pow_right (by decide) (by omega)
    rw [if_neg hfits, Nat.min_eq_right hpow]

/-- The growth is counted in 32 bits. -/
theorem growth_le (failures : Nat) : growth failures ≤ maxCount := by
  rw [growth_eq_min]
  exact Nat.min_le_right _ _

/-- No wait is longer than a length of time can be. -/
theorem delay_le_longest (hbase : b.base visible ≤ Span.longest) (hlimit : b.limit ≤ Span.longest)
    (failures : Nat) : b.delay visible failures ≤ Span.longest := by
  by_cases hpos : 0 < failures
  · rw [delay_of_pos hpos]
    omega
  · have hzero : failures = 0 := by omega
    rw [hzero, delay_zero]
    exact hbase

/-- The wait after failures: the doubled interval, up to what 32 bits make of it
and up to the limit. -/
theorem delay_eq_min (hlimit : b.limit ≤ Span.longest) (hi : 0 < i) :
    b.delay visible i =
      min (min (b.base visible * 2 ^ (i - 1)) (b.base visible * maxCount)) b.limit := by
  rw [delay_of_pos hi, growth_eq_min, Span.times, Nat.mul_min_mul_left]
  omega

/-- **Every failure doubles the wait up to the limit**, however many there are,
exactly when the limit is within what 32 bits make of the interval, or there is
no interval. -/
theorem doubles_iff (hlimit : b.limit ≤ Span.longest) :
    (∀ i, 0 < i → i ≤ maxCount →
        b.delay visible i = min b.limit (b.base visible * 2 ^ (i - 1))) ↔
      b.limit ≤ b.base visible * maxCount ∨ b.base visible = 0 := by
  constructor
  · intro h
    -- after 33 failures the power has no room in 32 bits for the first time
    have hoverflow := h 33 (by decide) (by decide)
    have hpow : b.base visible * 2 ^ (33 - 1) = b.base visible * maxCount + b.base visible := by
      rw [← Nat.mul_succ]
      rfl
    rw [delay_eq_min hlimit (by decide), hpow] at hoverflow
    omega
  · intro hwithin i hi _
    rw [delay_eq_min hlimit hi]
    rcases hwithin with hwithin | hnone
    · omega
    · rw [hnone, Nat.zero_mul, Nat.zero_mul]
      omega

end Docket.Backoff
