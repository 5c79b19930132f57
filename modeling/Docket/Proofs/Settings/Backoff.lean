import Docket.Proofs.Presence.Backoff
import Docket.Proofs.Settings.Repair

/-!
# The schedule of repaired settings

A repair keeps the limit of the backoff above the interval while somebody
looks, so that a failing server is then asked no more often than a healthy
one. It does not hold the limit against the longer interval while nobody
looks. If the limit is shorter than that one, the first failure makes the
watcher ask more often.

* `backoff_repair_delay_mono_iff` — when no failure ever shortens a wait.
* `backoff_shortLimit_not_mono` — settings in order under which one does.

The limit of repaired settings is far below what 32 bits make of either
interval, so that every failure doubles the wait until the limit is reached.

* `delay_doubles_up_to_limit` — when failures double the wait, under any
  schedule and under that of repaired settings.
-/

namespace Docket.Settings

/-- Intervals of repaired settings are lengths of time that can be said. -/
theorem base_repair_le_longest (s : Settings) (visible : Bool) :
    s.repair.backoff.base visible ≤ Span.longest := by
  have hrange : s.repair.presence.InRange := s.presence.inRange_repair
  have hlongest : Span.longest = 18446744073709551616 * 1000000000 - 1 := rfl
  have hvisible := hrange.visible.2
  have hhidden := hrange.hidden.2
  cases visible <;> simp only [Backoff.base, backoff, Span.millis, hlongest]
  · simp only [Bool.false_eq_true, if_false]
    omega
  · simp only [if_true]
    omega

/-- While somebody looks, repaired intervals are within the limit. -/
theorem base_repair_visible_le_limit (s : Settings) :
    s.repair.backoff.base true ≤ s.repair.backoff.limit := by
  have hrange : s.repair.presence.InRange := s.presence.inRange_repair
  exact Nat.mul_le_mul_right 1000000 hrange.limit.1

/-- While nobody looks, an interval is within the limit when it is so in
milliseconds. -/
theorem base_hidden_le_limit_iff (s : Settings) :
    s.backoff.base false ≤ s.backoff.limit ↔ s.presence.hidden ≤ s.presence.limit := by
  rw [UInt64.le_iff_toNat_le]
  exact Nat.mul_le_mul_right_iff (by decide)

/-- **A failing server is asked no more often than a healthy one** under
repaired settings exactly when their limit is no shorter than the interval
while nobody looks. While somebody looks no failure shortens a wait, and
neither does any failure after the first. -/
theorem backoff_repair_delay_mono_iff (s : Settings) :
    ((∀ visible i j, i ≤ j → s.repair.backoff.delay visible i ≤ s.repair.backoff.delay visible j) ↔
        s.repair.presence.hidden ≤ s.repair.presence.limit) ∧
      (∀ i j, i ≤ j → s.repair.backoff.delay true i ≤ s.repair.backoff.delay true j) ∧
      ∀ visible i j, 0 < i → i ≤ j →
        s.repair.backoff.delay visible i ≤ s.repair.backoff.delay visible j := by
  have hlooked : ∀ i j, i ≤ j → s.repair.backoff.delay true i ≤ s.repair.backoff.delay true j :=
    Backoff.delay_mono_iff.mpr ⟨s.base_repair_le_longest true, s.base_repair_visible_le_limit⟩
  refine ⟨?_, hlooked, fun visible i j hi hij => Backoff.delay_mono_of_pos hi hij⟩
  rw [← base_hidden_le_limit_iff]
  constructor
  · intro h
    exact (Backoff.delay_mono_iff.mp (h false)).2
  · intro hlimit visible
    cases visible with
    | true => exact hlooked
    | false => exact Backoff.delay_mono_iff.mpr ⟨s.base_repair_le_longest false, hlimit⟩

/-- Settings with a limit that is shorter than the interval while nobody
looks. -/
def shortLimit : Settings :=
  { usual with presence := ⟨2500, 8000, 2500, 3⟩ }

/-- Nothing has to be repaired here, and yet while nobody looks a failing server
is asked every 2.5 seconds and a healthy one every 8 seconds. -/
theorem backoff_shortLimit_not_mono :
    shortLimit.repair = shortLimit ∧
      shortLimit.repair.backoff.delay false 0 = Span.millis 8000 ∧
      shortLimit.repair.backoff.delay false 1 = Span.millis 2500 ∧
      ¬ ∀ visible i j, i ≤ j →
        shortLimit.repair.backoff.delay visible i ≤ shortLimit.repair.backoff.delay visible j := by
  have hrepair : shortLimit.repair = shortLimit := by decide
  have hhealthy : shortLimit.repair.backoff.delay false 0 = Span.millis 8000 := by decide
  have hfailing : shortLimit.repair.backoff.delay false 1 = Span.millis 2500 := by decide
  refine ⟨hrepair, hhealthy, hfailing, ?_⟩
  intro h
  have hshrinks := h false 0 1 (Nat.zero_le 1)
  rw [hhealthy, hfailing] at hshrinks
  exact absurd hshrinks (by decide)

/-- The limit of repaired settings is a length of time that can be said. -/
theorem limit_repair_le_longest (s : Settings) : s.repair.backoff.limit ≤ Span.longest := by
  have hrange : s.repair.presence.InRange := s.presence.inRange_repair
  have hlongest : Span.longest = 18446744073709551616 * 1000000000 - 1 := rfl
  have hlimit := hrange.limit.2
  simp only [backoff, Span.millis, hlongest]
  omega

/-- The limit of repaired settings is within what 32 bits make of either
interval. -/
theorem limit_repair_le_base_mul (s : Settings) (visible : Bool) :
    s.repair.backoff.limit ≤ s.repair.backoff.base visible * Backoff.maxCount := by
  have hrange : s.repair.presence.InRange := s.presence.inRange_repair
  have hmax : Backoff.maxCount = 4294967295 := rfl
  have hlimit := hrange.limit.2
  have hvisible := hrange.visible.1
  have hhidden := hrange.hidden.1
  cases visible <;> simp only [Backoff.base, backoff, Span.millis, hmax]
  · simp only [Bool.false_eq_true, if_false]
    omega
  · simp only [if_true]
    omega

/-- **Failures double the wait up to the limit.** Under a schedule of lengths of
time that can be said, the growth of the interval has room in 32 bits and no
wait is longer than a length of time can be, whatever the number of failures.
Without a failure the wait is the interval. With failures it is the interval
doubled once for each after the first, or the limit if that is shorter, and for
all numbers of failures it is so exactly when the limit is within what 32 bits
make of the interval, or there is no interval. It is so under the schedule of
repaired settings. -/
theorem delay_doubles_up_to_limit (b : Backoff)
    (hbase : ∀ visible, b.base visible ≤ Span.longest) (hlimit : b.limit ≤ Span.longest) :
    (∀ visible failures, failures ≤ Backoff.maxCount →
        Backoff.growth failures ≤ Backoff.maxCount ∧
          b.delay visible failures ≤ Span.longest) ∧
      (∀ visible, b.delay visible 0 = b.base visible) ∧
      (∀ visible,
        (∀ failures, 0 < failures → failures ≤ Backoff.maxCount →
          b.delay visible failures = min b.limit (b.base visible * 2 ^ (failures - 1))) ↔
        b.limit ≤ b.base visible * Backoff.maxCount ∨ b.base visible = 0) ∧
      ∀ (s : Settings) visible failures, 0 < failures → failures ≤ Backoff.maxCount →
        s.repair.backoff.delay visible failures =
          min s.repair.backoff.limit (s.repair.backoff.base visible * 2 ^ (failures - 1)) := by
  refine ⟨?fits, b.delay_zero, fun visible => Backoff.doubles_iff hlimit, ?repaired⟩
  case fits =>
    intro visible failures _
    exact ⟨Backoff.growth_le failures, Backoff.delay_le_longest (hbase visible) hlimit failures⟩
  case repaired =>
    intro s visible
    exact (Backoff.doubles_iff s.limit_repair_le_longest).mpr
      (Or.inl (s.limit_repair_le_base_mul visible))

/-- A schedule whose limit is the longest that 32 bits make of its interval. -/
def finest : Backoff :=
  ⟨1, 2, 4294967295, 3⟩

/-- After 32 failures in a row the wait of this schedule is still a power of two,
and after 33 it is the limit. -/
theorem delay_doubles_up_to_limit_finest :
    (∀ visible, finest.base visible ≤ Span.longest) ∧ finest.limit ≤ Span.longest ∧
      finest.limit ≤ finest.base true * Backoff.maxCount ∧
      finest.delay true 0 = 1 ∧ finest.delay true 32 = 2147483648 ∧
      finest.delay true 33 = 4294967295 ∧ finest.delay true Backoff.maxCount = 4294967295 ∧
      ∀ failures, 0 < failures → failures ≤ Backoff.maxCount →
        finest.delay true failures = min 4294967295 (1 * 2 ^ (failures - 1)) := by
  have hbase : ∀ visible, finest.base visible ≤ Span.longest := by decide
  have hlimit : finest.limit ≤ Span.longest := by decide
  have hwithin : finest.limit ≤ finest.base true * Backoff.maxCount := by decide
  obtain ⟨-, hzero, hdoubles, -⟩ := delay_doubles_up_to_limit finest hbase hlimit
  have hall := (hdoubles true).mpr (Or.inl hwithin)
  exact ⟨hbase, hlimit, hwithin, hzero true, hall 32 (by decide) (by decide),
    hall 33 (by decide) (by decide), by decide, hall⟩

end Docket.Settings
