import Docket.Stamp.Basic
import Mathlib.Algebra.Group.Nat.Defs
import Mathlib.Data.List.TakeWhile

/-!
# How far stamps lie apart

A stamp that is read lies in the years of the calendar, and not a whole day
beyond them for its distance from UTC. So a word of 64 bits holds the seconds
between any two.

* `instant_natAbs_lt` — how far a stamp lies from the beginning of 1970.
* `toInt_ofInt_seconds` — the seconds between two stamps fit a word.
-/

namespace Docket.Stamp

theorem foldl_add_le {lengths : List Nat} {limit : Nat} (h : ∀ n ∈ lengths, n ≤ limit) (a : Nat) :
    lengths.foldl (· + ·) a ≤ a + limit * lengths.length := by
  induction lengths generalizing a with
  | nil => exact Nat.le_refl a
  | cons n rest ih =>
      have hn : n ≤ limit := h n List.mem_cons_self
      have hrest := ih (fun m hm => h m (List.mem_cons_of_mem n hm)) (a + n)
      rw [List.foldl_cons, List.length_cons, Nat.mul_succ]
      omega

theorem monthLengths_le (year : Nat) : ∀ n ∈ monthLengths year, n ≤ 31 := by
  unfold monthLengths
  split <;> simp

theorem daysInMonth_le (year month : Nat) : daysInMonth year month ≤ 31 := by
  unfold daysInMonth
  split
  · omega
  · cases hlength : (monthLengths year)[month - 1]? with
    | none => exact Nat.zero_le 31
    | some n => exact monthLengths_le year n (List.mem_of_getElem? hlength)

theorem daysBeforeMonth_le (year month : Nat) : daysBeforeMonth year month ≤ 372 := by
  have hle : ∀ n ∈ (monthLengths year).take (month - 1), n ≤ 31 :=
    fun n hn => monthLengths_le year n (List.mem_of_mem_take hn)
  have hlength : ((monthLengths year).take (month - 1)).length ≤ 12 := List.length_take_le' _ _
  have hsum := foldl_add_le hle 0
  unfold daysBeforeMonth
  omega

/-- There are fewer than four million days in the calendar. -/
theorem Date.number_lt (d : Date) : d.number < 4000000 := by
  have hmonth := daysBeforeMonth_le d.year d.month
  have hday := Nat.le_trans d.day_le (daysInMonth_le d.year d.month)
  have hyear := d.year_le
  unfold Date.number daysBeforeYear
  omega

/-- Digits write a number below the power of ten that their count gives. -/
theorem foldl_digits_lt {ds : List Char} (h : ∀ c ∈ ds, c.isDigit = true) (n : Nat) :
    ds.foldl (fun n c => n * 10 + (c.toNat - 48)) n < (n + 1) * 10 ^ ds.length := by
  induction ds generalizing n with
  | nil => simp
  | cons c rest ih =>
      have hdigit : c.toNat - 48 ≤ 9 := by
        have hc := h c List.mem_cons_self
        simp only [Char.isDigit, Bool.and_eq_true, decide_eq_true_eq] at hc
        have hle : c.toNat ≤ 57 := hc.2
        omega
      have hrest := ih (fun d hd => h d (List.mem_cons_of_mem c hd)) (n * 10 + (c.toNat - 48))
      calc rest.foldl _ (n * 10 + (c.toNat - 48))
          < (n * 10 + (c.toNat - 48) + 1) * 10 ^ rest.length := hrest
        _ ≤ ((n + 1) * 10) * 10 ^ rest.length := Nat.mul_le_mul_right _ (by omega)
        _ = (n + 1) * 10 ^ (rest.length + 1) := by rw [Nat.mul_assoc, Nat.pow_succ']

/-- The nanoseconds that digits name are less than a second. -/
theorem nanos_lt {ds : List Char} (h : ∀ c ∈ ds, c.isDigit = true) : nanos ds < 1000000000 := by
  have hdigits : ∀ c ∈ (ds ++ List.replicate (9 - ds.length) '0').take 9, c.isDigit = true := by
    intro c hc
    rcases List.mem_append.mp (List.mem_of_mem_take hc) with hc | hc
    · exact h c hc
    · rw [List.eq_of_mem_replicate hc]
      rfl
  have hlength : ((ds ++ List.replicate (9 - ds.length) '0').take 9).length = 9 := by
    rw [List.length_take, List.length_append, List.length_replicate]
    omega
  have hlt := foldl_digits_lt hdigits 0
  rw [hlength] at hlt
  exact hlt

theorem fraction?_lt {cs rest : List Char} {nano : Nat} (h : fraction? cs = some (nano, rest)) :
    nano < 1000000000 := by
  unfold fraction? at h
  split at h
  · dsimp only at h
    split at h
    · cases h
    · cases h
      exact nanos_lt fun c hc => List.mem_takeWhile_imp hc
  · cases h
    decide

/-- The distance from UTC is less than a day. -/
theorem offset?_natAbs_lt {cs : List Char} {offset : Int} (h : offset? cs = some offset) :
    offset.natAbs < 1440 := by
  unfold offset? at h
  split at h
  · cases h
    decide
  · cases h
    decide
  · simp only [Option.bind_eq_bind, Option.bind_eq_some_iff, Prod.exists] at h
    obtain ⟨hours, -, -, -, -, minutes, rest, -, h⟩ := h
    split at h
    · cases h
    · split at h
      · cases h
        omega
      · split at h
        · cases h
          omega
        · cases h
  · cases h

/-- A stamp that is read has the time of a day, and lies less than a day from
UTC. -/
theorem parseChars?_parts {cs : List Char} {t : Stamp} (h : parseChars? cs = some t) :
    t.hour ≤ 23 ∧ t.minute ≤ 59 ∧ t.second ≤ 59 ∧ t.nano < 1000000000 ∧ t.offset.natAbs < 1440 := by
  obtain ⟨⟨year, _⟩, -, h⟩ := Option.bind_eq_some_iff.mp h
  obtain ⟨_, -, h⟩ := Option.bind_eq_some_iff.mp h
  obtain ⟨⟨month, _⟩, -, h⟩ := Option.bind_eq_some_iff.mp h
  obtain ⟨_, -, h⟩ := Option.bind_eq_some_iff.mp h
  obtain ⟨⟨day, _⟩, -, h⟩ := Option.bind_eq_some_iff.mp h
  obtain ⟨_, -, h⟩ := Option.bind_eq_some_iff.mp h
  obtain ⟨⟨hour, _⟩, -, h⟩ := Option.bind_eq_some_iff.mp h
  obtain ⟨_, -, h⟩ := Option.bind_eq_some_iff.mp h
  obtain ⟨⟨minute, _⟩, -, h⟩ := Option.bind_eq_some_iff.mp h
  obtain ⟨_, -, h⟩ := Option.bind_eq_some_iff.mp h
  obtain ⟨⟨second, _⟩, -, h⟩ := Option.bind_eq_some_iff.mp h
  obtain ⟨⟨nano, _⟩, hnano, h⟩ := Option.bind_eq_some_iff.mp h
  obtain ⟨offset, hoffset, h⟩ := Option.bind_eq_some_iff.mp h
  obtain ⟨date, -, h⟩ := Option.bind_eq_some_iff.mp h
  dsimp only at hnano h
  have hnanos := fraction?_lt hnano
  have hminutes := offset?_natAbs_lt hoffset
  split at h
  · cases h
  rename_i htime
  have hhour : hour ≤ 23 := by omega
  have hminute : minute ≤ 59 := by omega
  split at h
  · split at h
    · cases h
      exact ⟨hhour, hminute, Nat.le_refl 59, Nat.lt_succ_self 999999999, hminutes⟩
    · cases h
  · have hsecond : second ≤ 59 := by omega
    cases h
    exact ⟨hhour, hminute, hsecond, hnanos, hminutes⟩

/-- A stamp text lies less than 10¹² seconds from the beginning of 1970. -/
theorem instant_natAbs_lt {s : String} {t : Stamp} (h : parse? s = some t) :
    t.instant.natAbs < 10 ^ 21 := by
  obtain ⟨hhour, hminute, hsecond, hnano, hoffset⟩ := parseChars?_parts h
  have hnumber := t.date.number_lt
  unfold instant localSeconds epochDay
  omega

/-- The whole seconds between two stamp texts fit a word. -/
theorem toInt_ofInt_seconds {s s' : String} {t t' : Stamp} (h : parse? s = some t)
    (h' : parse? s' = some t') :
    (Int64.ofInt ((t'.instant - t.instant) / 1000000000)).toInt =
      (t'.instant - t.instant) / 1000000000 := by
  have hfirst := instant_natAbs_lt h
  have hlast := instant_natAbs_lt h'
  apply Int64.toInt_ofInt_of_le
  · omega
  · omega

end Docket.Stamp
