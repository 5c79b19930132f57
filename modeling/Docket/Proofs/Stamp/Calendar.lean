import Docket.Stamp.Date
import Mathlib.Algebra.GroupWithZero.Nat
import Mathlib.Order.Monotone.Basic

/-!
# Days and their numbers

A date and its day number determine each other. The year of a day is found by
the mean length of a year, which puts it one year off at most, and the month by
going through the months of that year; so every number below that of the first
day after the calendar is the number of exactly one date.

* `daysBeforeYear_succ` — the days of a year are those of its months.
* `Date.yearOf_eq_iff` — in which year a day lies.
* `Date.ofNumber?_eq_some_iff`, `Date.ofNumber?_eq_none_iff` — the date of a
  number, and when there is none.
-/

namespace Docket.Stamp

theorem isLeap_iff {year : Nat} :
    isLeap year = true ↔ year % 4 = 0 ∧ (year % 100 = 0 → year % 400 = 0) := by
  simp [isLeap, imp_iff_not_or]

/-- Of the years that 4 divides, those that 100 divides are not leap years, unless
400 divides them. -/
theorem isLeap_balance (year : Nat) :
    (if isLeap year then 1 else 0) + (if year % 100 = 0 then 1 else 0) =
      (if year % 4 = 0 then 1 else 0) + (if year % 400 = 0 then 1 else 0) := by
  simp only [isLeap_iff]
  split_ifs <;> omega

theorem sum_monthLengths (year : Nat) :
    (monthLengths year).sum = 365 + if isLeap year then 1 else 0 := by
  unfold monthLengths
  cases isLeap year <;> rfl

/-- The days before a year are those before the last one and those of its
months. -/
theorem daysBeforeYear_succ (year : Nat) :
    daysBeforeYear (year + 1) = daysBeforeYear year + (monthLengths year).sum := by
  have hfourth : (year + 1 + 3) / 4 = (year + 3) / 4 + if year % 4 = 0 then 1 else 0 := by
    split <;> omega
  have hcentury : (year + 1 + 99) / 100 = (year + 99) / 100 + if year % 100 = 0 then 1 else 0 := by
    split <;> omega
  have hround : (year + 1 + 399) / 400 = (year + 399) / 400 + if year % 400 = 0 then 1 else 0 := by
    split <;> omega
  have hbalance := isLeap_balance year
  have hle : (year + 99) / 100 ≤ 365 * year := by omega
  rw [sum_monthLengths]
  unfold daysBeforeYear
  omega

theorem daysBeforeYear_strictMono : StrictMono daysBeforeYear := by
  refine strictMono_nat_of_lt_succ fun year => ?_
  rw [daysBeforeYear_succ, sum_monthLengths]
  omega

namespace Date

/-- The mean length of a year puts a day at most one year off. -/
theorem daysBeforeYear_guess (n : Nat) :
    daysBeforeYear (n * 400 / 146097 - 1) ≤ n ∧ n < daysBeforeYear (n * 400 / 146097 + 2) := by
  unfold daysBeforeYear
  omega

theorem daysBeforeYear_yearOf (n : Nat) :
    daysBeforeYear (yearOf n) ≤ n ∧ n < daysBeforeYear (yearOf n + 1) := by
  obtain ⟨hbegun, hover⟩ := daysBeforeYear_guess n
  unfold yearOf
  dsimp only
  split
  · rename_i hearly
    -- the guess is not the year 0, before which there are no days
    have hpos : 0 < n * 400 / 146097 := by
      rw [Nat.pos_iff_ne_zero]
      intro hzero
      rw [hzero] at hearly
      exact absurd hearly (Nat.not_lt_zero n)
    rw [Nat.sub_add_cancel hpos]
    exact ⟨hbegun, hearly⟩
  · rename_i hearly
    split
    · rename_i hlate
      exact ⟨hlate, hover⟩
    · rename_i hlate
      exact ⟨Nat.not_lt.mp hearly, Nat.not_le.mp hlate⟩

/-- The year of a day is the one that has begun before it and is not over. -/
theorem yearOf_eq_iff {n year : Nat} :
    yearOf n = year ↔ daysBeforeYear year ≤ n ∧ n < daysBeforeYear (year + 1) := by
  obtain ⟨hbegun, hover⟩ := daysBeforeYear_yearOf n
  constructor
  · rintro rfl
    exact ⟨hbegun, hover⟩
  · rintro ⟨hbegun', hover'⟩
    have hlt := daysBeforeYear_strictMono.lt_iff_lt.mp (Nat.lt_of_le_of_lt hbegun hover')
    have hlt' := daysBeforeYear_strictMono.lt_iff_lt.mp (Nat.lt_of_le_of_lt hbegun' hover)
    omega

theorem yearOf_le_iff {n year : Nat} : yearOf n ≤ year ↔ n < daysBeforeYear (year + 1) := by
  obtain ⟨hbegun, hover⟩ := daysBeforeYear_yearOf n
  constructor
  · intro hle
    have hmono := daysBeforeYear_strictMono.monotone (Nat.succ_le_succ hle)
    exact Nat.lt_of_lt_of_le hover hmono
  · intro hlt
    have hlt' := daysBeforeYear_strictMono.lt_iff_lt.mp (Nat.lt_of_le_of_lt hbegun hlt)
    omega

/-- Behind the days of some months the next month begins. -/
theorem monthAndDay_append (first : Nat) (before : List Nat) {length k : Nat} (after : List Nat)
    (h : k < length) :
    monthAndDay first (before ++ length :: after) (before.sum + k) =
      (first + before.length, k + 1) := by
  induction before generalizing first with
  | nil => simp [monthAndDay, h]
  | cons m rest ih =>
      have hpast : ¬ m + rest.sum + k < m := by omega
      have hleft : m + rest.sum + k - m = rest.sum + k := by omega
      rw [List.cons_append, List.sum_cons, monthAndDay, if_neg hpast, hleft, ih,
        List.length_cons, Nat.add_right_comm, Nat.add_assoc]

/-- A day of a run of months lies in one of them. -/
theorem exists_month_of_lt_sum {lengths : List Nat} {n : Nat} (h : n < lengths.sum) :
    ∃ before length after k,
      lengths = before ++ length :: after ∧ k < length ∧ n = before.sum + k := by
  induction lengths generalizing n with
  | nil => exact absurd h (Nat.not_lt_zero n)
  | cons m rest ih =>
      by_cases hfirst : n < m
      · exact ⟨[], m, rest, n, rfl, hfirst, (Nat.zero_add n).symm⟩
      · rw [List.sum_cons] at h
        obtain ⟨before, length, after, k, rfl, hk, hn⟩ := ih (n := n - m) (by omega)
        refine ⟨m :: before, length, after, k, rfl, hk, ?_⟩
        rw [List.sum_cons]
        omega

/-- A month begins behind the months before it and has its own length. -/
theorem of_monthLengths_eq {year length : Nat} {before after : List Nat}
    (h : monthLengths year = before ++ length :: after) :
    daysInMonth year (before.length + 1) = length ∧
      daysBeforeMonth year (before.length + 1) = before.sum := by
  constructor
  · rw [daysInMonth, if_neg (Nat.succ_ne_zero _), Nat.add_sub_cancel, h,
      List.getElem?_append_right (Nat.le_refl _), Nat.sub_self]
    rfl
  · rw [daysBeforeMonth, ← List.sum_eq_foldl_nat, Nat.add_sub_cancel, h, List.take_left']
    rfl

/-- The month of a date is one of its year, and the day one of that month. -/
theorem exists_monthLengths_eq (d : Date) :
    ∃ before length after, monthLengths d.year = before ++ length :: after ∧
      before.length + 1 = d.month ∧ d.day ≤ length := by
  have hday := Nat.lt_of_lt_of_le d.day_pos d.day_le
  have hmonth : d.month ≠ 0 := by
    intro hzero
    rw [hzero] at hday
    exact absurd hday (Nat.lt_irrefl 0)
  have hle := d.day_le
  rw [daysInMonth, if_neg hmonth] at hday hle
  cases hlength : (monthLengths d.year)[d.month - 1]? with
  | none =>
      rw [hlength] at hday
      exact absurd hday (Nat.lt_irrefl 0)
  | some length =>
      rw [hlength] at hle
      obtain ⟨hin, heq⟩ := List.getElem?_eq_some_iff.mp hlength
      refine ⟨(monthLengths d.year).take (d.month - 1), length,
        (monthLengths d.year).drop (d.month - 1 + 1), ?_, ?_, hle⟩
      · rw [← heq, ← List.drop_eq_getElem_cons hin, List.take_append_drop]
      · rw [List.length_take_of_le (Nat.le_of_lt hin), Nat.sub_one_add_one hmonth]

theorem month_le (d : Date) : d.month ≤ 12 := by
  obtain ⟨before, length, after, hlengths, hmonth, -⟩ := d.exists_monthLengths_eq
  have htwelve : (monthLengths d.year).length = 12 := rfl
  rw [hlengths, List.length_append, List.length_cons] at htwelve
  omega

theorem of?_eq_some_iff {year month day : Nat} {d : Date} :
    of? year month day = some d ↔ d.year = year ∧ d.month = month ∧ d.day = day := by
  unfold of?
  obtain ⟨year', month', day', hyear, hpos, hle⟩ := d
  constructor
  · intro h
    split at h
    · cases h
      exact ⟨rfl, rfl, rfl⟩
    · cases h
  · rintro ⟨rfl, rfl, rfl⟩
    exact dif_pos ⟨hyear, hpos, hle⟩

/-- The number of a date, with the months of its year laid out. -/
theorem number_eq {d : Date} {length : Nat} {before after : List Nat}
    (h : monthLengths d.year = before ++ length :: after) (hmonth : before.length + 1 = d.month) :
    d.number = daysBeforeYear d.year + (before.sum + (d.day - 1)) := by
  rw [number, ← hmonth, (of_monthLengths_eq h).2, Nat.add_assoc]

theorem yearOf_number (d : Date) : yearOf d.number = d.year := by
  obtain ⟨before, length, after, hlengths, hmonth, hday⟩ := d.exists_monthLengths_eq
  have hpos := d.day_pos
  rw [yearOf_eq_iff, daysBeforeYear_succ, number_eq hlengths hmonth, hlengths, List.sum_append,
    List.sum_cons]
  omega

/-- A date is found by its number. -/
theorem ofNumber?_number (d : Date) : ofNumber? d.number = some d := by
  obtain ⟨before, length, after, hlengths, hmonth, hday⟩ := d.exists_monthLengths_eq
  have hpos := d.day_pos
  unfold ofNumber?
  dsimp only
  rw [yearOf_number, number_eq hlengths hmonth, Nat.add_sub_cancel_left, hlengths,
    monthAndDay_append 1 before after (by omega), of?_eq_some_iff]
  exact ⟨rfl, by omega, by omega⟩

/-- Every day before the end of the calendar has a date. -/
theorem exists_number_eq {n : Nat} (h : n < daysBeforeYear 10000) : ∃ d : Date, d.number = n := by
  obtain ⟨hbegun, hover⟩ := daysBeforeYear_yearOf n
  rw [daysBeforeYear_succ] at hover
  have hwithin : n - daysBeforeYear (yearOf n) < (monthLengths (yearOf n)).sum := by omega
  obtain ⟨before, length, after, k, hlengths, hk, hn⟩ := exists_month_of_lt_sum hwithin
  have hdays := (of_monthLengths_eq hlengths).1
  refine ⟨⟨yearOf n, before.length + 1, k + 1, yearOf_le_iff.mpr h, Nat.succ_pos k,
    by rw [hdays]; exact hk⟩, ?_⟩
  rw [number_eq hlengths rfl]
  dsimp only
  omega

theorem number_lt_calendar (d : Date) : d.number < daysBeforeYear 10000 := by
  rw [← yearOf_le_iff, yearOf_number]
  exact d.year_le

/-- **A date and its number determine each other.** -/
theorem ofNumber?_eq_some_iff {n : Nat} {d : Date} : ofNumber? n = some d ↔ d.number = n := by
  constructor
  · intro h
    have hyear : d.year = yearOf n := (of?_eq_some_iff.mp h).1
    obtain ⟨d', hd'⟩ := exists_number_eq (yearOf_le_iff.mp (hyear ▸ d.year_le))
    have hfound := ofNumber?_number d'
    rw [hd', h] at hfound
    rw [Option.some.inj hfound, hd']
  · rintro rfl
    exact ofNumber?_number d

/-- There is no date for a number exactly when the calendar has ended. -/
theorem ofNumber?_eq_none_iff {n : Nat} : ofNumber? n = none ↔ daysBeforeYear 10000 ≤ n := by
  constructor
  · intro h
    rw [← Nat.not_lt]
    intro hlt
    obtain ⟨d, hd⟩ := exists_number_eq hlt
    rw [ofNumber?_eq_some_iff.mpr hd] at h
    cases h
  · intro h
    rw [Option.eq_none_iff_forall_ne_some]
    intro d hd
    rw [← ofNumber?_eq_some_iff.mp hd] at h
    exact absurd d.number_lt_calendar (Nat.not_lt.mpr h)

theorem number_injective : Function.Injective number := by
  intro d d' h
  have hfound := ofNumber?_number d
  rw [h, ofNumber?_number d'] at hfound
  exact (Option.some.inj hfound).symm

end Date
end Docket.Stamp
