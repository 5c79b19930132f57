/-!
# Calendar days

Days of the Gregorian calendar in the years 0 to 9999, counted from the first
of January of the year 0. A date and its day number determine each other.
-/

namespace Docket.Stamp

/-- The year has a 29th of February. -/
def isLeap (year : Nat) : Bool :=
  year % 4 == 0 && (year % 100 != 0 || year % 400 == 0)

/-- The lengths of the months. -/
def monthLengths (year : Nat) : List Nat :=
  [31, if isLeap year then 29 else 28, 31, 30, 31, 30, 31, 31, 30, 31, 30, 31]

/-- The length of a month, the first being 1; no other month has days. -/
def daysInMonth (year month : Nat) : Nat :=
  if month = 0 then 0 else (monthLengths year)[month - 1]?.getD 0

/-- The days of all the years before a year. -/
def daysBeforeYear (year : Nat) : Nat :=
  365 * year + (year + 3) / 4 - (year + 99) / 100 + (year + 399) / 400

/-- The days of the year before a month. -/
def daysBeforeMonth (year month : Nat) : Nat :=
  ((monthLengths year).take (month - 1)).foldl (· + ·) 0

/-- A day of the calendar. -/
structure Date where
  year : Nat
  month : Nat
  day : Nat
  year_le : year ≤ 9999 := by omega
  day_pos : 0 < day := by omega
  day_le : day ≤ daysInMonth year month := by omega

namespace Date

/-- The date with this year, month and day, if there is one. -/
def of? (year month day : Nat) : Option Date :=
  if h : year ≤ 9999 ∧ 0 < day ∧ day ≤ daysInMonth year month then
    some ⟨year, month, day, h.1, h.2.1, h.2.2⟩
  else none

/-- How many days lie before the date. -/
def number (d : Date) : Nat :=
  daysBeforeYear d.year + daysBeforeMonth d.year d.month + (d.day - 1)

/-- The year in which a day lies. The mean length of a year puts it at most
one year off. -/
def yearOf (n : Nat) : Nat :=
  let guess := n * 400 / 146097
  if n < daysBeforeYear guess then guess - 1
  else if daysBeforeYear (guess + 1) ≤ n then guess + 1
  else guess

/-- The month and the day in it, counted from 1, of the `n`-th day of a run
of months that starts with month `first`. -/
def monthAndDay (first : Nat) : List Nat → Nat → Nat × Nat
  | [], n => (first, n + 1)
  | length :: rest, n =>
      if n < length then (first, n + 1) else monthAndDay (first + 1) rest (n - length)

/-- The date with this day number, if its year is one of the calendar. -/
def ofNumber? (n : Nat) : Option Date :=
  let year := yearOf n
  let (month, day) := monthAndDay 1 (monthLengths year) (n - daysBeforeYear year)
  of? year month day

/-- The date is the last of its month. -/
def isMonthEnd (d : Date) : Bool :=
  d.day = daysInMonth d.year d.month

end Date

end Docket.Stamp
