import Docket.Stamp.Date
import Docket.Text.Blank

/-!
# Time stamps

A stamp is a local time, exact to the nanosecond, with its distance from UTC
in minutes. Its text is that of RFC 3339. Reading allows any ASCII character
between date and time, a `z` of either case, any number of fraction
digits, of which nine count, and a second 60 where a leap second can stand;
writing has one form for each stamp, and takes the bare number of its seconds
where that form has no room for the distance from UTC.

Two texts are ordered as instants when both are stamps, and as plain text
otherwise.
-/

namespace Docket

/-- A moment with the distance from UTC at which it was written down. -/
structure Stamp where
  date : Stamp.Date
  hour : Nat
  minute : Nat
  second : Nat
  nano : Nat
  /-- Minutes by which the local time is ahead of UTC. -/
  offset : Int

namespace Stamp

/-- The day number of the first of January 1970. -/
def epochDay : Nat := 719528

/-- Seconds of the local time since the first of January of the year 0. -/
def localSeconds (t : Stamp) : Nat :=
  ((t.date.number * 24 + t.hour) * 60 + t.minute) * 60 + t.second

/-- Nanoseconds since the beginning of 1970 in UTC. -/
def instant (t : Stamp) : Int :=
  ((t.localSeconds : Int) - epochDay * 86400 - t.offset * 60) * 1000000000 + t.nano

/-- The seconds of a number of hours, in a word of 64 bits. -/
def secondsOfHours (hours : UInt32) : Int64 :=
  Int64.ofNat hours.toNat * 3600

/-- The stamp some seconds later at the same distance from UTC, as long as its
local year is one of the calendar. -/
def addSeconds? (t : Stamp) (seconds : Int64) : Option Stamp := do
  let total := t.localSeconds + seconds.toInt
  if total < 0 then none
  let clock := (total % 86400).toNat
  let date ← Date.ofNumber? (total / 86400).toNat
  return { t with date, hour := clock / 3600, minute := clock / 60 % 60, second := clock % 60 }

/-- The beginning of 1970 in UTC. -/
def epoch : Stamp :=
  ⟨⟨1970, 1, 1, by decide, by decide, by decide⟩, 0, 0, 0, 0, 0⟩

/-- The stamp in UTC of a moment so many nanoseconds after the beginning of
1970. -/
def ofUnix? (nanos : Nat) : Option Stamp := do
  let seconds := nanos / 1000000000
  let date ← Date.ofNumber? (epochDay + seconds / 86400)
  return ⟨date, seconds / 3600 % 24, seconds / 60 % 60, seconds % 60, nanos % 1000000000, 0⟩

/-- A number with leading zeros up to a width. -/
def padded (width n : Nat) : List Char :=
  let ds := Nat.toDigits 10 n
  List.replicate (width - ds.length) '0' ++ ds

/-- The digits behind the point, without zeros at the end; nothing when there
are none. -/
def fractionChars (nano : Nat) : List Char :=
  if nano = 0 then []
  else '.' :: ((padded 9 nano).reverse.dropWhile (· = '0')).reverse

/-- The distance from UTC. -/
def offsetChars (offset : Int) : List Char :=
  if offset = 0 then ['Z']
  else
    (if offset < 0 then '-' else '+') :: padded 2 (offset.natAbs / 60)
      ++ ':' :: padded 2 (offset.natAbs % 60)

/-- The text of a stamp; there is none a day or more away from UTC. -/
def text? (t : Stamp) : Option String :=
  if 23 < t.offset.natAbs / 60 then none
  else
    some <| String.ofList <|
      padded 4 t.date.year ++ '-' :: padded 2 t.date.month ++ '-' :: padded 2 t.date.day
        ++ 'T' :: padded 2 t.hour ++ ':' :: padded 2 t.minute ++ ':' :: padded 2 t.second
        ++ fractionChars t.nano ++ offsetChars t.offset

/-- The text of a stamp, or else its seconds since the beginning of 1970. -/
def format (t : Stamp) : String :=
  t.text?.getD (toString (t.instant / 1000000000))

/-- The value of a decimal digit. -/
def digit? (c : Char) : Option Nat :=
  if c.isDigit then some (c.toNat - 48) else none

/-- The number that exactly `width` digits at the front name. -/
def number? (width : Nat) (cs : List Char) : Option (Nat × List Char) := do
  let ds ← (cs.take width).mapM digit?
  if ds.length = width then some (ds.foldl (· * 10 + ·) 0, cs.drop width) else none

/-- Steps over one given character. -/
def expect? (c : Char) : List Char → Option (List Char)
  | d :: rest => if c = d then some rest else none
  | [] => none

/-- Steps over the one character between date and time, of which nothing is
asked but that it is an ASCII character. -/
def separator? : List Char → Option (List Char)
  | c :: rest => if c.toNat < 128 then some rest else none
  | [] => none

/-- The nanoseconds that the digits behind the point name. -/
def nanos (ds : List Char) : Nat :=
  (ds ++ List.replicate (9 - ds.length) '0').take 9 |>.foldl (fun n c => n * 10 + (c.toNat - 48)) 0

/-- The fraction of the second, if there is a point. -/
def fraction? : List Char → Option (Nat × List Char)
  | '.' :: rest =>
      let ds := rest.takeWhile Char.isDigit
      if ds.isEmpty then none else some (nanos ds, rest.dropWhile Char.isDigit)
  | cs => some (0, cs)

/-- The distance from UTC, with which the text ends. -/
def offset? : List Char → Option Int
  | ['Z'] | ['z'] => some 0
  | sign :: rest => do
      let (hours, rest) ← number? 2 rest
      let rest ← expect? ':' rest
      let (minutes, rest) ← number? 2 rest
      if 23 < hours ∨ 59 < minutes ∨ rest ≠ [] then none
      let total : Int := hours * 60 + minutes
      if sign = '+' then some total else if sign = '-' then some (-total) else none
  | [] => none

/-- The last second of a month in UTC, where a leap second is read. The day
before the calendar begins is the end of a December. -/
def isLeapPlace (t : Stamp) : Bool :=
  let seconds := (t.localSeconds : Int) - t.offset * 60
  let day := seconds / 86400
  seconds % 86400 == 86399
    && (day < 0 || ((Date.ofNumber? day.toNat).map Date.isMonthEnd).getD false)

/-- A stamp from its characters. -/
def parseChars? (cs : List Char) : Option Stamp := do
  let (year, cs) ← number? 4 cs
  let cs ← expect? '-' cs
  let (month, cs) ← number? 2 cs
  let cs ← expect? '-' cs
  let (day, cs) ← number? 2 cs
  let cs ← separator? cs
  let (hour, cs) ← number? 2 cs
  let cs ← expect? ':' cs
  let (minute, cs) ← number? 2 cs
  let cs ← expect? ':' cs
  let (second, cs) ← number? 2 cs
  let (nano, cs) ← fraction? cs
  let offset ← offset? cs
  let date ← Date.of? year month day
  if 23 < hour ∨ 59 < minute ∨ 60 < second then none
  if second = 60 then
    let t : Stamp := ⟨date, hour, minute, 59, 999999999, offset⟩
    if t.isLeapPlace then some t else none
  else some ⟨date, hour, minute, second, nano, offset⟩

/-- The stamp that a text names, white space around it aside. -/
def parse? (s : String) : Option Stamp :=
  parseChars? (Text.trim s).toList

/-- Orders two stamp texts: as instants when both are stamps, otherwise as
trimmed text. -/
def compareTexts (a b : String) : Ordering :=
  match parse? a, parse? b with
  | some a, some b => compare a.instant b.instant
  | _, _ => compare (Text.trim a) (Text.trim b)

/-- Whole seconds from one stamp text to a later one; none unless both are
stamps, zero when the second is not later. -/
def secondsBetween? (a b : String) : Option Int := do
  let a ← parse? a
  let b ← parse? b
  return max 0 ((b.instant - a.instant) / 1000000000)

end Stamp

end Docket
