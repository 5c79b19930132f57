/-!
# Punycode

An ASCII spelling for labels of any script. The ASCII characters come first,
and then numbers that say which other characters go where, in ascending order
of their code points. A number has digits in base thirty-six whose ranges
depend on their places, and on the numbers before it.

Main statement: `digitValue?_digit`, a digit reads back.
-/

namespace Docket.Http.Punycode

/-- A digit in base thirty-six, letters first. -/
def digit (d : Nat) : Char :=
  if d < 26 then Char.ofNat (97 + d) else Char.ofNat (22 + d)

/-- The value of a digit. -/
def digitValue? (c : Char) : Option Nat :=
  if 'a' ≤ c ∧ c ≤ 'z' then some (c.toNat - 97)
  else if '0' ≤ c ∧ c ≤ '9' then some (c.toNat - 22)
  else none

/-- A digit reads back. -/
theorem digitValue?_digit {d : Nat} (h : d < 36) : digitValue? (digit d) = some d := by
  have all : ∀ e ∈ List.range 36, digitValue? (digit e) = some e := by decide
  exact all d (List.mem_range.2 h)

/-- The digit at a place ends its number if it is below this. -/
def limit (place bias : Nat) : Nat :=
  min 26 (max 1 (place - bias))

/-- The bias for the next number. -/
def nextBias (first : Bool) (delta count : Nat) : Nat :=
  let scale : Nat → Nat → Nat → Nat := fun fuel =>
    fuel.rec (fun d k => k + 36 * d / (d + 38))
      fun _ next d k => if 455 < d then next (d / 35) (k + 36) else k + 36 * d / (d + 38)
  let d := delta / if first then 700 else 2
  scale d (d + d / count) 0

/-- The digits of a number; `fuel` bounds how many there are. -/
def number (bias : Nat) : (fuel place q : Nat) → List Char
  | 0, _, _ => []
  | fuel + 1, place, q =>
      let low := limit place bias
      if q < low then [digit q]
      else
        digit (low + (q - low) % (36 - low))
          :: number bias fuel (place + 36) ((q - low) / (36 - low))

/-- What is known while the code points of a label are written in ascending
order. -/
structure Writing where
  delta : Nat
  bias : Nat
  handled : Nat
  out : List Char

/-- Writes all places of one code point; `basic` counts the ASCII characters. -/
def Writing.point (basic point : Nat) (label : List Char) (s : Writing) : Writing :=
  label.foldl (fun s c =>
    if c.toNat < point then { s with delta := s.delta + 1 }
    else if c.toNat = point then
      { delta := 0
        bias := nextBias (s.handled == basic) s.delta (s.handled + 1)
        handled := s.handled + 1
        out := s.out ++ number s.bias (s.delta + 1) 36 s.delta }
    else s) s

/-- The ASCII spelling of a label. -/
def encode (label : List Char) : List Char :=
  let basic := label.filter fun c => c.toNat < 128
  let points := ((label.map Char.toNat).filter (128 ≤ ·)).mergeSort.eraseReps
  let start : Writing := ⟨0, 72, basic.length, basic ++ if basic.isEmpty then [] else ['-']⟩
  let step := fun (before, s) point =>
    let s : Writing := { s with delta := s.delta + (point - before) * (s.handled + 1) }
    let s := s.point basic.length point label
    (point + 1, { s with delta := s.delta + 1 })
  (points.foldl step (128, start)).2.out

/-- No number is greater than this. -/
def largest : Nat := UInt32.size - 1

/-- A label of which some characters have been read: the last code point, where
the next character goes at the earliest, and the number that is being read,
with the weight and the place of its next digit. -/
structure Reading where
  label : List Char
  point : Nat
  index : Nat
  bias : Nat
  value : Nat
  weight : Nat
  place : Nat

/-- The character with this code point. -/
def charOf? (point : Nat) : Option Char :=
  let c := Char.ofNat point
  if c.toNat = point then some c else none

/-- Reads a digit. With its last digit a number says how far on the next
character goes, counting around the label once for each code point. -/
def Reading.digit? (s : Reading) (c : Char) : Option Reading := do
  let d ← digitValue? c
  let value := s.value + d * s.weight
  if largest < value then none
  let low := limit s.place s.bias
  if d < low then
    let count := s.label.length + 1
    let point := s.point + value / count
    let index := value % count
    let c ← charOf? point
    return {
      label := s.label.take index ++ c :: s.label.drop index
      point
      index := index + 1
      bias := nextBias (s.index == 0) (value - s.index) count
      value := index + 1
      weight := 1
      place := 36 }
  else
    let weight := s.weight * (36 - low)
    if largest < weight then none
    return { s with value, weight, place := s.place + 36 }

/-- The label that is spelled so. -/
def decode? (code : List Char) : Option (List Char) := do
  let digits := (code.reverse.takeWhile (· ≠ '-')).reverse
  let basic := code.take (code.length - digits.length - 1)
  let start : Reading := ⟨basic, 128, 0, 72, 0, 1, 36⟩
  let s ← (if basic.isEmpty then code else digits).foldlM Reading.digit? start
  if s.place = 36 then some s.label else none

end Docket.Http.Punycode
