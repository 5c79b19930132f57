/-!
# Doubles as decimals

A number that is not a whole one is kept as the shortest decimal that names
its double. Reading takes the digits and the power of ten to their nearest
doubles and multiplies or divides them, so it rounds at most three times.
Writing shows the shortest decimal: positional from `1e-5` up to sixteen
places before the point, with an exponent otherwise.
-/

namespace Docket.Json

/-- The decimal `± digits · 10 ^ exponent`. -/
structure Decimal where
  negative : Bool
  digits : Nat
  exponent : Int
  deriving DecidableEq

/-- A number `mantissa · 2 ^ exponent`. -/
structure Binary where
  mantissa : Nat
  exponent : Int

namespace Binary

/-- `base ^ e` as a ratio of naturals. -/
def ratioPow (base : Nat) (e : Int) : Nat × Nat :=
  if 0 ≤ e then (base.pow e.toNat, 1) else (1, base.pow (-e).toNat)

/-- The greatest `k` with `2 ^ k ≤ num / den`, for positive numbers. -/
def floorLog (num den : Nat) : Int :=
  let guess : Int := (Nat.log2 num : Int) - Nat.log2 den
  let (up, down) := ratioPow 2 guess
  if den * up ≤ num * down then guess else guess - 1

/-- The nearest whole number to `num / den`, a half going to the even one. -/
def roundHalfEven (num den : Nat) : Nat :=
  let floor := num / den
  let twice := 2 * (num % den)
  if twice < den then floor
  else if den < twice then floor + 1
  else floor + floor % 2

/-- The double nearest to `num / den`; none when it is too large for one. -/
def nearest? (num den : Nat) : Option Binary :=
  if num = 0 then some ⟨0, 0⟩
  else
    let q := max (floorLog num den - 52) (-1074)
    let (up, down) := ratioPow 2 q
    let m := roundHalfEven (num * down) (den * up)
    if 971 < q ∨ (q = 971 ∧ Nat.pow 2 53 ≤ m) then none else some ⟨m, q⟩

/-- The value as a ratio of naturals. -/
def ratio (b : Binary) : Nat × Nat :=
  let (up, down) := ratioPow 2 b.exponent
  (b.mantissa * up, down)

/-- Where the leading digit stands: the value is below `10 ^ place` and not
below a tenth of it. -/
def place (b : Binary) : Int :=
  let (num, den) := b.ratio
  if den ≤ num then (Nat.toDigits 10 (num / den)).length
  else
    match (List.range 400).find? fun j => den ≤ num * Nat.pow 10 j with
    | some j => 1 - (j : Int)
    | none => 0

/-- `count · 10 ^ power` rounds to the double `b`. -/
def roundsFrom (b : Binary) (count : Nat) (power : Int) : Bool :=
  let (tenUp, tenDown) := ratioPow 10 power
  let (twoUp, twoDown) := ratioPow 2 (b.exponent - 2)
  let point := count * tenUp * twoDown
  let below := if b.mantissa = Nat.pow 2 52 ∧ -1074 < b.exponent then 1 else 2
  let low := (4 * b.mantissa - below) * twoUp * tenDown
  let high := (4 * b.mantissa + 2) * twoUp * tenDown
  if b.mantissa % 2 = 0 then low ≤ point && point ≤ high else low < point && point < high

/-- The decimal with `width` digits that names `b`, if there is one: of the
two neighbours of `b` on that grid the nearer one that rounds to it. -/
def named? (b : Binary) (width : Nat) : Option (Nat × Int) :=
  let power := b.place - width
  let (tenUp, tenDown) := ratioPow 10 power
  let (num, den) := b.ratio
  let floor := num * tenDown / (den * tenUp)
  let near := roundHalfEven (num * tenDown) (den * tenUp)
  let far := if near = floor then floor + 1 else floor
  if b.roundsFrom near power then some (near, power)
  else if b.roundsFrom far power then some (far, power)
  else none

/-- The fewest digits that name `b`; seventeen always do. -/
def shortest (b : Binary) : Nat × Int :=
  if b.mantissa = 0 then (0, 0)
  else ((List.range 17).findSome? fun k => b.named? (k + 1)).getD (b.mantissa, b.exponent)

end Binary

namespace Decimal

/-- Trailing zeros move from the digits into the exponent. -/
def stripZeros : Nat → Nat → Int → Nat × Int
  | 0, digits, exponent => (digits, exponent)
  | fuel + 1, digits, exponent =>
      if digits ≠ 0 ∧ digits % 10 = 0 then stripZeros fuel (digits / 10) (exponent + 1)
      else (digits, exponent)

/-- The decimal that names a double. -/
def ofBinary (negative : Bool) (b : Binary) : Decimal :=
  let (digits, exponent) := b.shortest
  let (digits, exponent) := stripZeros 20 digits exponent
  ⟨negative, digits, if digits = 0 then 0 else exponent⟩

/-- The double that `± digits · 10 ^ exponent` is read as; none when it is
too large. -/
def read? (negative : Bool) (digits : Nat) (exponent : Int) : Option Decimal := do
  if digits = 0 ∨ exponent < -616 then return ⟨negative, 0, 0⟩
  if 308 < exponent then none
  let whole ← Binary.nearest? digits 1
  let (a, b) := whole.ratio
  let divide (num den : Nat) (power : Nat) : Option Binary := do
    let ten ← Binary.nearest? (Nat.pow 10 power) 1
    let (c, d) := ten.ratio
    Binary.nearest? (num * d) (den * c)
  if 0 ≤ exponent then
    let ten ← Binary.nearest? (Nat.pow 10 exponent.toNat) 1
    let (c, d) := ten.ratio
    return ofBinary negative (← Binary.nearest? (a * c) (b * d))
  else
    let down := (-exponent).toNat
    if down ≤ 308 then return ofBinary negative (← divide a b down)
    let part ← divide a b 308
    let (c, d) := part.ratio
    return ofBinary negative (← divide c d (down - 308))

/-- The digits as characters. -/
def digitChars (d : Decimal) : List Char :=
  Nat.toDigits 10 d.digits

/-- The unsigned number: positional where `-5 < place ≤ 16`, with an exponent
that shows its sign elsewhere. A positional number always shows a point. -/
def unsignedChars (d : Decimal) : List Char :=
  let ds := d.digitChars
  let place : Int := ds.length + d.exponent
  if d.digits = 0 then ['0', '.', '0']
  else if 0 ≤ d.exponent ∧ place ≤ 16 then
    ds ++ List.replicate d.exponent.toNat '0' ++ ['.', '0']
  else if 0 < place ∧ place ≤ 16 then
    ds.take place.toNat ++ '.' :: ds.drop place.toNat
  else if -5 < place ∧ place ≤ 0 then
    ['0', '.'] ++ List.replicate (-place).toNat '0' ++ ds
  else
    let sign := if place < 1 then '-' else '+'
    let power := sign :: Nat.toDigits 10 (place - 1).natAbs
    match ds with
    | [c] => c :: 'e' :: power
    | c :: more => c :: '.' :: more ++ 'e' :: power
    | [] => []

/-- The number as it is written in JSON. -/
def render (d : Decimal) : String :=
  String.ofList (if d.negative then '-' :: d.unsignedChars else d.unsignedChars)

end Decimal

end Docket.Json
