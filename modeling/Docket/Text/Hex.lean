/-!
# Base sixteen

Digits in base sixteen. Reading takes either case; writing has upper case in
URLs and lower case in dumps of bytes.
-/

namespace Docket.Text

/-- The value of a hexadecimal digit of either case. -/
def hexValue? (c : Char) : Option Nat :=
  if '0' ≤ c ∧ c ≤ '9' then some (c.toNat - 48)
  else if 'A' ≤ c ∧ c ≤ 'F' then some (c.toNat - 55)
  else if 'a' ≤ c ∧ c ≤ 'f' then some (c.toNat - 87)
  else none

/-- A digit in upper case. -/
def hexUpper (n : Nat) : Char :=
  if n < 10 then Char.ofNat (48 + n) else Char.ofNat (55 + n)

/-- The digits of a number, lower case. -/
def hexDigits (n : Nat) : List Char :=
  Nat.toDigits 16 n

/-- The bytes that pairs of digits name. -/
def bytesOfHex? : List Char → Option (List UInt8)
  | [] => some []
  | a :: b :: rest => do
      let high ← hexValue? a
      let low ← hexValue? b
      return UInt8.ofNat (high * 16 + low) :: (← bytesOfHex? rest)
  | [_] => none

/-- Bytes as pairs of digits, lower case. -/
def hexOfBytes (bytes : List UInt8) : List Char :=
  bytes.flatMap fun b => [Nat.digitChar (b.toNat / 16), Nat.digitChar (b.toNat % 16)]

/-- A digit reads back. -/
theorem hexValue?_hexUpper {n : Nat} (h : n < 16) : hexValue? (hexUpper n) = some n := by
  have all : ∀ m ∈ List.range 16, hexValue? (hexUpper m) = some m := by decide
  exact all n (List.mem_range.2 h)

end Docket.Text
