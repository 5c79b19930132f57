/-!
# Numbers as text

How a number without a sign is read: decimal digits, at least one, perhaps
with a plus sign in front. The reader says how large the number may be.
-/

namespace Docket.Text

/-- The number that decimal digits write. -/
def decimalValue (digits : List Char) : Nat :=
  digits.foldl (fun n c => n * 10 + (c.toNat - 48)) 0

/-- The number below a limit that a text writes. -/
def number? (limit : Nat) (s : String) : Option Nat :=
  let digits :=
    match s.toList with
    | '+' :: rest => rest
    | all => all
  if digits.isEmpty || !digits.all Char.isDigit then none
  else if decimalValue digits < limit then some (decimalValue digits)
  else none

end Docket.Text
