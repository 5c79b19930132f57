import Docket.Json.Basic
import Docket.Text.Hex

/-!
# Reading JSON

A strict reader: no comments, no stray commas, no leading zeros, no control
characters inside texts, no half of a surrogate pair, and at most 127 levels
of nesting. A step takes the characters that are left and returns what it
read with those that remain.
-/

namespace Docket.Json

/-- The four characters that may stand between tokens. -/
def isGap (c : Char) : Bool :=
  c = ' ' || c = '\n' || c = '\t' || c = '\r'

/-- What is left after leading gaps. -/
def skipGaps (cs : List Char) : List Char :=
  cs.dropWhile isGap

/-- Four hexadecimal digits. -/
def hexQuad? : List Char → Option (Nat × List Char)
  | a :: b :: c :: d :: rest => do
      let a ← Text.hexValue? a
      let b ← Text.hexValue? b
      let c ← Text.hexValue? c
      let d ← Text.hexValue? d
      return (((a * 16 + b) * 16 + c) * 16 + d, rest)
  | _ => none

/-- The character that a one-letter escape stands for. -/
def escaped? (c : Char) : Option Char :=
  match c with
  | '"' => some '"'
  | '\\' => some '\\'
  | '/' => some '/'
  | 'b' => some '\x08'
  | 'f' => some '\x0c'
  | 'n' => some '\n'
  | 'r' => some '\r'
  | 't' => some '\t'
  | _ => none

/-- The character of a code-point escape, after its letter. A high surrogate
needs a low one in the escape behind it. -/
def codePoint? (cs : List Char) : Option (Char × List Char) := do
  let (high, rest) ← hexQuad? cs
  if high < 0xD800 ∨ 0xDFFF < high then return (Char.ofNat high, rest)
  if 0xDC00 ≤ high then none
  match rest with
  | '\\' :: 'u' :: rest =>
      let (low, rest) ← hexQuad? rest
      if low < 0xDC00 ∨ 0xDFFF < low then none
      return (Char.ofNat (0x10000 + (high - 0xD800) * 0x400 + (low - 0xDC00)), rest)
  | _ => none

/-- The characters of a text up to its closing quote; `seen` holds those
before, nearest first, and `fuel` bounds the steps. -/
def readText (fuel : Nat) (seen : List Char) (cs : List Char) : Option (String × List Char) :=
  match fuel, cs with
  | _, '"' :: rest => some (String.ofList seen.reverse, rest)
  | fuel + 1, '\\' :: 'u' :: rest => do
      let (c, rest) ← codePoint? rest
      readText fuel (c :: seen) rest
  | fuel + 1, '\\' :: letter :: rest => do
      let c ← escaped? letter
      readText fuel (c :: seen) rest
  | fuel + 1, c :: rest => if c.toNat < 0x20 then none else readText fuel (c :: seen) rest
  | _, _ => none

/-- The decimal digits at the front. -/
def spanDigits (cs : List Char) : List Char × List Char :=
  (cs.takeWhile Char.isDigit, cs.dropWhile Char.isDigit)

/-- The number that decimal digits name. -/
def digitsValue (ds : List Char) : Nat :=
  ds.foldl (fun n c => n * 10 + (c.toNat - 48)) 0

/-- The leading digits of a number as far as they fit into 64 bits, and how
many digits did not. -/
def leading (start : Nat) (ds : List Char) : Nat × Nat × Bool :=
  ds.foldl (fun (n, beyond, full) c =>
    let next := n * 10 + (c.toNat - 48)
    if full || UInt64.size ≤ next then (n, beyond + 1, true) else (next, beyond, false))
    (start, 0, false)

/-- A number that has a fraction or an exponent, or does not fit into 64
bits. -/
def realNumber? (negative : Bool) (whole fraction : List Char) (power : Int) : Option Json := do
  let (n, beyond, _) := leading 0 whole
  let (n, dropped, _) := leading n fraction
  let used := fraction.length - dropped
  let d ← Decimal.read? negative n (power + beyond - used)
  return .real d

/-- A whole number, kept exactly when it fits into 64 bits. -/
def wholeNumber? (negative : Bool) (whole : List Char) : Option Json :=
  let n := digitsValue whole
  if !negative && n < UInt64.size then some (.int n)
  else if negative && n ≠ 0 && n ≤ 9223372036854775808 then some (.int (-n))
  else realNumber? negative whole [] 0

/-- The exponent of a number, after its letter. -/
def readPower? (cs : List Char) : Option (Int × List Char) :=
  let (sign, cs) : Int × List Char :=
    match cs with
    | '+' :: rest => (1, rest)
    | '-' :: rest => (-1, rest)
    | _ => (1, cs)
  let (ds, rest) := spanDigits cs
  if ds.isEmpty then none else some (sign * digitsValue ds, rest)

/-- A number. -/
def readNumber? (cs : List Char) : Option (Json × List Char) := do
  let (negative, cs) :=
    match cs with
    | '-' :: rest => (true, rest)
    | _ => (false, cs)
  let (whole, rest) := spanDigits cs
  if whole.isEmpty ∨ (whole.head? = some '0' ∧ whole.length ≠ 1) then none
  let (fraction, rest) ←
    match rest with
    | '.' :: more =>
        let (ds, rest) := spanDigits more
        if ds.isEmpty then none else some (some ds, rest)
    | _ => some (none, rest)
  let (power, rest) ←
    match rest with
    | 'e' :: more | 'E' :: more => (readPower? more).map fun (p, rest) => (some p, rest)
    | _ => some (none, rest)
  if fraction.isNone && power.isNone then
    return (← wholeNumber? negative whole, rest)
  return (← realNumber? negative whole (fraction.getD []) (power.getD 0), rest)

/-- The items of a list up to its closing bracket; `item` reads one. -/
def readItems (item : List Char → Option (Json × List Char)) :
    Nat → List Json → List Char → Option (List Json × List Char)
  | 0, _, _ => none
  | fuel + 1, seen, cs => do
      let (value, rest) ← item (skipGaps cs)
      match skipGaps rest with
      | ',' :: rest => readItems item fuel (value :: seen) rest
      | ']' :: rest => return ((value :: seen).reverse, rest)
      | _ => none

/-- The members of an object up to its closing brace; `item` reads a value.
Of members with one key the last one counts. -/
def readMembers (size : Nat) (item : List Char → Option (Json × List Char)) :
    Nat → List (String × Json) → List Char → Option (List (String × Json) × List Char)
  | 0, _, _ => none
  | fuel + 1, seen, cs =>
      match skipGaps cs with
      | '"' :: rest => do
          let (name, rest) ← readText size [] rest
          match skipGaps rest with
          | ':' :: rest =>
              let (value, rest) ← item (skipGaps rest)
              match skipGaps rest with
              | ',' :: rest => readMembers size item fuel (insert name value seen) rest
              | '\x7d' :: rest => return (insert name value seen, rest)
              | _ => none
          | _ => none
      | _ => none

/-- A value that nests no deeper than `depth`; `size` bounds the characters
that are left. -/
def readValue (size : Nat) : Nat → List Char → Option (Json × List Char)
  | depth, cs =>
      match cs with
      | 'n' :: 'u' :: 'l' :: 'l' :: rest => some (.null, rest)
      | 't' :: 'r' :: 'u' :: 'e' :: rest => some (.bool true, rest)
      | 'f' :: 'a' :: 'l' :: 's' :: 'e' :: rest => some (.bool false, rest)
      | '"' :: rest => (readText size [] rest).map fun (s, rest) => (.text s, rest)
      | '[' :: rest =>
          match depth with
          | 0 => none
          | depth + 1 =>
              match skipGaps rest with
              | ']' :: rest => some (.list [], rest)
              | rest =>
                  (readItems (readValue size depth) size [] rest).map
                    fun (items, rest) => (.list items, rest)
      | '\x7b' :: rest =>
          match depth with
          | 0 => none
          | depth + 1 =>
              match skipGaps rest with
              | '\x7d' :: rest => some (.object [], rest)
              | rest =>
                  (readMembers size (readValue size depth) size [] rest).map
                    fun (members, rest) => (.object members, rest)
      | _ => readNumber? cs

/-- The deepest nesting that is read. -/
def maxDepth : Nat := 127

/-- The value that a text holds, if it is one JSON value and nothing else. -/
def parse? (s : String) : Option Json := do
  let cs := s.toList
  let (value, rest) ← readValue cs.length maxDepth (skipGaps cs)
  if (skipGaps rest).isEmpty then some value else none

end Docket.Json
