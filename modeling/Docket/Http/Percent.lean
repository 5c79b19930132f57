import Docket.Text.Hex
import Docket.Text.Utf8

/-!
# Percent encoding

A character that may not stand in some place of a URL is written there as
its UTF-8 bytes, each as `%` and two hexadecimal digits. Every place has its
own set of such characters; none lets a control or anything beyond ASCII
stand.

Main statement: `decode_encode`, decoding gives the bytes back wherever `%`
itself is in the set.
-/

namespace Docket.Http

open Text

namespace Percent

/-- One byte behind a percent sign. -/
def byteChars (b : UInt8) : List Char :=
  ['%', hexUpper (b.toNat / 16), hexUpper (b.toNat % 16)]

/-- One character as its escaped bytes. -/
def charEscape (c : Char) : List Char :=
  (String.utf8EncodeChar c).flatMap byteChars

/-- A control character, or one beyond ASCII. -/
def isUnsafe (c : Char) : Bool :=
  c.toNat < 0x20 || 0x7F ≤ c.toNat

/-- The text with every unsafe character and those of `set` escaped. -/
def encode (set : List Char) (cs : List Char) : List Char :=
  cs.flatMap fun c => if isUnsafe c || set.contains c then charEscape c else [c]

/-- The bytes that escaped text stands for. A percent sign without two digits
behind it stands for itself. -/
def decode : List Char → List UInt8
  | [] => []
  | '%' :: a :: b :: rest =>
      match hexValue? a, hexValue? b with
      | some high, some low => UInt8.ofNat (high * 16 + low) :: decode rest
      | _, _ => String.utf8EncodeChar '%' ++ decode (a :: b :: rest)
  | c :: rest => String.utf8EncodeChar c ++ decode rest

/-- What is escaped in a fragment. -/
def fragmentSet : List Char :=
  [' ', '"', '<', '>', '\x60']

/-- What is escaped in a query. -/
def querySet : List Char :=
  [' ', '"', '#', '<', '>']

/-- What is escaped in a path. -/
def pathSet : List Char :=
  fragmentSet ++ ['#', '?', '\x7b', '\x7d']

/-- What is escaped in one segment of a path. -/
def segmentSet : List Char :=
  pathSet ++ ['/', '%', '\\']

/-- What is escaped in a name or a password. -/
def userSet : List Char :=
  pathSet ++ ['/', ':', ';', '=', '@', '[', '\\', ']', '^', '|']

/-- One character of a form value. -/
def formChar (c : Char) : List Char :=
  if c.isAlphanum ∨ c ∈ ['*', '-', '.', '_'] then [c]
  else if c = ' ' then ['+']
  else charEscape c

/-- A form value. -/
def formEncode (cs : List Char) : List Char :=
  cs.flatMap formChar

/-- The bytes that a form value stands for. -/
def formDecode (cs : List Char) : List UInt8 :=
  decode (cs.map fun c => if c = '+' then ' ' else c)

/-- An escaped byte decodes to itself. -/
theorem decode_byteChars (b : UInt8) (rest : List Char) :
    decode (byteChars b ++ rest) = b :: decode rest := by
  have hb : b.toNat < 256 := UInt8.toNat_lt b
  have high := hexValue?_hexUpper (n := b.toNat / 16) (by omega)
  have low := hexValue?_hexUpper (n := b.toNat % 16) (by omega)
  have whole : b.toNat / 16 * 16 + b.toNat % 16 = b.toNat := by omega
  simp [byteChars, decode, high, low, whole]

/-- A character that is no percent sign decodes to its own bytes. -/
theorem decode_cons_of_ne {c : Char} (h : c ≠ '%') (rest : List Char) :
    decode (c :: rest) = String.utf8EncodeChar c ++ decode rest := by
  rw [decode]
  intro _ _ _ hc
  exact absurd hc h

/-- Escaped bytes decode to those bytes. -/
theorem decode_flatMap_byteChars (bytes : List UInt8) (rest : List Char) :
    decode (bytes.flatMap byteChars ++ rest) = bytes ++ decode rest := by
  induction bytes with
  | nil => rfl
  | cons b more ih => simp [List.flatMap_cons, List.append_assoc, decode_byteChars, ih]

/-- Decoding gives the bytes back wherever the percent sign is escaped. -/
theorem decode_encode {set : List Char} (h : '%' ∈ set) (cs : List Char) :
    decode (encode set cs) = bytesOf cs := by
  induction cs with
  | nil => rfl
  | cons c rest ih =>
      simp only [encode, bytesOf, List.flatMap_cons] at ih ⊢
      by_cases hc : (isUnsafe c || set.contains c) = true
      · rw [if_pos hc, charEscape, decode_flatMap_byteChars, ih]
      · have hne : c ≠ '%' := by
          rintro rfl
          simp [h] at hc
        rw [if_neg hc, List.singleton_append, decode_cons_of_ne hne, ih]

end Percent

end Docket.Http
