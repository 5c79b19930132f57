import Docket.Http.Domain
import Docket.Http.Percent

/-!
# Hosts

The host of a URL in its one written form. What ends in a number is an IPv4
address, what stands in brackets an IPv6 address, and all else a domain name,
or any name at all where the scheme has no domain names.
-/

namespace Docket.Http

open Text (hexValue? hexDigits splitAll)

/-- Why text is no URL. -/
inductive BadUrl where
  | noScheme
  | emptyHost
  | badDomain
  | badCharacter
  | badPort
  | badIPv4
  | badIPv6
  deriving DecidableEq

/-- What is wrong, in words. -/
def BadUrl.message : BadUrl → String
  | .noScheme => "relative URL without a base"
  | .emptyHost => "empty host"
  | .badDomain => "invalid international domain name"
  | .badCharacter => "invalid domain character"
  | .badPort => "invalid port number"
  | .badIPv4 => "invalid IPv4 address"
  | .badIPv6 => "invalid IPv6 address"

namespace Host

/-- The number that a part of an IPv4 address names: decimal, hexadecimal behind
`0x`, or octal behind `0`. -/
def number? (part : List Char) : Option Nat :=
  let inBase (base : Nat) (ds : List Char) : Option Nat :=
    ds.foldlM (fun n c => do
      let d ← hexValue? c
      if d < base then some (n * base + d) else none) 0
  match part with
  | [] => none
  | '0' :: 'x' :: ds | '0' :: 'X' :: ds => inBase 16 ds
  | '0' :: d :: ds => inBase 8 (d :: ds)
  | ds => inBase 10 ds

/-- The parts of a dotted name, without an empty last one. -/
def dottedParts (host : List Char) : List (List Char) :=
  let parts := splitAll (· = '.') host
  if parts.length ≠ 1 ∧ parts.getLast? = some [] then parts.dropLast else parts

/-- The last part of the name is a number. -/
def endsInNumber (host : List Char) : Bool :=
  match (dottedParts host).getLast? with
  | some part => (!part.isEmpty && part.all Char.isDigit) || (number? part).isSome
  | none => false

/-- The IPv4 address that a name spells. -/
def ipv4 (host : List Char) : Except BadUrl (List Char) := do
  let some ns := (dottedParts host).mapM number? | .error .badIPv4
  let some last := ns.getLast? | .error .badIPv4
  let front := ns.dropLast
  if 3 < front.length ∨ front.any (255 < ·) ∨ Nat.pow 256 (4 - front.length) ≤ last then
    .error .badIPv4
  let value := (front.mapIdx fun i n => n * Nat.pow 256 (3 - i)).foldl (· + ·) last
  let bytes := [value / 16777216, value / 65536 % 256, value / 256 % 256, value % 256]
  return (".".intercalate (bytes.map toString)).toList

/-- A piece of an IPv6 address. -/
def piece? (part : List Char) : Option Nat :=
  if part.isEmpty ∨ 4 < part.length then none
  else part.foldlM (fun n c => (hexValue? c).map (n * 16 + ·)) 0

/-- The two pieces that a dotted end of an IPv6 address stands for. -/
def dottedPieces? (part : List Char) : Option (List Nat) := do
  let bytes ← (splitAll (· = '.') part).mapM fun ds =>
    if ds.isEmpty ∨ 3 < ds.length ∨ (ds.head? = some '0' ∧ ds.length ≠ 1) then none
    else
      match ds.foldlM (fun n c => if c.isDigit then some (n * 10 + (c.toNat - 48)) else none) 0 with
      | some n => if n < 256 then some n else none
      | none => none
  match bytes with
  | [a, b, c, d] => some [a * 256 + b, c * 256 + d]
  | _ => none

/-- The pieces of one side of an IPv6 address; only the last part of the whole
may be dotted. -/
def pieces? (last : Bool) (side : List Char) : Option (List Nat) := do
  if side.isEmpty then return []
  let parts := splitAll (· = ':') side
  let some final := parts.getLast? | none
  let front ← parts.dropLast.mapM piece?
  if last ∧ final.contains '.' then return front ++ (← dottedPieces? final)
  return front ++ [← piece? final]

/-- The two sides of the first double colon. -/
def splitGap : List Char → Option (List Char × List Char)
  | ':' :: ':' :: rest => some ([], rest)
  | c :: rest => (splitGap rest).map fun (a, b) => (c :: a, b)
  | [] => none

/-- The eight pieces of an IPv6 address. -/
def ipv6Pieces? (cs : List Char) : Option (List Nat) :=
  match splitGap cs with
  | none => do
      let ps ← pieces? true cs
      if ps.length = 8 then some ps else none
  | some (left, right) => do
      let front ← pieces? false left
      let back ← pieces? true right
      if 7 < front.length + back.length then none
      return front ++ List.replicate (8 - front.length - back.length) 0 ++ back

/-- How many zeros stand at the front. -/
def zeros (ps : List Nat) : Nat :=
  (ps.takeWhile (· = 0)).length

/-- Where the first of the longest runs of zeros begins, and how long it is. -/
def longestGap (ps : List Nat) : Nat × Nat :=
  (List.range ps.length).foldl (fun (start, size) i =>
    let here := zeros (ps.drop i)
    if size < here then (i, here) else (start, size)) (0, 0)

/-- The written form of an IPv6 address. -/
def ipv6Chars (ps : List Nat) : List Char :=
  let written (ps : List Nat) : List Char :=
    [':'].intercalate (ps.map hexDigits)
  let (start, size) := longestGap ps
  if size < 2 then written ps
  else written (ps.take start) ++ ':' :: ':' :: written (ps.drop (start + size))

/-- The IPv6 address that stands behind an opening bracket. -/
def bracketed (cs : List Char) : Except BadUrl (List Char) :=
  match cs.getLast?, ipv6Pieces? cs.dropLast with
  | some ']', some ps => .ok ('[' :: ipv6Chars ps ++ [']'])
  | _, _ => .error .badIPv6

/-- A host of a scheme that has domain names. -/
def domain (cs : List Char) : Except BadUrl (List Char) := do
  match cs with
  | '[' :: rest => bracketed rest
  | _ =>
      let some name := Text.ofBytes? (Percent.decode cs) | .error .badDomain
      let some host := Domain.written? name.toList | .error .badDomain
      if host.isEmpty then .error .emptyHost
      if endsInNumber host then ipv4 host else return host

/-- What no name may hold. -/
def forbidden : List Char :=
  ['\x00', ' ', '#', '/', ':', '<', '>', '?', '@', '[', '\\', ']', '^', '|']

/-- A host of any other scheme. -/
def name (cs : List Char) : Except BadUrl (List Char) :=
  match cs with
  | '[' :: rest => bracketed rest
  | _ => if cs.any forbidden.contains then .error .badCharacter else .ok (Percent.encode [] cs)

end Host

end Docket.Http
