import Docket.Stamp.Date
import Docket.Text.Hex
import Docket.Toml.Table

/-!
# Reading TOML

A reader of TOML 1.0. A document becomes one object. Whole numbers have 64
bits with a sign. Other numbers and dates are told from all the rest by their
kind alone: nothing here needs what they say.
-/

namespace Docket.Toml

/-- A space within a line. -/
def isBlankChar (c : Char) : Bool :=
  c = ' ' ∨ c = '\t'

/-- A character that may stand in a comment or a literal text. -/
def isPlain (c : Char) : Bool :=
  c = '\t' ∨ (0x20 ≤ c.toNat ∧ c.toNat ≠ 0x7F)

/-- Steps over spaces within a line. -/
def skipBlanks (cs : List Char) : List Char :=
  cs.dropWhile isBlankChar

/-- Steps over a line end, if there is one. -/
def lineEnd? : List Char → Option (List Char)
  | '\n' :: rest => some rest
  | '\r' :: '\n' :: rest => some rest
  | _ => none

/-- Steps over spaces and a comment. -/
def skipComment (cs : List Char) : List Char :=
  match skipBlanks cs with
  | '#' :: rest => rest.dropWhile isPlain
  | rest => rest

/-- Steps over spaces, comments and line ends. -/
def skipLines : (fuel : Nat) → List Char → List Char
  | 0, cs => cs
  | fuel + 1, cs =>
      match lineEnd? (skipComment cs) with
      | some rest => skipLines fuel rest
      | none => skipComment cs

/-- The character that a number of hexadecimal digits names. -/
def codePoint? (width : Nat) (cs : List Char) : Option (Char × List Char) := do
  let ds ← (cs.take width).mapM Text.hexValue?
  let n := ds.foldl (· * 16 + ·) 0
  if ds.length = width ∧ n.isValidChar then some (Char.ofNat n, cs.drop width) else none

/-- The character of an escape, after the backslash. -/
def escape? : List Char → Option (Char × List Char)
  | 'b' :: rest => some ('\x08', rest)
  | 't' :: rest => some ('\t', rest)
  | 'n' :: rest => some ('\n', rest)
  | 'f' :: rest => some ('\x0c', rest)
  | 'r' :: rest => some ('\r', rest)
  | '"' :: rest => some ('"', rest)
  | '\\' :: rest => some ('\\', rest)
  | 'u' :: rest => codePoint? 4 rest
  | 'U' :: rest => codePoint? 8 rest
  | _ => none

/-- A text on one line up to its closing quote. -/
def basicText (fuel : Nat) (seen : List Char) (cs : List Char) : Option (String × List Char) :=
  match fuel, cs with
  | _, '"' :: rest => some (String.ofList seen.reverse, rest)
  | fuel + 1, '\\' :: rest => do
      let (c, rest) ← escape? rest
      basicText fuel (c :: seen) rest
  | fuel + 1, c :: rest => if isPlain c then basicText fuel (c :: seen) rest else none
  | _, _ => none

/-- A literal text on one line up to its closing quote. -/
def literalText (cs : List Char) : Option (String × List Char) :=
  let body := cs.takeWhile fun c => c ≠ '\''
  match cs.drop body.length with
  | _ :: rest => if body.all isPlain then some (String.ofList body, rest) else none
  | [] => none

/-- The closing quotes of a long text, of which two more may belong to it. -/
def closing? (quote : Char) (cs : List Char) : Option (Nat × List Char) :=
  let count := (cs.takeWhile (· = quote)).length
  if count < 3 then none else some (min (count - 3) 2, cs.drop (min count 5))

/-- Steps over spaces and line ends. -/
def skipGaps : List Char → List Char
  | '\r' :: '\n' :: rest => skipGaps rest
  | c :: rest => if isBlankChar c || c == '\n' then skipGaps rest else c :: rest
  | [] => []

/-- Steps over a line end behind a backslash and all gaps after it. -/
def continued? (cs : List Char) : Option (List Char) :=
  (lineEnd? (skipBlanks cs)).map skipGaps

/-- A long text up to its closing quotes; `escapes` says whether a backslash
means something. -/
def longText (quote : Char) (escapes : Bool) (fuel : Nat) (seen : List Char) (cs : List Char) :
    Option (String × List Char) :=
  match fuel with
  | 0 => none
  | fuel + 1 =>
      match closing? quote cs with
      | some (extra, rest) =>
          some (String.ofList (seen.reverse ++ List.replicate extra quote), rest)
      | none =>
          match lineEnd? cs, cs with
          | some rest, _ => longText quote escapes fuel ('\n' :: seen) rest
          | none, '\\' :: rest =>
              if escapes then
                match continued? rest with
                | some rest => longText quote escapes fuel seen rest
                | none => do
                    let (c, rest) ← escape? rest
                    longText quote escapes fuel (c :: seen) rest
              else longText quote escapes fuel ('\\' :: seen) rest
          | none, c :: rest =>
              if isPlain c then longText quote escapes fuel (c :: seen) rest else none
          | none, [] => none

/-- The characters of a long text without the line end at its front. -/
def afterOpening (cs : List Char) : List Char :=
  (lineEnd? cs).getD cs

/-- A text of any form. -/
def text? (cs : List Char) : Option (String × List Char) :=
  match cs with
  | '"' :: '"' :: '"' :: rest => longText '"' true (rest.length + 1) [] (afterOpening rest)
  | '"' :: rest => basicText rest.length [] rest
  | '\'' :: '\'' :: '\'' :: rest => longText '\'' false (rest.length + 1) [] (afterOpening rest)
  | '\'' :: rest => literalText rest
  | _ => none

/-- A character of a key without quotes. -/
def isBare (c : Char) : Bool :=
  c.isAlphanum ∨ c = '_' ∨ c = '-'

/-- One part of a key. -/
def simpleKey? (cs : List Char) : Option (String × List Char) :=
  match cs with
  | '"' :: rest => basicText rest.length [] rest
  | '\'' :: rest => literalText rest
  | _ =>
      let name := cs.takeWhile isBare
      if name.isEmpty then none else some (String.ofList name, cs.drop name.length)

/-- The deepest nesting that is read, and the most parts of a key. -/
def maxDepth : Nat := 79

/-- A key with its dots: the parts before the last one, and the last one.
`fuel` says how many parts it may have. -/
def key? :
    (fuel : Nat) → List String → List Char → Option ((List String × String) × List Char)
  | 0, _, _ => none
  | fuel + 1, before, cs => do
      let (name, rest) ← simpleKey? cs
      match skipBlanks rest with
      | '.' :: rest => key? fuel (before ++ [name]) (skipBlanks rest)
      | rest => return ((before, name), rest)

/-- Digits with single underscores between them. -/
def digits? (isDigit : Char → Bool) (cs : List Char) : Option (List Char) :=
  match cs with
  | [] => none
  | first :: rest =>
      if !isDigit first then none
      else
        (rest.foldl (fun state c =>
          state.bind fun (out, gap) =>
            if c = '_' then if gap then none else some (out, true)
            else if isDigit c then some (c :: out, false)
            else none) (some ([first], false))).bind fun (out, gap) =>
          if gap then none else some out.reverse

/-- The value of digits in a base. -/
def valueIn (base : Nat) (ds : List Char) : Nat :=
  ds.foldl (fun n c => n * base + (Text.hexValue? c).getD 0) 0

/-- A whole number that fits. -/
def fits? (n : Int) : Option Json :=
  if -9223372036854775808 ≤ n ∧ n ≤ 9223372036854775807 then some (.int n) else none

/-- The sign of a number. -/
def sign (cs : List Char) : Int × List Char :=
  match cs with
  | '+' :: rest => (1, rest)
  | '-' :: rest => (-1, rest)
  | _ => (1, cs)

/-- Decimal digits without a zero in front. -/
def decimal? (cs : List Char) : Option (List Char) := do
  let ds ← digits? Char.isDigit cs
  if ds.head? = some '0' ∧ cs.length ≠ 1 then none else some ds

/-- A whole number. -/
def integer? (cs : List Char) : Option Json :=
  match cs with
  | '0' :: 'x' :: rest =>
      (digits? (fun c => (Text.hexValue? c).isSome) rest).bind fun ds => fits? (valueIn 16 ds)
  | '0' :: 'o' :: rest =>
      (digits? (fun c => '0' ≤ c ∧ c ≤ '7') rest).bind fun ds => fits? (valueIn 8 ds)
  | '0' :: 'b' :: rest =>
      (digits? (fun c => c = '0' ∨ c = '1') rest).bind fun ds => fits? (valueIn 2 ds)
  | _ =>
      let (s, body) := sign cs
      (decimal? body).bind fun ds => fits? (s * valueIn 10 ds)

/-- Some number that is not a whole one. -/
def someReal : Json :=
  .real ⟨false, 0, 0⟩

/-- A number above all doubles: its digits around the point, and its power of
ten. -/
def isHuge (whole fraction : List Char) (power : Int) : Bool :=
  let ds := (whole ++ fraction).dropWhile (· = '0')
  let place := ds.length + power - fraction.length
  if ds.isEmpty ∨ place < 300 then false
  else if 320 < place then true
  else
    let (up, down) := Json.Binary.ratioPow 10 (power - fraction.length)
    (Json.Binary.nearest? (valueIn 10 ds * up) down).isNone

/-- A number that is not a whole one. With a minus it may be below all
doubles, without one it may not be above them. -/
def real? (cs : List Char) : Option Json :=
  let (s, body) := sign cs
  if body = ['i', 'n', 'f'] ∨ body = ['n', 'a', 'n'] then some someReal
  else
    let isPower : Char → Bool := fun c => c = 'e' ∨ c = 'E'
    let front := body.takeWhile fun c => !isPower c
    let power := body.drop front.length
    let whole := front.takeWhile (· ≠ '.')
    let fraction := front.drop whole.length
    if fraction.isEmpty ∧ power.isEmpty then none
    else do
      let whole ← decimal? whole
      let fraction ←
        match fraction with
        | [] => some []
        | _ :: rest => digits? Char.isDigit rest
      let power ←
        match power with
        | [] => some 0
        | _ :: rest =>
            (digits? Char.isDigit (sign rest).2).map fun ds => (sign rest).1 * valueIn 10 ds
      if s = -1 ∨ ¬isHuge whole fraction power then some someReal else none

/-- Some date or time of day. -/
def someDate : Json :=
  .object [("$__toml_private_datetime", .text "")]

/-- The number of two digits, if it is not above a bound. -/
def pair? (high : Nat) : List Char → Option (Nat × List Char)
  | a :: b :: rest =>
      let n := (a.toNat - 48) * 10 + (b.toNat - 48)
      if a.isDigit ∧ b.isDigit ∧ n ≤ high then some (n, rest) else none
  | _ => none

/-- Steps over one given character. -/
def mark? (c : Char) : List Char → Option (List Char)
  | d :: rest => if c = d then some rest else none
  | [] => none

/-- A time of day. -/
def timeOfDay? (cs : List Char) : Option (List Char) := do
  let (_, cs) ← pair? 23 cs
  let (_, cs) ← pair? 59 (← mark? ':' cs)
  let (_, cs) ← pair? 60 (← mark? ':' cs)
  match cs with
  | '.' :: rest =>
      let ds := rest.takeWhile Char.isDigit
      if ds.isEmpty then none else some (rest.drop ds.length)
  | _ => some cs

/-- A distance from UTC, or nothing. -/
def zone? (cs : List Char) : Option (List Char) :=
  match cs with
  | 'Z' :: rest | 'z' :: rest => some rest
  | '+' :: rest | '-' :: rest => do
      let (_, rest) ← pair? 23 rest
      let (_, rest) ← pair? 59 (← mark? ':' rest)
      return rest
  | _ => some cs

/-- A date, after which a time of day may follow. -/
def date? (cs : List Char) : Option (List Char) := do
  let (century, cs) ← pair? 99 cs
  let (year, cs) ← pair? 99 cs
  let (month, cs) ← pair? 12 (← mark? '-' cs)
  let (day, cs) ← pair? 31 (← mark? '-' cs)
  let _ ← Stamp.Date.of? (century * 100 + year) month day
  return cs

/-- A date, a time of day, or both. -/
def dateTime? (cs : List Char) : Option Json := do
  let rest ←
    match date? cs with
    | none => timeOfDay? cs
    | some [] => some []
    | some (c :: rest) => if c = 'T' ∨ c = 't' ∨ c = ' ' then timeOfDay? rest >>= zone? else none
  if rest.isEmpty then some someDate else none

/-- The characters of a number or a date. One space may stand between a date
and a time of day. -/
def scalarChars (cs : List Char) : List Char :=
  let isPart : Char → Bool := fun c =>
    c.isAlphanum || c == '+' || c == '-' || c == '_' || c == '.' || c == ':'
  let front := cs.takeWhile isPart
  match cs.drop front.length with
  | ' ' :: d :: rest =>
      if date? front = some [] ∧ d.isDigit then front ++ ' ' :: (d :: rest).takeWhile isPart
      else front
  | _ => front

/-- A number, a date or a truth value. -/
def scalar? (cs : List Char) : Option (Json × List Char) := do
  let token := scalarChars cs
  let value ←
    if token = ['t', 'r', 'u', 'e'] then some (.bool true)
    else if token = ['f', 'a', 'l', 's', 'e'] then some (.bool false)
    else (integer? token).orElse fun _ => (real? token).orElse fun _ => dateTime? token
  return (value, cs.drop token.length)

/-- The items of a list up to its closing bracket; `item` reads one. -/
def items? (size : Nat) (item : List Char → Option (Json × List Char)) :
    Nat → List Json → List Char → Option (List Json × List Char)
  | 0, _, _ => none
  | fuel + 1, seen, cs =>
      match skipLines size cs with
      | ']' :: rest => some (seen.reverse, rest)
      | cs => do
          let (value, rest) ← item cs
          match skipLines size rest with
          | ',' :: rest => items? size item fuel (value :: seen) rest
          | ']' :: rest => return ((value :: seen).reverse, rest)
          | _ => none

/-- The entries of a table on one line up to its closing brace. -/
def entries? (item : List Char → Option (Json × List Char)) :
    Nat → Table → List Char → Option (Table × List Char)
  | 0, _, _ => none
  | fuel + 1, t, cs => do
      let ((path, key), rest) ← key? maxDepth [] (skipBlanks cs)
      let (value, rest) ← item (skipBlanks (← mark? '=' rest))
      let t ← t.assign? path key value
      match skipBlanks rest with
      | ',' :: rest => entries? item fuel t rest
      | '\x7d' :: rest => return (t, rest)
      | _ => none

/-- A value that nests no deeper than `depth`. -/
def value? (size : Nat) : (depth : Nat) → List Char → Option (Json × List Char)
  | depth, cs =>
      match cs with
      | '"' :: _ | '\'' :: _ => (text? cs).map fun (s, rest) => (.text s, rest)
      | '[' :: rest =>
          match depth with
          | 0 => none
          | depth + 1 =>
              (items? size (value? size depth) size [] rest).map
                fun (items, rest) => (.list items, rest)
      | '\x7b' :: rest =>
          match depth with
          | 0 => none
          | depth + 1 =>
              match skipBlanks rest with
              | '\x7d' :: rest => some (.object [], rest)
              | rest =>
                  (entries? (value? size depth) size .empty rest).map
                    fun (t, rest) => (t.toJson, rest)
      | _ => scalar? cs

/-- A document that is being read: all tables, and where keys go. -/
structure Draft where
  root : Table
  place : List String

/-- Sets a key where keys go. -/
def Draft.assign? (d : Draft) (path : List String) (key : String) (value : Json) : Option Draft :=
  (d.root.modify? false (Table.assign? path key value) d.place).map fun root => { d with root }

/-- One line, after its gaps. -/
def line? (size : Nat) (d : Draft) (cs : List Char) : Option (Draft × List Char) :=
  match cs with
  | '[' :: '[' :: rest => do
      let ((path, key), rest) ← key? maxDepth [] (skipBlanks rest)
      let rest ← mark? ']' (← mark? ']' rest)
      return (⟨← d.root.append? path key, path ++ [key]⟩, rest)
  | '[' :: rest => do
      let ((path, key), rest) ← key? maxDepth [] (skipBlanks rest)
      let rest ← mark? ']' rest
      return (⟨← d.root.define? path key, path ++ [key]⟩, rest)
  | _ => do
      let ((path, key), rest) ← key? maxDepth [] cs
      let (value, rest) ← value? size maxDepth (skipBlanks (← mark? '=' rest))
      return (← d.assign? path key value, rest)

/-- All lines. -/
def lines? (size : Nat) : (fuel : Nat) → Draft → List Char → Option Table
  | 0, _, _ => none
  | fuel + 1, d, cs =>
      match skipLines size cs with
      | [] => some d.root
      | cs => do
          let (d, rest) ← line? size d cs
          let rest := skipComment rest
          if rest.isEmpty then return d.root
          lines? size fuel d (← lineEnd? rest)

/-- The object that a document holds. -/
def parse? (s : String) : Option Json :=
  let cs := s.toList
  let cs := if cs.head? = some '\uFEFF' then cs.drop 1 else cs
  let size := cs.length + 1
  (lines? size size ⟨.empty, []⟩ cs).map Table.toJson

end Docket.Toml
