import Docket.Http.Percent
import Docket.Text.Split

/-!
# Paths

The path of a URL in parts, with a slash before each. Two kinds of parts do
not stay: a dot is the place itself, and two dots the place above. Nothing
lies above a part that looks like a drive. A path of files begins with its
drive, if there is any, and has no empty parts in front.
-/

namespace Docket.Http

open Text (splitAll)

/-- What the scheme of a URL says about its place. -/
inductive SchemeKind where
  /-- A file, perhaps on a drive. -/
  | file
  /-- A place on a host with a domain name. -/
  | network
  /-- Anything else. -/
  | other
  deriving DecidableEq

/-- The character parts the path. -/
def SchemeKind.isSlash (kind : SchemeKind) (c : Char) : Bool :=
  c = '/' || (c = '\\' && kind ≠ .other)

/-- The path of a URL. -/
inductive Path where
  /-- Text without parts, as in a mail address. -/
  | plain (text : List Char)
  /-- Parts, a slash before each. If they are kept apart from the scheme, a dot
  stands before them. -/
  | segments (apart : Bool) (parts : List (List Char))

namespace Path

/-- The characters that are dropped wherever they stand. -/
def isDropped (c : Char) : Bool :=
  c = '\t' || c = '\n' || c = '\r'

/-- The text without the characters that are dropped. -/
def kept (cs : List Char) : List Char :=
  cs.filter fun c => !isDropped c

/-- A part that means the place itself. -/
def isHere (part : List Char) : Bool :=
  [".", "%2e"].contains (String.ofList (part.map Char.toLower))

/-- A part that means the place above. -/
def isAbove (part : List Char) : Bool :=
  ["..", ".%2e", "%2e.", "%2e%2e"].contains (String.ofList (part.map Char.toLower))

/-- A part that names a drive: a letter, and a colon or a bar. -/
def isDrive : List Char → Bool
  | [c, d] => c.isAlpha && (d == ':' || d == '|')
  | _ => false

/-- A part that looks like a drive, alone or before a backslash. -/
def looksLikeDrive (part : List Char) : Bool :=
  isDrive (part.take 2) && (part[2]?).all (· == '\\')

/-- The place above. -/
def above (before : List (List Char)) : List (List Char) :=
  if before.getLast?.any looksLikeDrive then before else before.dropLast

/-- The drive at the front of a part, and what follows it, where dropped
characters stand between the two. -/
def splitDrive? (part : List Char) : Option (List Char × List Char) :=
  let drive := (kept part).take 2
  let rest := (part.dropWhile (· ≠ ':')).drop 1
  if isDrive drive && drive.contains ':' && rest.head?.any isDropped && !(kept rest).isEmpty then
    some (drive, kept rest)
  else none

/-- Parts that have been passed, and whether they begin with a drive that was
named in full. -/
structure Walk where
  before : List (List Char)
  onDrive : Bool

/-- Follows one more part. -/
def Walk.step (kind : SchemeKind) (escape : List Char → List Char) (last : Bool) (w : Walk)
    (text : List Char) : Walk :=
  let atFront := kind = .file ∧ w.before.isEmpty
  let inside := if last then [[]] else []
  match if atFront then splitDrive? text else none with
  | some (drive, rest) => { w with before := [drive, escape rest] }
  | none =>
      let part := escape (kept text)
      if isAbove part then { w with before := above w.before ++ inside }
      else if isHere part then { w with before := w.before ++ inside }
      else if atFront ∧ isDrive part then ⟨[part.take 1 ++ [':']], true⟩
      else { w with before := w.before ++ [part] }

/-- Follows parts one after another. -/
def Walk.follow (kind : SchemeKind) (escape : List Char → List Char) (w : Walk) :
    List (List Char) → Walk
  | [] => w
  | [text] => w.step kind escape true text
  | text :: rest => Walk.follow kind escape (w.step kind escape false text) rest

/-- The parts without empty ones in front, where these are files. -/
def settle (kind : SchemeKind) (parts : List (List Char)) : List (List Char) :=
  if kind = .file then
    match parts.dropWhile List.isEmpty with
    | [] => [[]]
    | rest => rest
  else parts

/-- The walk along the path that a text describes. -/
def walk (kind : SchemeKind) (cs : List Char) : Walk :=
  let w := Walk.follow kind (Percent.encode Percent.pathSet) ⟨[], false⟩ (splitAll kind.isSlash cs)
  { w with before := settle kind w.before }

/-- The path without an empty last part, unless that is all. -/
def dropEmptyEnd (parts : List (List Char)) : List (List Char) :=
  if 2 ≤ parts.length ∧ parts.getLast? = some [] then parts.dropLast else parts

/-- Adds a segment at the end of a path. A lone slash is filled by it. Dots lead
nowhere, unless dropped characters hide them. -/
def pushSegment (kind : SchemeKind) (parts : List (List Char)) (segment : List Char) :
    List (List Char) :=
  let set := Percent.segmentSet.filter fun c => c ≠ '\\' || kind ≠ .other
  if segment = ['.'] ∨ segment = ['.', '.'] then parts
  else
    let base := if parts = [[]] then [] else parts
    settle kind (Walk.step kind (Percent.encode set) true ⟨base, false⟩ segment).before

/-- Adds segments at the end of the path; none when it has no parts. -/
def push? (kind : SchemeKind) (segments : List (List Char)) : Path → Option Path
  | .plain _ => none
  | .segments apart parts =>
      some (.segments apart (segments.foldl (pushSegment kind) (dropEmptyEnd parts)))

/-- The parts, kept apart from the scheme if they would be taken for a host. -/
def ofParts (hasHost : Bool) (parts : List (List Char)) : Path :=
  .segments (!hasHost && parts.head? == some [] && 2 ≤ parts.length) parts

/-- The path as text. -/
def chars : Path → List Char
  | .plain text => text
  | .segments apart parts => (if apart then ['/', '.'] else []) ++ parts.flatMap ('/' :: ·)

end Path

end Docket.Http
