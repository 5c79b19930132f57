import Docket.Wire.Codec

/-!
# Records on the wire

A record is described once, member by member, and the description both reads
and writes it. An object is read in two rounds. First every member that the
record knows is decoded in the order in which the object holds them, so the
first bad one decides the error. Then the record is put together in its own
order, where a missing member is an error or takes its default. A list is
read as the members in the record's order. Unknown members are passed over.
-/

namespace Docket.Wire

/-- What a member is when it is not there. -/
inductive Absent (α : Type) where
  /-- It has to be there. -/
  | refused
  /-- It takes a default. -/
  | default (value : α)
  /-- It takes a default in an object, but a list has to hold it. -/
  | defaultInObject (value : α)

/-- One member of a record `R`, for those who need not know its type. -/
structure Member (R : Type) where
  name : String
  /-- What is wrong with a value of the member, if anything. -/
  check : Json → Decoded Unit
  /-- The written value; none when the member is left out. -/
  write : R → Option Json

/-- The description of a record `R` up to a part that yields an `α`. -/
structure Record (R α : Type) where
  members : List (Member R)
  /-- Puts the part together from the members of an object. -/
  ofObject : (String → Option Json) → Decoded α
  /-- Puts the part together from the front of a list and returns what is left
  of it; `wanted` describes the whole record. -/
  ofList : (wanted : String) → List Json → Decoded (α × List Json)

namespace Record

variable {R α β : Type}

/-- The description that reads nothing. -/
def start (a : α) : Record R α where
  members := []
  ofObject _ := .ok a
  ofList _ items := .ok (a, items)

/-- Adds a member at the end. `keep` says whether a value is written. -/
def member (p : Record R (α → β)) (name : String) (get : R → α) (c : Codec α)
    (absent : Absent α) (keep : α → Bool) : Record R β where
  members := p.members ++
    [{ name
       check := fun value => (c.read value).map fun _ => ()
       write := fun r => if keep (get r) then some (c.write (get r)) else none }]
  ofObject find := do
    let f ← p.ofObject find
    match find name, absent with
    | some value, _ => (c.read value).map f
    | none, .refused => .error (.missingField name)
    | none, .default a | none, .defaultInObject a => return f a
  ofList wanted items := do
    let (f, rest) ← p.ofList wanted items
    match rest, absent with
    | value :: rest, _ => return (f (← c.read value), rest)
    | [], .default a => return (f a, [])
    | [], _ => .error (.wrongLength p.members.length wanted)

/-- A member that has to be there. -/
def needs (p : Record R (α → β)) (name : String) (get : R → α) (c : Codec α) : Record R β :=
  p.member name get c .refused fun _ => true

/-- A member with a default. -/
def defaults (p : Record R (α → β)) (name : String) (get : R → α) (c : Codec α) (a : α) :
    Record R β :=
  p.member name get c (.default a) fun _ => true

/-- A member that may be null or missing, and is left out when it is none. -/
def optional (p : Record R (Option α → β)) (name : String) (get : R → Option α) (c : Codec α) :
    Record R β :=
  p.member name get c.nullable (.default none) Option.isSome

/-- A member that may be null or missing, and is written as null when it is
none. -/
def nullable (p : Record R (Option α → β)) (name : String) (get : R → Option α) (c : Codec α) :
    Record R β :=
  p.member name get c.nullable (.default none) fun _ => true

/-- Like `nullable`, but a list has to hold the member. -/
def nullableInObject (p : Record R (Option α → β)) (name : String) (get : R → Option α)
    (c : Codec α) : Record R β :=
  p.member name get c.nullable (.defaultInObject none) fun _ => true

/-- How many members a record has, for a reader. -/
def wanted (r : Record R R) (kind : String) : String :=
  kind ++ " with " ++ toString r.members.length
    ++ if r.members.length = 1 then " element" else " elements"

/-- What is wrong with the first bad member that the object holds. -/
def checkMembers (r : Record R α) (members : List (String × Json)) : Decoded Unit :=
  members.forM fun (name, value) =>
    match r.members.find? fun m => m.name == name with
    | some m => m.check value
    | none => .ok ()

/-- Reads the record from the members of an object. -/
def readObject (r : Record R R) (members : List (String × Json)) : Decoded R := do
  r.checkMembers members
  r.ofObject (Json.get? members)

/-- Reads the record from the items of a list; `surplus` says whether there may
be more of them than members. -/
def readList (r : Record R R) (surplus : Bool) (kind : String) (items : List Json) :
    Decoded R := do
  let (a, rest) ← r.ofList (r.wanted kind) items
  if surplus || rest.isEmpty then return a
  .error (.wrongLength items.length "fewer elements in array")

/-- The members that are written, in the record's order. -/
def written (r : Record R α) (a : R) : List (String × Json) :=
  r.members.filterMap fun m => (m.write a).map fun value => (m.name, value)

/-- The codec of a described record; `surplus` says whether a list that is read
may have more items than the record has members. -/
def codecOf (r : Record R R) (surplus : Bool) (name : String) : Codec R where
  read
    | .object members => r.readObject members
    | .list items => r.readList surplus ("struct " ++ name) items
    | other => .error (.wrongType (.of other) ("struct " ++ name))
  write a := .object (r.written a)

/-- The codec of a described record. -/
def codec (r : Record R R) (name : String) : Codec R :=
  r.codecOf false name

end Record

end Docket.Wire
