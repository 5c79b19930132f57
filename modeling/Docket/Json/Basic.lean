import Docket.Json.Decimal

/-!
# JSON values

The values that cross the wire. Whole numbers and other numbers are told
apart, since `1` and `1.0` are different on the wire. An object is a list of
members; one that was read holds each key once, in ascending order, and
decoding meets the members in that order.
-/

namespace Docket

/-- A JSON value. -/
inductive Json where
  | null
  | bool (value : Bool)
  | int (value : Int)
  | real (value : Json.Decimal)
  | text (value : String)
  | list (items : List Json)
  | object (members : List (String × Json))

namespace Json

instance : Inhabited Json := ⟨.null⟩

/-- The value of a member, if the object has one of that name. -/
def get? (members : List (String × Json)) (name : String) : Option Json :=
  (members.find? fun member => member.1 == name).map (·.2)

/-- Puts a member at its place in ascending key order; an older one of the
same name gives way. -/
def insert (name : String) (value : Json) : List (String × Json) → List (String × Json)
  | [] => [(name, value)]
  | (key, old) :: rest =>
      if name < key then (name, value) :: (key, old) :: rest
      else if name = key then (name, value) :: rest
      else (key, old) :: insert name value rest

/-- One character of a text between its quotes. -/
def textChar (c : Char) : List Char :=
  if c = '"' then ['\\', '"']
  else if c = '\\' then ['\\', '\\']
  else if c = '\n' then ['\\', 'n']
  else if c = '\r' then ['\\', 'r']
  else if c = '\t' then ['\\', 't']
  else if c = '\x08' then ['\\', 'b']
  else if c = '\x0c' then ['\\', 'f']
  else if c.toNat < 0x20 then
    ['\\', 'u', '0', '0', Nat.digitChar (c.toNat / 16), Nat.digitChar (c.toNat % 16)]
  else [c]

/-- A text in quotes. -/
def textChars (s : String) : List Char :=
  '"' :: s.toList.flatMap textChar ++ ['"']

mutual

/-- The value without any spaces. -/
def chars : Json → List Char
  | .null => ['n', 'u', 'l', 'l']
  | .bool true => ['t', 'r', 'u', 'e']
  | .bool false => ['f', 'a', 'l', 's', 'e']
  | .int value => (toString value).toList
  | .real value => value.render.toList
  | .text value => textChars value
  | .list items => '[' :: itemChars items ++ [']']
  | .object members => '\x7b' :: memberChars members ++ ['\x7d']

/-- The items of a list with commas between them. -/
def itemChars : List Json → List Char
  | [] => []
  | [item] => chars item
  | item :: rest => chars item ++ ',' :: itemChars rest

/-- The members of an object with commas between them. -/
def memberChars : List (String × Json) → List Char
  | [] => []
  | [(name, value)] => textChars name ++ ':' :: chars value
  | (name, value) :: rest => textChars name ++ ':' :: chars value ++ ',' :: memberChars rest

end

/-- The value as text without any spaces. -/
def render (value : Json) : String :=
  String.ofList value.chars

/-- An optional value; none is null. -/
def ofOption {α : Type} (write : α → Json) : Option α → Json
  | some a => write a
  | none => .null

end Json

end Docket
