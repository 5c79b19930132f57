import Docket.Json.Basic
import Docket.Text.Quoted

/-!
# Codecs

A codec reads a value from JSON and writes it back. Reading says what was
wrong: a value of another type, a number out of range, a name outside an
enumeration, a member that is missing. A codec is lawful when it reads back
everything it writes.
-/

namespace Docket.Wire

/-- What stands where something else was wanted. -/
inductive Found where
  | null
  | bool (value : Bool)
  | int (value : Int)
  | real (value : Json.Decimal)
  | text (value : String)
  | list
  | object

namespace Found

/-- What a JSON value is, without what it contains. -/
def of : Json → Found
  | .null => .null
  | .bool b => .bool b
  | .int n => .int n
  | .real d => .real d
  | .text s => .text s
  | .list _ => .list
  | .object _ => .object

/-- The words for it. -/
def words : Found → String
  | .null => "null"
  | .bool true => "boolean `true`"
  | .bool false => "boolean `false`"
  | .int n => "integer `" ++ toString n ++ "`"
  | .real d => "floating point `" ++ d.render ++ "`"
  | .text s => "string " ++ Text.quoted s
  | .list => "sequence"
  | .object => "map"

end Found

/-- Why a JSON value is not one of the type that was wanted. -/
inductive DecodeError where
  /-- A value of another type. -/
  | wrongType (found : Found) (wanted : String)
  /-- A value of the right type outside the range. -/
  | wrongValue (found : Found) (wanted : String)
  /-- A list of the wrong length where a record was wanted. -/
  | wrongLength (length : Nat) (wanted : String)
  /-- A member that has to be there is not. -/
  | missingField (name : String)
  /-- A name that the enumeration does not have. -/
  | unknownName (name : String) (known : List String)
  /-- None of the alternatives of a union fits. -/
  | noAlternative (union : String)

namespace DecodeError

/-- The names of an enumeration as they are listed to a reader. -/
def listing : List String → String
  | [] => "there are no variants"
  | [a] => "expected `" ++ a ++ "`"
  | [a, b] => "expected `" ++ a ++ "` or `" ++ b ++ "`"
  | names => "expected one of " ++ String.intercalate ", " (names.map fun n => "`" ++ n ++ "`")

/-- The text of the error. -/
def message : DecodeError → String
  | .wrongType found wanted => "invalid type: " ++ found.words ++ ", expected " ++ wanted
  | .wrongValue found wanted => "invalid value: " ++ found.words ++ ", expected " ++ wanted
  | .wrongLength n wanted => "invalid length " ++ toString n ++ ", expected " ++ wanted
  | .missingField name => "missing field `" ++ name ++ "`"
  | .unknownName name known => "unknown variant `" ++ name ++ "`, " ++ listing known
  | .noAlternative union => "data did not match any variant of untagged enum " ++ union

end DecodeError

/-- The outcome of reading a value. -/
abbrev Decoded (α : Type) := Except DecodeError α

/-- How values of a type are read from JSON and written to it. -/
structure Codec (α : Type) where
  read : Json → Decoded α
  write : α → Json

namespace Codec

variable {α : Type}

/-- The codec reads back all that it writes. -/
def Lawful (c : Codec α) : Prop :=
  ∀ a, c.read (c.write a) = .ok a

/-- Any JSON value at all. -/
def json : Codec Json :=
  ⟨.ok, id⟩

/-- Text. -/
def text : Codec String where
  read
    | .text s => .ok s
    | other => .error (.wrongType (.of other) "a string")
  write := .text

/-- A truth value. -/
def bool : Codec Bool where
  read
    | .bool b => .ok b
    | other => .error (.wrongType (.of other) "a boolean")
  write := .bool

/-- A whole number from `low` to `high`, kept as a word of that range. -/
def word (name : String) (low high : Int) (ofInt : Int → α) (toInt : α → Int) : Codec α where
  read
    | .int n =>
        if low ≤ n ∧ n ≤ high then .ok (ofInt n) else .error (.wrongValue (.int n) name)
    | other => .error (.wrongType (.of other) name)
  write a := .int (toInt a)

/-- An unsigned number of 32 bits. -/
def uint32 : Codec UInt32 :=
  word "u32" 0 4294967295 (fun n => UInt32.ofNat n.toNat) (fun n => n.toNat)

/-- An unsigned number of 64 bits. -/
def uint64 : Codec UInt64 :=
  word "u64" 0 18446744073709551615 (fun n => UInt64.ofNat n.toNat) (fun n => n.toNat)

/-- A signed number of 32 bits. -/
def int32 : Codec Int32 :=
  word "i32" (-2147483648) 2147483647 Int32.ofInt Int32.toInt

/-- A signed number of 64 bits. -/
def int64 : Codec Int64 :=
  word "i64" (-9223372036854775808) 9223372036854775807 Int64.ofInt Int64.toInt

/-- A list, read from front to back. -/
def list (c : Codec α) : Codec (List α) where
  read
    | .list items => items.mapM c.read
    | other => .error (.wrongType (.of other) "a sequence")
  write as := .list (as.map c.write)

/-- A value or null. -/
def nullable (c : Codec α) : Codec (Option α) where
  read
    | .null => .ok none
    | value => (c.read value).map some
  write := Json.ofOption c.write

/-- One of finitely many named values. An object with the name as its only
key and null behind it is the same as the name. -/
def named (all : List α) (name : α → String) : Codec α where
  read value :=
    let find (s : String) : Decoded α :=
      match all.find? fun a => name a == s with
      | some a => .ok a
      | none => .error (.unknownName s (all.map name))
    match value with
    | .text s => find s
    | .object [(s, inner)] => do
        let a ← find s
        match inner with
        | .null => return a
        | other => .error (.wrongType (.of other) "unit")
    | .object _ => .error (.wrongValue .object "map with a single key")
    | other => .error (.wrongType (.of other) "string or map")
  write a := .text (name a)

/-- A codec for a type that stands for another one. -/
def via {β : Type} (c : Codec α) (wrap : α → β) (unwrap : β → α) : Codec β where
  read value := (c.read value).map wrap
  write b := c.write (unwrap b)

end Codec

end Docket.Wire
