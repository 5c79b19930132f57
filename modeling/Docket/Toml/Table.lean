import Docket.Json.Basic

/-!
# Tables of a TOML document

A document is a tree of tables that grows by headers and by keys. A key is
set once. A header may define a table that so far only stands above others,
once. A dotted key reaches through tables that dotted keys have made and
through no others; nothing reaches through a value.
-/

namespace Docket.Toml

mutual

/-- What stands behind a key. -/
inductive Item where
  | value (value : Json)
  | table (table : Table)
  /-- Tables under a repeated header, the latest first. -/
  | tables (latest : Table) (earlier : List Table)

/-- A table. -/
inductive Table where
  /-- `implied`: it only stands above others so far; `dotted`: a dotted key has
  made it. -/
  | mk (implied dotted : Bool) (entries : List (String × Item))

end

namespace Table

/-- A table that a header defines. -/
def empty : Table :=
  .mk false false []

/-- The table only stands above others so far. -/
def implied : Table → Bool
  | .mk implied _ _ => implied

/-- A dotted key has made the table. -/
def dotted : Table → Bool
  | .mk _ dotted _ => dotted

/-- The entries of a table. -/
def entries : Table → List (String × Item)
  | .mk _ _ entries => entries

/-- What stands behind a key. -/
def get? (t : Table) (key : String) : Option Item :=
  (t.entries.find? fun entry => entry.1 == key).map (·.2)

/-- Puts something behind a key, in place of what was there. -/
def set (t : Table) (key : String) (item : Item) : Table :=
  .mk t.implied t.dotted
    ((t.entries.filter fun entry => entry.1 != key) ++ [(key, item)])

/-- Changes the table that a path leads to. Tables that are missing on the way
are made; `viaDots` says whether a dotted key leads there. -/
def modify? (viaDots : Bool) (change : Table → Option Table) : List String → Table → Option Table
  | [], t => change t
  | key :: rest, t => do
      match t.get? key with
      | none => return t.set key (.table (← modify? viaDots change rest (.mk true viaDots [])))
      | some (.value _) => none
      | some (.table child) =>
          if viaDots ∧ !child.implied then none
          else return t.set key (.table (← modify? viaDots change rest child))
      | some (.tables latest earlier) =>
          return t.set key (.tables (← modify? viaDots change rest latest) earlier)

/-- Sets a key of a table that a dotted path leads to. -/
def assign? (path : List String) (key : String) (value : Json) : Table → Option Table :=
  modify? true
    (fun t =>
      if t.dotted = path.isEmpty ∨ (t.get? key).isSome then none
      else some (t.set key (.value value)))
    path

/-- Defines the table of a header. -/
def define? (path : List String) (key : String) : Table → Option Table :=
  modify? false
    (fun t =>
      match t.get? key with
      | none => some (t.set key (.table empty))
      | some (.table child) =>
          if child.implied ∧ !child.dotted then
            some (t.set key (.table (.mk false false child.entries)))
          else none
      | some _ => none)
    path

/-- Adds a table under a repeated header. -/
def append? (path : List String) (key : String) : Table → Option Table :=
  modify? false
    (fun t =>
      match t.get? key with
      | none => some (t.set key (.tables empty []))
      | some (.tables latest earlier) => some (t.set key (.tables empty (latest :: earlier)))
      | some _ => none)
    path

mutual

/-- The members of a table as an object. -/
def toJson : Table → Json
  | .mk _ _ entries => .object (entriesJson entries)

/-- Entries as members in ascending order. -/
def entriesJson : List (String × Item) → List (String × Json)
  | [] => []
  | (key, item) :: rest => Json.insert key (itemJson item) (entriesJson rest)

/-- What stands behind a key as a value. -/
def itemJson : Item → Json
  | .value value => value
  | .table table => toJson table
  | .tables latest earlier => .list (tablesJson [toJson latest] earlier)

/-- Tables, the latest first, in front of others. -/
def tablesJson (behind : List Json) : List Table → List Json
  | [] => behind
  | table :: earlier => tablesJson (toJson table :: behind) earlier

end

end Table

end Docket.Toml
