/-!
# Files

A tree of files. A place is the list of names on the way to it. A directory
is there when it was made or when something is in it. A path is walked name
by name from the top, and all but its last name have to be directories that
are there: a path cannot go through a missing directory, not even when it
comes back out of it.
-/

namespace Docket

/-- A place in the tree. -/
abbrev Place :=
  List String

/-- One file. -/
structure File where
  place : Place
  bytes : List UInt8

/-- All files, and the directories that were made for their own sake. -/
structure Files where
  files : List File
  directories : List Place

/-- Why nothing can be done with a path. -/
inductive PathFault where
  | missing
  /-- A name on the way is that of a file. -/
  | notDirectory
  | isDirectory
  /-- Something is there already. -/
  | taken
  | tooLong
  /-- A zero character is in the path. -/
  | zero
  /-- Any other. -/
  | refused
  deriving DecidableEq

/-- What is wrong with a path, in words. -/
def PathFault.message : PathFault → String
  | .missing => "No such file or directory (os error 2)"
  | .notDirectory => "Not a directory (os error 20)"
  | .isDirectory => "Is a directory (os error 21)"
  | .taken => "File exists (os error 17)"
  | .tooLong => "File name too long (os error 36)"
  | .zero => "file name contained an unexpected NUL byte"
  | .refused => "Permission denied (os error 13)"

/-- The longest name, in bytes. -/
def longestName : Nat := 255

/-- The longest path, in bytes. -/
def longestPath : Nat := 4095

/-- The names of a path between its slashes. -/
def pathNames (path : String) : List String :=
  (path.splitOn "/").filter (· ≠ "")

/-- The place to which names lead, given the place so far, if all directories on
the way are there. -/
def placeOf (before : Place) : List String → Place
  | [] => before
  | ".." :: rest => placeOf before.dropLast rest
  | "." :: rest => placeOf before rest
  | name :: rest => placeOf (before ++ [name]) rest

/-- The place of a path, if all directories on the way are there. -/
def Place.ofPath (path : String) : Place :=
  placeOf [] (pathNames path)

/-- The last name of a path, unless it leads upwards. -/
def fileName? (path : String) : Option String :=
  match ((pathNames path).filter (· ≠ ".")).getLast? with
  | some name => if name = ".." then none else some name
  | none => none

/-- The path of a name below another path. -/
def joinPath (path name : String) : String :=
  if path.isEmpty ∨ path.endsWith "/" then path ++ name else path ++ "/" ++ name

/-- Pieces of a path, the last first, without those at the end that say nothing.
A dot that begins the path stays. -/
def trimPieces : List String → List String
  | "" :: rest => trimPieces rest
  | "." :: before :: rest => trimPieces (before :: rest)
  | pieces => pieces

/-- The path of the directory in which the last name of a path stands. -/
def parentPath (path : String) : String :=
  let above := trimPieces ((trimPieces (path.splitOn "/").reverse).drop 1)
  if above.isEmpty ∧ path.startsWith "/" then "/" else String.intercalate "/" above.reverse

namespace Files

/-- No files. -/
def none : Files :=
  ⟨[], []⟩

/-- The file at a place. -/
def file? (t : Files) (place : Place) : Option File :=
  t.files.find? fun f => f.place == place

/-- There is a directory at a place. -/
def hasDirectory (t : Files) (place : Place) : Bool :=
  place.isEmpty || (t.directories.any fun d => place.isPrefixOf d)
    || t.files.any fun f => place.length < f.place.length && place.isPrefixOf f.place

/-- Puts a file at a place, in place of the one that was there. -/
def put (t : Files) (place : Place) (bytes : List UInt8) : Files :=
  { t with files := t.files.filter (fun f => f.place != place) ++ [⟨place, bytes⟩] }

/-- Goes from one directory to another by its name. -/
def enter (t : Files) (here : Place) (name : String) : Except PathFault Place :=
  if name = "." then .ok here
  else if name = ".." then .ok here.dropLast
  else if longestName < name.utf8ByteSize then .error .tooLong
  else
    let there := here ++ [name]
    if t.hasDirectory there then .ok there
    else if (t.file? there).isSome then .error .notDirectory
    else .error .missing

/-- Goes from the top through directories. -/
def walk (t : Files) (names : List String) : Except PathFault Place :=
  names.foldlM t.enter []

/-- The names of a path that can be walked. -/
def namesOf (path : String) : Except PathFault (List String) :=
  if path.contains '\x00' then .error .zero
  else if longestPath < path.utf8ByteSize then .error .tooLong
  else if path.isEmpty then .error .missing
  else .ok (pathNames path)

/-- Where the last name of a path leads. -/
inductive Target where
  | directory
  | file (f : File)
  /-- Nothing is at this place. -/
  | free (place : Place)

/-- Follows names to the last one. -/
def target (t : Files) (names : List String) : Except PathFault Target := do
  match names.getLast? with
  | .none => return .directory
  | some name =>
      let here ← t.walk names.dropLast
      match t.enter here name, t.file? (here ++ [name]) with
      | .ok _, _ => return .directory
      | .error .notDirectory, some f => return .file f
      | .error .missing, _ => return .free (here ++ [name])
      | .error fault, _ => .error fault

/-- The content of the file at a path. -/
def read (t : Files) (path : String) : Except PathFault (List UInt8) := do
  match ← t.target (← namesOf path) with
  | .directory => .error .isDirectory
  | .file f => if path.endsWith "/" then .error .notDirectory else return f.bytes
  | .free _ => .error .missing

/-- Writes the file at a path, in place of the one that was there. -/
def write (t : Files) (path : String) (bytes : List UInt8) : Except PathFault Files := do
  match ← t.target (← namesOf path) with
  | .directory => .error .isDirectory
  | .file f => if path.endsWith "/" then .error .notDirectory else return t.put f.place bytes
  | .free place => if path.endsWith "/" then .error .isDirectory else return t.put place bytes

/-- Makes one directory. -/
def makeDirectory (t : Files) (names : List String) : Except PathFault Files := do
  match ← t.target names with
  | .free place => return { t with directories := t.directories ++ [place] }
  | _ => .error .taken

/-- Makes a directory, given by its names from the last to the first, and those
above it that are missing. -/
def makeDirectories (t : Files) : List String → Except PathFault Files
  | [] => .ok t
  | name :: above =>
      let names := (name :: above).reverse
      let leave (t : Files) : PathFault → Except PathFault Files
        | .taken => (t.walk names).mapError (fun _ => .taken) |>.map fun _ => t
        | fault => .error fault
      match t.makeDirectory names with
      | .ok t => .ok t
      | .error .missing => do
          let t ← t.makeDirectories above
          match t.makeDirectory names with
          | .ok t => .ok t
          | .error fault => leave t fault
      | .error fault => leave t fault

/-- Makes the directory at a path, and those above it that are missing. -/
def makePath (t : Files) (path : String) : Except PathFault Files := do
  t.makeDirectories (← namesOf path).reverse

end Files

end Docket
