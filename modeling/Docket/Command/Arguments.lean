import Docket.Command.Basic
import Docket.Stamp.Basic
import Docket.Text.Number

/-!
# Commands on the command line

How the arguments of the command line are read. The first one names the
command. Of the others some are flags, and the argument behind a flag is its
value, trimmed and not blank; all that is no flag is a word. Arguments are
read from the left, and the first that does not fit is the fault that is
told. Of a flag that is given twice the last value counts.
-/

namespace Docket

/-- What is wrong with a command line. -/
inductive UsageFault where
  | unknownCommand (name : String)
  | noValue (flag : String)
  | blankValue (flag : String)
  | unknownFlag (flag : String)
  /-- A flag behind a command that takes none. -/
  | foreignFlag (flag command : String)
  | unexpected (argument : String)
  | blankArgument (command : String)
  | wrongCount (command : String) (wanted given : Nat)
  | badLimit
  | unknownOrder (key : String)
  | unknownColumn (key : String)
  | badDate (text : String)
  | noRequest (command : String)
  | noTarget
  deriving DecidableEq

/-- What is wrong, in words. -/
def UsageFault.message : UsageFault → String
  | .unknownCommand name =>
      "Unknown command '" ++ name ++ "'. Run with --help for valid commands."
  | .noValue flag => "Missing value after " ++ flag ++ "."
  | .blankValue flag => "Flag '" ++ flag ++ "' requires a non-empty value."
  | .unknownFlag flag => "Unknown flag '" ++ flag ++ "'. Run with --help for valid flags."
  | .foreignFlag flag command =>
      "Unknown flag '" ++ flag ++ "' for '" ++ command ++ "'. Run with --help for valid flags."
  | .unexpected argument =>
      "Unexpected argument '" ++ argument ++ "'. Run with --help for valid flags."
  | .blankArgument command => "'" ++ command ++ "' arguments must not be empty."
  | .wrongCount command wanted given =>
      "'" ++ command ++ "' expects " ++ toString wanted ++ " argument(s), got "
        ++ toString given ++ ". Run with --help for usage."
  | .badLimit => "--limit must be a positive integer."
  | .unknownOrder key =>
      "Unknown sort mode '" ++ key ++ "'. Use updated_desc, created_asc or important_date."
  | .unknownColumn key => "Unknown column '" ++ key ++ "'. Use NEW, IN_PROGRESS, WAITING or DONE."
  | .badDate text => "--important-date '" ++ text ++ "' is not an RFC 3339 timestamp."
  | .noRequest command => "'" ++ command ++ "' needs a request id."
  | .noTarget => "'move' needs --column or --status to know where the request goes."

/-- The outcome of reading arguments. -/
abbrev Usage (α : Type) :=
  Except UsageFault α

namespace Arguments

/-- The argument looks like a flag. -/
def isFlag (argument : String) : Bool :=
  Text.startsWith argument "--"

/-- The fault of an argument for which there is no place. -/
def stray (argument : String) : UsageFault :=
  if isFlag argument then .unknownFlag argument else .unexpected argument

/-- One piece of a command line, with the flags of its command. -/
inductive Piece (φ : Type) where
  | option (flag : φ) (value : String)
  | word (text : String)

/-- The value of a flag. -/
def valueOf (flag text : String) : Usage String :=
  match Text.filled? text with
  | some value => .ok value
  | none => .error (.blankValue flag)

/-- Takes the pieces of a command line one after another. -/
def takePieces {φ α : Type} (flag? : String → Option φ) (take : α → Piece φ → Usage α) :
    α → List String → Usage α
  | a, [] => .ok a
  | a, [argument] =>
      match flag? argument with
      | some _ => .error (.noValue argument)
      | none => take a (.word argument)
  | a, argument :: text :: rest =>
      match flag? argument with
      | some flag => do
          let value ← valueOf argument text
          let a ← take a (.option flag value)
          takePieces flag? take a rest
      | none => do
          let a ← take a (.word argument)
          takePieces flag? take a (text :: rest)

/-- Takes the request to which a command refers; there is one only. -/
def takeRequest (request? : Option RequestId) (argument : String) : Usage RequestId :=
  if isFlag argument then .error (.unknownFlag argument)
  else
    match request?, Text.filled? argument with
    | none, some id => .ok ⟨id⟩
    | _, _ => .error (.unexpected argument)

/-- The request that a command needs. -/
def needRequest (command : String) (request? : Option RequestId) : Usage RequestId :=
  match request? with
  | some request => .ok request
  | none => .error (.noRequest command)

/-- The flags of the board. -/
inductive BoardFlag where
  | limit
  | order

/-- The flag of the board with a name. -/
def BoardFlag.ofName? : String → Option BoardFlag
  | "--limit" => some .limit
  | "--sort" => some .order
  | _ => none

/-- What the board is told. -/
structure BoardView where
  limit? : Option UInt32
  order? : Option SortOrder

/-- Takes one piece for the board. -/
def takeBoard (view : BoardView) : Piece BoardFlag → Usage BoardView
  | .option .limit text =>
      match Text.number? UInt32.size text with
      | some (n + 1) => .ok { view with limit? := some (UInt32.ofNat (n + 1)) }
      | _ => .error .badLimit
  | .option .order key =>
      match SortOrder.ofKey? key with
      | some order => .ok { view with order? := some order }
      | none => .error (.unknownOrder key)
  | .word argument => .error (stray argument)

/-- The board as the arguments want it. -/
def board (rest : List String) : Usage Command := do
  let view ← takePieces BoardFlag.ofName? takeBoard ⟨none, none⟩ rest
  return .board view.limit? view.order?

/-- The flags of a move. -/
inductive MoveFlag where
  | column
  | status
  | comment
  | importantDate
  | file

/-- The flag of a move with a name. -/
def MoveFlag.ofName? : String → Option MoveFlag
  | "--column" => some .column
  | "--status" => some .status
  | "--comment" => some .comment
  | "--important-date" => some .importantDate
  | "--file" => some .file
  | _ => none

/-- A move of which not all is known yet. -/
structure MoveDraft where
  request? : Option RequestId
  details : MoveDetails

/-- The details with the value of one flag. -/
def setDetail (details : MoveDetails) (value : String) : MoveFlag → Usage MoveDetails
  | .column =>
      match Column.ofKey? value with
      | some column => .ok { details with column? := some column }
      | none => .error (.unknownColumn value)
  | .status => .ok { details with status? := some ⟨value⟩ }
  | .comment => .ok { details with comment? := some value }
  | .importantDate =>
      if (Stamp.parse? value).isSome then .ok { details with importantDate? := some value }
      else .error (.badDate value)
  | .file => .ok { details with files := details.files ++ [value] }

/-- Takes one piece for a move. -/
def takeMove (draft : MoveDraft) : Piece MoveFlag → Usage MoveDraft
  | .option flag value => do
      return { draft with details := ← setDetail draft.details value flag }
  | .word argument => do
      return { draft with request? := some (← takeRequest draft.request? argument) }

/-- The move that the arguments describe; it has to go somewhere. -/
def move (rest : List String) : Usage Command := do
  let draft ← takePieces MoveFlag.ofName? takeMove ⟨none, .none⟩ rest
  let request ← needRequest "move" draft.request?
  if draft.details.column?.isNone && draft.details.status?.isNone then .error .noTarget
  else .ok (.move request draft.details)

/-- What is known of a watch. -/
structure WatchDraft where
  request? : Option RequestId
  hidden : Bool

/-- Takes one argument for a watch. -/
def takeWatch (draft : WatchDraft) (argument : String) : Usage WatchDraft :=
  if argument = "--hidden" then .ok { draft with hidden := true }
  else do return { draft with request? := some (← takeRequest draft.request? argument) }

/-- The watch that the arguments describe. -/
def watch (rest : List String) : Usage Command := do
  let draft ← rest.foldlM takeWatch ⟨none, false⟩
  return .watch (← needRequest "watch" draft.request?) draft.hidden

/-- The message that the arguments describe: its words joined by spaces. -/
def send : List String → Usage Command
  | [] => .error (.noRequest "send")
  | first :: words =>
      match (Text.filled? first).filter fun id => !isFlag id with
      | some id => .ok (.send ⟨id⟩ (Text.filled? (String.intercalate " " words)))
      | none => .error (.noRequest "send")

/-- The flags of the list of templates. -/
inductive TemplatesFlag where
  | topic
  | search

/-- The flag of the list of templates with a name. -/
def TemplatesFlag.ofName? : String → Option TemplatesFlag
  | "--topic" => some .topic
  | "--search" => some .search
  | _ => none

/-- Takes one piece for the list of templates. -/
def takeTemplates (query : TemplateQuery) : Piece TemplatesFlag → Usage TemplateQuery
  | .option .topic code => .ok { query with topic? := some ⟨code⟩ }
  | .option .search text => .ok { query with search? := some text }
  | .word argument => .error (stray argument)

/-- The list of templates that the arguments ask for. -/
def templates (rest : List String) : Usage Command := do
  let query ← takePieces TemplatesFlag.ofName? takeTemplates ⟨none, none⟩ rest
  return .templates query

/-- The trimmed arguments of a command that takes no flags. -/
def plain (command : String) (rest : List String) : Usage (List String) :=
  match rest.find? isFlag with
  | some flag => .error (.foreignFlag flag command)
  | none =>
      if rest.any Text.isBlank then .error (.blankArgument command)
      else .ok (rest.map Text.trim)

/-- A command with one argument. -/
def one (command : String) (make : String → Command) (rest : List String) : Usage Command := do
  match ← plain command rest with
  | [a] => return make a
  | other => .error (.wrongCount command 1 other.length)

/-- A command with two arguments. -/
def two (command : String) (make : String → String → Command) (rest : List String) :
    Usage Command := do
  match ← plain command rest with
  | [a, b] => return make a b
  | other => .error (.wrongCount command 2 other.length)

end Arguments

/-- The command that the arguments of the command line give; none at all ask
for help. -/
def Command.ofArguments : List String → Usage Command
  | [] => .ok .help
  | name :: rest =>
      match name with
      | "board" => Arguments.board rest
      | "move" => Arguments.move rest
      | "claim" => Arguments.one name (fun r => .claim ⟨r⟩) rest
      | "reassign" => Arguments.two name (fun r lawyer => .reassign ⟨r⟩ ⟨lawyer⟩) rest
      | "watch" => Arguments.watch rest
      | "send" => Arguments.send rest
      | "templates" => Arguments.templates rest
      | "template" => Arguments.one name (fun t => .template ⟨t⟩) rest
      | "help" | "--help" | "-h" => .ok .help
      | _ => .error (.unknownCommand name)

end Docket
