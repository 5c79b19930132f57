import Docket.Errand
import Docket.Files
import Docket.Settings.Basic
import Docket.Stamp.Basic
import Docket.Terminal.Keyboard

/-!
# Deeds

What a command does, one deed after another: errands to the server, and what
happens at the terminal. A command that fails says why.
-/

namespace Docket

/-- One thing that a command does. -/
inductive Deed where
  | call (errand : Errand)
  | print (line : String)
  /-- Opens the keyboard and reads one line. -/
  | readLine
  | readFile (path : String)
  /-- Looks at the clock. -/
  | clock
  /-- Reads a message from the keyboard and tells the server of the typing. -/
  | compose (request : RequestId)
  /-- Watches a request whose workspace is loaded until the user breaks off. -/
  | follow (request : RequestId) (workspace : Workspace) (hidden : Bool)

/-- What a deed brings. -/
@[reducible] def Deed.Reply : Deed → Type
  | .call errand => errand.Reply
  | .print _ => Unit
  | .readLine => Reading
  | .readFile _ => Except PathFault (List UInt8)
  | .clock => Stamp
  | .compose _ => Option String
  | .follow _ _ _ => Unit

/-- Why a command failed. -/
inductive CommandFault where
  | failed (why : Failure)
  | settings (why : SettingsFault)
  | noTarget
  | garbledChoice
  | garbledMessage
  | unreadableFile (path : String)
  | namelessFile (path : String)

/-- Why a command failed, in words. -/
def CommandFault.message : CommandFault → String
  | .failed why => why.message
  | .settings why => why.message
  | .noTarget => "'move' needs --column or --status"
  | .garbledChoice => "failed to read the status choice from stdin"
  | .garbledMessage => "failed to read the message from stdin"
  | .unreadableFile path => "failed to read attachment '" ++ path ++ "'"
  | .namelessFile path => "attachment path '" ++ path ++ "' has no file name"

/-- A command at work. -/
abbrev Job (α : Type) :=
  ExceptT CommandFault (Dialogue Deed Deed.Reply) α

namespace Job

variable {α : Type}

/-- Does one deed. -/
def act (deed : Deed) : Job deed.Reply :=
  ExceptT.lift (Dialogue.question deed)

/-- Goes on unless something has failed. -/
def check (outcome : Except CommandFault α) : Job α :=
  ExceptT.mk (.done outcome)

/-- Sends an errand; the command fails if it does. -/
def send (e : Errand) : Job e.Answer := do
  check ((← act (.call e)).mapError .failed)

/-- Runs a procedure of the desk; the command fails if it does. -/
def ofDesk (d : Desk α) : Job α := do
  let outcome : Outcome α ← ExceptT.lift (d.run.relay Deed.call fun _ answer => answer)
  check (outcome.mapError .failed)

/-- Prints lines. -/
def say : List String → Job Unit
  | [] => return ()
  | line :: rest => do
      act (.print line)
      say rest

end Job

end Docket
