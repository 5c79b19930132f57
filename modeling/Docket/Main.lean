import Docket.Command.Arguments
import Docket.Settings.Store
import Docket.Terminal.Basic
import Std.Time.DateTime.Timestamp

/-!
# The command line

Reads a command from the arguments, loads the settings and runs the command at
a terminal that is this one: its lines go to the standard output, its keyboard
is the standard input, and its files and its clock are those of the machine.
What is loaded and what is done are the procedures that the library describes;
here somebody answers them who acts on the machine.
No network is within reach here, so every call fails at once. A command line
that does not fit ends with 2, and a command that fails with 1.
-/

namespace Docket.Main

/-- A server that nobody reaches. -/
def unreachable : Http.Server Unit := fun _ _now c =>
  (⟨0, .error (.network (.reported ("no connection for " ++ c.path)))⟩, ())

/-- What becomes of an action on the files of the machine. -/
def attempt {α : Type} (action : IO α) : IO (Except PathFault α) := do
  try
    return .ok (← action)
  catch
    | .noFileOrDirectory .. => return .error .missing
    | _ => return .error .refused

/-- Does a deed with the files of the machine. -/
def onMachine : (deed : FileDeed) → IO deed.Reply
  | .read path => attempt do return (← IO.FS.readBinFile path).toList
  | .makePath path => attempt (IO.FS.createDirAll path)
  | .write path bytes => attempt (IO.FS.writeBinFile path (ByteArray.mk bytes.toArray))

/-- A variable of the environment of this process. -/
def variableNamed (name : String) : IO Variable := do
  match ← IO.getEnv name with
  | some value => return .text value
  | none => return .absent

/-- The environment of this process. -/
def environment : IO Environment :=
  return ⟨← variableNamed "HOME", ← variableNamed "USERPROFILE", ← variableNamed "CASEFLOW_CONFIG",
    ← variableNamed "CASEFLOW_API_TOKEN"⟩

/-- Loads the settings that the environment names, and the setup they make. -/
def loadSetup (e : Environment) : IO (Except CommandFault Setup) := do
  match ← (Settings.loadingFrom e).run.converse onMachine with
  | .error fault => return .error (.settings fault)
  | .ok settings => return Setup.ofSettings settings e.token?

/-- The bytes that are typed up to the first that ends them, which is one of
them. -/
partial def typedBytes (ends : UInt8 → Bool) (seen : Array UInt8) : IO (List UInt8) := do
  match (← (← IO.getStdin).read 1).toList with
  | b :: _ =>
      let seen := seen.push b
      if ends b then return seen.toList else typedBytes ends seen
  | [] => return seen.toList

/-- Brings to the terminal what of the machine a deed needs. -/
def prepare (t : Terminal Unit) : Deed → IO (Terminal Unit)
  | .readLine => return { t with keyboard := [⟨0, ← typedBytes (· = Keyboard.lineEnd) #[]⟩] }
  | .compose _ => return { t with keyboard := [⟨0, ← typedBytes (fun _ => false) #[]⟩] }
  | .clock => do
      let now ← Std.Time.Timestamp.now
      let nanos := now.toNanosecondsSinceUnixEpoch.val.toNat
      return { t with clock := (Stamp.ofUnix? nanos).getD Stamp.epoch }
  | _ => return t

/-- Does a deed at the terminal, and prints what it brings. -/
def perform (setup : Setup) : (deed : Deed) → StateT (Terminal Unit) IO deed.Reply
  | .readFile path => onMachine (.read path)
  | deed => do
      let (answer, t) := Terminal.respond unreachable setup (← prepare (← get) deed) deed
      for line in t.screen do IO.println line
      set { t with screen := [] }
      return answer

/-- Tells why a command failed. -/
def fail (fault : CommandFault) : IO UInt32 := do
  IO.eprintln ("Error: " ++ fault.message)
  return 1

/-- Runs a command with the settings of the environment. -/
def run (command : Command) : IO UInt32 := do
  match ← loadSetup (← environment) with
  | .error fault => fail fault
  | .ok setup =>
      let terminal : Terminal Unit := ⟨.start (), .none, [], 0, .epoch, []⟩
      match ← ((command.perform setup).run.converse (perform setup)).run' terminal with
      | .ok () => return 0
      | .error fault => fail fault

end Docket.Main

/-- The command line. -/
def main (args : List String) : IO UInt32 := do
  match Docket.Command.ofArguments args with
  | .error fault =>
      IO.eprintln fault.message
      return 2
  | .ok .help =>
      Docket.usageLines.forM IO.println
      return 0
  | .ok command => Docket.Main.run command
