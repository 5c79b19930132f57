import Docket.Dialogue
import Docket.Files

/-!
# What is done with files

A procedure that keeps something in files says what it does with them, and not
whose files they are. It is carried out on a tree of files, which is left as it
was by what cannot be done, or on those of a machine.
-/

namespace Docket

/-- One thing that is done with files. -/
inductive FileDeed where
  | read (path : String)
  /-- Makes a directory and those above it that are missing. -/
  | makePath (path : String)
  | write (path : String) (bytes : List UInt8)

/-- What it brings. -/
@[reducible] def FileDeed.Reply : FileDeed → Type
  | .read _ => Except PathFault (List UInt8)
  | .makePath _ => Except PathFault Unit
  | .write _ _ => Except PathFault Unit

namespace Files

/-- The files after a change, if it could be made. -/
def changed (t : Files) : Except PathFault Files → Except PathFault Unit × Files
  | .ok u => (.ok (), u)
  | .error why => (.error why, t)

/-- Does a deed with files. -/
def respond (t : Files) : (deed : FileDeed) → deed.Reply × Files
  | .read path => (t.read path, t)
  | .makePath path => t.changed (t.makePath path)
  | .write path bytes => t.changed (t.write path bytes)

end Files

end Docket
