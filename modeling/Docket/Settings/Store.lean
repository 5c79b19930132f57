import Docket.Files.Deed
import Docket.Settings.Repair
import Docket.Text.Utf8
import Docket.Toml.Reader
import Docket.Toml.Writer
import Docket.Wire.Settings

/-!
# Where settings are kept

Settings are kept in a TOML file. A file that is not there is made with the
usual settings. A file whose settings need repair is written again, and all
others are left as they stand. Which file it is, and the token, the
environment says. All this is one procedure, whether the files are a tree of
files or those of the machine.
-/

namespace Docket

/-- A variable of the environment. -/
inductive Variable where
  | absent
  | text (value : String)
  /-- Bytes that are no text. -/
  | garbled

/-- The variable with these bytes. -/
def Variable.ofBytes (bytes : List UInt8) : Variable :=
  match Text.ofBytes? bytes with
  | some value => .text value
  | none => .garbled

/-- The trimmed value, unless it is blank or no text. -/
def Variable.filled? : Variable → Option String
  | .text value => Text.filled? value
  | _ => none

/-- What of the environment matters. -/
structure Environment where
  home : Variable
  profile : Variable
  settingsPath : Variable
  token : Variable

namespace Environment

/-- The token that is shown to the server. -/
def token? (e : Environment) : Option String :=
  e.token.filled?

/-- The file in the user's home directory. -/
def usualPath (e : Environment) : Except SettingsFault String :=
  match e.home.filled?.orElse fun _ => e.profile.filled? with
  | some home => .ok (joinPath home ".config/caseflow/config.toml")
  | none => .error .noHome

/-- The file that the environment names, or the usual one. -/
def path (e : Environment) : Except SettingsFault String :=
  match e.settingsPath with
  | .garbled => .error .garbledPath
  | .absent => e.usualPath
  | .text value => if Text.isBlank value then e.usualPath else .ok value

end Environment

namespace Settings

/-- The sections of the file. -/
def sections (s : Settings) : List (String × List (String × String)) :=
  [("backend",
    [("base_url", Toml.writeText s.backend.base),
     ("request_timeout_secs", toString s.backend.timeoutSeconds)]),
   ("actor",
    [("id", Toml.writeText s.actor.id), ("role", Toml.writeText s.actor.role)]),
   ("presence",
    [("visible_interval_ms", toString s.presence.visible),
     ("hidden_interval_ms", toString s.presence.hidden),
     ("max_backoff_ms", toString s.presence.limit),
     ("degraded_after_failures", toString s.presence.degradedAfter)]),
   ("typing", [("heartbeat_interval_ms", toString s.typing.heartbeat)]),
   ("board",
    [("default_limit", toString s.board.limit), ("sort_mode", Toml.writeText s.board.order)]),
   ("logging",
    match s.logging.file? with
    | some file => [("file", Toml.writeText file)]
    | none => [])]

/-- The text of the file. -/
def render (s : Settings) : String :=
  Toml.writeSections s.sections

/-- The settings that the text of a file holds. -/
def parse? (text : String) : Option Settings := do
  let value ← Toml.parse? text
  ((codecOf true).read value).toOption

/-- The settings that the content of a file holds, repaired, and whether they
needed it. -/
def ofContent (path : String) (bytes : List UInt8) : Except SettingsFault (Settings × Bool) := do
  let some text := Text.ofBytes? bytes | .error (.garbled path)
  let some found := parse? text | .error (.malformed path)
  return (found.repair, found.needsRepair)

end Settings

/-- A procedure that keeps settings in files, which may fail. -/
abbrev Keeping (α : Type) :=
  ExceptT SettingsFault (Dialogue FileDeed FileDeed.Reply) α

namespace Keeping

variable {α : Type}

/-- Does one deed with the files. -/
def act (deed : FileDeed) : Keeping deed.Reply :=
  ExceptT.lift (Dialogue.question deed)

/-- Goes on unless something has failed. -/
def check (outcome : Except SettingsFault α) : Keeping α :=
  ExceptT.mk (.done outcome)

/-- Keeps the settings in these files and says what has become of them. -/
def on (d : Keeping α) (files : Files) : Except SettingsFault (α × Files) :=
  let ran := d.run.run Files.respond files
  ran.result.map fun a => (a, ran.state)

end Keeping

namespace Settings

open Keeping

/-- Writes settings to a file. -/
def save (path : String) (s : Settings) : Keeping Unit := do
  check ((← act (.write path (Text.bytesOf s.render.toList))).mapError (.unwritable path))

/-- Makes the directory in which the file at a path is to stand. -/
def makeRoom (path : String) : Keeping Unit := do
  let parent := parentPath path
  if parent.isEmpty then return ()
  else check ((← act (.makePath parent)).mapError (.noDirectory parent))

/-- Loads the settings of a file, makes it when it is missing, and writes it
again when they need repair. -/
def loading (path : String) : Keeping Settings := do
  match ← act (.read path) with
  | .error .missing => do
      makeRoom path
      save path usual
      return usual
  | .error why => throw (.unreadable path why)
  | .ok bytes => do
      let (settings, repaired) ← check (ofContent path bytes)
      if repaired then save path settings
      return settings

/-- Loads the settings that the environment names. -/
def loadingFrom (e : Environment) : Keeping Settings := do
  loading (← check e.path)

/-- Loads the settings of a file and says what has become of the files. -/
def load (files : Files) (path : String) : Except SettingsFault (Settings × Files) :=
  (loading path).on files

/-- Loads the settings that the environment names and says what has become of
the files. -/
def loadFrom (e : Environment) (files : Files) : Except SettingsFault (Settings × Files) :=
  (loadingFrom e).on files

end Settings

end Docket
