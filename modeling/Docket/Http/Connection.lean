import Docket.Http.Call
import Docket.Text.Quoted

/-!
# The connection to the server

Where the interface begins, how long an answer may take, and the token that
is shown to the server. The token appears in no description. A base is
trimmed and loses the slashes at its end before it is checked.
-/

namespace Docket.Http

/-- How the server is reached. -/
structure Connection where
  base : String
  /-- In nanoseconds. -/
  timeout : Nat
  token? : Option String

/-- A base without white space around it and slashes at its end. -/
def plainBase (base : String) : String :=
  String.ofList (((Text.trim base).toList.reverse.dropWhile (· = '/')).reverse)

/-- The connection may be used. -/
def Connection.check (c : Connection) : Outcome Unit :=
  let base := plainBase c.base
  if base.isEmpty then .error (.invalid .noBase)
  else
    match Url.parse base with
    | .ok _ => .ok ()
    | .error bad => .error (.invalid (.badBase base bad.message))

/-- A number of units with the rest behind a point; `width` digits make one
unit. -/
def pointed (width n : Nat) : String :=
  let rest := Nat.toDigits 10 (n % Nat.pow 10 width)
  let rest := List.replicate (width - rest.length) '0' ++ rest
  let rest := (rest.reverse.dropWhile (· = '0')).reverse
  toString (n / Nat.pow 10 width) ++ if rest.isEmpty then "" else "." ++ String.ofList rest

/-- A length of time in the largest unit that it fills. -/
def spanText (ns : Nat) : String :=
  if 1000000000 ≤ ns then pointed 9 ns ++ "s"
  else if 1000000 ≤ ns then pointed 6 ns ++ "ms"
  else if 1000 ≤ ns then pointed 3 ns ++ "µs"
  else toString ns ++ "ns"

/-- A record with named values for a reader of logs. -/
def recordText (name : String) (members : List (String × String)) : String :=
  name ++ " \x7b " ++ String.intercalate ", " (members.map fun (k, v) => k ++ ": " ++ v) ++ " \x7d"

/-- The connection without its token. -/
def Connection.describe (c : Connection) : String :=
  recordText "HttpBackendConfig"
    [("base_url", Text.quoted c.base), ("request_timeout", spanText c.timeout),
     ("api_token", if c.token?.isSome then "Some(" ++ Text.quoted "<redacted>" ++ ")" else "None")]

/-- The upload without its content. -/
def describeUpload (file : Upload) : String :=
  recordText "AttachmentUpload"
    [("file_name", Text.quoted file.fileName), ("mime_type", Text.quoted file.mimeType),
     ("bytes", toString file.bytes.length)]

end Docket.Http
