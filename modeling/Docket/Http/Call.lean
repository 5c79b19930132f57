import Docket.Failure
import Docket.Http.Url

/-!
# Calls of the server

One call of the server's interface, said relative to the place where the
interface begins, and the URL that it has there.
-/

namespace Docket.Http

/-- What a call does. -/
inductive Method where
  | get
  | post
  | put
  deriving DecidableEq

/-- The name of a method. -/
def Method.name : Method → String
  | .get => "GET"
  | .post => "POST"
  | .put => "PUT"

/-- What a call carries. -/
inductive Body where
  | empty
  | json (value : Json)
  /-- A form with plain fields and one file. -/
  | form (fields : List (String × String)) (file : Upload)

/-- One call. -/
structure Call where
  method : Method
  segments : List String
  query : List (String × String)
  body : Body

namespace Call

/-- A call that only reads. -/
def get (segments : List String) : Call :=
  ⟨.get, segments, [], .empty⟩

/-- A call that adds. -/
def post (segments : List String) : Call :=
  ⟨.post, segments, [], .empty⟩

/-- A call that replaces. -/
def put (segments : List String) : Call :=
  ⟨.put, segments, [], .empty⟩

/-- The call with one more query pair. -/
def asking (call : Call) (key value : String) : Call :=
  { call with query := call.query ++ [(key, value)] }

/-- The call with a JSON value. -/
def carrying (call : Call) (value : Json) : Call :=
  { call with body := .json value }

/-- The call with a file and the fields that say where it belongs. -/
def uploading (call : Call) (fields : List (String × String)) (file : Upload) : Call :=
  { call with body := .form fields file }

/-- The call changes nothing on the server. -/
def isGet (call : Call) : Bool :=
  call.method = .get

/-- The path below the base, as it stands. -/
def path (call : Call) : String :=
  "/".intercalate call.segments

/-- The first value that the query has for a key. -/
def lookup? (call : Call) (key : String) : Option String :=
  (call.query.find? fun pair => pair.1 == key).map (·.2)

/-- The URL of the call under a base. -/
def url (base : String) (call : Call) : Outcome Url := do
  match Url.parse base with
  | .error bad => .error (.invalid (.badBase base bad.message))
  | .ok url =>
      match url.push? (call.segments.map String.toList) with
      | none => .error (.invalid (.pathlessBase base))
      | some url => .ok (url.query (call.query.map fun (k, v) => (k.toList, v.toList)))

end Call

end Docket.Http
