import Docket.Failure
import Docket.Json.Reader

/-!
# Answers that are no success

Which failure an HTTP status is, and what is told of the body: the text under
one of three keys if it is an object that has one, else all of it, and no
more than 200 characters.
-/

namespace Docket.Http

/-- How many characters of a body are told. -/
def maxDetail : Nat := 200

/-- The beginning of a text that is too long. -/
def shorten (s : String) : String :=
  if s.length ≤ maxDetail then s
  else String.ofList (s.toList.take maxDetail) ++ "..."

/-- The text under the first of these keys that holds one. -/
def detailUnder (members : List (String × Json)) : List String → Option String
  | [] => none
  | key :: rest =>
      match Json.get? members key with
      | some (.text s) => some s
      | _ => detailUnder members rest

/-- What is told of a body. -/
def detail (body : String) : String :=
  match Text.filled? body with
  | none => "empty response body"
  | some body =>
      match Json.parse? body with
      | some (.object members) =>
          shorten ((detailUnder members ["detail", "message", "error"]).getD body)
      | _ => shorten body

/-- The failure that a status is. -/
def statusFailure (status : Nat) (body : String) : Failure :=
  let text := "HTTP " ++ toString status ++ ": " ++ detail body
  if status ∈ [401, 403, 409] then .denied (.reported text)
  else if status ∈ [400, 422] then .invalid (.reported text)
  else .network (.reported text)

end Docket.Http
