import Docket.Text.Number
import Docket.Workflow.Basic

/-!
# Picking a status

When several statuses fit, they are listed with their positions, and the user
answers with a position, counted from one, or with a status code. A number
that is no position is taken for a code. A blank answer picks nothing.
-/

namespace Docket

/-- The question which status to use. -/
def pickLines (offers : List Offer) : List String :=
  "Several statuses fit that column:"
    :: (offers.mapIdx fun i o =>
        "  " ++ toString (i + 1) ++ ". " ++ o.name ++ " (" ++ o.target.text ++ ")")
    ++ ["Pick one (number or code, empty to cancel):"]

/-- The move at a position that is counted from one. -/
def offerAt? (offers : List Offer) (text : String) : Option Offer :=
  match Text.number? UInt64.size text with
  | some (i + 1) => offers[i]?
  | _ => none

/-- The status that an answer picks. -/
def pick? (offers : List Offer) (answer : String) : Option StatusCode :=
  (Text.filled? answer).map fun text =>
    match offerAt? offers text with
    | some o => o.target
    | none => ⟨text⟩

end Docket
