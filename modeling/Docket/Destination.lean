import Docket.Failure

/-!
# Where a card goes

A card is moved either to a status that is named or into a column. A named
status counts as it is. A column is matched against the moves that are open
to the request: no match is a failure, one is taken, and of several the user
has to pick.
-/

namespace Docket

/-- What became of the question where a card goes. -/
inductive Destination where
  /-- It stays where it is. -/
  | stay
  /-- It gets this status. -/
  | settled (status : StatusCode)
  /-- Any of these moves leads where it was dropped. -/
  | choice (offers : List Offer)

/-- The statuses among which the user has to pick. -/
def Destination.codes : Destination → List StatusCode
  | .choice offers => offers.map Offer.target
  | _ => []

namespace Request

/-- The first offer of each target, in order; `taken` holds the targets that
came before. -/
def firstOffers (taken : List StatusCode) : List Offer → List Offer
  | [] => []
  | o :: rest =>
      if o.target ∈ taken then firstOffers taken rest
      else o :: firstOffers (o.target :: taken) rest

/-- The moves that lead into a column, one for each target. -/
def offersInto (r : Request) (column : Column) : List Offer :=
  firstOffers [] (r.offers.filter fun o => o.column = column)

/-- Where a card goes that is given this status. -/
def destinationNamed (r : Request) (status : StatusCode) : Outcome Destination :=
  if status.isBlank then .error (.invalid .noDestination)
  else if status = r.status then .ok .stay
  else .ok (.settled status)

/-- Where a card goes that is dropped into this column. -/
def destinationInto (r : Request) (column : Column) : Outcome Destination :=
  if r.column = column then .ok .stay
  else
    match r.offersInto column with
    | [] => .error (.noLegalMove r.status column)
    | [o] => .ok (if o.target = r.status then .stay else .settled o.target)
    | offers => .ok (.choice offers)

/-- Where a card goes; a status that is named wins over a column. -/
def destination (r : Request) (column? : Option Column) (status? : Option StatusCode) :
    Outcome Destination :=
  match status?, column? with
  | some status, _ => r.destinationNamed status
  | none, some column => r.destinationInto column
  | none, none => .error (.invalid .noTarget)

end Request

end Docket
