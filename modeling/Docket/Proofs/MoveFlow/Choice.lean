import Docket.Proofs.MoveFlow.Agreement

/-!
# What is offered and what can be taken

A card is dropped into a column into which several moves lead. The user is
offered their targets, picks one, and the card is moved there by name. That
works for every target but one. The server may list, among the moves that are
open to a request, one that leads back to the status the request has. Where it
is the only move into the column the card stays; where it is one of several it
is offered like the others. The card that is moved there by name stays. A user
who picks it gets the flow of the move to apply the status which the request
has, and the change is then refused before the server is asked for anything.

* `Request.mem_codes_of_choice`, `Request.resolve_of_choice` — what is offered.
* `Request.destination_named`, `Request.destination_named_eq_settled_iff` — what
  becomes of a card that is moved by name.
* `Desk.carryOutChange_back` — a change back to the same status asks nothing.
* `Request.offers_taken_unless_back` — which offers can be taken.
* `Request.offered_back_not_taken` — a way back that is offered.
-/

namespace Docket

namespace Request

variable {r : Request} {column : Column} {offers : List Offer} {status : StatusCode}

/-- Where the user has to pick he is offered the targets of all offers into the
column. -/
theorem mem_codes_of_choice (h : r.destination (some column) none = .ok (.choice offers)) :
    status ∈ (Destination.choice offers).codes ↔
      ∃ o ∈ r.offers, o.column = column ∧ o.target = status := by
  obtain ⟨_, ⟨⟩, hoffers, -⟩ := destination_eq_choice h
  rw [Destination.codes, hoffers, mem_offersInto_targets]

/-- A card that is given a status which is not blank stays if it has it. -/
theorem destination_named (column? : Option Column) (hfilled : status.isBlank = false) :
    r.destination column? (some status) =
      .ok (if status = r.status then .stay else .settled status) := by
  have hnamed : r.destination column? (some status) = r.destinationNamed status := rfl
  rw [hnamed, destinationNamed, if_neg (Bool.eq_false_iff.mp hfilled)]
  by_cases hsame : status = r.status
  · rw [if_pos hsame, if_pos hsame]
  · rw [if_neg hsame, if_neg hsame]

/-- It leaves for the status exactly when it has another. -/
theorem destination_named_eq_settled_iff (column? : Option Column)
    (hfilled : status.isBlank = false) :
    r.destination column? (some status) = .ok (.settled status) ↔ status ≠ r.status := by
  rw [destination_named column? hfilled]
  constructor
  · intro hleaves hsame
    rw [if_pos hsame] at hleaves
    cases hleaves
  · intro hother
    rw [if_neg hother]

/-- What is offered is not blank where no offer has a blank target. -/
theorem isBlank_of_mem_codes (hfilled : ∀ o ∈ r.offers, o.target.isBlank = false)
    (h : r.destination (some column) none = .ok (.choice offers))
    (hstatus : status ∈ (Destination.choice offers).codes) : status.isBlank = false := by
  obtain ⟨o, ho, -, htarget⟩ := (mem_codes_of_choice h).mp hstatus
  rw [← htarget]
  exact hfilled o ho

/-- The flow of the move waits for a pick. -/
theorem resolve_of_choice (h : r.destination (some column) none = .ok (.choice offers)) :
    (MoveFlow.idle.begin r.id (.into column)).resolve r = .choosing r.id offers := by
  rw [MoveFlow.begin, MoveFlow.resolve_resolving]
  exact congrArg (MoveFlow.landing r) h

end Request

/-- A change to the status that the request has is refused before anything is
asked. -/
theorem Desk.carryOutChange_back {σ : Type} (respond : σ → (e : Errand) → e.Reply × σ) (s : σ)
    (actor : Actor) {r : Request} (details : Change) (hfilled : r.status.isBlank = false) :
    carryOutChange respond s actor r details r.status = ⟨.error (.noChange r.status), [], s⟩ := by
  have hmay : mayChange actor r r.status = .error (.noChange r.status) := by
    rw [mayChange, if_neg (Bool.eq_false_iff.mp hfilled), if_pos rfl]
  unfold carryOutChange carryOut changeStatus
  rw [hmay]
  rfl

namespace Request

variable {r : Request} {column : Column} {offers : List Offer}

/-- **What is offered can be taken unless it leads back.** Let none of the offers
of a request have a blank target, and let a drop into a column leave the user a
choice. A card that is then moved by name to one of the offered statuses is
settled to it, unless it is the status that the request has: then the card
stays. So every offered status can be taken exactly when no offer into the
column leads back to that status. A pick puts the status of the request into the
flow of the move exactly when it is that status and such an offer was there;
and to change the status to what it is fails for just this reason, and asks the
server for nothing. -/
theorem offers_taken_unless_back (hfilled : ∀ o ∈ r.offers, o.target.isBlank = false)
    (hchoice : r.destination (some column) none = .ok (.choice offers)) :
    (∀ status ∈ (Destination.choice offers).codes, ∀ column?,
      r.destination column? (some status) =
        .ok (if status = r.status then .stay else .settled status)) ∧
    ((∀ status ∈ (Destination.choice offers).codes, ∀ column?,
        r.destination column? (some status) = .ok (.settled status)) ↔
      ∀ o ∈ r.offers, o.column = column → o.target ≠ r.status) ∧
    (∀ picked, ((MoveFlow.idle.begin r.id (.into column)).resolve r).choose picked =
        .applying r.id r.status ↔
      picked = r.status ∧ ∃ o ∈ r.offers, o.column = column ∧ o.target = r.status) ∧
    (r.status ∈ (Destination.choice offers).codes →
      ∀ (actor : Actor) (details : Change) {σ : Type}
        (respond : σ → (e : Errand) → e.Reply × σ) (s : σ),
        Desk.carryOutChange respond s actor r details r.status =
          ⟨.error (.noChange r.status), [], s⟩) := by
  have hoffered : ∀ status, status ∈ (Destination.choice offers).codes ↔
      ∃ o ∈ r.offers, o.column = column ∧ o.target = status :=
    fun status => mem_codes_of_choice hchoice
  have hnamed : ∀ status ∈ (Destination.choice offers).codes, status.isBlank = false :=
    fun status hstatus => isBlank_of_mem_codes hfilled hchoice hstatus
  refine ⟨?_, ?_, ?_, ?_⟩
  · intro status hstatus column?
    exact destination_named column? (hnamed status hstatus)
  · constructor
    · intro htaken o ho hcolumn hback
      have hstatus := (hoffered r.status).mpr ⟨o, ho, hcolumn, hback⟩
      have hsettles := destination_named_eq_settled_iff (r := r) none (hnamed r.status hstatus)
      exact hsettles.mp (htaken r.status hstatus none) rfl
    · intro haway status hstatus column?
      obtain ⟨o, ho, hcolumn, htarget⟩ := (hoffered status).mp hstatus
      rw [destination_named_eq_settled_iff column? (hnamed status hstatus), ← htarget]
      exact haway o ho hcolumn
  · intro picked
    rw [resolve_of_choice hchoice, MoveFlow.choose_eq_applying_iff]
    refine and_congr_right fun hsame => ?_
    rw [hsame]
    exact hoffered r.status
  · intro hstatus actor details σ respond s
    exact Desk.carryOutChange_back respond s actor details (hnamed r.status hstatus)

/-- A new request that is listed with two ends and, among the done ones, with the
status that it has. -/
def wayBack : Request :=
  { MoveFlow.twoEnds with
    offers := [⟨⟨"NEW"⟩, "New", some .done⟩, ⟨⟨"REJECTED"⟩, "Rejected", some .done⟩,
      ⟨⟨"WITHDRAWN"⟩, "Withdrawn", some .done⟩] }

/-- What is offered of it. -/
theorem wayBack_choice :
    wayBack.destination (some .done) none = .ok (.choice wayBack.offers) :=
  rfl

/-- The two ends can be taken; the way back is applied by the flow and refused by
the desk. -/
theorem offers_taken_unless_back_of_wayBack :
    (∀ o ∈ wayBack.offers, o.target.isBlank = false) ∧
    wayBack.destination (some .done) none = .ok (.choice wayBack.offers) ∧
    wayBack.destination none (some ⟨"WITHDRAWN"⟩) = .ok (.settled ⟨"WITHDRAWN"⟩) ∧
    wayBack.destination none (some ⟨"NEW"⟩) = .ok .stay ∧
    ((MoveFlow.idle.begin ⟨"R7"⟩ (.into .done)).resolve wayBack).choose ⟨"NEW"⟩ =
      .applying ⟨"R7"⟩ ⟨"NEW"⟩ ∧
    Desk.carryOutChange downServer 0 ⟨⟨"A"⟩, .admin⟩ wayBack ⟨⟨""⟩, none, none, []⟩ ⟨"NEW"⟩ =
      ⟨.error (.noChange ⟨"NEW"⟩), [], 0⟩ := by
  have hfilled : ∀ o ∈ wayBack.offers, o.target.isBlank = false := by decide
  obtain ⟨hnamed, -, hpicked, hrefused⟩ := offers_taken_unless_back hfilled wayBack_choice
  have hend : (⟨"WITHDRAWN"⟩ : StatusCode) ∈ (Destination.choice wayBack.offers).codes := by decide
  have hback : (⟨"NEW"⟩ : StatusCode) ∈ (Destination.choice wayBack.offers).codes := by decide
  have hoffer : ∃ o ∈ wayBack.offers, o.column = .done ∧ o.target = wayBack.status := by decide
  exact ⟨hfilled, wayBack_choice, hnamed _ hend none, hnamed _ hback none,
    (hpicked ⟨"NEW"⟩).mpr ⟨rfl, hoffer⟩, hrefused hback _ _ downServer 0⟩

/-- One of the statuses among which the user has to pick is the one that the
request has. The card that is moved there by name stays, and the flow of the
move that is picked there applies it. -/
theorem offered_back_not_taken :
    (∀ o ∈ wayBack.offers, o.target.isBlank = false) ∧
    ∃ offers, wayBack.destination (some .done) none = .ok (.choice offers) ∧
      wayBack.status ∈ (Destination.choice offers).codes ∧
      wayBack.destination none (some wayBack.status) = .ok .stay ∧
      wayBack.destination none (some wayBack.status) ≠ .ok (.settled wayBack.status) ∧
      ((MoveFlow.idle.begin wayBack.id (.into .done)).resolve wayBack).choose wayBack.status =
        .applying wayBack.id wayBack.status := by
  have hstays : wayBack.destination none (some wayBack.status) = .ok .stay := rfl
  refine ⟨by decide, wayBack.offers, wayBack_choice, by decide, hstays, ?_, rfl⟩
  rw [hstays]
  intro hsettled
  cases hsettled

end Request
end Docket
