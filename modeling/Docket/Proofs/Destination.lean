import Docket.Destination
import Docket.Proofs.FirstOfEach

/-!
# Where a card can go

The offers of a request that lead into a column may name one target more than
once. Only the first of each target counts, and how many are left decides
where a card goes that is dropped there.

* `Request.offersInto_eq` — the offers into a column are the first of each
  target.
* `Request.offersInto_targets_nodup`, `Request.mem_offersInto_targets` — no two
  of them have the same target, and no target is missing.
* `Request.destinationInto_cases`, `Request.destinationNamed_cases` — all that
  can become of a card.
* `Request.destination_eq_choice` — a choice is one among the moves into the
  column where the card was dropped.
-/

namespace Docket.Request

/-- The offers of a request that lead into a column, and of those with one
target only the first. -/
def choicesInto (r : Request) (column : Column) : List Offer :=
  (r.offers.filter fun o => o.column = column).eraseDupsBy fun a b => a.target = b.target

/-- The first offers of targets that are not taken. -/
theorem firstOffers_eq (taken : List StatusCode) (offers : List Offer) :
    firstOffers taken offers =
      (offers.filter fun o => o.target ∉ taken).eraseDupsBy fun a b => a.target = b.target := by
  induction offers generalizing taken with
  | nil => rfl
  | cons o rest ih =>
      by_cases htaken : o.target ∈ taken
      · rw [firstOffers, if_pos htaken, ih]
        simp [htaken]
      · have hleft : ((rest.filter fun p => p.target ∉ taken).filter fun p =>
            decide (p.target = o.target) = false) =
            rest.filter fun p => p.target ∉ o.target :: taken := by
          rw [List.filter_filter]
          simp
        rw [firstOffers, if_neg htaken, ih, List.filter_cons_of_pos (by simpa using htaken),
          List.eraseDupsBy_cons, hleft]

/-- The offers into a column are the first of each target. -/
theorem offersInto_eq (r : Request) (column : Column) :
    r.offersInto column = r.choicesInto column := by
  have hall : ((r.offers.filter fun o => o.column = column).filter fun o =>
      o.target ∉ ([] : List StatusCode)) = r.offers.filter fun o => o.column = column := by
    simp
  rw [offersInto, firstOffers_eq, hall]
  rfl

/-- The first offers are the first of each target. -/
theorem firstOffers_eq_firstOfEach (taken : List StatusCode) (offers : List Offer) :
    firstOffers taken offers = firstOfEach Offer.target taken offers := by
  induction offers generalizing taken with
  | nil => rfl
  | cons o rest ih => rw [firstOffers, firstOfEach, ih, ih]

/-- No two offers into a column have the same target. -/
theorem offersInto_targets_nodup (r : Request) (column : Column) :
    ((r.offersInto column).map Offer.target).Nodup := by
  rw [offersInto, firstOffers_eq_firstOfEach]
  exact nodup_keys_firstOfEach Offer.target [] _

/-- They have all the targets that offers into the column have. -/
theorem mem_offersInto_targets {r : Request} {column : Column} {status : StatusCode} :
    status ∈ (r.offersInto column).map Offer.target ↔
      ∃ o ∈ r.offers, o.column = column ∧ o.target = status := by
  rw [offersInto, firstOffers_eq_firstOfEach, mem_keys_firstOfEach, List.mem_map]
  constructor
  · intro hlisted
    obtain ⟨⟨o, ho, htarget⟩, -⟩ := hlisted
    obtain ⟨hoffer, hcolumn⟩ := List.mem_filter.mp ho
    exact ⟨o, hoffer, of_decide_eq_true hcolumn, htarget⟩
  · intro hlisted
    obtain ⟨o, hoffer, hcolumn, htarget⟩ := hlisted
    exact ⟨⟨o, List.mem_filter.mpr ⟨hoffer, decide_eq_true hcolumn⟩, htarget⟩, List.not_mem_nil⟩

/-- All that can become of a card that is dropped into a column. -/
theorem destinationInto_cases (r : Request) (column : Column) :
    r.column = column ∧ r.destinationInto column = .ok .stay ∨
      r.offersInto column = [] ∧
        r.destinationInto column = .error (.noLegalMove r.status column) ∨
      (∃ o, r.offersInto column = [o] ∧ o.target = r.status ∧
        r.destinationInto column = .ok .stay) ∨
      (∃ o, r.offersInto column = [o] ∧ o.target ≠ r.status ∧
        r.destinationInto column = .ok (.settled o.target)) ∨
      2 ≤ (r.offersInto column).length ∧
        r.destinationInto column = .ok (.choice (r.offersInto column)) := by
  unfold destinationInto
  by_cases hcolumn : r.column = column
  · rw [if_pos hcolumn]
    exact Or.inl ⟨hcolumn, rfl⟩
  rw [if_neg hcolumn]
  match hoffers : r.offersInto column with
  | [] => exact Or.inr (Or.inl ⟨rfl, rfl⟩)
  | [o] =>
      by_cases hstays : o.target = r.status
      · exact Or.inr (Or.inr (Or.inl ⟨o, rfl, hstays, by simp [hstays]⟩))
      · exact Or.inr (Or.inr (Or.inr (Or.inl ⟨o, rfl, hstays, by simp [hstays]⟩)))
  | first :: second :: rest =>
      exact Or.inr (Or.inr (Or.inr (Or.inr ⟨by simp, rfl⟩)))

/-- All that can become of a card that is given a status. -/
theorem destinationNamed_cases (r : Request) (status : StatusCode) :
    status.isBlank = true ∧ r.destinationNamed status = .error (.invalid .noDestination) ∨
      status = r.status ∧ r.destinationNamed status = .ok .stay ∨
      status.isBlank = false ∧ status ≠ r.status ∧
        r.destinationNamed status = .ok (.settled status) := by
  unfold destinationNamed
  by_cases hblank : status.isBlank = true
  · exact Or.inl ⟨hblank, if_pos hblank⟩
  rw [if_neg hblank]
  by_cases hsame : status = r.status
  · exact Or.inr (Or.inl ⟨hsame, if_pos hsame⟩)
  · exact Or.inr (Or.inr ⟨Bool.eq_false_iff.mpr hblank, hsame, if_neg hsame⟩)

/-- A choice is one among several, the moves into the column where the card was
dropped. -/
theorem destination_eq_choice {r : Request} {column? : Option Column}
    {status? : Option StatusCode} {offers : List Offer}
    (h : r.destination column? status? = .ok (.choice offers)) :
    ∃ column, column? = some column ∧ offers = r.offersInto column ∧ 2 ≤ offers.length := by
  cases status? with
  | some status =>
      rcases r.destinationNamed_cases status with ⟨-, hplace⟩ | ⟨-, hplace⟩ | ⟨-, -, hplace⟩ <;>
        cases hplace.symm.trans h
  | none =>
      cases column? with
      | none => cases h
      | some column =>
          rcases r.destinationInto_cases column with ⟨-, hplace⟩ | ⟨-, hplace⟩ |
            ⟨o, -, -, hplace⟩ | ⟨o, -, -, hplace⟩ | ⟨hmany, hplace⟩
          case inr.inr.inr.inr =>
            have hoffers : r.offersInto column = offers :=
              Destination.choice.inj (Except.ok.inj (hplace.symm.trans h))
            exact ⟨column, rfl, hoffers.symm, hoffers ▸ hmany⟩
          all_goals cases hplace.symm.trans h

end Docket.Request
