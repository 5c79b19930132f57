import Docket.Command.Pick
import Docket.Proofs.MoveFlow.Agreement
import Docket.Proofs.Text.Number

/-!
# Answers to the question which status to use

The user is asked to pick one of several offers and answers with a position or
with a code. A code may look like a number, and then it may be the position of
another offer as well: the position counts. So every offer can be picked by its
position, and by its code too unless the code names another offer by position.
Whatever the answer is, the move is given up, or goes on with the target of an
offer, or fails for a code that was not offered.

* `NamesPosition`, `offerAt?_eq_some_iff` — answers that name a position.
* `pick?_of_position`, `pick?_of_code`, `pick?_of_blank` — what an answer picks.
* `choice_settled_by_position_or_code` — what becomes of the move.
-/

namespace Docket

variable {offers : List Offer} {answer : String} {o : Offer}

/-- The answer writes the position of an offer, counted from one, as a number
that fits in a word. -/
inductive NamesPosition (offers : List Offer) (answer : String) (o : Offer) : Prop
  | counted (i : Nat) (there : offers[i]? = some o)
      (written : Text.Writes (i + 1) (Text.trim answer)) (fits : i + 1 < UInt64.size)

/-- The offer that is found at a position is the one whose position is written. -/
theorem offerAt?_eq_some_iff :
    offerAt? offers (Text.trim answer) = some o ↔ NamesPosition offers answer o := by
  unfold offerAt?
  constructor
  · intro h
    split at h
    · rename_i i hread
      obtain ⟨hwritten, hfits⟩ := Text.number?_eq_some_iff.mp hread
      exact .counted i h hwritten hfits
    · cases h
  · rintro ⟨i, hthere, hwritten, hfits⟩
    rw [Text.number?_eq_some_iff.mpr ⟨hwritten, hfits⟩]
    exact hthere

theorem NamesPosition.mem (h : NamesPosition offers answer o) : o ∈ offers := by
  obtain ⟨i, hthere, -, -⟩ := h
  exact List.mem_of_getElem? hthere

/-- The decimal text of a position names it. -/
theorem namesPosition_toString {position : UInt64} (hpos : 1 ≤ position.toNat)
    (hthere : offers[position.toNat - 1]? = some o) :
    NamesPosition offers (toString position.toNat) o := by
  have hcount : position.toNat - 1 + 1 = position.toNat := Nat.sub_add_cancel hpos
  refine .counted (position.toNat - 1) hthere ?_ (hcount ▸ position.toNat_lt)
  rw [hcount, (Text.tidy_toString _).2]
  exact Text.writes_toString _

/-- A blank answer picks nothing. -/
theorem pick?_of_blank (hblank : Text.isBlank answer = true) : pick? offers answer = none := by
  rw [pick?, Text.filled?, if_pos hblank]
  rfl

/-- Any other answer picks an offer by its position, or else a code. -/
theorem pick?_of_filled (hfilled : Text.isBlank answer = false) :
    pick? offers answer =
      some (((offerAt? offers (Text.trim answer)).map Offer.target).getD ⟨Text.trim answer⟩) := by
  rw [pick?, Text.filled?, if_neg (Bool.eq_false_iff.mp hfilled), Option.map_some]
  cases offerAt? offers (Text.trim answer) <;> rfl

theorem NamesPosition.isBlank (h : NamesPosition offers answer o) :
    Text.isBlank answer = false := by
  obtain ⟨i, -, ⟨ds, hfilled, -, -, hsign⟩, -⟩ := h
  rw [Bool.eq_false_iff, ne_eq, Text.isBlank_iff_trim]
  intro hempty
  rw [hempty] at hsign
  rcases hsign with hsign | hsign
  · exact hfilled hsign.symm
  · cases hsign

/-- An answer that names a position picks the offer there. -/
theorem pick?_of_position (h : NamesPosition offers answer o) :
    pick? offers answer = some o.target := by
  rw [pick?_of_filled h.isBlank, offerAt?_eq_some_iff.mpr h]
  rfl

/-- An answer that names no position picks the code that it is. -/
theorem pick?_of_code (hfilled : Text.isBlank answer = false)
    (hnone : ∀ o, ¬ NamesPosition offers answer o) :
    pick? offers answer = some ⟨Text.trim answer⟩ := by
  have hoffer : offerAt? offers (Text.trim answer) = none :=
    Option.eq_none_iff_forall_ne_some.mpr fun o h => hnone o (offerAt?_eq_some_iff.mp h)
  rw [pick?_of_filled hfilled, hoffer]
  rfl

/-- A code is picked unless it names another offer by its position. -/
theorem pick?_code_iff {status : StatusCode} (htidy : Text.Tidy status.text) :
    pick? offers status.text = some status ↔
      ∀ o, NamesPosition offers status.text o → o.target = status := by
  constructor
  · intro hpicked o hnamed
    rw [pick?_of_position hnamed] at hpicked
    exact Option.some_inj.mp hpicked
  · intro hsame
    by_cases hnamed : ∃ o, NamesPosition offers status.text o
    · obtain ⟨o, hnamed⟩ := hnamed
      rw [pick?_of_position hnamed, hsame o hnamed]
    · have hfilled := Text.isBlank_of_filled? htidy.filled?
      rw [pick?_of_code hfilled (not_exists.mp hnamed), htidy.2]

namespace MoveFlow

/-- The move after an answer to the question which of the offers to use. -/
def answered (request : RequestId) (offers : List Offer) (answer : String) : MoveFlow :=
  (choosing request offers).settle (pick? offers answer)

/-- The move goes on with what is picked when that was offered. -/
theorem answered_eq_applying_iff {request : RequestId} {status : StatusCode} :
    answered request offers answer = .applying request status ↔
      pick? offers answer = some status ∧ status ∈ offers.map Offer.target := by
  rw [answered]
  cases pick? offers answer with
  | none => exact iff_of_false nofun fun h => nomatch h.1
  | some picked =>
      rw [Option.some_inj, settle, choose_eq_applying_iff]
      exact and_congr_right fun hsame => hsame ▸ Iff.rfl

/-- It fails for what was not offered. -/
theorem answered_of_not_offered (request : RequestId) {picked : StatusCode}
    (hpicked : pick? offers answer = some picked) (hother : picked ∉ offers.map Offer.target) :
    answered request offers answer = .failed request (.invalid (.notOffered picked)) := by
  rw [answered, hpicked]
  refine if_neg fun hoffered => hother ?_
  simpa using hoffered

theorem answered_of_blank (request : RequestId) (hblank : Text.isBlank answer = true) :
    answered request offers answer = .idle := by
  rw [answered, pick?_of_blank hblank]
  rfl

theorem answered_of_position (request : RequestId) (h : NamesPosition offers answer o) :
    answered request offers answer = .applying request o.target :=
  answered_eq_applying_iff.mpr ⟨pick?_of_position h, List.mem_map_of_mem h.mem⟩

/-- An answer that is not blank is the code of an offer, or names the position of
one, or the move fails. -/
theorem answered_of_filled (request : RequestId) (hfilled : Text.isBlank answer = false) :
    (∃ o ∈ offers, answered request offers answer = .applying request o.target) ∨
      ⟨Text.trim answer⟩ ∉ offers.map Offer.target ∧
        answered request offers answer =
          .failed request (.invalid (.notOffered ⟨Text.trim answer⟩)) := by
  by_cases hnamed : ∃ o, NamesPosition offers answer o
  · obtain ⟨o, hnamed⟩ := hnamed
    exact .inl ⟨o, hnamed.mem, answered_of_position request hnamed⟩
  · have hpicked := pick?_of_code hfilled (not_exists.mp hnamed)
    by_cases hoffered : ⟨Text.trim answer⟩ ∈ offers.map Offer.target
    · obtain ⟨o, ho, htarget⟩ := List.mem_map.mp hoffered
      refine .inl ⟨o, ho, ?_⟩
      rw [htarget]
      exact answered_eq_applying_iff.mpr ⟨hpicked, hoffered⟩
    · exact .inr ⟨hoffered, answered_of_not_offered request hpicked hoffered⟩

/-- **A choice is settled by a position or a code.** Let the user be asked to pick
one of several offers. An answer that writes the position of an offer, such as
its decimal text, picks that offer, and the move goes on with its target. So
does the code of an offer, exactly unless it writes the position of an offer
with another target. A blank answer picks nothing, and the move is given up.
Whatever the answer is, the move is given up for a blank one, or goes on with
the target of an offer, or fails since the answer is no code of an offer. -/
theorem choice_settled_by_position_or_code (request : RequestId) (offers : List Offer) :
    (∀ answer o, NamesPosition offers answer o →
      pick? offers answer = some o.target ∧
      answered request offers answer = .applying request o.target) ∧
    (∀ (position : UInt64) (o : Offer), 1 ≤ position.toNat →
      offers[position.toNat - 1]? = some o →
      NamesPosition offers (toString position.toNat) o) ∧
    (∀ o ∈ offers, Text.Tidy o.target.text →
      (pick? offers o.target.text = some o.target ↔
        ∀ o', NamesPosition offers o.target.text o' → o'.target = o.target) ∧
      (answered request offers o.target.text = .applying request o.target ↔
        pick? offers o.target.text = some o.target)) ∧
    (∀ answer, Text.isBlank answer = true →
      pick? offers answer = none ∧ answered request offers answer = .idle) ∧
    ∀ answer,
      (Text.isBlank answer = true ∧ answered request offers answer = .idle) ∨
      (∃ o ∈ offers, answered request offers answer = .applying request o.target) ∨
      ⟨Text.trim answer⟩ ∉ offers.map Offer.target ∧
        answered request offers answer =
          .failed request (.invalid (.notOffered ⟨Text.trim answer⟩)) := by
  refine ⟨?position, fun _ _ => namesPosition_toString, ?code, ?blank, ?total⟩
  case position =>
    intro answer o hnamed
    exact ⟨pick?_of_position hnamed, answered_of_position request hnamed⟩
  case code =>
    intro o ho htidy
    refine ⟨pick?_code_iff htidy, ?_⟩
    rw [answered_eq_applying_iff]
    exact and_iff_left (List.mem_map_of_mem ho)
  case blank =>
    intro answer hblank
    exact ⟨pick?_of_blank hblank, answered_of_blank request hblank⟩
  case total =>
    intro answer
    cases hblank : Text.isBlank answer with
    | true => exact .inl ⟨rfl, answered_of_blank request hblank⟩
    | false => exact .inr (answered_of_filled request hblank)

/-- Two offers, each with the code that is the position of the other, and one
more. -/
def crossedOffers : List Offer :=
  [⟨⟨"2"⟩, "Paid", some .done⟩, ⟨⟨"1"⟩, "Refused", some .done⟩,
    ⟨⟨"REJECTED"⟩, "Rejected", some .done⟩]

/-- The offers can be picked by their positions, the last one by its code too. -/
theorem crossed_offers_settled :
    answered ⟨"r-1"⟩ crossedOffers " +002 " = .applying ⟨"r-1"⟩ ⟨"1"⟩ ∧
      answered ⟨"r-1"⟩ crossedOffers "3" = .applying ⟨"r-1"⟩ ⟨"REJECTED"⟩ ∧
      answered ⟨"r-1"⟩ crossedOffers "REJECTED" = .applying ⟨"r-1"⟩ ⟨"REJECTED"⟩ ∧
      answered ⟨"r-1"⟩ crossedOffers " \t" = .idle := by
  obtain ⟨hposition, hdecimal, hcode, hblank, -⟩ :=
    choice_settled_by_position_or_code ⟨"r-1"⟩ crossedOffers
  have hsecond : NamesPosition crossedOffers " +002 " ⟨⟨"1"⟩, "Refused", some .done⟩ :=
    .counted 1 rfl (.digits "002".toList (by decide) (by decide) rfl (.inr (by decide)))
      (by decide)
  have hthird : NamesPosition crossedOffers "3" ⟨⟨"REJECTED"⟩, "Rejected", some .done⟩ :=
    hdecimal 3 _ (by decide) rfl
  obtain ⟨-, happlied⟩ := hcode ⟨⟨"REJECTED"⟩, "Rejected", some .done⟩ (by decide) (by decide)
  exact ⟨(hposition _ _ hsecond).2, (hposition _ _ hthird).2, happlied.mpr (by rfl),
    (hblank _ (by decide)).2⟩

/-- The code of the first offer picks the second one. -/
theorem crossed_code_picks_other :
    (crossedOffers.map Offer.target).Nodup ∧
      (∀ o ∈ crossedOffers, Text.Tidy o.target.text) ∧
      ⟨"2"⟩ ∈ crossedOffers.map Offer.target ∧
      pick? crossedOffers "2" = some ⟨"1"⟩ ∧
      answered ⟨"r-1"⟩ crossedOffers "2" = .applying ⟨"r-1"⟩ ⟨"1"⟩ := by
  refine ⟨by decide, by decide, by decide, by rfl, by rfl⟩

end MoveFlow

end Docket
