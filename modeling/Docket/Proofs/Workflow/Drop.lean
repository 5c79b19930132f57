import Docket.Proofs.Destination
import Docket.Proofs.Workflow.Graph
import Docket.Request
import Mathlib.Data.List.Forall2

/-!
# Cards dropped into a column

The server attaches to every request the moves its graph has from where the
request stands. It may leave out a column wherever the graph declares none;
reader and graph then guess alike from the code. A card that is dropped into a
column therefore goes where the edges of the workflow say.

* `Request.Mirrors` — the row of a request that a graph accounts for.
* `Request.Mirrors.offersInto_targets` — the offers into a column are the
  moves into it, each once and in order.
* `Request.Mirrors.destination_of_drop` — where the card goes.
-/

namespace Docket

/-- The graph has a column on record for the status. -/
def Graph.Declares (g : Graph) (code : StatusCode) : Prop :=
  ∃ status column, g.status? code = some status ∧ status.column? = some column

/-- A column that is not on record is guessed from the code. -/
theorem Graph.column_of_not_declares {g : Graph} {code : StatusCode} (h : ¬ g.Declares code) :
    g.column code = .guess code.text := by
  unfold Graph.column
  cases hstatus : g.status? code with
  | none => rw [Option.map_none, Option.getD_none]
  | some status =>
      have hcode : status.code = code := by
        simpa using List.find?_some hstatus
      cases hcolumn : status.column? with
      | none => rw [Option.map_some, Option.getD_some, Status.column, hcolumn, Option.getD_none, hcode]
      | some column => exact absurd ⟨status, column, hstatus, hcolumn⟩ h

/-- An offer stands for a move of the graph. Its column may be left out where
the graph declares none. -/
def Offer.Mirrors (g : Graph) (o move : Offer) : Prop :=
  o = move ∨ ¬ g.Declares move.target ∧ o = { move with column? := none }

/-- The row of a request in a status, as the graph has it: it stands in the
column of the status and offers the moves from there. Columns that the graph
does not declare may be left out. -/
structure Request.Mirrors (r : Request) (g : Graph) (source : StatusCode) : Prop where
  status : r.status = source
  column : r.column? = some (g.column source) ∨ ¬ g.Declares source ∧ r.column? = none
  offers : List.Forall₂ (Offer.Mirrors g) r.offers (g.offers source)

/-- The moves that the edges on record make from a status into a column, in
order of position and target. -/
structure Graph.MovesInto (g : Graph) (edges : List Edge) (source : StatusCode) (column : Column)
    (moves : List Edge) : Prop where
  perm : moves.Perm <| edges.filter fun e =>
    !g.isTerminal source && (e.enabled && e.source == source) && g.column e.target = column
  ordered : moves.Pairwise Edge.Before

/-- Where a card ends that is dropped into a column other than its own, when
the moves into the column have these targets. -/
structure Request.Lands (r : Request) (column : Column) (targets : List StatusCode) : Prop where
  nowhere : targets = [] →
    r.destination (some column) none = .error (.noLegalMove r.status column)
  settled : ∀ target, targets = [target] →
    r.destination (some column) none = .ok (.settled target)
  choice : 2 ≤ targets.length →
    ∃ offers, offers.Sublist r.offers ∧ offers.map Offer.target = targets ∧
      r.destination (some column) none = .ok (.choice offers)

namespace Request

/-- Offers with different targets are all first of their target. -/
theorem firstOffers_of_nodup {taken : List StatusCode} {offers : List Offer}
    (hnodup : (offers.map Offer.target).Nodup) (hfresh : ∀ o ∈ offers, o.target ∉ taken) :
    firstOffers taken offers = offers := by
  rw [firstOffers_eq_firstOfEach]
  exact firstOfEach_eq_self hnodup hfresh

namespace Mirrors

variable {r : Request} {g : Graph} {source : StatusCode}

/-- A request stands where the graph has its status. -/
theorem column_eq (h : r.Mirrors g source) : r.column = g.column source := by
  unfold Request.column Request.standing
  rcases h.column with hcolumn | ⟨hdeclares, hcolumn⟩
  · rw [hcolumn]
  · rw [hcolumn, Graph.column_of_not_declares hdeclares, h.status]

/-- The offers are the moves one by one, with the same targets and columns. -/
theorem offers_moves (h : r.Mirrors g source) :
    List.Forall₂ (fun o e => o.target = e.target ∧ o.column = g.column e.target) r.offers
      (g.outgoing source) := by
  refine (List.forall₂_map_right_iff.mp h.offers).imp fun o e hoffer => ?_
  rcases hoffer with rfl | ⟨hdeclares, rfl⟩
  · exact ⟨rfl, rfl⟩
  · exact ⟨rfl, by rw [Offer.column, Option.getD_none, Graph.column_of_not_declares hdeclares]⟩

/-- The offers into a column have the targets of the moves into it. -/
theorem offers_targets (h : r.Mirrors g source) (column : Column) :
    (r.offers.filter fun o => o.column = column).map Offer.target =
      ((g.outgoing source).filter fun e => g.column e.target = column).map Edge.target := by
  have hmoves := h.offers_moves
  generalize r.offers = offers at hmoves
  generalize g.outgoing source = moves at hmoves
  induction hmoves with
  | nil => rfl
  | cons hhead _ ih =>
      rw [List.filter_cons, List.filter_cons, hhead.2]
      split
      · rw [List.map_cons, List.map_cons, hhead.1, ih]
      · exact ih

variable {topic : TopicCode} {statuses : List Status} {edges : List Edge}

/-- The offers into a column are those that lead there, since no two have the
same target. -/
theorem offersInto_eq (hbuild : Graph.build topic statuses edges = .ok g)
    (h : r.Mirrors g source) (column : Column) :
    r.offersInto column = r.offers.filter fun o => o.column = column := by
  refine firstOffers_of_nodup ?_ fun _ _ => List.not_mem_nil
  rw [h.offers_targets column]
  exact (Graph.outgoing_targets_nodup hbuild source).sublist (List.filter_sublist.map _)

/-- The offers into a column have the targets of the moves into it, each once
and in order. -/
theorem offersInto_targets (hbuild : Graph.build topic statuses edges = .ok g)
    (h : r.Mirrors g source) (column : Column) :
    (r.offersInto column).map Offer.target =
      ((g.outgoing source).filter fun e => g.column e.target = column).map Edge.target := by
  rw [h.offersInto_eq hbuild column, h.offers_targets column]

/-- The moves into a column are the edges on record that make them. -/
theorem movesInto_outgoing (hbuild : Graph.build topic statuses edges = .ok g)
    (source : StatusCode) (column : Column) :
    g.MovesInto edges source column
      ((g.outgoing source).filter fun e => g.column e.target = column) where
  perm := by
    have hperm := (Graph.outgoing_perm hbuild source).filter fun e => g.column e.target = column
    rw [List.filter_filter] at hperm
    simpa [Bool.and_comm] using hperm
  ordered := (Graph.outgoing_ordered hbuild source).filter _

/-- A card that is dropped into another column lands where the offers into it
lead, as none of them leads back to its own status. -/
theorem lands (h : r.Mirrors g source) {column : Column} (hcolumn : g.column source ≠ column)
    {targets : List StatusCode} (htargets : (r.offersInto column).map Offer.target = targets)
    (hsub : (r.offersInto column).Sublist r.offers) (hsource : source ∉ targets) :
    r.Lands column targets := by
  have hdrop : r.destination (some column) none = r.destinationInto column := rfl
  have hother : r.column ≠ column := h.column_eq ▸ hcolumn
  rw [← htargets] at hsource ⊢
  refine ⟨fun hnil => ?_, fun target hone => ?_, fun hmore => ?_⟩
  · have hempty := List.map_eq_nil_iff.mp hnil
    rw [hdrop, destinationInto, if_neg hother, hempty]
  · obtain ⟨o, hoffer, rfl⟩ := List.map_eq_singleton_iff.mp hone
    have hleaves : o.target ≠ r.status := by
      rw [hoffer, h.status.symm] at hsource
      exact fun heq => hsource (by simp [heq])
    rw [hdrop, destinationInto, if_neg hother, hoffer]
    exact congrArg (fun d => Except.ok d) (if_neg hleaves)
  · refine ⟨r.offersInto column, hsub, rfl, ?_⟩
    rw [hdrop, destinationInto, if_neg hother]
    match hoffers : r.offersInto column with
    | [] => simp [hoffers] at hmore
    | [_] => simp [hoffers] at hmore
    | _ :: _ :: _ => rfl

/-- **A dropped card goes where the workflow leads.** Let a graph account for
the row of a request. Dropped into its own column the card stays. Dropped into
another one it lands by the enabled edges of the workflow that lead there: it
is refused when there is none, settles when there is one, and else the user
picks among exactly their targets, each once and in the order of the edges.
None of them is the status the card is in. -/
theorem destination_of_drop (hbuild : Graph.build topic statuses edges = .ok g)
    (h : r.Mirrors g source) (column : Column) :
    ∃ moves, g.MovesInto edges source column moves ∧ (moves.map Edge.target).Nodup ∧
      (g.column source = column → r.destination (some column) none = .ok .stay) ∧
      (g.column source ≠ column →
        source ∉ moves.map Edge.target ∧ r.Lands column (moves.map Edge.target)) := by
  refine ⟨(g.outgoing source).filter fun e => g.column e.target = column,
    movesInto_outgoing hbuild source column, ?_, fun hcolumn => ?_, fun hcolumn => ?_⟩
  · exact (Graph.outgoing_targets_nodup hbuild source).sublist (List.filter_sublist.map _)
  · have hstays : r.column = column := h.column_eq.trans hcolumn
    show r.destinationInto column = .ok .stay
    rw [destinationInto, if_pos hstays]
  · have hleaves : source ∉ ((g.outgoing source).filter fun e =>
        g.column e.target = column).map Edge.target := by
      intro hmem
      obtain ⟨e, he, htarget⟩ := List.mem_map.mp hmem
      have hlead := (List.mem_filter.mp he).2
      exact hcolumn (by simpa [htarget] using hlead)
    refine ⟨hleaves, h.lands hcolumn (h.offersInto_targets hbuild column) ?_ hleaves⟩
    rw [h.offersInto_eq hbuild column]
    exact List.filter_sublist

/-- A workflow with two moves that end a new request, on record in the wrong
order and next to a loop and a disabled twin. No column is declared for
refused requests. -/
def intake : Workflow where
  topic := ⟨⟨"INTAKE"⟩, "Intake"⟩
  statuses := [⟨⟨"NEW"⟩, "New", some .new, false, 0⟩, ⟨⟨"CLOSED"⟩, "Closed", some .done, true, 1⟩]
  edges := [move "DONE_REFUSED" true 2, move "CLOSED" true 1, move "CLOSED" false 0,
    move "NEW" true 3]
where
  move (target : String) (enabled : Bool) (position : Int32) : Edge :=
    ⟨⟨"INTAKE"⟩, ⟨"NEW"⟩, ⟨target⟩, none, [], [], enabled, position⟩

/-- The row of a new request; the column of refused ones is left out. -/
def intakeRow (g : Graph) : Request where
  id := ⟨"R1"⟩
  track := "T-1"
  topic := ⟨"INTAKE"⟩
  status := ⟨"NEW"⟩
  statusName? := none
  assignee? := none
  offers := (g.offers ⟨"NEW"⟩).map fun o =>
    if o.target = ⟨"DONE_REFUSED"⟩ then { o with column? := none } else o
  column? := some .new
  importantDate? := none
  updated? := none

/-- A new request that is dropped among the done ones has a choice. -/
theorem destination_of_drop_done :
    ∃ g, Graph.ofWorkflow intake = .ok g ∧ (intakeRow g).Mirrors g ⟨"NEW"⟩ ∧
      g.column ⟨"NEW"⟩ ≠ .done ∧
      ∃ moves, g.MovesInto intake.edges ⟨"NEW"⟩ .done moves ∧ 2 ≤ moves.length ∧
        (intakeRow g).Lands .done (moves.map Edge.target) := by
  obtain ⟨g, hg⟩ : ∃ g, g = Graph.mk intake.topic.code intake.statuses
      (intake.edges.mergeSort Graph.edgeBefore) := ⟨_, rfl⟩
  have hbuild : Graph.ofWorkflow intake = .ok g :=
    Graph.build_eq_ok_iff.mpr ⟨by unfold Edge.Fits; decide, hg⟩
  have hrow : (intakeRow g).Mirrors g ⟨"NEW"⟩ := by
    refine ⟨rfl, Or.inl ?_, List.forall₂_map_left_iff.mpr (List.forall₂_same.mpr fun o _ => ?_)⟩
    · rw [hg]; decide
    · by_cases htarget : o.target = ⟨"DONE_REFUSED"⟩
      · refine Or.inr ⟨?_, if_pos htarget⟩
        rintro ⟨status, column, hstatus, -⟩
        have hnone : (g.status? o.target).isNone = true := by rw [hg, htarget]; decide
        rw [hstatus] at hnone
        exact Bool.noConfusion hnone
      · exact Or.inl (if_neg htarget)
  have hcolumn : g.column ⟨"NEW"⟩ ≠ .done := by rw [hg]; decide
  obtain ⟨moves, hmoves, -, -, hdrop⟩ := destination_of_drop hbuild hrow .done
  have hlength : 2 ≤ moves.length := by
    rw [hmoves.perm.length_eq, hg]
    decide
  exact ⟨g, hbuild, hrow, hcolumn, moves, hmoves, hlength, (hdrop hcolumn).2⟩

end Mirrors
end Request
end Docket
