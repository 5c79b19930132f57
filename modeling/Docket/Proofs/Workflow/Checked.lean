import Docket.Proofs.Workflow.Answers
import Mathlib.Data.List.Nodup

/-!
# Checked moves and offered moves

Before a move is made one may ask whether it can be taken with the data and
files at hand, and when its target is due. Both questions look for the enabled
edge between two statuses, and the offers from a status are made of the enabled
edges that leave it. What is offered can therefore be asked about. Conversely
the questions take a move for one that can be made that is not offered, if its
source is terminal and an enabled edge is on record all the same: offers leave
such a status alone, the questions do not.

* `edge?_eq_some_iff` — the edge that is found is the one on record.
* `mem_targets_offers_iff` — where the offers lead.
* `admitted_offered_unless_terminal` — which moves the questions admit beyond
  the offers.
-/

namespace Docket.Graph

variable {topic : TopicCode} {statuses : List Status} {edges : List Edge} {g : Graph}
  {source target : StatusCode}

/-- The edges of a graph are those on record. -/
theorem mem_edges_iff (hbuild : build topic statuses edges = .ok g) {e : Edge} :
    e ∈ g.edges ↔ e ∈ edges := by
  rw [(build_eq_ok_iff.mp hbuild).2]
  exact (List.mergeSort_perm edges edgeBefore).mem_iff

/-- An edge that is found is enabled and leads where it was looked for. -/
theorem of_edge?_eq_some {e : Edge} (h : g.edge? source target = some e) :
    e ∈ g.edges ∧ e.enabled = true ∧ e.source = source ∧ e.target = target := by
  have hends := List.find?_some h
  simp only [Bool.and_eq_true, beq_iff_eq] at hends
  exact ⟨List.mem_of_find?_eq_some h, hends.1.1, hends.1.2, hends.2⟩

/-- Where an enabled edge leads some edge is found. -/
theorem exists_edge?_of_mem {e : Edge} (he : e ∈ g.edges) (henabled : e.enabled = true) :
    ∃ found, g.edge? e.source e.target = some found := by
  have hsome : (g.edge? e.source e.target).isSome = true := by
    rw [edge?, List.find?_isSome]
    exact ⟨e, he, by simp [henabled]⟩
  exact Option.isSome_iff_exists.mp hsome

/-- The edge that is found is the one on record, since no two enabled edges
share their ends. -/
theorem edge?_eq_some_iff (hbuild : build topic statuses edges = .ok g) {e : Edge} :
    g.edge? source target = some e ↔
      e ∈ edges ∧ e.enabled = true ∧ e.source = source ∧ e.target = target := by
  constructor
  · intro h
    obtain ⟨he, hends⟩ := of_edge?_eq_some h
    exact ⟨(mem_edges_iff hbuild).mp he, hends⟩
  · rintro ⟨he, henabled, rfl, rfl⟩
    have he' := (mem_edges_iff hbuild).mpr he
    obtain ⟨found, hfound⟩ := exists_edge?_of_mem he' henabled
    obtain ⟨hmem, henabled', hsource, htarget⟩ := of_edge?_eq_some hfound
    have hleaves : found ∈ g.departures e.source :=
      List.mem_filter.mpr ⟨hmem, by simp [henabled', hsource]⟩
    have hleaves' : e ∈ g.departures e.source :=
      List.mem_filter.mpr ⟨he', by simp [henabled]⟩
    have hsame := List.inj_on_of_nodup_map (departures_targets_nodup hbuild e.source)
      hleaves hleaves' htarget
    rw [hfound, hsame]

theorem targets_offers (g : Graph) (source : StatusCode) :
    (g.offers source).map Offer.target = (g.outgoing source).map Edge.target := by
  rw [offers, List.map_map]
  rfl

/-- The offers lead where an enabled edge does, unless the status is
terminal. -/
theorem mem_targets_offers_iff :
    target ∈ (g.offers source).map Offer.target ↔
      g.isTerminal source = false ∧ ∃ e, g.edge? source target = some e := by
  rw [targets_offers, List.mem_map, outgoing_eq]
  cases hterminal : g.isTerminal source with
  | true => simp
  | false =>
      simp only [Bool.false_eq_true, if_false, true_and]
      constructor
      · rintro ⟨e, he, rfl⟩
        obtain ⟨hmem, hleaves⟩ := List.mem_filter.mp he
        simp only [Bool.and_eq_true, beq_iff_eq] at hleaves
        obtain ⟨henabled, rfl⟩ := hleaves
        exact exists_edge?_of_mem hmem henabled
      · rintro ⟨e, he⟩
        obtain ⟨hmem, henabled, hsource, htarget⟩ := of_edge?_eq_some he
        exact ⟨e, List.mem_filter.mpr ⟨hmem, by simp [henabled, hsource]⟩, htarget⟩

/-- No status is offered twice. -/
theorem targets_offers_nodup (hbuild : build topic statuses edges = .ok g)
    (source : StatusCode) : ((g.offers source).map Offer.target).Nodup := by
  rw [targets_offers]
  exact outgoing_targets_nodup hbuild source

/-- The questions about a move take it for one that can be made: with some data
and files nothing is missing, or its target is due at some time. -/
def Admits (g : Graph) (source target : StatusCode) : Prop :=
  (∃ filled types, g.checkRequirements source target filled types = .ok ()) ∨
    ∃ since due, g.deadline? source target since = some due

/-- The questions admit no move without an enabled edge. -/
theorem Admits.exists_edge? (h : g.Admits source target) :
    ∃ e, g.edge? source target = some e := by
  cases hedge : g.edge? source target with
  | some e => exact ⟨e, rfl⟩
  | none =>
      rcases h with ⟨filled, types, hcheck⟩ | ⟨since, due, hdue⟩
      · rw [checkRequirements, hedge] at hcheck
        cases hcheck
      · rw [deadline?, hedge] at hdue
        cases hdue

/-- Where there is an enabled edge, none is missed. -/
theorem checkRequirements_ne_noEdge {e : Edge} (hedge : g.edge? source target = some e)
    (filled types : List String) (source' target' : StatusCode) (topic' : TopicCode) :
    g.checkRequirements source target filled types ≠
      .error (.invalid (.noEdge source' target' topic')) := by
  rw [checkRequirements, hedge]
  intro hmissed
  dsimp only at hmissed
  split at hmissed
  · cases hmissed
  · cases hmissed

/-- **The questions about moves agree with the offers, but for terminal
statuses.** In a graph that passed its check, a move that the questions admit is
offered exactly when its source is not terminal. Every move that is offered is
offered once, its edge is found, and no question misses it. -/
theorem admitted_offered_unless_terminal (hbuild : build topic statuses edges = .ok g)
    (source target : StatusCode) :
    (g.Admits source target →
      (target ∈ (g.offers source).map Offer.target ↔ g.isTerminal source = false)) ∧
    (target ∈ (g.offers source).map Offer.target →
      ((g.offers source).map Offer.target).count target = 1 ∧
      (∃ e, g.edge? source target = some e) ∧
      ∀ filled types source' target' topic',
        g.checkRequirements source target filled types ≠
          .error (.invalid (.noEdge source' target' topic'))) := by
  constructor
  · intro hadmits
    rw [mem_targets_offers_iff]
    exact and_iff_left hadmits.exists_edge?
  · intro hoffered
    obtain ⟨-, e, hedge⟩ := mem_targets_offers_iff.mp hoffered
    refine ⟨?_, ⟨e, hedge⟩, checkRequirements_ne_noEdge hedge⟩
    exact List.count_eq_one_of_mem (targets_offers_nodup hbuild source) hoffered

/-- A new petition may be reviewed when a passport and its scan are there; the
disabled twin of that move asks for nothing. Refused petitions are done with,
and yet a way back to the review is on record. -/
def petitionEdges : List Edge :=
  [{ move "NEW" "REVIEW" true with
      slaHours? := some 48, requiredKeys := ["Passport", " "],
      requiredTypes := ["application/pdf", "Image/*"] },
    move "NEW" "REVIEW" false, move "REFUSED" "REVIEW" true]
where
  move (source target : String) (enabled : Bool) : Edge :=
    ⟨⟨"PETITION"⟩, ⟨source⟩, ⟨target⟩, none, [], [], enabled, 1⟩

/-- The statuses of a petition that are on record. -/
def petitionStatuses : List Status :=
  [⟨⟨"NEW"⟩, "New", none, false, 1⟩, ⟨⟨"REFUSED"⟩, "Refused", some .done, true, 2⟩]

/-- Petitions have a graph. -/
theorem exists_build_petition :
    ∃ g, build ⟨"PETITION"⟩ petitionStatuses petitionEdges = .ok g ∧
      g.statuses = petitionStatuses :=
  ⟨_, build_eq_ok_iff.mpr ⟨by unfold Edge.Fits; decide, rfl⟩, rfl⟩

/-- The review of a new petition is due at some time, and it is offered once. -/
theorem admitted_offered_of_new_petition :
    ∃ g, build ⟨"PETITION"⟩ petitionStatuses petitionEdges = .ok g ∧
      g.Admits ⟨"NEW"⟩ ⟨"REVIEW"⟩ ∧
      ((g.offers ⟨"NEW"⟩).map Offer.target).count ⟨"REVIEW"⟩ = 1 := by
  obtain ⟨g, hbuild, hstatuses⟩ := exists_build_petition
  have hedge : g.edge? ⟨"NEW"⟩ ⟨"REVIEW"⟩ = some (petitionEdges.head (List.cons_ne_nil _ _)) :=
    (edge?_eq_some_iff hbuild).mpr ⟨List.head_mem _, rfl, rfl, rfl⟩
  have hadmits : g.Admits ⟨"NEW"⟩ ⟨"REVIEW"⟩ := by
    refine Or.inr ⟨.epoch, ?_⟩
    rw [deadline?, hedge]
    exact Option.isSome_iff_exists.mp (by decide +kernel)
  have hopen : g.isTerminal ⟨"NEW"⟩ = false := by
    rw [isTerminal, status?, hstatuses]
    decide
  obtain ⟨hoffered, honce⟩ := admitted_offered_unless_terminal hbuild ⟨"NEW"⟩ ⟨"REVIEW"⟩
  exact ⟨g, hbuild, hadmits, (honce ((hoffered hadmits).mpr hopen)).1⟩

/-- A refused petition passes the check for its review, which is not offered. -/
theorem refused_petition_admitted_not_offered :
    ∃ g, build ⟨"PETITION"⟩ petitionStatuses petitionEdges = .ok g ∧
      g.checkRequirements ⟨"REFUSED"⟩ ⟨"REVIEW"⟩ [] [] = .ok () ∧
      ⟨"REVIEW"⟩ ∉ (g.offers ⟨"REFUSED"⟩).map Offer.target := by
  obtain ⟨g, hbuild, hstatuses⟩ := exists_build_petition
  have hedge : g.edge? ⟨"REFUSED"⟩ ⟨"REVIEW"⟩ =
      some (petitionEdges.move "REFUSED" "REVIEW" true) :=
    (edge?_eq_some_iff hbuild).mpr ⟨by simp [petitionEdges], rfl, rfl, rfl⟩
  refine ⟨g, hbuild, ?_, ?_⟩
  · rw [checkRequirements, hedge]
    rfl
  · have hterminal : g.isTerminal ⟨"REFUSED"⟩ = true := by
      rw [isTerminal, status?, hstatuses]
      decide
    rw [mem_targets_offers_iff, hterminal]
    simp

end Docket.Graph
