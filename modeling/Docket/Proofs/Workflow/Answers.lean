import Docket.Proofs.Workflow.Graph
import Docket.Workflow.Route

/-!
# What the answers of a graph depend on

A workflow may be put on record in any order and with any disabled edges.
Edges that lead away from different statuses are sorted among each other as
they happen to stand there, so two graphs of one workflow need not be the
same. No question tells them apart: every one of them looks at the enabled
edges that leave one status, and these have different targets and are strictly
ordered.

* `departures_eq` — the same enabled edges on record leave a status in the
  same order.
* `AnswersAs.of_departures` — every answer follows from what leaves each status.
* `answers_depend_on_enabled_edges` — which workflows have a graph, and that
  those with the same enabled edges answer alike.
-/

namespace Docket

/-- Of two edges at most one comes before the other. -/
theorem Edge.Before.asymm {a b : Edge} (hab : a.Before b) : ¬ b.Before a := by
  rintro (hba | ⟨hpos, hba⟩)
  · rcases hab with hab | ⟨hpos, -⟩
    · exact Int32.lt_asymm hab hba
    · exact Int32.lt_irrefl (hpos ▸ hba)
  · rcases hab with hab | ⟨-, hab⟩
    · exact Int32.lt_irrefl (hpos ▸ hab)
    · exact String.lt_asymm hab hba

namespace Graph

variable {topic : TopicCode} {statuses : List Status} {edges edges' : List Edge} {g g' : Graph}

/-- The same enabled edges on record leave a status in the same order. -/
theorem departures_eq (hbuild : build topic statuses edges = .ok g)
    (hbuild' : build topic statuses edges' = .ok g')
    (hsame : (edges.filter Edge.enabled).Perm (edges'.filter Edge.enabled)) (source : StatusCode) :
    g.departures source = g'.departures source := by
  have hleave : (edges.filter fun e => e.enabled && e.source == source).Perm
      (edges'.filter fun e => e.enabled && e.source == source) := by
    have hfilter := hsame.filter fun e => e.source == source
    simpa only [List.filter_filter, Bool.and_comm] using hfilter
  have hperm : (g.departures source).Perm (g'.departures source) :=
    ((departures_perm hbuild source).trans hleave).trans (departures_perm hbuild' source).symm
  refine hperm.eq_of_pairwise ?_ (departures_ordered hbuild source)
    (departures_ordered hbuild' source)
  intro a b _ _ hab hba
  exact absurd hba hab.asymm

/-- An edge is looked for among those that leave its source. -/
theorem edge?_eq_find?_departures (g : Graph) (source target : StatusCode) :
    g.edge? source target = (g.departures source).find? fun e => e.target == target := by
  simp only [edge?, departures, List.find?_filter, Bool.decide_and, Bool.decide_eq_true]

/-- Two graphs answer every question about moves alike, whatever is asked. -/
structure AnswersAs (g g' : Graph) : Prop where
  edge? : ∀ source target, g.edge? source target = g'.edge? source target
  outgoing : ∀ source, g.outgoing source = g'.outgoing source
  offers : ∀ source, g.offers source = g'.offers source
  deadline? : ∀ source target since,
    g.deadline? source target since = g'.deadline? source target since
  checkRequirements : ∀ source target filled types,
    g.checkRequirements source target filled types =
      g'.checkRequirements source target filled types
  route : ∀ current history, g.route current history = g'.route current history

/-- Every answer follows from the topic, the statuses and what leaves each of
them. -/
theorem AnswersAs.of_departures (htopic : g.topic = g'.topic)
    (hstatuses : g.statuses = g'.statuses)
    (hleave : ∀ source, g.departures source = g'.departures source) : g.AnswersAs g' := by
  have hstatus : g.status? = g'.status? := by
    funext code
    rw [status?, status?, hstatuses]
  have hedge : ∀ source target, g.edge? source target = g'.edge? source target := by
    intro source target
    rw [edge?_eq_find?_departures, edge?_eq_find?_departures, hleave]
  have houtgoing : ∀ source, g.outgoing source = g'.outgoing source := by
    intro source
    rw [outgoing_eq, outgoing_eq, isTerminal, isTerminal, hstatus, hleave]
  have hoffer : ∀ e : Edge, (⟨e.target, g.statusName e.target, some (g.column e.target)⟩ : Offer) =
      ⟨e.target, g'.statusName e.target, some (g'.column e.target)⟩ := by
    intro e
    rw [statusName, statusName, column, column, hstatus]
  have hoffers : ∀ source, g.offers source = g'.offers source := by
    intro source
    rw [Graph.offers, Graph.offers, houtgoing, funext hoffer]
  refine ⟨hedge, houtgoing, hoffers, ?_, ?_, ?_⟩
  · intro source target since
    rw [Graph.deadline?, Graph.deadline?, hedge]
  · intro source target filled types
    rw [Graph.checkRequirements, Graph.checkRequirements, hedge, htopic]
  · intro current history
    rw [Graph.route, Graph.route, hoffers]

/-- **What a graph answers depends on the enabled edges alone.** A workflow has a
graph exactly when its topic has a name, every edge, enabled or not, belongs to
the topic and names both its ends, and no two enabled edges share their ends;
the order in which the edges are on record does not matter. Two graphs of
a topic with the same enabled edges, in any order and next to any disabled
ones, answer every question about moves alike. -/
theorem answers_depend_on_enabled_edges (topic : TopicCode) (statuses : List Status) :
    (∀ edges, (∃ g, build topic statuses edges = .ok g) ↔
      topic.isBlank = false ∧ (∀ e ∈ edges, e.Fits topic) ∧
        ((edges.filter Edge.enabled).map Edge.ends).Nodup) ∧
    (∀ edges edges' : List Edge, edges.Perm edges' →
      ((∃ g, build topic statuses edges = .ok g) ↔ ∃ g, build topic statuses edges' = .ok g)) ∧
    ∀ edges edges' g g', build topic statuses edges = .ok g →
      build topic statuses edges' = .ok g' →
      (edges.filter Edge.enabled).Perm (edges'.filter Edge.enabled) → g.AnswersAs g' := by
  have haccepts : ∀ edges, (∃ g, build topic statuses edges = .ok g) ↔
      topic.isBlank = false ∧ (∀ e ∈ edges, e.Fits topic) ∧
        ((edges.filter Edge.enabled).map Edge.ends).Nodup := by
    intro edges
    constructor
    · rintro ⟨g, hbuild⟩
      exact (build_eq_ok_iff.mp hbuild).1
    · exact fun h => ⟨_, build_eq_ok_iff.mpr ⟨h, rfl⟩⟩
  refine ⟨haccepts, ?_, ?_⟩
  · intro edges edges' hperm
    have hfits : (∀ e ∈ edges, e.Fits topic) ↔ ∀ e ∈ edges', e.Fits topic :=
      forall_congr' fun e => imp_congr_left hperm.mem_iff
    rw [haccepts, haccepts, hfits, ((hperm.filter Edge.enabled).map Edge.ends).nodup_iff]
  · intro edges edges' g g' hbuild hbuild' hsame
    obtain ⟨-, rfl⟩ := build_eq_ok_iff.mp hbuild
    obtain ⟨-, rfl⟩ := build_eq_ok_iff.mp hbuild'
    exact .of_departures rfl rfl (departures_eq hbuild hbuild' hsame)

/-- The moves of loans, all at one position; which of two to the same status
comes first is left to the record. -/
def loanEdges : List Edge :=
  [move "NEW" "REVIEW" true, move "REVIEW" "DONE" true, move "NEW" "DONE" true]
where
  move (source target : String) (enabled : Bool) : Edge :=
    ⟨⟨"LOAN"⟩, ⟨source⟩, ⟨target⟩, some 24, [], [], enabled, 1⟩

/-- The same loans on record from back to front, with a disabled twin of a move. -/
def loanEdgesTwinned : List Edge :=
  loanEdges.move "NEW" "DONE" false :: loanEdges.reverse

/-- The graphs of the two hold their edges in different order, and answer
alike: a new loan may be done or reviewed. -/
theorem loan_graphs_answer_alike :
    ∃ g g', build ⟨"LOAN"⟩ [] loanEdges = .ok g ∧ build ⟨"LOAN"⟩ [] loanEdgesTwinned = .ok g' ∧
      g.edges.map Edge.source = [⟨"REVIEW"⟩, ⟨"NEW"⟩, ⟨"NEW"⟩] ∧
      g'.edges.map Edge.source = [⟨"NEW"⟩, ⟨"NEW"⟩, ⟨"REVIEW"⟩, ⟨"NEW"⟩] ∧
      (g.outgoing ⟨"NEW"⟩).map Edge.target = [⟨"DONE"⟩, ⟨"REVIEW"⟩] ∧ g.AnswersAs g' := by
  have hsort : loanEdges.mergeSort edgeBefore = [loanEdges.move "REVIEW" "DONE" true,
      loanEdges.move "NEW" "DONE" true, loanEdges.move "NEW" "REVIEW" true] := by
    simp [loanEdges, loanEdges.move, edgeBefore, List.mergeSort, List.MergeSort.Internal.splitInTwo]
  have hsort' : (loanEdgesTwinned.mergeSort edgeBefore).map Edge.source =
      [⟨"NEW"⟩, ⟨"NEW"⟩, ⟨"REVIEW"⟩, ⟨"NEW"⟩] := by
    simp [loanEdgesTwinned, loanEdges, loanEdges.move, edgeBefore, List.mergeSort,
      List.MergeSort.Internal.splitInTwo]
  obtain ⟨g, hg⟩ : ∃ g, g = Graph.mk ⟨"LOAN"⟩ [] (loanEdges.mergeSort edgeBefore) := ⟨_, rfl⟩
  obtain ⟨g', hg'⟩ : ∃ g', g' = Graph.mk ⟨"LOAN"⟩ [] (loanEdgesTwinned.mergeSort edgeBefore) :=
    ⟨_, rfl⟩
  have hbuild : build ⟨"LOAN"⟩ [] loanEdges = .ok g :=
    build_eq_ok_iff.mpr ⟨by unfold Edge.Fits; decide, hg⟩
  have hbuild' : build ⟨"LOAN"⟩ [] loanEdgesTwinned = .ok g' :=
    build_eq_ok_iff.mpr ⟨by unfold Edge.Fits; decide, hg'⟩
  refine ⟨g, g', hbuild, hbuild', ?_, ?_, ?_, ?_⟩
  · rw [hg, hsort]; decide
  · rw [hg', hsort']
  · rw [hg, hsort]; decide
  · refine (answers_depend_on_enabled_edges ⟨"LOAN"⟩ []).2.2 _ _ g g' hbuild hbuild' ?_
    exact (List.reverse_perm _).symm

end Graph
end Docket
