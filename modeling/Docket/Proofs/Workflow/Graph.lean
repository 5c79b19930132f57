import Docket.Workflow.Graph

/-!
# Graphs that pass their check

A graph is built exactly when its topic has a name, every edge belongs to the
topic and names both its ends, and no two enabled edges share their ends. Its
edges are then those of the workflow, in order of position and target.

* `build_eq_ok_iff` — which workflows have a graph, and what it holds.
* `departures_perm`, `departures_ordered` — the enabled edges that leave a
  status are those on record, strictly ordered.
* `outgoing_perm` — the moves from a status are the enabled edges on record
  that leave it.
* `outgoing_targets_nodup` — no two of them lead to the same status.
* `outgoing_ordered` — they are strictly ordered.
-/

namespace Docket

/-- The two statuses between which an edge leads. -/
def Edge.ends (e : Edge) : StatusCode × StatusCode :=
  (e.source, e.target)

/-- An edge comes before another: its position is smaller, or it is the same
and its target is. -/
def Edge.Before (a b : Edge) : Prop :=
  a.position < b.position ∨ a.position = b.position ∧ a.target.text < b.target.text

/-- An edge may belong to a graph of the topic. -/
def Edge.Fits (topic : TopicCode) (e : Edge) : Prop :=
  e.topic = topic ∧ e.source.isBlank = false ∧ e.target.isBlank = false

namespace Graph

theorem edgeBefore_iff (a b : Edge) :
    edgeBefore a b = true ↔
      a.position < b.position ∨ a.position = b.position ∧ a.target.text ≤ b.target.text := by
  simp [edgeBefore]

theorem edgeBefore_trans {a b c : Edge} (hab : edgeBefore a b = true)
    (hbc : edgeBefore b c = true) : edgeBefore a c = true := by
  rw [edgeBefore_iff] at *
  rcases hab with hab | ⟨hab, htab⟩
  · rcases hbc with hbc | ⟨hbc, -⟩
    · exact Or.inl (Int32.lt_trans hab hbc)
    · exact Or.inl (hbc ▸ hab)
  · rcases hbc with hbc | ⟨hbc, htbc⟩
    · exact Or.inl (hab ▸ hbc)
    · exact Or.inr ⟨hab.trans hbc, String.le_trans htab htbc⟩

theorem edgeBefore_total (a b : Edge) : (edgeBefore a b || edgeBefore b a) = true := by
  rw [Bool.or_eq_true, edgeBefore_iff, edgeBefore_iff]
  by_cases hpos : a.position = b.position
  · rcases String.le_total a.target.text b.target.text with h | h
    · exact Or.inl (Or.inr ⟨hpos, h⟩)
    · exact Or.inr (Or.inr ⟨hpos.symm, h⟩)
  · rcases Int32.lt_or_lt_of_ne hpos with h | h
    · exact Or.inl (Or.inl h)
    · exact Or.inr (Or.inl h)

theorem edgeBefore_mergeSort (edges : List Edge) :
    (edges.mergeSort edgeBefore).Pairwise fun a b => edgeBefore a b = true :=
  List.pairwise_mergeSort (fun a b c => edgeBefore_trans (a := a) (b := b) (c := c))
    edgeBefore_total edges

/-- Two edges in order that lead to different statuses are strictly in
order. -/
theorem before_of_edgeBefore {a b : Edge} (h : edgeBefore a b = true)
    (hne : a.target ≠ b.target) : a.Before b := by
  rcases (edgeBefore_iff a b).mp h with hlt | ⟨hpos, hle⟩
  · exact Or.inl hlt
  · refine Or.inr ⟨hpos, String.not_le.mp fun hge => hne ?_⟩
    exact congrArg Ident.mk (String.le_antisymm hle hge)

/-- Edges pass the check when all of them fit and the enabled ones are told
apart by their ends, from each other and from those taken before. -/
theorem checkEdges_eq_ok_iff {topic : TopicCode} {taken : List (StatusCode × StatusCode)}
    {edges : List Edge} :
    checkEdges topic taken edges = .ok () ↔
      (∀ e ∈ edges, e.Fits topic) ∧ ((edges.filter Edge.enabled).map Edge.ends).Nodup ∧
        ∀ p ∈ (edges.filter Edge.enabled).map Edge.ends, p ∉ taken := by
  induction edges generalizing taken with
  | nil => simp [checkEdges]
  | cons e rest ih =>
      unfold checkEdges
      by_cases htopic : e.topic = topic
      case neg => simp [htopic, Edge.Fits]
      by_cases hblank : e.source.isBlank = true ∨ e.target.isBlank = true
      case pos =>
        rcases hblank with h | h <;> simp [htopic, h, Edge.Fits]
      have hfits : e.Fits topic := by simpa [Edge.Fits, htopic] using hblank
      by_cases henabled : e.enabled = true
      case neg => simp [htopic, hblank, henabled, ih, hfits]
      -- only an enabled edge that is not taken goes on with more ends taken
      by_cases htaken : (e.source, e.target) ∈ taken
      case pos => simp [htopic, hblank, henabled, htaken, Edge.ends]
      rw [if_neg (not_not_intro htopic), if_neg hblank, if_pos henabled, if_neg htaken, ih,
        List.filter_cons_of_pos henabled, List.map_cons, List.nodup_cons, List.forall_mem_cons,
        List.forall_mem_cons]
      simp only [List.mem_cons, not_or]
      constructor
      · rintro ⟨hall, hnodup, hfresh⟩
        exact ⟨⟨hfits, hall⟩, ⟨fun hmem => (hfresh _ hmem).1 rfl, hnodup⟩, htaken,
          fun p hp => (hfresh p hp).2⟩
      · rintro ⟨⟨-, hall⟩, ⟨hnew, hnodup⟩, -, hfresh⟩
        exact ⟨hall, hnodup, fun p hp => ⟨fun heq : p = e.ends => hnew (heq ▸ hp), hfresh p hp⟩⟩

/-- A workflow has a graph exactly when its topic has a name, its edges fit
and the enabled ones are told apart by their ends. -/
theorem build_eq_ok_iff {topic : TopicCode} {statuses : List Status} {edges : List Edge}
    {g : Graph} :
    build topic statuses edges = .ok g ↔
      (topic.isBlank = false ∧ (∀ e ∈ edges, e.Fits topic) ∧
        ((edges.filter Edge.enabled).map Edge.ends).Nodup) ∧
      g = ⟨topic, statuses, edges.mergeSort edgeBefore⟩ := by
  unfold build
  by_cases htopic : topic.isBlank = true
  · simp [htopic]
  · cases hcheck : checkEdges topic [] edges with
    | error failure =>
        have hnot : ¬ checkEdges topic [] edges = .ok () := by simp [hcheck]
        rw [checkEdges_eq_ok_iff] at hnot
        simp_all [Except.map]
    | ok u =>
        have h := checkEdges_eq_ok_iff.mp hcheck
        have hname : topic.isBlank = false := by simpa using htopic
        simp only [hname, Bool.false_eq_true, if_false, Except.map, Except.ok.injEq, true_and,
          eq_comm]
        exact (and_iff_right ⟨h.1, h.2.1⟩).symm

variable {topic : TopicCode} {statuses : List Status} {edges : List Edge} {g : Graph}

/-- The enabled edges that leave a status, in order; those of a terminal one are
no moves. -/
def departures (g : Graph) (source : StatusCode) : List Edge :=
  g.edges.filter fun e => e.enabled && e.source == source

theorem outgoing_eq (g : Graph) (source : StatusCode) :
    g.outgoing source = if g.isTerminal source then [] else g.departures source := rfl

/-- The departures from a status are the enabled edges on record that leave
it. -/
theorem departures_perm (hbuild : build topic statuses edges = .ok g) (source : StatusCode) :
    (g.departures source).Perm (edges.filter fun e => e.enabled && e.source == source) := by
  have hperm : g.edges.Perm edges := by
    rw [(build_eq_ok_iff.mp hbuild).2]
    exact List.mergeSort_perm edges edgeBefore
  exact hperm.filter _

/-- No two departures from a status lead to the same status. -/
theorem departures_targets_nodup (hbuild : build topic statuses edges = .ok g)
    (source : StatusCode) : ((g.departures source).map Edge.target).Nodup := by
  have hends := (build_eq_ok_iff.mp hbuild).1.2.2
  rw [((departures_perm hbuild source).map Edge.target).nodup_iff]
  rw [List.Nodup, List.pairwise_map, List.pairwise_filter] at hends ⊢
  refine hends.imp fun {a b} hab ha hb htarget => ?_
  simp only [Bool.and_eq_true, beq_iff_eq] at ha hb
  refine hab ha.1 hb.1 (Prod.ext ?_ htarget)
  exact ha.2.trans hb.2.symm

/-- The departures from a status are strictly ordered by position and target. -/
theorem departures_ordered (hbuild : build topic statuses edges = .ok g) (source : StatusCode) :
    (g.departures source).Pairwise Edge.Before := by
  have hsorted : (g.departures source).Pairwise fun a b => edgeBefore a b = true := by
    unfold departures
    rw [(build_eq_ok_iff.mp hbuild).2]
    exact (edgeBefore_mergeSort edges).filter _
  have hdistinct := List.pairwise_map.mp (departures_targets_nodup hbuild source)
  exact (hsorted.and hdistinct).imp fun h => before_of_edgeBefore h.1 h.2

/-- The moves from a status are some of the departures. -/
theorem outgoing_sublist (g : Graph) (source : StatusCode) :
    (g.outgoing source).Sublist (g.departures source) := by
  rw [outgoing_eq]
  split
  · exact List.nil_sublist _
  · exact List.Sublist.refl _

/-- The moves from a status are the enabled edges on record that leave it,
and a terminal status has none. -/
theorem outgoing_perm (hbuild : build topic statuses edges = .ok g) (source : StatusCode) :
    (g.outgoing source).Perm
      (edges.filter fun e => !g.isTerminal source && (e.enabled && e.source == source)) := by
  rw [outgoing_eq]
  by_cases hterminal : g.isTerminal source = true
  · simp [hterminal]
  · simpa [hterminal] using departures_perm hbuild source

/-- No two moves from a status lead to the same status. -/
theorem outgoing_targets_nodup (hbuild : build topic statuses edges = .ok g)
    (source : StatusCode) : ((g.outgoing source).map Edge.target).Nodup :=
  (departures_targets_nodup hbuild source).sublist ((outgoing_sublist g source).map Edge.target)

/-- The moves from a status are strictly ordered by position and target. -/
theorem outgoing_ordered (hbuild : build topic statuses edges = .ok g) (source : StatusCode) :
    (g.outgoing source).Pairwise Edge.Before :=
  (departures_ordered hbuild source).sublist (outgoing_sublist g source)

end Graph
end Docket
