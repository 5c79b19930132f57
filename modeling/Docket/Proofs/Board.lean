import Docket.Board
import Docket.Destination

/-!
# Lanes of the board

The lanes of a board can be filled by hand: the requests are taken in the
order of the board, and each is put at the end of the first lane that has its
column, or put aside when no lane has it. A lane therefore holds all requests
of its column, unless an earlier lane has the same column and took them.

* `lanes_eq_dealt` — the lanes of the board are filled in this way.
* `rows_of_lane` — what a lane holds.
* `flatMap_rows_dealt` — no request comes into two lanes, and those are put
  aside that have the column of no lane.
* `lanes_hold_rows_once` — all of this about the lanes, and a card that is
  dropped into the lane where it is shown stays where it is.
-/

namespace Docket

/-- A request stands in the column that the server declares, and otherwise in
the one guessed from its status. -/
theorem Request.column_eq (r : Request) :
    r.column = r.column?.getD (Column.guess r.status.text) := by
  unfold column standing
  cases r.column? with
  | none => rw [Option.getD_none]
  | some c => rw [Option.getD_some]

namespace Lane

/-- The column of a lane. -/
def column (lane : Lane) : Column :=
  lane.head.column

/-- Puts a request at the end of the first lane of its column, and nowhere when
there is no such lane. -/
def place (r : Request) : List Lane → List Lane
  | [] => []
  | lane :: rest =>
      if lane.column = r.column then { lane with rows := lane.rows ++ [r] } :: rest
      else lane :: place r rest

/-- The lanes with requests that are put into them one after another. -/
def deal (lanes : List Lane) (rows : List Request) : List Lane :=
  rows.foldl (fun lanes r => place r lanes) lanes

variable {r : Request} {lanes : List Lane}

theorem place_cons_of_eq {lane : Lane} (h : lane.column = r.column) :
    place r (lane :: lanes) = { lane with rows := lane.rows ++ [r] } :: lanes := by
  rw [place, if_pos h]

theorem place_cons_of_ne {lane : Lane} (h : lane.column ≠ r.column) :
    place r (lane :: lanes) = lane :: place r lanes := by
  rw [place, if_neg h]

/-- Putting a request somewhere changes no heading. -/
theorem heads_place (r : Request) (lanes : List Lane) :
    (place r lanes).map head = lanes.map head := by
  induction lanes with
  | nil => rfl
  | cons lane rest ih =>
      by_cases hcolumn : lane.column = r.column
      · rw [place_cons_of_eq hcolumn]
        rfl
      · rw [place_cons_of_ne hcolumn, List.map_cons, ih, List.map_cons]

/-- Nor does dealing. -/
theorem heads_deal (lanes : List Lane) (rows : List Request) :
    (deal lanes rows).map head = lanes.map head := by
  induction rows generalizing lanes with
  | nil => rfl
  | cons r rest ih =>
      calc (deal lanes (r :: rest)).map head
          = (deal (place r lanes) rest).map head := rfl
        _ = (place r lanes).map head := ih (place r lanes)
        _ = lanes.map head := heads_place r lanes

/-- The columns of lanes are told by their headings. -/
theorem columns_eq_of_heads_eq {lanes lanes' : List Lane} (h : lanes.map head = lanes'.map head) :
    lanes.map column = lanes'.map column := by
  have hmap : ∀ ls : List Lane, ls.map column = (ls.map head).map BoardColumn.column := by
    intro ls
    rw [List.map_map]
    rfl
  rw [hmap, hmap, h]

/-- A request that is put somewhere comes into one lane if some lane has its
column, and is put aside otherwise. -/
theorem flatMap_rows_place (r : Request) (lanes : List Lane) :
    ((place r lanes).flatMap rows).Perm
      (lanes.flatMap rows ++ if r.column ∈ lanes.map column then [r] else []) := by
  induction lanes with
  | nil => exact List.Perm.refl _
  | cons lane rest ih =>
      by_cases hcolumn : lane.column = r.column
      · have hmem : r.column ∈ (lane :: rest).map column := by
          rw [← hcolumn]
          exact List.mem_cons_self
        rw [place_cons_of_eq hcolumn, if_pos hmem, List.flatMap_cons, List.flatMap_cons,
          List.append_assoc, List.append_assoc]
        exact List.Perm.append_left _ List.perm_append_comm
      · have hiff : r.column ∈ (lane :: rest).map column ↔ r.column ∈ rest.map column := by
          rw [List.map_cons, List.mem_cons]
          exact or_iff_right (Ne.symm hcolumn)
        simp only [hiff]
        rw [place_cons_of_ne hcolumn, List.flatMap_cons, List.flatMap_cons, List.append_assoc]
        exact ih.append_left _

/-- **No request comes into two lanes** when requests are dealt, and those are
put aside that have the column of no lane. -/
theorem flatMap_rows_deal (lanes : List Lane) (rows : List Request) :
    ((deal lanes rows).flatMap Lane.rows).Perm
      (lanes.flatMap Lane.rows ++ rows.filter fun r => r.column ∈ lanes.map column) := by
  induction rows generalizing lanes with
  | nil =>
      rw [List.filter_nil, List.append_nil]
      exact List.Perm.refl _
  | cons r rest ih =>
      have hcolumns : (place r lanes).map column = lanes.map column :=
        columns_eq_of_heads_eq (heads_place r lanes)
      have hrest := ih (place r lanes)
      rw [hcolumns] at hrest
      have hfirst : (if r.column ∈ lanes.map column then [r] else []) ++
            rest.filter (fun r => r.column ∈ lanes.map column) =
          (r :: rest).filter fun r => r.column ∈ lanes.map column := by
        by_cases hmem : r.column ∈ lanes.map column
        · rw [if_pos hmem, List.filter_cons_of_pos (by simpa using hmem)]
          rfl
        · rw [if_neg hmem, List.filter_cons_of_neg (by simpa using hmem)]
          rfl
      rw [← hfirst, ← List.append_assoc]
      exact hrest.trans ((flatMap_rows_place r lanes).append_right _)

end Lane

namespace Board

/-- The lanes of the board, filled by hand. -/
def dealt (b : Board) : List Lane :=
  Lane.deal (b.heads.map fun head => ⟨head, []⟩) b.rows

section Under

variable {rows : List Request} {taken : List Column} {heads : List BoardColumn} {r : Request}

/-- Lanes without requests. -/
theorem lanesUnder_nil (taken : List Column) (heads : List BoardColumn) :
    lanesUnder [] taken heads = heads.map fun head => ⟨head, []⟩ := by
  induction heads generalizing taken with
  | nil => rfl
  | cons head rest ih =>
      rw [lanesUnder, ih, List.filter_nil, ite_self]
      rfl

/-- A request whose column is taken comes into no lane. -/
theorem lanesUnder_concat_of_mem (h : r.column ∈ taken) :
    lanesUnder (rows ++ [r]) taken heads = lanesUnder rows taken heads := by
  induction heads generalizing taken with
  | nil => rfl
  | cons head rest ih =>
      rw [lanesUnder, lanesUnder, ih (List.mem_cons_of_mem _ h)]
      by_cases htaken : head.column ∈ taken
      · rw [if_pos htaken, if_pos htaken]
      · have hne : r.column ≠ head.column := by
          intro heq
          rw [heq] at h
          exact htaken h
        rw [if_neg htaken, if_neg htaken, List.filter_append,
          List.filter_cons_of_neg (by simpa using hne), List.filter_nil, List.append_nil]

/-- One more request comes to the end of the first lane of its column. -/
theorem lanesUnder_concat (h : r.column ∉ taken) :
    lanesUnder (rows ++ [r]) taken heads = Lane.place r (lanesUnder rows taken heads) := by
  induction heads generalizing taken with
  | nil => rfl
  | cons head rest ih =>
      rw [lanesUnder, lanesUnder]
      by_cases hcolumn : head.column = r.column
      · have htaken : head.column ∉ taken := by
          rw [hcolumn]
          exact h
        have hlater : r.column ∈ head.column :: taken := by
          rw [hcolumn]
          exact List.mem_cons_self
        rw [if_neg htaken, if_neg htaken, lanesUnder_concat_of_mem hlater, List.filter_append,
          List.filter_cons_of_pos (by simpa using hcolumn.symm), List.filter_nil,
          Lane.place_cons_of_eq]
        exact hcolumn
      · have hlater : r.column ∉ head.column :: taken := by
          rw [List.mem_cons, not_or]
          exact ⟨Ne.symm hcolumn, h⟩
        rw [ih hlater, List.filter_append,
          List.filter_cons_of_neg (by simpa using Ne.symm hcolumn), List.filter_nil,
          List.append_nil, Lane.place_cons_of_ne]
        exact hcolumn

/-- More requests are dealt to the lanes that hold some. -/
theorem deal_lanesUnder (rows more : List Request) (heads : List BoardColumn) :
    Lane.deal (lanesUnder rows [] heads) more = lanesUnder (rows ++ more) [] heads := by
  induction more generalizing rows with
  | nil =>
      rw [List.append_nil]
      rfl
  | cons r rest ih =>
      calc Lane.deal (lanesUnder rows [] heads) (r :: rest)
          = Lane.deal (Lane.place r (lanesUnder rows [] heads)) rest := rfl
        _ = Lane.deal (lanesUnder (rows ++ [r]) [] heads) rest := by
            rw [lanesUnder_concat List.not_mem_nil]
        _ = lanesUnder (rows ++ [r] ++ rest) [] heads := ih (rows ++ [r])
        _ = lanesUnder (rows ++ r :: rest) [] heads := by
            rw [List.append_assoc, List.singleton_append]

/-- A lane is empty if its column is taken or an earlier lane has it, and
otherwise it holds all requests of its column. -/
theorem rows_of_laneUnder {before after : List Lane} {lane : Lane}
    (h : lanesUnder rows taken heads = before ++ lane :: after) :
    (lane.column ∈ taken ∨ lane.column ∈ before.map Lane.column → lane.rows = []) ∧
      (lane.column ∉ taken → lane.column ∉ before.map Lane.column →
        lane.rows = rows.filter fun r => r.column = lane.column) := by
  induction heads generalizing taken before with
  | nil =>
      rw [lanesUnder] at h
      cases before <;> cases h
  | cons head rest ih =>
      rw [lanesUnder] at h
      cases before with
      | nil =>
          have hlane := (List.cons.inj h).1
          subst hlane
          exact ⟨fun hlater => if_pos (hlater.resolve_right List.not_mem_nil),
            fun hfirst _ => if_neg hfirst⟩
      | cons first others =>
          obtain ⟨hfirst, hrest⟩ := List.cons.inj h
          have hcolumn : head.column = first.column := by
            rw [← hfirst]
            rfl
          have hiff : lane.column ∈ head.column :: taken ∨ lane.column ∈ others.map Lane.column ↔
              lane.column ∈ taken ∨ lane.column ∈ (first :: others).map Lane.column := by
            rw [List.map_cons, List.mem_cons, List.mem_cons, hcolumn, or_assoc, or_left_comm]
          obtain ⟨hlater, hearly⟩ := ih hrest
          refine ⟨fun htaken => hlater (hiff.mpr htaken), fun htaken hbefore => ?_⟩
          have hnone := mt hiff.mp (not_or.mpr ⟨htaken, hbefore⟩)
          exact hearly (not_or.mp hnone).1 (not_or.mp hnone).2

end Under

/-- **The lanes of the board are dealt.** -/
theorem lanes_eq_dealt (b : Board) : b.lanes = b.dealt := by
  rw [lanes, dealt, ← lanesUnder_nil [] b.heads, deal_lanesUnder, List.nil_append]

variable {b : Board}

/-- The lanes have the headings of the board. -/
theorem heads_lanes (b : Board) : b.lanes.map Lane.head = b.heads := by
  rw [lanes_eq_dealt, dealt, Lane.heads_deal, List.map_map]
  exact List.map_id _

/-- The first lane of a column holds all requests of that column, and the later
ones are empty. -/
theorem rows_of_lane {before after : List Lane} {lane : Lane}
    (h : b.lanes = before ++ lane :: after) :
    (lane.column ∉ before.map Lane.column →
        lane.rows = b.rows.filter fun r => r.column = lane.column) ∧
      (lane.column ∈ before.map Lane.column → lane.rows = []) := by
  obtain ⟨hlater, hfirst⟩ := rows_of_laneUnder h
  exact ⟨hfirst List.not_mem_nil, fun hmem => hlater (Or.inr hmem)⟩

/-- The requests in a lane stand in its column. -/
theorem column_of_mem_rows {lane : Lane} {r : Request} (hlane : lane ∈ b.lanes)
    (hr : r ∈ lane.rows) : r.column = lane.column := by
  obtain ⟨before, after, hsplit⟩ := List.append_of_mem hlane
  obtain ⟨hfirst, hlater⟩ := rows_of_lane hsplit
  by_cases htaken : lane.column ∈ before.map Lane.column
  · rw [hlater htaken] at hr
    cases hr
  · rw [hfirst htaken] at hr
    exact of_decide_eq_true (List.mem_filter.mp hr).2

/-- No request comes into two lanes, and those come into none that have the
column of no lane. -/
theorem flatMap_rows_lanes (b : Board) :
    (b.lanes.flatMap Lane.rows).Perm
      (b.rows.filter fun r => r.column ∈ b.lanes.map Lane.column) := by
  have hcolumns : (b.heads.map fun head => (⟨head, []⟩ : Lane)).map Lane.column =
      b.lanes.map Lane.column := by
    apply Lane.columns_eq_of_heads_eq
    rw [heads_lanes, List.map_map]
    exact List.map_id _
  have hempty : (b.heads.map fun head => (⟨head, []⟩ : Lane)).flatMap Lane.rows = [] := by
    rw [List.flatMap_map]
    exact List.flatMap_eq_nil_iff.mpr fun _ _ => rfl
  have hdealt := Lane.flatMap_rows_deal (b.heads.map fun head => ⟨head, []⟩) b.rows
  rw [hcolumns, hempty, List.nil_append] at hdealt
  rw [lanes_eq_dealt] at hdealt ⊢
  exact hdealt

/-- Every column has a lane when the server sends no columns, or all four. -/
theorem mem_columns_lanes (h : b.columns = [] ∨ ∀ c, c ∈ b.columns.map BoardColumn.column)
    (c : Column) : c ∈ b.lanes.map Lane.column := by
  have hcolumns : b.lanes.map Lane.column = b.heads.map BoardColumn.column := by
    rw [← heads_lanes, List.map_map]
    rfl
  rw [hcolumns, heads]
  by_cases hempty : b.columns.isEmpty = true
  · rw [if_pos hempty]
    cases c <;> decide
  · rw [if_neg hempty]
    rcases h with hnone | hall
    · rw [hnone] at hempty
      exact absurd rfl hempty
    · exact hall c

/-- **The lanes hold the requests of the board, each once.** There is one lane
for each column that the server sends, in its order, and one for each of the
four columns when it sends none. The first lane of a column holds the requests
of that column in the order of the board, where the column is the one that the
server declares or else the guessed one, and every later one is empty. So no
request is in two lanes, and it is in none exactly when no lane has its column;
with a lane for every column all requests are there. A card that is dropped
into the lane where it is shown stays where it is. -/
theorem lanes_hold_rows_once (b : Board) :
    b.lanes = b.dealt ∧
      (∀ r : Request, r.column = r.column?.getD (Column.guess r.status.text)) ∧
      (b.columns ≠ [] → b.lanes.map Lane.head = b.columns) ∧
      (b.columns = [] → b.lanes.map Lane.head = Column.all.map fun c => ⟨c, c.heading⟩) ∧
      (∀ before lane after, b.lanes = before ++ lane :: after →
        (lane.column ∉ before.map Lane.column →
          lane.rows = b.rows.filter fun r => r.column = lane.column) ∧
        (lane.column ∈ before.map Lane.column → lane.rows = [])) ∧
      (b.lanes.flatMap Lane.rows).Perm
        (b.rows.filter fun r => r.column ∈ b.lanes.map Lane.column) ∧
      (∀ r ∈ b.rows, (∀ lane ∈ b.lanes, r ∉ lane.rows) ↔ ∀ lane ∈ b.lanes, lane.column ≠ r.column) ∧
      ((b.columns = [] ∨ ∀ c, c ∈ b.columns.map BoardColumn.column) →
        (b.lanes.flatMap Lane.rows).Perm b.rows) ∧
      ∀ lane ∈ b.lanes, ∀ r ∈ lane.rows, r.destination (some lane.column) none = .ok .stay := by
  have hperm := b.flatMap_rows_lanes
  refine ⟨b.lanes_eq_dealt, Request.column_eq, ?sent, ?usual, ?content, hperm, ?missing, ?whole, ?dropped⟩
  case sent =>
    intro hsent
    rw [heads_lanes, heads, if_neg (by simpa using hsent)]
  case usual =>
    intro hnone
    rw [heads_lanes, heads, hnone]
    rfl
  case content =>
    intro before lane after hsplit
    exact rows_of_lane hsplit
  case missing =>
    intro r hr
    have hshown : (∃ lane ∈ b.lanes, r ∈ lane.rows) ↔ ∃ lane ∈ b.lanes, lane.column = r.column := by
      rw [← List.mem_flatMap, hperm.mem_iff, List.mem_filter, decide_eq_true_iff, List.mem_map]
      exact and_iff_right hr
    simpa using not_congr hshown
  case whole =>
    intro hall
    have hkept : (b.rows.filter fun r => r.column ∈ b.lanes.map Lane.column) = b.rows :=
      List.filter_eq_self.mpr fun r _ => decide_eq_true (mem_columns_lanes hall r.column)
    rwa [hkept] at hperm
  case dropped =>
    intro lane hlane r hr
    rw [Request.destination, Request.destinationInto, if_pos (column_of_mem_rows hlane hr)]

/-- A request of which nothing but its id, its status and perhaps its column is
known. -/
def card (id status : String) (column? : Option Column) : Request :=
  ⟨⟨id⟩, "", ⟨"DIVORCE"⟩, ⟨status⟩, none, none, [], column?, none, none⟩

/-- A board with a lane for every column and a second one for those that are
done. -/
def twiceDone : Board where
  rows := [card "r-1" "NEW" none, card "r-2" "INTAKE_CHECK" (some .waiting),
    card "r-3" "CLOSED" none, card "r-4" "APPEAL" (some .done)]
  columns := [⟨.done, "Closed"⟩, ⟨.inProgress, "Working"⟩, ⟨.done, "Again"⟩, ⟨.new, "In"⟩,
    ⟨.waiting, "Held"⟩]
  total := 4
  truncated := false

/-- The first of the two lanes holds both requests that are done, the second
none, and no request is lost. -/
theorem lanes_hold_rows_once_of_twiceDone :
    twiceDone.lanes.map Lane.head = twiceDone.columns ∧
      (∀ c, c ∈ twiceDone.columns.map BoardColumn.column) ∧
      (twiceDone.lanes.map fun lane => lane.rows.map fun r => r.id.text) =
        [["r-3", "r-4"], [], [], ["r-1"], ["r-2"]] ∧
      (∃ before lane after, twiceDone.lanes = before ++ lane :: after ∧
        lane.head.label = "Again" ∧ lane.column ∈ before.map Lane.column ∧ lane.rows = []) ∧
      (twiceDone.lanes.flatMap Lane.rows).Perm twiceDone.rows ∧
      (card "r-3" "CLOSED" none).destination (some .done) none = .ok .stay := by
  obtain ⟨-, -, hsent, -, hcontent, -, -, hwhole, hdropped⟩ := lanes_hold_rows_once twiceDone
  have hall : ∀ c, c ∈ twiceDone.columns.map BoardColumn.column := by
    intro c
    cases c <;> decide
  have hshown : (twiceDone.lanes.map fun lane => lane.rows.map fun r => r.id.text) =
      [["r-3", "r-4"], [], [], ["r-1"], ["r-2"]] := by decide +kernel
  refine ⟨hsent (by simp [twiceDone]), hall, hshown, ?_, hwhole (Or.inr hall), ?_⟩
  · have hsplit : twiceDone.lanes =
        twiceDone.lanes.take 2 ++ ⟨⟨.done, "Again"⟩, []⟩ :: twiceDone.lanes.drop 3 := rfl
    have hearlier : Column.done ∈ (twiceDone.lanes.take 2).map Lane.column := by decide
    exact ⟨_, _, _, hsplit, rfl, hearlier, (hcontent _ _ _ hsplit).2 hearlier⟩
  · have hlane : twiceDone.lanes.head? = some ⟨⟨.done, "Closed"⟩,
        [card "r-3" "CLOSED" none, card "r-4" "APPEAL" (some .done)]⟩ := rfl
    exact hdropped _ (List.mem_of_head? hlane) _ List.mem_cons_self

end Board

end Docket
