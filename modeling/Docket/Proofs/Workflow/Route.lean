import Docket.Proofs.Stamp.Order
import Docket.Proofs.Stamp.Range
import Docket.Workflow.Route
import Mathlib.Algebra.Ring.Int.Defs
import Mathlib.Data.List.Sort

/-!
# The route of a request

Entries that all carry stamps are sorted by insertion, and stably. The route
then goes through them one after another. What is spent between two of them is
recorded by the later one, or lies between their stamps in whole seconds; each
such time loses less than a second, so that all of them together come short of
the whole by fewer seconds than there are gaps.

* `inOrder_eq_insertionSort`, `inTime_inOrder` — the entries stand in order of
  time, and those of one moment as they were given.
* `InTime.unique` — different moments leave one order only.
* `passed_stepsOf` — the steps that the entries take.
* `Passed.spent_sum` — how much their times add up to.
* `route_follows_time` — the whole route.
-/

namespace Docket

/-- The moment of an entry, counted from the beginning of 1970; that beginning
itself when the entry carries no stamp. -/
def HistoryEntry.moment (e : HistoryEntry) : Int :=
  ((Stamp.parse? e.changed).map Stamp.instant).getD 0

/-- All entries carry stamps. -/
def HistoryEntry.AllStamped (entries : List HistoryEntry) : Prop :=
  ∀ e ∈ entries, Stamp.IsText e.changed

instance (entries : List HistoryEntry) : Decidable (HistoryEntry.AllStamped entries) :=
  inferInstanceAs (Decidable (∀ e ∈ entries, Stamp.IsText e.changed))

/-- One entry was changed no earlier than another. -/
def HistoryEntry.NotBefore (a b : HistoryEntry) : Prop :=
  b.moment ≤ a.moment

namespace HistoryEntry

instance : DecidableRel NotBefore :=
  fun a b => inferInstanceAs (Decidable (b.moment ≤ a.moment))

instance : Std.Total NotBefore :=
  ⟨fun a b => Int.le_total b.moment a.moment⟩

instance : IsTrans HistoryEntry NotBefore :=
  ⟨fun _ _ _ hab hbc => Int.le_trans hbc hab⟩

end HistoryEntry

namespace Graph

open HistoryEntry

variable {e next : HistoryEntry} {entries history placed : List HistoryEntry}

/-- Entries that carry stamps are compared by their moments. -/
theorem entryBefore_iff {a b : HistoryEntry} (ha : Stamp.IsText a.changed)
    (hb : Stamp.IsText b.changed) : entryBefore a b = true ↔ a.moment < b.moment := by
  rw [entryBefore, beq_iff_eq, Stamp.compareTexts_eq_lt_iff ha hb]
  obtain ⟨x, hx⟩ := Option.isSome_iff_exists.mp ha
  obtain ⟨y, hy⟩ := Option.isSome_iff_exists.mp hb
  simp [Stamp.Before, moment, hx, hy]

/-- An entry takes its place as in a sort by insertion. -/
theorem placeEntry_eq_orderedInsert (he : Stamp.IsText e.changed) (hplaced : AllStamped placed) :
    placeEntry e placed = placed.orderedInsert NotBefore e := by
  induction placed with
  | nil => rfl
  | cons latest earlier ih =>
      obtain ⟨hlatest, hearlier⟩ := List.forall_mem_cons.mp hplaced
      rw [placeEntry, List.orderedInsert_cons]
      by_cases hbefore : e.moment < latest.moment
      · have hnot : ¬ e.NotBefore latest := Int.not_le.mpr hbefore
        rw [if_pos ((entryBefore_iff he hlatest).mpr hbefore), if_neg hnot, ih hearlier]
      · have hnot : e.NotBefore latest := Int.not_lt.mp hbefore
        rw [if_neg (mt (entryBefore_iff he hlatest).mp hbefore), if_pos hnot]

/-- Entries that carry stamps are sorted by insertion. -/
theorem inOrder_eq_insertionSort (h : AllStamped history) :
    inOrder history = (history.reverse.insertionSort NotBefore).reverse := by
  have hplace : ∀ placed, AllStamped placed → AllStamped history →
      history.foldl (fun placed e => placeEntry e placed) placed =
        history.foldl (fun placed e => placed.orderedInsert NotBefore e) placed := by
    clear h
    induction history with
    | nil => exact fun _ _ _ => rfl
    | cons e rest ih =>
        intro placed hplaced hall
        obtain ⟨he, hrest⟩ := List.forall_mem_cons.mp hall
        have hnext : AllStamped (placed.orderedInsert NotBefore e) := by
          intro d hd
          rcases (List.mem_orderedInsert NotBefore).mp hd with rfl | hd
          · exact he
          · exact hplaced d hd
        rw [List.foldl_cons, List.foldl_cons, placeEntry_eq_orderedInsert he hplaced]
        exact ih _ hnext hrest
  have hnone : AllStamped [] := fun _ he => absurd he List.not_mem_nil
  rw [inOrder, hplace [] hnone h, List.insertionSort, List.foldr_reverse]

/-- Entries of a history in order of time, those of one moment as the history
has them. -/
structure InTime (entries history : List HistoryEntry) : Prop where
  perm : entries.Perm history
  ordered : entries.Pairwise fun a b => a.moment ≤ b.moment
  stable : ∀ moment, entries.filter (·.moment = moment) = history.filter (·.moment = moment)

/-- Sorted entries are in order of time. -/
theorem inTime_inOrder (h : AllStamped history) : InTime (inOrder history) history := by
  rw [inOrder_eq_insertionSort h]
  have hperm := (List.perm_insertionSort NotBefore history.reverse).trans history.reverse_perm
  refine ⟨(List.reverse_perm _).trans hperm, ?_, fun moment => ?_⟩
  · rw [List.pairwise_reverse]
    exact List.pairwise_insertionSort NotBefore _
  · -- entries of one moment are sorted as they stand, and a stable sort keeps them so
    have hsorted : (history.reverse.filter (·.moment = moment)).Pairwise NotBefore := by
      refine List.pairwise_of_forall_mem_list fun a ha b hb => ?_
      have ha' := List.of_mem_filter ha
      have hb' := List.of_mem_filter hb
      simp only [decide_eq_true_eq] at ha' hb'
      exact Int.le_of_eq (hb'.trans ha'.symm)
    have hkept := List.sublist_insertionSort hsorted List.filter_sublist
    have hsame : history.reverse.filter (·.moment = moment) =
        (history.reverse.insertionSort NotBefore).filter (·.moment = moment) := by
      have hsub := hkept.filter (·.moment = moment)
      rw [List.filter_filter] at hsub
      simp only [Bool.and_self] at hsub
      have hlength := ((List.perm_insertionSort NotBefore history.reverse).filter
        (·.moment = moment)).length_eq
      exact hsub.eq_of_length hlength.symm
    rw [List.filter_reverse, ← hsame, List.filter_reverse, List.reverse_reverse]

/-- Different moments leave one order only. -/
theorem InTime.unique {entries' history' : List HistoryEntry} (h : InTime entries history)
    (h' : InTime entries' history') (hperm : history'.Perm history)
    (hdistinct : (history.map moment).Nodup) : entries' = entries := by
  have hsame := (h'.perm.trans hperm).trans h.perm.symm
  refine hsame.eq_of_pairwise ?_ h'.ordered h.ordered
  intro a b ha hb hab hba
  have hdistinct' : (entries.map moment).Nodup := ((h.perm.map moment).nodup_iff).mpr hdistinct
  exact List.inj_on_of_nodup_map hdistinct' (hsame.mem_iff.mp ha) hb (Int.le_antisymm hab hba)

/-- The step before all entries: the status that the first of them left. -/
def beginning? (entries : List HistoryEntry) : Option RouteStep :=
  entries.head?.bind fun first =>
    first.source?.map fun status => ⟨status, none, none, first.duration?⟩

/-- The seconds spent between an entry and the next one: what the next one
recorded, or else the whole seconds between their moments. -/
def Spent (e next : HistoryEntry) (seconds : Int64) : Prop :=
  next.duration? = some seconds ∨
    next.duration? = none ∧ 0 ≤ seconds.toInt ∧
      seconds.toInt = (next.moment - e.moment) / 1000000000

/-- Entries take steps, one after another. -/
inductive Passed : List HistoryEntry → List RouteStep → Prop where
  | none : Passed [] []
  | last (e : HistoryEntry) : Passed [e] [⟨e.target, some e.changed, e.importantDate?, .none⟩]
  | step {e next : HistoryEntry} {rest : List HistoryEntry} {steps : List RouteStep}
      {seconds : Int64} : Spent e next seconds → Passed (next :: rest) steps →
      Passed (e :: next :: rest)
        (⟨e.target, some e.changed, e.importantDate?, some seconds⟩ :: steps)

/-- The route begins where the first entry left. -/
theorem originOf_eq (entries : List HistoryEntry) :
    originOf entries = (beginning? entries).toList := by
  cases entries with
  | nil => rfl
  | cons first rest =>
      cases hsource : first.source? <;> simp [originOf, beginning?, hsource]

/-- Between two entries in order of time some seconds are spent. -/
theorem exists_spentUntil (he : Stamp.IsText e.changed) (hnext : Stamp.IsText next.changed)
    (hle : e.moment ≤ next.moment) : ∃ seconds, spentUntil e next = some seconds ∧
      Spent e next seconds := by
  cases hduration : next.duration? with
  | some seconds => exact ⟨seconds, by simp [spentUntil, hduration], Or.inl hduration⟩
  | none =>
      obtain ⟨x, hx⟩ := Option.isSome_iff_exists.mp he
      obtain ⟨y, hy⟩ := Option.isSome_iff_exists.mp hnext
      have hxm : e.moment = x.instant := by simp [moment, hx]
      have hym : next.moment = y.instant := by simp [moment, hy]
      have hseconds := Stamp.toInt_ofInt_seconds hx hy
      rw [hxm, hym] at hle
      have hpos : 0 ≤ (y.instant - x.instant) / 1000000000 := by omega
      refine ⟨Int64.ofInt ((y.instant - x.instant) / 1000000000), ?_, Or.inr ⟨hduration, ?_, ?_⟩⟩
      · simp [spentUntil, hduration, Stamp.secondsBetween?, hx, hy, Int.max_eq_right hpos]
      · rw [hseconds]
        exact hpos
      · rw [hseconds, hxm, hym]

/-- Entries in order of time take their steps. -/
theorem passed_stepsOf (hall : AllStamped entries)
    (hordered : entries.Pairwise fun a b => a.moment ≤ b.moment) :
    Passed entries (stepsOf entries) := by
  induction entries with
  | nil => exact Passed.none
  | cons e rest ih =>
      obtain ⟨he, hrest⟩ := List.forall_mem_cons.mp hall
      rw [List.pairwise_cons] at hordered
      cases rest with
      | nil => exact Passed.last e
      | cons next rest =>
          obtain ⟨seconds, hspent, hseconds⟩ := exists_spentUntil he
            (hrest next List.mem_cons_self) (hordered.1 next List.mem_cons_self)
          rw [stepsOf, List.head?_cons, Option.bind_some, hspent]
          exact Passed.step hseconds (ih hrest hordered.2)

/-- The seconds spent in all of the steps. -/
def spentIn (steps : List RouteStep) : Int :=
  ((steps.filterMap RouteStep.spent?).map Int64.toInt).sum

/-- Between the first and the last entry lie at least the seconds spent, and
less than one more for every gap. -/
theorem Passed.spent_sum {first last : HistoryEntry} {rest : List HistoryEntry}
    {steps : List RouteStep} (h : Passed (first :: rest) steps)
    (hlast : (first :: rest).getLast? = some last)
    (hbare : ∀ e ∈ rest, e.duration? = .none) :
    spentIn steps * 1000000000 ≤ last.moment - first.moment ∧
      last.moment - first.moment ≤ spentIn steps * 1000000000 + rest.length * 999999999 := by
  induction rest generalizing first steps with
  | nil =>
      cases h
      obtain rfl : first = last := Option.some.inj hlast
      simp [spentIn]
  | cons next rest ih =>
      obtain ⟨hnext, hrest⟩ := List.forall_mem_cons.mp hbare
      cases h with
      | @step _ _ _ steps seconds hspent hpassed =>
          rw [List.getLast?_cons_cons] at hlast
          obtain ⟨hlower, hupper⟩ := ih hpassed hlast hrest
          rcases hspent with hrecorded | ⟨-, -, hseconds⟩
          · rw [hnext] at hrecorded
            cases hrecorded
          · have hsum : spentIn (⟨first.target, some first.changed, first.importantDate?,
                some seconds⟩ :: steps) = seconds.toInt + spentIn steps := by
              simp [spentIn]
            rw [hsum, hseconds, List.length_cons]
            push_cast
            omega

/-- Without recorded times, the seconds spent come to no more than the whole
seconds from the first entry to the last, and fall short of them by fewer than
there are gaps. -/
theorem Passed.spent_le {first last : HistoryEntry} {steps : List RouteStep}
    (h : Passed entries steps) (hfirst : entries.head? = some first)
    (hlast : entries.getLast? = some last) (htwo : 2 ≤ entries.length)
    (hbare : ∀ e ∈ entries, e.duration? = .none) :
    spentIn steps ≤ (last.moment - first.moment) / 1000000000 ∧
      (last.moment - first.moment) / 1000000000 - spentIn steps < entries.length - 1 := by
  obtain ⟨rest, rfl⟩ := List.head?_eq_some_iff.mp hfirst
  obtain ⟨hlower, hupper⟩ :=
    h.spent_sum hlast fun e he => hbare e (List.mem_cons_of_mem first he)
  rw [List.length_cons] at htwo ⊢
  omega

/-- **The route follows the stamps of the history.** The entries in order of
time, those of one moment as they were given, take one step each, after a step
for the status that the first of them left, if it names one. The last entry has
no time spent, every other one what the next entry recorded or else the whole
seconds to its moment; where nothing is recorded these come to no more than the
whole seconds from the first entry to the last, and to less than a second per
gap below them. Whatever the order in which the history is given, the route is
the same as long as no two moments are. -/
theorem route_follows_time (g : Graph) (current : StatusCode) {history : List HistoryEntry}
    (h : AllStamped history) :
    (∃ entries steps, InTime entries history ∧ Passed entries steps ∧
      (g.route current history).steps = (beginning? entries).toList ++ steps ∧
      ∀ first last, entries.head? = some first → entries.getLast? = some last →
        2 ≤ history.length → (∀ e ∈ history, e.duration? = none) →
        spentIn steps ≤ (last.moment - first.moment) / 1000000000 ∧
          (last.moment - first.moment) / 1000000000 - spentIn steps < history.length - 1) ∧
    ((history.map moment).Nodup → ∀ history', history'.Perm history →
      g.route current history' = g.route current history) := by
  have htime := inTime_inOrder h
  refine ⟨⟨inOrder history, stepsOf (inOrder history), htime, ?_, ?_, ?_⟩, ?_⟩
  · exact passed_stepsOf (fun e he => h e (htime.perm.mem_iff.mp he)) htime.ordered
  · rw [route, originOf_eq]
  · intro first last hfirst hlast htwo hbare
    have hpassed := passed_stepsOf (fun e he => h e (htime.perm.mem_iff.mp he)) htime.ordered
    rw [← htime.perm.length_eq] at htwo ⊢
    exact hpassed.spent_le hfirst hlast htwo fun e he => hbare e (htime.perm.mem_iff.mp he)
  · intro hdistinct history' hperm
    have htime' := inTime_inOrder fun e he => h e (hperm.mem_iff.mp he)
    rw [route, route, htime.unique htime' hperm hdistinct]

/-- Three entries in disorder, at different distances from UTC and with
fractions of seconds between them. -/
def disorder : List HistoryEntry :=
  [⟨⟨"r-1"⟩, some ⟨"REVIEW"⟩, ⟨"DONE"⟩, "2026-03-01T12:00:05.1Z", none, none, none⟩,
    ⟨⟨"r-1"⟩, some ⟨"NEW"⟩, ⟨"HOLD"⟩, "2026-03-01T12:00:00+02:00", none, none, none⟩,
    ⟨⟨"r-1"⟩, some ⟨"HOLD"⟩, ⟨"REVIEW"⟩, "2026-03-01T11:59:59.9Z", none, none, none⟩]

/-- The entry from further east is the first. Two hours and five seconds lie
between it and the last one, and one second of them goes into neither of the
two times. -/
theorem route_follows_time_in_disorder :
    AllStamped disorder ∧ (disorder.map moment).Nodup ∧
      (route ⟨⟨"DIVORCE"⟩, [], []⟩ ⟨"DONE"⟩ disorder).steps.map RouteStep.spent? =
        [none, some 7199, some 5, none] ∧
      (∃ entries steps, InTime entries disorder ∧ Passed entries steps ∧
        (route ⟨⟨"DIVORCE"⟩, [], []⟩ ⟨"DONE"⟩ disorder).steps =
          (beginning? entries).toList ++ steps ∧
        ∀ first last, entries.head? = some first → entries.getLast? = some last →
          spentIn steps ≤ (last.moment - first.moment) / 1000000000 ∧
            (last.moment - first.moment) / 1000000000 - spentIn steps < 2) ∧
      route ⟨⟨"DIVORCE"⟩, [], []⟩ ⟨"DONE"⟩ disorder.reverse =
        route ⟨⟨"DIVORCE"⟩, [], []⟩ ⟨"DONE"⟩ disorder := by
  have hall : AllStamped disorder := by decide
  have hdistinct : (disorder.map moment).Nodup := by decide
  obtain ⟨⟨entries, steps, htime, hpassed, hsteps, hspent⟩, hsame⟩ :=
    route_follows_time ⟨⟨"DIVORCE"⟩, [], []⟩ ⟨"DONE"⟩ hall
  refine ⟨hall, hdistinct, by decide, ⟨entries, steps, htime, hpassed, hsteps, ?_⟩, ?_⟩
  · exact fun first last hfirst hlast => hspent first last hfirst hlast (by decide) (by decide)
  · exact hsame hdistinct _ disorder.reverse_perm

end Graph
end Docket
