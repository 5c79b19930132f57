import Docket.Proofs.Command.Said
import Docket.Proofs.Stamp.Later
import Docket.Proofs.Workflow.Checked

/-!
# The date that a deadline gives

A move that is made without an important date may take the one that its edge
gives: the moment at which the deadline of the edge has passed, written where
the move is made. There is none without an edge or without a deadline, nor when
the deadline passes after the calendar has ended. A date that is given could as
well have been said on the command line.

* `Arguments.move_append_date` — a date on the command line of a move.
* `Graph.NeverDue`, `Graph.DueAt` — when the target of an edge is due.
* `Graph.defaultDate_follows_deadline` — which date a move takes.
-/

namespace Docket

/-- The command line of a move may go on with an important date. -/
theorem Arguments.move_append_date {rest : List String} {request : RequestId}
    {details : MoveDetails} {date : String} (hmove : move rest = .ok (.move request details))
    (htidy : Text.Tidy date) (hdate : Stamp.IsText date) :
    move (rest ++ ["--important-date", date]) =
      .ok (.move request { details with importantDate? := some date }) := by
  obtain ⟨draft, hdraft, hmove⟩ := Usage.bind_eq_ok_iff.mp hmove
  obtain ⟨request', hrequest, hmove⟩ := Usage.bind_eq_ok_iff.mp hmove
  split at hmove
  · cases hmove
  · rename_i hgoes
    cases hmove
    have hdated : takeMove draft (.option .importantDate date) =
        .ok { draft with details := { draft.details with importantDate? := some date } } :=
      takeMove_option (setDetail_date draft.details hdate)
    have htaken : takePieces MoveFlag.ofName? takeMove ⟨none, .none⟩
        (rest ++ ["--important-date", date]) = _ :=
      (takePieces_append_option (MoveFlag.ofName?_name .importantDate) htidy hdraft).trans hdated
    refine Usage.bind_eq_ok_iff.mpr ⟨_, htaken, Usage.bind_eq_ok_iff.mpr ⟨_, hrequest, ?_⟩⟩
    exact if_neg hgoes

/-- The edge is enabled and leads from the one status to the other. -/
structure Edge.Leads (e : Edge) (source target : StatusCode) : Prop where
  enabled : e.enabled = true
  source : e.source = source
  target : e.target = target

namespace Graph

variable {topic : TopicCode} {statuses : List Status} {edges : List Edge} {g : Graph}
  {source target : StatusCode}

/-- The edge that is found is the one that leads there. -/
theorem edge?_eq_some_iff_leads (hbuild : build topic statuses edges = .ok g) {e : Edge} :
    g.edge? source target = some e ↔ e ∈ edges ∧ e.Leads source target := by
  rw [edge?_eq_some_iff hbuild]
  constructor
  · rintro ⟨he, henabled, hsource, htarget⟩
    exact ⟨he, henabled, hsource, htarget⟩
  · rintro ⟨he, henabled, hsource, htarget⟩
    exact ⟨he, henabled, hsource, htarget⟩

/-- Any two edges on record that lead there are the same one. -/
theorem eq_of_leads (hbuild : build topic statuses edges = .ok g) {e e' : Edge}
    (he : e ∈ edges ∧ e.Leads source target) (he' : e' ∈ edges ∧ e'.Leads source target) :
    e = e' := by
  rw [← edge?_eq_some_iff_leads hbuild] at he he'
  exact Option.some_inj.mp (he.symm.trans he')

theorem deadline?_of_edge {e : Edge} (hedge : g.edge? source target = some e) (since : Stamp) :
    g.deadline? source target since =
      e.slaHours?.bind fun hours => since.addSeconds? (Stamp.secondsOfHours hours) := by
  rw [deadline?, hedge]
  rfl

/-- There is no moment at which the target of an edge is due. -/
inductive NeverDue (edges : List Edge) (source target : StatusCode) (since : Stamp) : Prop
  /-- No enabled edge leads there. -/
  | noEdge (stuck : ∀ e ∈ edges, ¬ e.Leads source target)
  /-- The edge that leads there has no deadline. -/
  | noDeadline (e : Edge) (recorded : e ∈ edges) (leads : e.Leads source target)
      (endless : e.slaHours? = none)
  /-- The calendar ends before the deadline has passed. -/
  | tooLate (e : Edge) (recorded : e ∈ edges) (leads : e.Leads source target)
      (hours : UInt32) (deadline : e.slaHours? = some hours)
      (ended : Stamp.calendarSeconds ≤ since.localSeconds + 3600 * hours.toNat)

/-- The target of an edge is due when the hours of its deadline have passed. -/
inductive DueAt (edges : List Edge) (source target : StatusCode) (since due : Stamp) : Prop
  | passed (e : Edge) (recorded : e ∈ edges) (leads : e.Leads source target)
      (hours : UInt32) (deadline : e.slaHours? = some hours)
      (later : since.IsLater (3600 * hours.toNat) due)

theorem deadline?_eq_none_iff (hbuild : build topic statuses edges = .ok g) {since : Stamp} :
    g.deadline? source target since = none ↔ NeverDue edges source target since := by
  cases hedge : g.edge? source target with
  | none =>
      have hstuck : ∀ e ∈ edges, ¬ e.Leads source target := by
        intro e he hleads
        have hfound := (edge?_eq_some_iff_leads hbuild).mpr ⟨he, hleads⟩
        rw [hedge] at hfound
        cases hfound
      exact iff_of_true (by rw [deadline?, hedge]; rfl) (.noEdge hstuck)
  | some e =>
      obtain ⟨he, hleads⟩ := (edge?_eq_some_iff_leads hbuild).mp hedge
      rw [deadline?_of_edge hedge]
      cases hhours : e.slaHours? with
      | none => exact iff_of_true rfl (.noDeadline e he hleads hhours)
      | some hours =>
          rw [Option.bind_some, Stamp.addSeconds?_eq_none_iff (Stamp.toInt_secondsOfHours hours)]
          refine ⟨.tooLate e he hleads hours hhours, ?_⟩
          rintro (hstuck | ⟨e', he', hleads', hendless⟩ |
            ⟨e', he', hleads', hours', hhours', hended⟩)
          · exact absurd hleads (hstuck e he)
          · cases eq_of_leads hbuild ⟨he, hleads⟩ ⟨he', hleads'⟩
            rw [hhours] at hendless
            cases hendless
          · cases eq_of_leads hbuild ⟨he, hleads⟩ ⟨he', hleads'⟩
            rw [hhours] at hhours'
            cases hhours'
            exact hended

theorem dueAt_of_deadline? (hbuild : build topic statuses edges = .ok g) {since due : Stamp}
    (hsince : since.Proper) (h : g.deadline? source target since = some due) :
    DueAt edges source target since due := by
  obtain ⟨e, hedge, h⟩ := Option.bind_eq_some_iff.mp h
  obtain ⟨hours, hhours, hlater⟩ := Option.bind_eq_some_iff.mp h
  obtain ⟨he, hleads⟩ := (edge?_eq_some_iff_leads hbuild).mp hedge
  have hseconds := Stamp.toInt_secondsOfHours hours
  exact .passed e he hleads hours hhours (Stamp.isLater_of_addSeconds? hsince hseconds hlater)

/-- **The date of a move follows the deadline of its edge.** In a graph that
passed its check, let a move be made at a moment that was read from a text. It
takes no date exactly when no enabled edge leads to its target, or the edge has
no deadline, or the calendar ends, where the move is made, before the deadline
has passed. The hours of a deadline are never too many for the word in which
their seconds are counted. A date that is taken is read as the stamp that lies
those seconds after the moment, at the same distance from UTC, and the command
line of any move may name it as the important date. -/
theorem defaultDate_follows_deadline (hbuild : build topic statuses edges = .ok g)
    {text : String} {now : Stamp} (hnow : Stamp.parse? text = some now)
    (source target : StatusCode) :
    (g.defaultDate? source target now = none ↔ NeverDue edges source target now) ∧
    (∀ hours, (Stamp.secondsOfHours hours).toInt = (3600 * hours.toNat : Nat)) ∧
    ∀ date, g.defaultDate? source target now = some date →
      (∃ due, Stamp.parse? date = some due ∧ DueAt edges source target now due) ∧
      ∀ rest request details,
        Command.ofArguments ("move" :: rest) = .ok (.move request details) →
        Command.ofArguments ("move" :: (rest ++ ["--important-date", date])) =
          .ok (.move request { details with importantDate? := some date }) := by
  refine ⟨?_, Stamp.toInt_secondsOfHours, ?_⟩
  · rw [defaultDate?, Option.map_eq_none_iff]
    exact deadline?_eq_none_iff hbuild
  · intro date hdate
    obtain ⟨due, hdue, rfl⟩ := Option.map_eq_some_iff.mp hdate
    have hdueAt := dueAt_of_deadline? hbuild (Stamp.proper_of_parse? hnow) hdue
    have hproper : due.Proper := by
      cases hdueAt with
      | passed e recorded leads hours deadline later => exact later.proper
    refine ⟨⟨due, hproper.parse?_format, hdueAt⟩, ?_⟩
    intro rest request details hmove
    have htext : Stamp.IsText due.format :=
      Option.isSome_iff_exists.mpr ⟨due, hproper.parse?_format⟩
    exact Arguments.move_append_date hmove hproper.tidy_format htext

/-- The day before a leap day, half past ten in the morning in India. -/
def beforeLeapDay : Stamp :=
  ⟨⟨2024, 2, 28, by decide, by decide, by decide⟩, 10, 30, 0, 0, 330⟩

/-- Two days before the calendar ends, eight hours west of UTC. -/
def twoDaysBeforeEnd : Stamp :=
  ⟨⟨9999, 12, 30, by decide, by decide, by decide⟩, 0, 0, 0, 0, -480⟩

/-- A new petition that is taken up before the leap day is due after it, and its
move may name that date. Two days before the calendar ends it is never due. -/
theorem defaultDate_of_new_petition :
    ∃ g, build ⟨"PETITION"⟩ petitionStatuses petitionEdges = .ok g ∧
      Stamp.parse? "2024-02-28 10:30:00+05:30" = some beforeLeapDay ∧
      Stamp.parse? "9999-12-30T00:00:00-08:00" = some twoDaysBeforeEnd ∧
      g.defaultDate? ⟨"NEW"⟩ ⟨"REVIEW"⟩ beforeLeapDay = some "2024-03-01T10:30:00+05:30" ∧
      (∃ due, Stamp.parse? "2024-03-01T10:30:00+05:30" = some due ∧
        DueAt petitionEdges ⟨"NEW"⟩ ⟨"REVIEW"⟩ beforeLeapDay due) ∧
      Command.ofArguments
          ["move", "r-1", "--status", "REVIEW", "--important-date", "2024-03-01T10:30:00+05:30"] =
        .ok (.move ⟨"r-1"⟩
          ⟨none, some ⟨"REVIEW"⟩, none, some "2024-03-01T10:30:00+05:30", []⟩) ∧
      NeverDue petitionEdges ⟨"NEW"⟩ ⟨"REVIEW"⟩ twoDaysBeforeEnd := by
  obtain ⟨g, hbuild, -⟩ := exists_build_petition
  have hedge : g.edge? ⟨"NEW"⟩ ⟨"REVIEW"⟩ = some (petitionEdges.head (List.cons_ne_nil _ _)) :=
    (edge?_eq_some_iff hbuild).mpr ⟨List.head_mem _, rfl, rfl, rfl⟩
  have hleap : Stamp.parse? "2024-02-28 10:30:00+05:30" = some beforeLeapDay := by rfl
  have hlast : Stamp.parse? "9999-12-30T00:00:00-08:00" = some twoDaysBeforeEnd := by rfl
  have hdate : g.defaultDate? ⟨"NEW"⟩ ⟨"REVIEW"⟩ beforeLeapDay =
      some "2024-03-01T10:30:00+05:30" := by
    rw [defaultDate?, deadline?_of_edge hedge]
    decide +kernel
  have hnone : g.defaultDate? ⟨"NEW"⟩ ⟨"REVIEW"⟩ twoDaysBeforeEnd = none := by
    rw [defaultDate?, deadline?_of_edge hedge]
    decide +kernel
  obtain ⟨-, -, hgiven⟩ := defaultDate_follows_deadline hbuild hleap ⟨"NEW"⟩ ⟨"REVIEW"⟩
  obtain ⟨hdue, haccepted⟩ := hgiven _ hdate
  obtain ⟨hnever, -⟩ := defaultDate_follows_deadline hbuild hlast ⟨"NEW"⟩ ⟨"REVIEW"⟩
  have hsaid : Command.ofArguments ["move", "r-1", "--status", "REVIEW"] =
      .ok (.move ⟨"r-1"⟩ ⟨none, some ⟨"REVIEW"⟩, none, none, []⟩) := by rfl
  exact ⟨g, hbuild, hleap, hlast, hdate, hdue, haccepted _ _ _ hsaid, hnever.mp hnone⟩

end Graph
end Docket
