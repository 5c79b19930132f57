import Docket.Stamp.Basic
import Docket.Workflow.Graph

/-!
# Deadlines and routes

When an edge is to be left again, and which statuses a request has passed.
The route follows the history in order of time; the time spent in a status is
what the next entry recorded, or else lies between the two stamps.
-/

namespace Docket.Graph

/-- When the target of an edge is due for a request that took the edge at a
moment; none without a deadline or past the end of the calendar. -/
def deadline? (g : Graph) (source target : StatusCode) (since : Stamp) : Option Stamp := do
  let e ← g.edge? source target
  let hours ← e.slaHours?
  since.addSeconds? (Stamp.secondsOfHours hours)

/-- The important date of a move that is made now. -/
def defaultDate? (g : Graph) (source target : StatusCode) (now : Stamp) : Option String :=
  (g.deadline? source target now).map Stamp.format

/-- One entry was changed before another. Entries with texts that are no
stamps can go round in a circle, so the way in which entries are sorted
matters. -/
def entryBefore (a b : HistoryEntry) : Bool :=
  Stamp.compareTexts a.changed b.changed == .lt

/-- Puts an entry among earlier ones, the latest of them first: it passes those
that it comes before, up to the first that it does not. -/
def placeEntry (e : HistoryEntry) : List HistoryEntry → List HistoryEntry
  | [] => [e]
  | latest :: earlier =>
      if entryBefore e latest then latest :: placeEntry e earlier else e :: latest :: earlier

/-- The entries in order of time: one after another takes its place. -/
def inOrder (entries : List HistoryEntry) : List HistoryEntry :=
  (entries.foldl (fun placed e => placeEntry e placed) []).reverse

/-- The time spent between an entry and the next one. -/
def spentUntil (e next : HistoryEntry) : Option Int64 :=
  next.duration?.orElse fun _ => (Stamp.secondsBetween? e.changed next.changed).map Int64.ofInt

/-- The steps that a history in order of time has taken. -/
def stepsOf : List HistoryEntry → List RouteStep
  | [] => []
  | e :: rest =>
      ⟨e.target, some e.changed, e.importantDate?, rest.head?.bind (spentUntil e)⟩ :: stepsOf rest

/-- The status in which a history in order of time began. -/
def originOf (entries : List HistoryEntry) : List RouteStep :=
  match entries with
  | [] => []
  | e :: _ =>
      match e.source? with
      | some status => [⟨status, none, none, e.duration?⟩]
      | none => []

/-- The route of a request that stands in a status and has this history. -/
def route (g : Graph) (current : StatusCode) (history : List HistoryEntry) : Route :=
  let entries := inOrder history
  ⟨originOf entries ++ stepsOf entries, current, g.offers current⟩

end Docket.Graph
