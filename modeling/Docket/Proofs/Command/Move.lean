import Docket.Proofs.Command.Course
import Docket.Proofs.Desk.Change
import Docket.Proofs.MoveFlow.Agreement

/-!
# The ways of a move

A move loads the request, plans where it goes, lets the user pick, finds the
date, reads the files, and only then leaves it to the desk to change the
status. Whatever hinders a move does so before that. A workflow that cannot be
had hinders nothing: the change goes without a date.

* `MoveFlow.Settled` — what becomes of a planned move.
* `Move.Prepared` — all that comes before a change has gone well.
* `Move.Hindered` — the ways in which a move ends without a change.
* `Job.course_move` — a move is hindered, or it is prepared and the desk changes
  the status.
-/

namespace Docket

open Doing

/-- A planned move is kept as it is when there is nothing to pick, and else goes
on with the pick that was read. -/
inductive MoveFlow.Settled (planned : MoveFlow) : List Doing → MoveFlow → Prop
  | kept (none : planned.offers = []) : Settled planned [] planned
  | picked (reading : Reading) {picked? : Option StatusCode} (many : planned.offers ≠ [])
      (pick : Job.pickOf planned.offers reading = .ok picked?) :
      Settled planned (Job.asking planned.offers reading) (planned.settle picked?)

/-- Where there is nothing to pick the plan is kept. -/
theorem MoveFlow.Settled.eq_of_offers {planned flow : MoveFlow} {deeds : List Doing}
    (h : planned.Settled deeds flow) (hnone : planned.offers = []) : flow = planned := by
  cases h with
  | kept none => rfl
  | picked reading many pick => exact absurd hnone many

/-- A planned move that is settled is over, has failed, or applies a status. -/
theorem MoveFlow.Settled.cases {r : Request} {column? : Option Column}
    {status? : Option StatusCode} {planned flow : MoveFlow} {deeds : List Doing}
    (h : planned.Settled deeds flow) (hplan : plan? r status? column? = some planned) :
    flow = .idle ∨ (∃ failure, flow = .failed r.id failure) ∨
      ∃ status, flow = .applying r.id status := by
  obtain ⟨-, rfl⟩ := plan?_eq_some_iff.mp hplan
  rcases hplace : r.destination column? status? with failure | (_ | status | offers) <;>
    rw [hplace] at h
  case error => exact Or.inr (Or.inl ⟨failure, h.eq_of_offers rfl⟩)
  case ok.stay => exact Or.inl (h.eq_of_offers rfl)
  case ok.settled => exact Or.inr (Or.inr ⟨status, h.eq_of_offers rfl⟩)
  case ok.choice =>
    cases h with
    | kept none =>
        have hnone : offers = [] := none
        obtain ⟨_, -, -, hmany⟩ := Request.destination_eq_choice hplace
        rw [hnone] at hmany
        exact absurd hmany (by decide)
    | @picked reading picked? many pick =>
        cases picked? with
        | none => exact Or.inl rfl
        | some status =>
            by_cases hoffer : (offers.any fun o => o.target = status) = true
            · exact Or.inr (Or.inr ⟨status, if_pos hoffer⟩)
            · exact Or.inr (Or.inl ⟨_, if_neg hoffer⟩)

namespace Move

/-- The request was loaded, and the move of it came to this. -/
inductive Flowed (id : RequestId) (details : MoveDetails) :
    List Doing → Request → MoveFlow → Prop
  | mk (w : Workspace) {planned flow : MoveFlow} {settling : List Doing}
      (plan : MoveFlow.plan? w.request details.status? details.column? = some planned)
      (settled : planned.Settled settling flow) :
      Flowed id details (⟨.call (.loadWorkspace id), .ok w⟩ :: settling) w.request flow

/-- A status is being applied to the loaded request, its date has been looked
for, and every file has been read. -/
inductive Prepared (id : RequestId) (details : MoveDetails) :
    List Doing → Request → Change → Prop
  | mk {loading dating reading : List Doing} {r : Request} {status : StatusCode}
      {date? : Option String} {files : List Upload}
      (flowed : Flowed id details loading r (.applying r.id status))
      (dated : Job.Dated r status details.importantDate? dating date?)
      (read : Job.FilesRead details.files reading (.ok files)) :
      Prepared id details (loading ++ dating ++ reading) r
        ⟨status, date?, details.comment?, files⟩

/-- What may hinder a move. -/
inductive Hindrance where
  /-- The request cannot be loaded. -/
  | load
  /-- Neither a column nor a status was given. -/
  | target
  /-- The pick cannot be read. -/
  | pick
  /-- The move has failed: no way leads there, or the pick was not offered. -/
  | flow
  /-- There is nothing to do. -/
  | idle
  /-- A file cannot be attached. -/
  | file
  /-- The actor may not make the change. -/
  | guard
  deriving DecidableEq

/-- The ways in which a move ends before anything is changed. -/
inductive Hindered (setup : Setup) (id : RequestId) (details : MoveDetails) :
    Hindrance → List Doing → Except CommandFault Unit → Prop
  | load (failure : Failure) :
      Hindered setup id details .load [⟨.call (.loadWorkspace id), .error failure⟩]
        (.error (.failed failure))
  | target (w : Workspace)
      (plan : MoveFlow.plan? w.request details.status? details.column? = none) :
      Hindered setup id details .target [⟨.call (.loadWorkspace id), .ok w⟩] (.error .noTarget)
  | pick (w : Workspace) {planned : MoveFlow}
      (plan : MoveFlow.plan? w.request details.status? details.column? = some planned)
      (many : planned.offers ≠ []) :
      Hindered setup id details .pick
        (⟨.call (.loadWorkspace id), .ok w⟩ :: Job.asking planned.offers .garbled)
        (.error .garbledChoice)
  | flow {loading : List Doing} {r : Request} {failure : Failure}
      (flowed : Flowed id details loading r (.failed r.id failure)) :
      Hindered setup id details .flow loading (.error (.failed failure))
  | idle {loading : List Doing} {r : Request} (flowed : Flowed id details loading r .idle) :
      Hindered setup id details .idle (loading ++ Job.printed [r.label ++ ": nothing to do"])
        (.ok ())
  | file {loading dating reading : List Doing} {r : Request} {status : StatusCode}
      {date? : Option String} {fault : CommandFault}
      (flowed : Flowed id details loading r (.applying r.id status))
      (dated : Job.Dated r status details.importantDate? dating date?)
      (missing : Job.FilesRead details.files reading (.error fault)) :
      Hindered setup id details .file (loading ++ dating ++ reading) (.error fault)
  | guard {before : List Doing} {r : Request} {c : Change} {failure : Failure}
      (prepared : Prepared id details before r c)
      (refused : Desk.mayChange setup.actor r c.status = .error failure) :
      Hindered setup id details .guard before (.error (.failed failure))

/-- A move that was prepared and that the actor may make, and what the desk made
of it. -/
inductive Changes (setup : Setup) (id : RequestId) (details : MoveDetails) :
    List Doing → Except CommandFault Unit → Prop
  | mk {before : List Doing} {r : Request} {c : Change} {talk : List Sending}
      {came : Outcome Changed} (lines : List String) (prepared : Prepared id details before r c)
      (allowed : Desk.mayChange setup.actor r c.status = .ok ()) (way : c.Course r talk came) :
      Changes setup id details (before ++ talk.map ofSending ++ Job.printed lines)
        ((came.mapError .failed).map fun _ => ())

end Move

namespace Job

open Move

variable {setup : Setup} {id : RequestId} {details : MoveDetails} {deeds : List Doing}
  {outcome : Except CommandFault Unit}

/-- A plan is settled unless what was picked cannot be read. -/
theorem settled_of_course {planned : MoveFlow} {settled : Except CommandFault MoveFlow}
    (h : Course (settleFlow planned) deeds settled) :
    (planned.offers ≠ [] ∧ deeds = asking planned.offers .garbled ∧
        settled = .error .garbledChoice) ∨
      ∃ flow, planned.Settled deeds flow ∧ settled = .ok flow := by
  rcases course_settleFlow h with ⟨hnone, rfl, hkept⟩ | ⟨hmany, reading, rfl, hpicked⟩
  · exact Or.inr ⟨planned, .kept hnone, hkept⟩
  · cases reading with
    | garbled => exact Or.inl ⟨hmany, rfl, hpicked⟩
    | line answer => exact Or.inr ⟨_, .picked (.line answer) hmany rfl, hpicked⟩
    | ended => exact Or.inr ⟨_, .picked .ended hmany rfl, hpicked⟩

/-- The change of a move whose flow applies a status is hindered by a file or by
the guard, or the desk makes it. -/
theorem course_change_of_flowed {loading : List Doing} {r : Request} {status : StatusCode}
    (hflowed : Flowed id details loading r (.applying r.id status))
    (h : Course (change setup r status details) deeds outcome) :
    (∃ hindrance, Hindered setup id details hindrance (loading ++ deeds) outcome) ∨
      Changes setup id details (loading ++ deeds) outcome := by
  obtain ⟨dating, date?, reading, hdated, hway⟩ := course_change h
  rcases hway with ⟨fault, hmissing, rfl, rfl⟩ |
    ⟨files, talk, came, lines, hread, hcourse, rfl, hquiet, rfl⟩
  · rw [← List.append_assoc]
    exact Or.inl ⟨.file, .file hflowed hdated hmissing⟩
  · have hprepared := Prepared.mk hflowed hdated hread
    rw [← List.append_assoc, ← List.append_assoc, ← List.append_assoc]
    cases hmay : Desk.mayChange setup.actor r status with
    | ok u => exact Or.inr (.mk lines hprepared hmay (Desk.course_changeStatus hmay hcourse))
    | error failure =>
        obtain ⟨rfl, rfl⟩ := Desk.course_changeStatus_refused hmay hcourse
        rw [hquiet failure rfl]
        refine Or.inl ⟨.guard, ?_⟩
        have hnothing : loading ++ dating ++ reading ++ ([] : List Sending).map ofSending ++
            printed [] = loading ++ dating ++ reading := by
          simp [printed]
        rw [hnothing]
        exact .guard hprepared hmay

/-- **A move is hindered, or it is prepared and the desk changes the status.** -/
theorem course_move (h : Course (move setup id details) deeds outcome) :
    (∃ hindrance, Hindered setup id details hindrance deeds outcome) ∨
      Changes setup id details deeds outcome := by
  rcases course_loadRequest_bind h with ⟨failure, rfl, rfl⟩ | ⟨w, rest, rfl, hrest⟩
  · exact Or.inl ⟨.load, .load failure⟩
  cases hplan : MoveFlow.plan? w.request details.status? details.column? with
  | none =>
      rw [hplan] at hrest
      obtain ⟨rfl, rfl⟩ := course_throw_iff.mp hrest
      exact Or.inl ⟨.target, .target w hplan⟩
  | some planned =>
      rw [hplan] at hrest
      rcases course_bind_iff.mp hrest with ⟨fault, hsettle, rfl⟩ |
        ⟨settling, flow, later, rfl, hsettle, hlater⟩
      · obtain ⟨hmany, rfl, hfault⟩ | ⟨flow, -, hok⟩ := settled_of_course hsettle
        · cases hfault
          exact Or.inl ⟨.pick, .pick w hplan hmany⟩
        · cases hok
      have hsettled : planned.Settled settling flow := by
        obtain ⟨-, -, hfault⟩ | ⟨flow, hsettled, hok⟩ := settled_of_course hsettle
        · cases hfault
        · cases hok
          exact hsettled
      have hflowed : Flowed id details _ w.request flow := .mk w hplan hsettled
      rcases hsettled.cases hplan with rfl | ⟨failure, rfl⟩ | ⟨status, rfl⟩
      · obtain ⟨rfl, rfl⟩ := course_say hlater
        exact Or.inl ⟨.idle, .idle hflowed⟩
      · obtain ⟨rfl, rfl⟩ := course_throw_iff.mp hlater
        rw [List.append_nil]
        exact Or.inl ⟨.flow, .flow hflowed⟩
      · exact course_change_of_flowed hflowed hlater

end Job

end Docket
