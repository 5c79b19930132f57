import Docket.Command.Perform
import Docket.Proofs.Dialogue.Course

/-!
# The courses of a command

A command does one deed after another, and a course of it is what came of
them. Only some deeds call the server. The calls of a course are what has left
the desk; everything else happens at the terminal, on the disk or at the
clock.

* `Job.course_bind_iff` — a command goes on exactly as long as nothing has
  failed.
* `Job.course_send`, `Job.course_ofDesk` — what is done for an errand, and for a
  procedure of the desk.
* `Job.course_settleFlow`, `Job.course_dateOf`, `Job.course_readUploads` — what
  is done for the pick, the date and the files of a move.
* `Job.course_change` — what is done to change the status of a loaded request.
* `Job.Silent` — a part of a command that calls nothing.
-/

namespace Docket

/-- A deed and what it brought. -/
abbrev Doing := Exchange Deed Deed.Reply

namespace Doing

/-- The errand that was sent, and what it brought back. -/
def call? : Doing → Option Sending
  | ⟨.call e, answer⟩ => some ⟨e, answer⟩
  | _ => none

/-- An errand that a command sends. -/
def ofSending (x : Sending) : Doing :=
  ⟨.call x.question, x.answer⟩

/-- What was sent to the server, and what it brought back, in order. -/
def calls (deeds : List Doing) : List Sending :=
  deeds.filterMap call?

@[simp] theorem calls_nil : calls [] = [] := rfl

@[simp] theorem calls_append (first second : List Doing) :
    calls (first ++ second) = calls first ++ calls second :=
  List.filterMap_append

@[simp] theorem calls_map_ofSending (talk : List Sending) : calls (talk.map ofSending) = talk := by
  induction talk with
  | nil => rfl
  | cons x rest ih => exact congrArg (x :: ·) ih

end Doing

open Doing

/-- A procedure that is called from a command sends the same errands. -/
theorem Dialogue.course_relay_call {α : Type} {d : Dialogue Errand Errand.Reply α}
    {deeds : List Doing} {a : α}
    (h : Course (d.relay Deed.call fun _ answer => answer) deeds a) :
    ∃ talk, Course d talk a ∧ deeds = talk.map ofSending := by
  induction d generalizing deeds with
  | done b =>
      obtain ⟨rfl, rfl⟩ := course_done_iff.mp h
      exact ⟨[], .done a, rfl⟩
  | ask e next ih =>
      obtain ⟨answer, rest, rfl, hrest⟩ := course_ask_iff.mp h
      obtain ⟨talk, htalk, rfl⟩ := ih answer hrest
      exact ⟨⟨e, answer⟩ :: talk, course_ask_iff.mpr ⟨answer, talk, rfl, htalk⟩, rfl⟩

namespace Job

variable {α β : Type} {j : Job α} {f : α → Job β} {deeds : List Doing}

/-- The command can do these deeds and end like this. -/
def Course (j : Job α) (deeds : List Doing) (outcome : Except CommandFault α) : Prop :=
  Dialogue.Course j.run deeds outcome

@[simp] theorem course_pure_iff {a : α} {outcome : Except CommandFault α} :
    Course (pure a : Job α) deeds outcome ↔ deeds = [] ∧ outcome = .ok a :=
  Dialogue.course_done_iff

@[simp] theorem course_throw_iff {fault : CommandFault} {outcome : Except CommandFault α} :
    Course (throw fault : Job α) deeds outcome ↔ deeds = [] ∧ outcome = .error fault :=
  Dialogue.course_done_iff

@[simp] theorem course_check_iff {verdict outcome : Except CommandFault α} :
    Course (check verdict) deeds outcome ↔ deeds = [] ∧ outcome = verdict :=
  Dialogue.course_done_iff

/-- A command goes on exactly as long as nothing has failed. -/
theorem course_bind_iff {outcome : Except CommandFault β} :
    Course (j >>= f) deeds outcome ↔
      (∃ fault, Course j deeds (.error fault) ∧ outcome = .error fault) ∨
        ∃ first a second, deeds = first ++ second ∧ Course j first (.ok a) ∧
          Course (f a) second outcome :=
  Dialogue.Course.except_bind_iff

theorem course_lift {d : Dialogue Deed Deed.Reply α} {outcome : Except CommandFault α}
    (h : Course (ExceptT.lift d) deeds outcome) :
    ∃ a, Dialogue.Course d deeds a ∧ outcome = .ok a := by
  obtain ⟨first, a, second, rfl, hfirst, hend⟩ := Dialogue.Course.bind_iff.mp h
  obtain ⟨rfl, rfl⟩ := Dialogue.course_done_iff.mp hend
  exact ⟨a, by rwa [List.append_nil], rfl⟩

/-- One deed does not fail by itself. -/
theorem course_act {deed : Deed} {outcome : Except CommandFault deed.Reply}
    (h : Course (act deed) deeds outcome) :
    ∃ answer, deeds = [⟨deed, answer⟩] ∧ outcome = .ok answer := by
  obtain ⟨answer, hask, rfl⟩ := course_lift h
  obtain ⟨answer', rest, rfl, hrest⟩ := Dialogue.course_ask_iff.mp hask
  obtain ⟨rfl, rfl⟩ := Dialogue.course_done_iff.mp hrest
  exact ⟨answer, rfl, rfl⟩

/-- A command that begins with a deed goes on with what that brought. -/
theorem course_act_bind {deed : Deed} {f : deed.Reply → Job β} {outcome : Except CommandFault β}
    (h : Course (act deed >>= f) deeds outcome) :
    ∃ answer rest, deeds = ⟨deed, answer⟩ :: rest ∧ Course (f answer) rest outcome := by
  rcases course_bind_iff.mp h with ⟨fault, hact, -⟩ | ⟨first, answer, rest, rfl, hact, hrest⟩
  · obtain ⟨answer, -, hok⟩ := course_act hact
    cases hok
  · obtain ⟨answer', rfl, hok⟩ := course_act hact
    cases hok
    exact ⟨answer, rest, rfl, hrest⟩

/-- An errand is called, and its failure is that of the command. -/
theorem course_send {e : Errand} {outcome : Except CommandFault e.Answer}
    (h : Course (send e) deeds outcome) :
    ∃ answer : e.Reply, deeds = [⟨.call e, answer⟩] ∧ outcome = answer.mapError .failed := by
  obtain ⟨answer, rest, rfl, hrest⟩ := course_act_bind h
  obtain ⟨rfl, rfl⟩ := course_check_iff.mp hrest
  exact ⟨answer, rfl, rfl⟩

/-- A procedure of the desk calls what it sends, and its failure is that of the
command. -/
theorem course_ofDesk {d : Desk α} {outcome : Except CommandFault α}
    (h : Course (ofDesk d) deeds outcome) :
    ∃ talk inner, deeds = talk.map ofSending ∧ Desk.Course d talk inner ∧
      outcome = inner.mapError .failed := by
  rcases course_bind_iff.mp h with ⟨fault, hlift, -⟩ | ⟨first, inner, rest, rfl, hlift, hrest⟩
  · obtain ⟨inner, -, hok⟩ := course_lift hlift
    cases hok
  · obtain ⟨inner', hrelay, hok⟩ := course_lift hlift
    cases hok
    obtain ⟨rfl, rfl⟩ := course_check_iff.mp hrest
    obtain ⟨talk, htalk, rfl⟩ := Dialogue.course_relay_call hrelay
    exact ⟨talk, inner, List.append_nil _, htalk, rfl⟩

/-- Lines that were printed. -/
def printed (lines : List String) : List Doing :=
  lines.map fun line => ⟨.print line, ()⟩

@[simp] theorem calls_printed (lines : List String) : calls (printed lines) = [] := by
  induction lines with
  | nil => rfl
  | cons line rest ih => exact ih

/-- Lines are printed one after another. -/
theorem course_say {lines : List String} {outcome : Except CommandFault Unit}
    (h : Course (say lines) deeds outcome) : deeds = printed lines ∧ outcome = .ok () := by
  induction lines generalizing deeds with
  | nil => exact course_pure_iff.mp h
  | cons line rest ih =>
      obtain ⟨⟨⟩, more, rfl, hmore⟩ := course_act_bind h
      obtain ⟨rfl, rfl⟩ := ih hmore
      exact ⟨rfl, rfl⟩

/-- The part of a command calls nothing. -/
def Silent (j : Job α) : Prop :=
  ∀ deeds outcome, Course j deeds outcome → calls deeds = []

theorem silent_throw (fault : CommandFault) : Silent (throw fault : Job α) := by
  intro deeds outcome h
  rw [(course_throw_iff.mp h).1, calls_nil]

/-- What comes after a silent part makes all the calls. -/
theorem Silent.course_bind (hj : Silent j) {outcome : Except CommandFault β}
    (h : Course (j >>= f) deeds outcome) :
    (calls deeds = [] ∧ ∃ fault, outcome = .error fault) ∨
      ∃ a rest, Course (f a) rest outcome ∧ calls deeds = calls rest := by
  rcases course_bind_iff.mp h with ⟨fault, hfails, rfl⟩ | ⟨first, a, second, rfl, hfirst, hsecond⟩
  · exact Or.inl ⟨hj deeds _ hfails, fault, rfl⟩
  · refine Or.inr ⟨a, second, hsecond, ?_⟩
    rw [calls_append, hj first _ hfirst, List.nil_append]

/-- What comes before a silent part makes all the calls, and its failure is
that of the whole. -/
theorem course_bind_silent (hf : ∀ a, Silent (f a)) {outcome : Except CommandFault β}
    (h : Course (j >>= f) deeds outcome) :
    ∃ first inner, Course j first inner ∧ calls deeds = calls first ∧
      ∀ fault, inner = .error fault → outcome = .error fault := by
  rcases course_bind_iff.mp h with ⟨fault, hfails, rfl⟩ | ⟨first, a, second, rfl, hfirst, hsecond⟩
  · exact ⟨deeds, _, hfails, rfl, fun fault' hfault => by cases hfault; rfl⟩
  · refine ⟨first, .ok a, hfirst, ?_, fun fault hfault => by cases hfault⟩
    rw [calls_append, hf a second _ hsecond, List.append_nil]

theorem silent_say (lines : List String) : Silent (say lines) := by
  intro deeds outcome h
  rw [(course_say h).1, calls_printed]

/-- What the user picks by a line that is read. -/
def pickOf (offers : List Offer) : Reading → Except CommandFault (Option StatusCode)
  | .line answer => .ok (pick? offers answer)
  | .ended => .ok none
  | .garbled => .error .garbledChoice

/-- The user is asked, and one line is read. -/
def asking (offers : List Offer) (reading : Reading) : List Doing :=
  printed (pickLines offers) ++ [⟨.readLine, reading⟩]

theorem course_askPick {offers : List Offer} {outcome : Except CommandFault (Option StatusCode)}
    (h : Course (askPick offers) deeds outcome) :
    ∃ reading, deeds = asking offers reading ∧ outcome = pickOf offers reading := by
  rcases course_bind_iff.mp h with ⟨fault, hsay, -⟩ | ⟨first, _, rest, rfl, hsay, hrest⟩
  · cases (course_say hsay).2
  · obtain ⟨reading, last, rfl, hlast⟩ := course_act_bind hrest
    rw [(course_say hsay).1]
    cases reading with
    | garbled =>
        obtain ⟨rfl, rfl⟩ := course_throw_iff.mp hlast
        exact ⟨.garbled, rfl, rfl⟩
    | line answer =>
        obtain ⟨rfl, rfl⟩ := course_pure_iff.mp hlast
        exact ⟨.line answer, rfl, rfl⟩
    | ended =>
        obtain ⟨rfl, rfl⟩ := course_pure_iff.mp hlast
        exact ⟨.ended, rfl, rfl⟩

/-- A move without a choice is left as it is; with one the user is asked. -/
theorem course_settleFlow {flow : MoveFlow} {outcome : Except CommandFault MoveFlow}
    (h : Course (settleFlow flow) deeds outcome) :
    flow.offers = [] ∧ deeds = [] ∧ outcome = .ok flow ∨
      flow.offers ≠ [] ∧ ∃ reading, deeds = asking flow.offers reading ∧
        outcome = (pickOf flow.offers reading).map flow.settle := by
  unfold settleFlow at h
  split at h
  · rename_i hnone
    exact Or.inl ⟨List.isEmpty_iff.mp hnone, course_pure_iff.mp h⟩
  · rename_i hsome
    refine Or.inr ⟨fun hnone => hsome (List.isEmpty_iff.mpr hnone), ?_⟩
    obtain ⟨inner, hask, rfl⟩ := Dialogue.Course.except_bind_pure h
    obtain ⟨reading, rfl, rfl⟩ := course_askPick hask
    exact ⟨reading, rfl, rfl⟩

theorem silent_settleFlow (flow : MoveFlow) : Silent (settleFlow flow) := by
  intro deeds outcome h
  rcases course_settleFlow h with ⟨-, rfl, -⟩ | ⟨-, reading, rfl, -⟩
  · rfl
  · rw [asking, calls_append, calls_printed]
    rfl

/-- What is attached when a file is read. -/
def uploadOf (path : String) : Except PathFault (List UInt8) → Except CommandFault Upload
  | .error _ => .error (.unreadableFile path)
  | .ok bytes =>
      match fileName? path with
      | some name => .ok ⟨name, mimeTypeOf name, bytes⟩
      | none => .error (.namelessFile path)

theorem course_readUpload {path : String} {outcome : Except CommandFault Upload}
    (h : Course (readUpload path) deeds outcome) :
    ∃ found, deeds = [⟨.readFile path, found⟩] ∧ outcome = uploadOf path found := by
  obtain ⟨found, rest, rfl, hrest⟩ := course_act_bind h
  refine ⟨found, ?_⟩
  cases found with
  | error fault =>
      obtain ⟨rfl, rfl⟩ := course_throw_iff.mp hrest
      exact ⟨rfl, rfl⟩
  | ok bytes =>
      unfold uploadOf
      dsimp only at hrest ⊢
      cases hname : fileName? path with
      | some name =>
          rw [hname] at hrest
          obtain ⟨rfl, rfl⟩ := course_pure_iff.mp hrest
          exact ⟨rfl, rfl⟩
      | none =>
          rw [hname] at hrest
          obtain ⟨rfl, rfl⟩ := course_throw_iff.mp hrest
          exact ⟨rfl, rfl⟩

/-- Files are read in order, up to the first that cannot be attached. -/
inductive FilesRead : List String → List Doing → Except CommandFault (List Upload) → Prop
  | finished : FilesRead [] [] (.ok [])
  | failed {path : String} (rest : List String) {found : Except PathFault (List UInt8)}
      {fault : CommandFault} (bad : uploadOf path found = .error fault) :
      FilesRead (path :: rest) [⟨.readFile path, found⟩] (.error fault)
  | read {path : String} {rest : List String} {found : Except PathFault (List UInt8)}
      {file : Upload} {deeds : List Doing} {outcome : Except CommandFault (List Upload)}
      (good : uploadOf path found = .ok file) (more : FilesRead rest deeds outcome) :
      FilesRead (path :: rest) (⟨.readFile path, found⟩ :: deeds) (outcome.map (file :: ·))

theorem course_readUploads {paths : List String} {outcome : Except CommandFault (List Upload)}
    (h : Course (readUploads paths) deeds outcome) : FilesRead paths deeds outcome := by
  induction paths generalizing deeds outcome with
  | nil =>
      obtain ⟨rfl, rfl⟩ := course_pure_iff.mp h
      exact .finished
  | cons path rest ih =>
      rcases course_bind_iff.mp h with ⟨fault, hread, rfl⟩ | ⟨first, file, later, rfl, hread, hlater⟩
      · obtain ⟨found, rfl, hfault⟩ := course_readUpload hread
        exact .failed rest hfault.symm
      · obtain ⟨found, rfl, hfile⟩ := course_readUpload hread
        obtain ⟨inner, hrest, rfl⟩ := Dialogue.Course.except_bind_pure hlater
        exact .read hfile.symm (ih hrest)

theorem FilesRead.calls_eq {paths : List String} {outcome : Except CommandFault (List Upload)}
    (h : FilesRead paths deeds outcome) : calls deeds = [] := by
  induction h with
  | finished => rfl
  | failed => rfl
  | read good more ih => exact ih

/-- What is done for the date of a change, and what date that gives: the one
that was given, none if the workflow of the topic cannot be had or is none, and
otherwise the one that the workflow gives by the clock. -/
inductive Dated (r : Request) (status : StatusCode) :
    Option String → List Doing → Option String → Prop
  | given (date : String) : Dated r status (some date) [] (some date)
  | lost (answer : (Errand.loadWorkflow r.topic).Reply) {failure : Failure}
      (bad : Except.bind answer Graph.ofWorkflow = .error failure) :
      Dated r status none [⟨.call (.loadWorkflow r.topic), answer⟩] none
  | found (answer : (Errand.loadWorkflow r.topic).Reply) (now : Stamp) {g : Graph}
      (good : Except.bind answer Graph.ofWorkflow = .ok g) :
      Dated r status none [⟨.call (.loadWorkflow r.topic), answer⟩, ⟨.clock, now⟩]
        (g.defaultDate? r.status status now)

/-- To find the date of a change does not fail. -/
theorem course_dateOf {r : Request} {status : StatusCode} {given? : Option String}
    {outcome : Except CommandFault (Option String)}
    (h : Course (dateOf r status given?) deeds outcome) :
    ∃ date?, Dated r status given? deeds date? ∧ outcome = .ok date? := by
  cases given? with
  | some date =>
      obtain ⟨rfl, rfl⟩ := course_pure_iff.mp h
      exact ⟨_, .given date, rfl⟩
  | none =>
      obtain ⟨answer, rest, rfl, hrest⟩ := course_act_bind h
      cases hgraph : Except.bind answer Graph.ofWorkflow with
      | error failure =>
          rw [hgraph] at hrest
          obtain ⟨rfl, rfl⟩ := course_pure_iff.mp hrest
          exact ⟨_, .lost answer hgraph, rfl⟩
      | ok g =>
          rw [hgraph] at hrest
          obtain ⟨now, last, rfl, hlast⟩ := course_act_bind hrest
          obtain ⟨rfl, rfl⟩ := course_pure_iff.mp hlast
          exact ⟨_, .found answer now hgraph, rfl⟩

/-- The date of a change needs the workflow of the topic, or nothing. -/
theorem Dated.calls_cases {r : Request} {status : StatusCode} {given? date? : Option String}
    (h : Dated r status given? deeds date?) :
    calls deeds = [] ∨ ∃ answer, calls deeds = [⟨.loadWorkflow r.topic, answer⟩] := by
  cases h with
  | given date => exact Or.inl rfl
  | lost answer bad => exact Or.inr ⟨answer, rfl⟩
  | found answer now good => exact Or.inr ⟨answer, rfl⟩

/-- A change asks for its date and reads its files. If none is missing, the
desk changes the status, and what that brings is shown. -/
theorem course_change {setup : Setup} {r : Request} {status : StatusCode} {details : MoveDetails}
    {outcome : Except CommandFault Unit} (h : Course (change setup r status details) deeds outcome) :
    ∃ dating date? reading, Dated r status details.importantDate? dating date? ∧
      ((∃ fault, FilesRead details.files reading (.error fault) ∧ deeds = dating ++ reading ∧
          outcome = .error fault) ∨
        ∃ files talk came lines, FilesRead details.files reading (.ok files) ∧
          Desk.Course (Desk.changeStatus setup.actor r ⟨status, date?, details.comment?, files⟩)
            talk came ∧
          deeds = dating ++ reading ++ talk.map ofSending ++ printed lines ∧
          (∀ failure, came = .error failure → lines = []) ∧
          outcome = (came.mapError .failed).map fun _ => ()) := by
  rcases course_bind_iff.mp h with ⟨fault, hdate, -⟩ | ⟨dating, date?, rest, rfl, hdate, hrest⟩
  · obtain ⟨date?, -, hok⟩ := course_dateOf hdate
    cases hok
  obtain ⟨_, hdated, hsame⟩ := course_dateOf hdate
  cases hsame
  rcases course_bind_iff.mp hrest with ⟨fault, hread, rfl⟩ | ⟨reading, files, later, rfl, hread, hlater⟩
  · exact ⟨dating, date?, rest, hdated, Or.inl ⟨fault, course_readUploads hread, rfl, rfl⟩⟩
  refine ⟨dating, date?, reading, hdated, Or.inr ?_⟩
  rcases course_bind_iff.mp hlater with ⟨fault, hdesk, rfl⟩ | ⟨sent, changed, shown, rfl, hdesk, hshown⟩
  · obtain ⟨talk, came, rfl, hchange, hcame⟩ := course_ofDesk hdesk
    refine ⟨files, talk, came, [], course_readUploads hread, hchange, by simp [printed],
      fun _ _ => rfl, ?_⟩
    rw [← hcame]
    rfl
  · obtain ⟨talk, came, rfl, hchange, hcame⟩ := course_ofDesk hdesk
    obtain ⟨lines, rfl⟩ : ∃ lines, shown = printed lines := ⟨_, (course_say hshown).1⟩
    refine ⟨files, talk, came, lines, course_readUploads hread, hchange, by simp, ?_, ?_⟩
    · rintro failure rfl
      cases hcame
    · rw [(course_say hshown).2, ← hcame]
      rfl

/-- A command that begins with a request loads it, and ends there if that
fails. -/
theorem course_loadRequest_bind {id : RequestId} {f : Request → Job α}
    {outcome : Except CommandFault α} (h : Course (loadRequest id >>= f) deeds outcome) :
    (∃ failure, deeds = [⟨.call (.loadWorkspace id), .error failure⟩] ∧
        outcome = .error (.failed failure)) ∨
      ∃ w rest, deeds = ⟨.call (.loadWorkspace id), .ok w⟩ :: rest ∧
        Course (f w.request) rest outcome := by
  rcases course_bind_iff.mp h with ⟨fault, hload, rfl⟩ | ⟨first, r, rest, rfl, hload, hrest⟩
  · obtain ⟨inner, hsend, hfault⟩ := Dialogue.Course.except_bind_pure hload
    obtain ⟨answer, rfl, rfl⟩ := course_send hsend
    cases answer with
    | ok w => cases hfault
    | error failure =>
        cases hfault
        exact Or.inl ⟨failure, rfl, rfl⟩
  · obtain ⟨inner, hsend, hrequest⟩ := Dialogue.Course.except_bind_pure hload
    obtain ⟨answer, rfl, rfl⟩ := course_send hsend
    cases answer with
    | error failure => cases hrequest
    | ok w =>
        cases hrequest
        exact Or.inr ⟨w, rest, rfl, hrest⟩

end Job

end Docket
