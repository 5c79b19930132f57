import Docket.Proofs.Command.Move
import Docket.Proofs.Http.Retry
import Docket.Terminal.Basic

/-!
# What a move sends

A move that is run at a terminal reads from the server until everything that
may hinder it is out of the way, and only then submits the new status, by one
call. What else it sends comes after the receipt of that call. A move that is
hindered has only read.

* `Deed.Makes` — what kind of calls a deed makes.
* `Terminal.exists_sent_of_answers` — how the record of the link grows by deeds.
* `move_submits_last` — what any move leaves on record.
-/

namespace Docket

open Doing Http

variable {P : Http.Call → Prop}

/-- The deed makes no calls but such. A message that is composed and a request
that is watched are not looked into. -/
def Deed.Makes (P : Call → Prop) : Deed → Prop
  | .call e => ∀ call ∈ e.calls, P call
  | .print _ | .readLine | .readFile _ | .clock => True
  | .compose _ | .follow _ _ _ => False

/-- A call that only reads. -/
abbrev Http.Call.Reads (call : Call) : Prop :=
  call.isGet = true

theorem Deed.reads_loadWorkspace (id : RequestId) :
    (Deed.call (.loadWorkspace id)).Makes Call.Reads := by
  intro call hcall
  rw [Errand.calls_loadWorkspace] at hcall
  simp only [List.mem_cons, List.not_mem_nil, or_false] at hcall
  rcases hcall with rfl | rfl | rfl | rfl | rfl <;> rfl

theorem Deed.reads_loadWorkflow (topic : TopicCode) :
    (Deed.call (.loadWorkflow topic)).Makes Call.Reads := by
  intro call hcall
  rw [List.mem_singleton.mp hcall]
  rfl

namespace Job

theorem makes_printed (lines : List String) : ∀ x ∈ printed lines, x.question.Makes P := by
  intro x hx
  obtain ⟨line, -, rfl⟩ := List.mem_map.mp hx
  trivial

theorem makes_asking (offers : List Offer) (reading : Reading) :
    ∀ x ∈ asking offers reading, x.question.Makes P :=
  List.forall_mem_append.mpr ⟨makes_printed _, List.forall_mem_singleton.mpr trivial⟩

theorem FilesRead.makes {paths : List String} {deeds : List Doing}
    {outcome : Except CommandFault (List Upload)} (h : FilesRead paths deeds outcome) :
    ∀ x ∈ deeds, x.question.Makes P := by
  induction h with
  | finished => exact List.forall_mem_nil _
  | failed rest bad => exact List.forall_mem_singleton.mpr trivial
  | read good more ih => exact List.forall_mem_cons.mpr ⟨trivial, ih⟩

theorem Dated.reads {r : Request} {status : StatusCode} {given? date? : Option String}
    {deeds : List Doing} (h : Dated r status given? deeds date?) :
    ∀ x ∈ deeds, x.question.Makes Call.Reads := by
  have hasked := Deed.reads_loadWorkflow r.topic
  cases h with
  | given date => exact List.forall_mem_nil _
  | lost answer bad => exact List.forall_mem_singleton.mpr hasked
  | found answer now good =>
      exact List.forall_mem_cons.mpr ⟨hasked, List.forall_mem_singleton.mpr trivial⟩

end Job

theorem MoveFlow.Settled.makes {planned flow : MoveFlow} {deeds : List Doing}
    (h : planned.Settled deeds flow) : ∀ x ∈ deeds, x.question.Makes P := by
  cases h with
  | kept none => exact List.forall_mem_nil _
  | picked reading many pick => exact Job.makes_asking _ reading

namespace Move

variable {setup : Setup} {id : RequestId} {details : MoveDetails} {deeds : List Doing}
  {r : Request}

theorem Flowed.reads {flow : MoveFlow} (h : Flowed id details deeds r flow) :
    ∀ x ∈ deeds, x.question.Makes Call.Reads := by
  obtain ⟨w, plan, settled⟩ := h
  exact List.forall_mem_cons.mpr ⟨Deed.reads_loadWorkspace id, settled.makes⟩

/-- Nothing but reading from the server stands between loading a request and the
last of its files. -/
theorem reads_of_parts {loading dating reading : List Doing} {flow : MoveFlow}
    {status : StatusCode} {given? date? : Option String} {paths : List String}
    {outcome : Except CommandFault (List Upload)} (hflowed : Flowed id details loading r flow)
    (hdated : Job.Dated r status given? dating date?)
    (hread : Job.FilesRead paths reading outcome) :
    ∀ x ∈ loading ++ dating ++ reading, x.question.Makes Call.Reads := by
  have hbefore := List.forall_mem_append.mpr ⟨hflowed.reads, hdated.reads⟩
  exact List.forall_mem_append.mpr ⟨hbefore, hread.makes⟩

theorem Prepared.reads {c : Change} (h : Prepared id details deeds r c) :
    ∀ x ∈ deeds, x.question.Makes Call.Reads := by
  obtain ⟨flowed, dated, read⟩ := h
  exact reads_of_parts flowed dated read

/-- A move that is hindered only reads. -/
theorem Hindered.reads {hindrance : Hindrance} {outcome : Except CommandFault Unit}
    (h : Hindered setup id details hindrance deeds outcome) :
    ∀ x ∈ deeds, x.question.Makes Call.Reads := by
  have hload := Deed.reads_loadWorkspace id
  cases h with
  | load failure => exact List.forall_mem_singleton.mpr hload
  | target w plan => exact List.forall_mem_singleton.mpr hload
  | pick w plan many => exact List.forall_mem_cons.mpr ⟨hload, Job.makes_asking _ _⟩
  | flow flowed => exact flowed.reads
  | idle flowed => exact List.forall_mem_append.mpr ⟨flowed.reads, Job.makes_printed _⟩
  | file flowed dated missing => exact reads_of_parts flowed dated missing
  | guard prepared refused => exact prepared.reads

/-- A deed that asks for a workflow calls. -/
theorem not_makes_loadWorkflow (topic : TopicCode) :
    ¬ (Deed.call (.loadWorkflow topic)).Makes fun _ => False := fun h =>
  h _ List.mem_cons_self

/-- Once the workflow has been asked for, whatever was answered, only a file or
the guard hinders a move. -/
theorem Hindered.of_loadWorkflow {hindrance : Hindrance} {outcome : Except CommandFault Unit}
    (h : Hindered setup id details hindrance deeds outcome) {topic : TopicCode}
    {answer : (Errand.loadWorkflow topic).Reply}
    (hasked : (⟨.call (.loadWorkflow topic), answer⟩ : Doing) ∈ deeds) :
    hindrance = .file ∨ hindrance = .guard := by
  -- before the flow is settled only the request is loaded
  have hflowed : ∀ {r : Request} {flow : MoveFlow} {loading : List Doing},
      Flowed id details loading r flow →
        (⟨.call (.loadWorkflow topic), answer⟩ : Doing) ∉ loading := by
    rintro r flow loading ⟨w, plan, settled⟩ hmem
    rcases List.mem_cons.mp hmem with hload | hmem
    · cases hload
    · exact not_makes_loadWorkflow topic (settled.makes _ hmem)
  cases h with
  | load failure => cases List.mem_singleton.mp hasked
  | target w plan => cases List.mem_singleton.mp hasked
  | pick w plan many =>
      rcases List.mem_cons.mp hasked with hload | hmem
      · cases hload
      · exact absurd (Job.makes_asking _ _ _ hmem) (not_makes_loadWorkflow topic)
  | flow flowed => exact absurd hasked (hflowed flowed)
  | idle flowed =>
      rcases List.mem_append.mp hasked with hmem | hmem
      · exact absurd hmem (hflowed flowed)
      · exact absurd (Job.makes_printed _ _ hmem) (not_makes_loadWorkflow topic)
  | file flowed dated missing => exact Or.inl rfl
  | guard prepared refused => exact Or.inr rfl

end Move

namespace Terminal

variable {σ : Type} {serve : Server σ} {setup : Setup} {t t' : Terminal σ}

/-- A deed leaves its calls on record. -/
theorem exists_sent_respond (t : Terminal σ) {deed : Deed} (h : deed.Makes P) :
    ∃ made, (t.respond serve setup deed).2.link.sent = t.link.sent ++ made ∧
      ∀ x ∈ made, P x.call := by
  have hnothing : t.link.sent = t.link.sent ++ [] ∧ ∀ x ∈ ([] : List Sent), P x.call :=
    ⟨(List.append_nil _).symm, List.forall_mem_nil _⟩
  cases deed with
  | call e =>
      obtain ⟨made, hsent, hmade⟩ := Link.exists_sent_send serve t.link e
      exact ⟨made, hsent, fun x hx => h _ (hmade x hx)⟩
  | print line => exact ⟨[], hnothing⟩
  | readLine =>
      refine ⟨[], ?_⟩
      have hsame : t.readLine.2.link.sent = t.link.sent := by
        unfold readLine
        split <;> rfl
      show t.readLine.2.link.sent = _ ∧ _
      rw [hsame]
      exact hnothing
  | readFile path => exact ⟨[], hnothing⟩
  | clock => exact ⟨[], hnothing⟩
  | compose request => exact h.elim
  | follow request workspace hidden => exact h.elim

/-- Deeds leave their calls on record, one after another. -/
theorem exists_sent_of_answers {deeds : List Doing}
    (h : Dialogue.Answers (respond serve setup) t deeds t')
    (hdeeds : ∀ x ∈ deeds, x.question.Makes P) :
    ∃ made, t'.link.sent = t.link.sent ++ made ∧ ∀ x ∈ made, P x.call := by
  induction h with
  | done t => exact ⟨[], (List.append_nil _).symm, List.forall_mem_nil _⟩
  | @ask t t' deed talk rest ih =>
      obtain ⟨hdeed, htalk⟩ := List.forall_mem_cons.mp hdeeds
      obtain ⟨first, hfirst, hP⟩ := exists_sent_respond t hdeed
      obtain ⟨later, hlater, hP'⟩ := ih htalk
      refine ⟨first ++ later, ?_, List.forall_mem_append.mpr ⟨hP, hP'⟩⟩
      rw [hlater, hfirst, List.append_assoc]

/-- What the link has on record between two moments only read. -/
def OnlyRead (t t' : Terminal σ) : Prop :=
  ∃ reads, t'.link.sent = t.link.sent ++ reads ∧ ∀ x ∈ reads, x.call.Reads

/-- The change was submitted first, by one call, and what else the link has on
record after it was sent because that brought back a receipt. -/
def Submits (serve : Server σ) (t t' : Terminal σ) (r : Request) (c : Change) : Prop :=
  ∃ later, t'.link.sent = t.link.sent ++ ⟨t.link.now, c.post r⟩ :: later ∧
    (∀ x ∈ later, ¬ x.call.ChangesStatus) ∧
    (later ≠ [] → ∃ receipt,
      (serve t.link.server t.link.now (c.post r)).1.outcome.bind acceptReceipt = .ok receipt)

end Terminal

/-- A change begins with its commit. Nothing behind that is a mutation, and
nothing is sent at all behind a commit that fails. -/
theorem Change.Course.exists_cons {c : Change} {r : Request} {talk : List Sending}
    {came : Outcome Changed} (h : c.Course r talk came) :
    ∃ answer rest, talk = ⟨c.commit r, answer⟩ :: rest ∧
      (∀ x ∈ rest, x.question.isMutation = false) ∧
      ∀ failure, answer = .error failure → rest = [] := by
  have hquiet := h.quiet_tail
  cases h with
  | commitFails failure => exact ⟨_, _, rfl, hquiet, fun _ _ => rfl⟩
  | _ => exact ⟨_, _, rfl, hquiet, fun _ herror => by cases herror⟩

namespace Terminal

variable {σ : Type} {serve : Server σ} {setup : Setup} {t t' : Terminal σ}

/-- The change of a status is submitted first, and by one call. -/
theorem submits_of_answers {c : Change} {r : Request} {talk : List Sending}
    {came : Outcome Changed} {lines : List String} (hway : c.Course r talk came)
    (h : Dialogue.Answers (respond serve setup) t (talk.map ofSending ++ Job.printed lines) t') :
    t.Submits serve t' r c := by
  obtain ⟨answer, rest, rfl, hquiet, hstops⟩ := hway.exists_cons
  obtain ⟨hanswer, hsent⟩ := Desk.send_commit serve t.link (c := c) (r := r)
  -- what follows the commit makes the calls of the errands that follow it
  have hmakes : ∀ Q : Http.Call → Prop, (∀ y ∈ rest, ∀ call ∈ y.question.calls, Q call) →
      ∀ x ∈ rest.map ofSending ++ Job.printed lines, x.question.Makes Q := by
    intro Q hQ
    exact List.forall_mem_append.mpr ⟨List.forall_mem_map.mpr hQ, Job.makes_printed lines⟩
  obtain ⟨hreply, hrest⟩ := Dialogue.Answers.of_cons h
  have hcommit : answer =
      (serve t.link.server t.link.now (c.post r)).1.outcome.bind acceptReceipt :=
    hreply.trans hanswer
  cases answer with
  | error failure =>
      have hnothing : ∀ y ∈ rest, ∀ call ∈ y.question.calls, False := by
        rw [hstops failure rfl]
        exact List.forall_mem_nil _
      obtain ⟨later, hlater, hfalse⟩ := exists_sent_of_answers hrest (hmakes _ hnothing)
      obtain rfl : later = [] := List.eq_nil_iff_forall_not_mem.mpr hfalse
      refine ⟨[], ?_, List.forall_mem_nil _, fun hne => absurd rfl hne⟩
      exact hlater.trans ((List.append_nil _).trans hsent)
  | ok receipt =>
      have hunchanged : ∀ y ∈ rest, ∀ call ∈ y.question.calls, ¬ call.ChangesStatus := by
        intro y hy call hcall hchanges
        cases (hquiet y hy).symm.trans (Errand.isMutation_of_mem_calls hcall hchanges)
      obtain ⟨later, hlater, hkept⟩ := exists_sent_of_answers hrest (hmakes _ hunchanged)
      refine ⟨later, ?_, hkept, fun _ => ⟨receipt, hcommit.symm⟩⟩
      have happend : t.link.sent ++ ⟨t.link.now, c.post r⟩ :: later =
          t.link.sent ++ [⟨t.link.now, c.post r⟩] ++ later := by
        rw [List.append_assoc, List.singleton_append]
      rw [happend, ← hsent]
      exact hlater

/-- How a move can go at a terminal: what it does, what comes of it, and what the
terminal is like then. -/
inductive MoveWent (serve : Server σ) (setup : Setup) (t : Terminal σ) (id : RequestId)
    (details : MoveDetails) : List Doing → Except CommandFault Unit → Terminal σ → Prop
  /-- Something hindered the move, and all that was sent only read. Once the
  workflow had been asked for, with whatever answer, only a file or the guard was
  in the way. -/
  | hindered {hindrance : Move.Hindrance} {deeds : List Doing}
      {outcome : Except CommandFault Unit} {t' : Terminal σ}
      (how : Move.Hindered setup id details hindrance deeds outcome)
      (read : t.OnlyRead t')
      (asked : ∀ topic answer, (⟨.call (.loadWorkflow topic), answer⟩ : Doing) ∈ deeds →
        hindrance = .file ∨ hindrance = .guard) :
      MoveWent serve setup t id details deeds outcome t'
  /-- All was prepared and the actor allowed to make the change, while all that
  was sent only read. Then the change was submitted, and the move ended as the
  change did. -/
  | changed {before : List Doing} {ready t' : Terminal σ} {r : Request} {c : Change}
      {talk : List Sending} {came : Outcome Changed} (lines : List String)
      (prepared : Move.Prepared id details before r c)
      (allowed : Desk.mayChange setup.actor r c.status = .ok ())
      (reached : Dialogue.Answers (respond serve setup) t before ready)
      (read : t.OnlyRead ready) (submitted : ready.Submits serve t' r c)
      (way : c.Course r talk came) :
      MoveWent serve setup t id details (before ++ talk.map ofSending ++ Job.printed lines)
        ((came.mapError .failed).map fun _ => ()) t'

/-- Every course of a move whose deeds are answered at a terminal goes like that. -/
theorem moveWent_of_course {id : RequestId} {details : MoveDetails} {deeds : List Doing}
    {outcome : Except CommandFault Unit}
    (hcourse : Job.Course (Job.move setup id details) deeds outcome)
    (hanswers : Dialogue.Answers (respond serve setup) t deeds t') :
    MoveWent serve setup t id details deeds outcome t' := by
  rcases Job.course_move hcourse with ⟨hindrance, hhindered⟩ | ⟨lines, hprepared, hmay, hway⟩
  · refine .hindered hhindered (exists_sent_of_answers hanswers hhindered.reads) ?_
    exact fun topic answer hasked => hhindered.of_loadWorkflow hasked
  · rw [List.append_assoc] at hanswers
    obtain ⟨ready, hbefore, hlater⟩ := hanswers.exists_of_append
    exact .changed lines hprepared hmay hbefore
      (exists_sent_of_answers hbefore hprepared.reads) (submits_of_answers hway hlater) hway

end Terminal

/-- **A move submits its status last of all.** Whatever the server answers,
whatever is typed and whatever files there are: either something hindered the
move, and all that it sent only read; a workflow that cannot be had is no such
thing. Or the request was loaded, a status applied to it, every file read and the
actor allowed to make the change, while all that was sent only read; then the new
status was submitted, by one call and no other, and all else was sent because
that call had brought back a receipt. -/
theorem move_submits_last {σ : Type} (serve : Server σ) (setup : Setup) (t : Terminal σ)
    (id : RequestId) (details : MoveDetails) :
    ∃ deeds : List Doing,
      deeds.map Exchange.question = (t.run serve setup (.move id details)).asked ∧
      Terminal.MoveWent serve setup t id details deeds
        (t.run serve setup (.move id details)).result
        (t.run serve setup (.move id details)).state := by
  refine ⟨_, (Dialogue.asked_eq_exchanges (Terminal.respond serve setup) t _).symm, ?_⟩
  exact Terminal.moveWent_of_course
    (Dialogue.course_exchanges (Terminal.respond serve setup) t (Job.move setup id details).run)
    (Dialogue.answers_exchanges (Terminal.respond serve setup) t (Job.move setup id details).run)

end Docket
