import Docket.Proofs.Command.Course
import Docket.Proofs.Desk.Guard

/-!
# What leaves a command

A command that may change a request loads it first. Everything that it then
sends is lawful for the request as it was loaded, and after a refusal it sends
nothing more: the workflow of the topic, which gives a move its date, is all
that may have been read until then. So it is of every sequence of commands and
of every sequence of tasks of the desk, for everybody who may answer.

* `Order.went` — every command that may change a request goes like that.
* `only_lawful_mutations_leave` — no sequence of tasks or commands sends a
  mutation that is not lawful.
-/

namespace Docket

open Doing

theorem MoveFlow.eq_failed_of_failure? {flow : MoveFlow} {failure : Failure}
    (h : flow.failure? = some failure) : ∃ request, flow = .failed request failure := by
  unfold failure? at h
  split at h
  · cases h
    exact ⟨_, rfl⟩
  · cases h

/-- A command that may change a request. -/
inductive Order where
  | move (request : RequestId) (details : MoveDetails)
  | claim (request : RequestId)
  | reassign (request : RequestId) (lawyer : ActorId)

namespace Order

/-- The command as the user says it. -/
def command : Order → Command
  | .move request details => .move request details
  | .claim request => .claim request
  | .reassign request lawyer => .reassign request lawyer

/-- The request that may be changed. -/
def request : Order → RequestId
  | .move request _ | .claim request | .reassign request _ => request

/-- What is to be said against it once the request is loaded. A move may have
no place to go to, and not everybody may move a request. -/
def verdict (actor : Actor) (r : Request) : Order → Outcome Unit
  | .move _ details =>
      match (MoveFlow.plan? r details.status? details.column?).bind MoveFlow.failure? with
      | some failure => .error failure
      | none => actor.mayMove r
  | .claim _ => actor.mayClaim r
  | .reassign _ lawyer => actor.mayReassign r lawyer

/-- What is read for a loaded request before it is known whether anything may
be changed: for a move the workflow, if that is needed, and else nothing. -/
inductive Reads (r : Request) : Order → List Sending → Prop
  | nothing (order : Order) : Reads r order []
  | workflow (request : RequestId) (details : MoveDetails)
      (answer : (Errand.loadWorkflow r.topic).Reply) :
      Reads r (.move request details) [⟨.loadWorkflow r.topic, answer⟩]

/-- What a command sends for a loaded request is lawful. If there is no
mutation among it, or anything is to be said against the command, it is only
what had to be read before. -/
structure Guarded (actor : Actor) (order : Order) (r : Request) (talk : List Sending) :
    Prop where
  lawful : ∀ x ∈ talk, x.question.Lawful actor r
  idle : (∀ x ∈ talk, x.question.isMutation = false) → Reads r order talk
  refused : ∀ failure, order.verdict actor r = .error failure → Reads r order talk

/-- The ways in which a command can go that may change a request. -/
inductive Went (actor : Actor) (order : Order) : List Sending → Prop
  | unloaded (failure : Failure) : Went actor order [⟨.loadWorkspace order.request, .error failure⟩]
  | loaded (w : Workspace) {talk : List Sending} (guarded : Guarded actor order w.request talk) :
      Went actor order (⟨.loadWorkspace order.request, .ok w⟩ :: talk)

variable {actor : Actor} {order : Order} {r : Request} {reads talk : List Sending}

theorem Reads.not_mutation (h : Reads r order talk) :
    ∀ x ∈ talk, x.question.isMutation = false := by
  cases h with
  | nothing => exact fun x hx => absurd hx List.not_mem_nil
  | workflow request details answer =>
      intro x hx
      cases List.mem_singleton.mp hx
      rfl

/-- Who only reads breaks no law. -/
theorem Guarded.of_reads (h : Reads r order talk) : Guarded actor order r talk where
  lawful x hx := Errand.lawful_of_not_mutation (h.not_mutation x hx)
  idle _ := h
  refused _ _ := h

/-- Who reads and then leaves it to the desk breaks no law. -/
theorem Guarded.of_desk {α : Type} {verdict : Outcome Unit} {outcome : Outcome α}
    (hreads : Reads r order reads) (h : Desk.Guarded actor r verdict talk outcome)
    (hrefused : ∀ failure, order.verdict actor r = .error failure →
      ∃ failure', verdict = .error failure') :
    Guarded actor order r (reads ++ talk) where
  lawful x hx := by
    rcases List.mem_append.mp hx with hx | hx
    · exact Errand.lawful_of_not_mutation (hreads.not_mutation x hx)
    · exact h.lawful x hx
  idle hquiet := by
    rcases h.first with rfl | ⟨x, rest, rfl, hmutation⟩
    · rw [List.append_nil]
      exact hreads
    · have hmem : x ∈ reads ++ x :: rest := List.mem_append_right reads List.mem_cons_self
      cases hmutation.symm.trans (hquiet x hmem)
  refused failure hfailure := by
    obtain ⟨failure', hfailure'⟩ := hrefused failure hfailure
    rw [(h.refused failure' hfailure').1, List.append_nil]
    exact hreads

variable {setup : Setup} {deeds : List Doing} {outcome : Except CommandFault Unit}

/-- A command that loads a request and then does what is guarded goes well. -/
theorem Went.of_load {f : Request → Job Unit}
    (hf : ∀ r rest outcome, Job.Course (f r) rest outcome → Guarded actor order r (calls rest))
    (h : Job.Course (Job.loadRequest order.request >>= f) deeds outcome) :
    Went actor order (calls deeds) := by
  rcases Job.course_loadRequest_bind h with ⟨failure, rfl, -⟩ | ⟨w, rest, rfl, hrest⟩
  · exact .unloaded failure
  · exact .loaded w (hf w.request rest outcome hrest)

/-- A change of a loaded request goes well. -/
theorem guarded_change {request : RequestId} {details : MoveDetails} {status : StatusCode}
    (hplanned : (MoveFlow.plan? r details.status? details.column?).bind MoveFlow.failure? = none)
    (h : Job.Course (Job.change setup r status details) deeds outcome) :
    Guarded setup.actor (.move request details) r (calls deeds) := by
  obtain ⟨dating, date?, reading, hdated, hway⟩ := Job.course_change h
  have hreads : Reads r (.move request details) (calls dating) := by
    rcases hdated.calls_cases with hnone | ⟨answer, hone⟩
    · rw [hnone]
      exact .nothing _
    · rw [hone]
      exact .workflow request details answer
  rcases hway with ⟨fault, hread, rfl, -⟩ | ⟨files, talk, came, lines, hread, hcourse, rfl, -, -⟩
  · rw [calls_append, hread.calls_eq, List.append_nil]
    exact .of_reads hreads
  · have hcalls : calls (dating ++ reading ++ talk.map ofSending ++ Job.printed lines) =
        calls dating ++ talk := by
      simp [hread.calls_eq]
    rw [hcalls]
    refine .of_desk hreads (Desk.guarded_changeStatus hcourse) ?_
    intro failure hfailure
    rw [verdict, hplanned] at hfailure
    cases hmay : Desk.mayChange setup.actor r status with
    | error failure' => exact ⟨failure', rfl⟩
    | ok u =>
        have hmove := (Desk.mayChange_eq_ok_iff.mp hmay).2.2
        cases hmove.symm.trans hfailure

/-- A move goes well. -/
theorem went_move {request : RequestId} {details : MoveDetails}
    (h : Job.Course (Job.move setup request details) deeds outcome) :
    Went setup.actor (.move request details) (calls deeds) := by
  refine Went.of_load ?_ h
  intro r rest outcome hrest
  cases hplan : MoveFlow.plan? r details.status? details.column? with
  | none =>
      rw [hplan] at hrest
      rw [Job.silent_throw _ rest outcome hrest]
      exact .of_reads (.nothing _)
  | some planned =>
      rw [hplan] at hrest
      cases hfailed : planned.failure? with
      | some failure =>
          -- there is nothing to pick in a move that has failed, so it fails at once
          obtain ⟨id, rfl⟩ := MoveFlow.eq_failed_of_failure? hfailed
          have hthrow : Job.Course (throw (.failed failure)) rest outcome := hrest
          rw [Job.silent_throw _ rest outcome hthrow]
          exact .of_reads (.nothing _)
      | none =>
          have hplanned :
              (MoveFlow.plan? r details.status? details.column?).bind MoveFlow.failure? = none := by
            rw [hplan]
            exact hfailed
          rcases (Job.silent_settleFlow planned).course_bind hrest with
            ⟨hquiet, -⟩ | ⟨flow, later, hlater, hcalls⟩
          · rw [hquiet]
            exact .of_reads (.nothing _)
          rw [hcalls]
          split at hlater
          · exact guarded_change hplanned hlater
          · rw [Job.silent_throw _ later outcome hlater]
            exact .of_reads (.nothing _)
          · rw [Job.silent_say _ later outcome hlater]
            exact .of_reads (.nothing _)

/-- A claim goes well. -/
theorem went_claim {request : RequestId}
    (h : Job.Course (Job.claim setup request) deeds outcome) :
    Went setup.actor (.claim request) (calls deeds) := by
  refine Went.of_load ?_ h
  intro r rest outcome hrest
  obtain ⟨desk, inner, hdesk, hcalls, -⟩ := Job.course_bind_silent (fun _ => Job.silent_say _) hrest
  obtain ⟨talk, came, rfl, hcame, -⟩ := Job.course_ofDesk hdesk
  rw [hcalls, calls_map_ofSending]
  exact .of_desk (.nothing _) (Desk.guarded_claim hcame) fun failure hfailure => ⟨failure, hfailure⟩

/-- A handing over goes well. -/
theorem went_reassign {request : RequestId} {lawyer : ActorId}
    (h : Job.Course (Job.reassign setup request lawyer) deeds outcome) :
    Went setup.actor (.reassign request lawyer) (calls deeds) := by
  refine Went.of_load ?_ h
  intro r rest outcome hrest
  obtain ⟨desk, inner, hdesk, hcalls, -⟩ := Job.course_bind_silent (fun _ => Job.silent_say _) hrest
  obtain ⟨talk, came, rfl, hcame, -⟩ := Job.course_ofDesk hdesk
  rw [hcalls, calls_map_ofSending]
  exact .of_desk (.nothing _) (Desk.guarded_reassign hcame)
    fun failure hfailure => ⟨failure, hfailure⟩

/-- **Every command that may change a request goes well.** -/
theorem went (order : Order)
    (h : Job.Course (order.command.perform setup) deeds outcome) :
    Went setup.actor order (calls deeds) := by
  cases order with
  | move request details => exact went_move h
  | claim request => exact went_claim h
  | reassign request lawyer => exact went_reassign h

end Order

/-- **Only lawful mutations leave.** Whatever tasks a person has the desk do
with whatever rows, one after another, and whoever answers: what is sent falls
into one part for each task, and all of it is lawful for the row of the task;
what the checks refuse sends nothing and fails. Whatever commands he gives that
may change a request, and whatever answers, is typed, read and shown: what is
called falls into one part for each command, which begins with the request as
the server holds it, and all that follows is lawful for the request as it was
loaded; without a mutation, and so after a refusal, nothing but the workflow of
a move is read. -/
theorem only_lawful_mutations_leave :
    (∀ (actor : Actor) (σ : Type) (respond : σ → (e : Errand) → e.Reply × σ) (s : σ)
      (tasks : List Desk.Task),
      ∃ parts : List (List Sending × Outcome Unit),
        Dialogue.exchanges respond s
            (Dialogue.inTurn (fun task => (task.perform actor).run) tasks) =
          (parts.map Prod.fst).flatten ∧
        List.Forall₂ (fun task part =>
          Desk.Course (task.perform actor) part.1 part.2 ∧
          Desk.Guarded actor task.row (task.verdict actor) part.1 part.2) tasks parts) ∧
    ∀ (setup : Setup) (σ : Type) (respond : σ → (d : Deed) → d.Reply × σ) (s : σ)
      (orders : List Order),
      ∃ parts : List (List Doing × Except CommandFault Unit),
        Dialogue.exchanges respond s
            (Dialogue.inTurn (fun order => (order.command.perform setup).run) orders) =
          (parts.map Prod.fst).flatten ∧
        List.Forall₂ (fun order part =>
          Job.Course (order.command.perform setup) part.1 part.2 ∧
          order.Went setup.actor (calls part.1)) orders parts := by
  constructor
  · intro actor σ respond s tasks
    obtain ⟨parts, htalk, -, hparts⟩ :=
      Dialogue.course_inTurn (Dialogue.course_exchanges respond s _)
    exact ⟨parts, htalk, hparts.imp fun task part hcourse => ⟨hcourse, task.guarded hcourse⟩⟩
  · intro setup σ respond s orders
    obtain ⟨parts, hdeeds, -, hparts⟩ :=
      Dialogue.course_inTurn (Dialogue.course_exchanges respond s _)
    exact ⟨parts, hdeeds, hparts.imp fun order part hcourse => ⟨hcourse, order.went hcourse⟩⟩

end Docket
