import Docket.Http.Client
import Mathlib.Data.List.Basic

/-!
# What goes over a link

A link forgets no call. Whatever is done over it, its record grows at the end
by the calls of the errands that were sent, and by no others. An errand of one
call brings back what the server answered to that call, if the answer is what
was asked for.

* `perform_fetch` — the outcome of an errand of one call.
* `exists_sent_send`, `exists_sent_run` — how the record grows with one errand,
  and with a whole procedure.
-/

namespace Docket

/-- The calls that an errand may make. -/
def Errand.calls (e : Errand) : List Http.Call :=
  e.plan.fetches.map Http.Fetch.call

/-- A workspace is loaded by five calls that only read. -/
theorem Errand.calls_loadWorkspace (r : RequestId) :
    (Errand.loadWorkspace r).calls =
      [.get ["requests", r.text], .get (Http.below r "messages"), .get (Http.below r "attachments"),
        .get (Http.below r "status-route"), .get (Http.below r "status-history")] :=
  rfl

namespace Http

/-- One reply is all there is to wait for. -/
theorem Replies.gather_singleton {α : Type} (r : Docket.Reply α) :
    gather [r] = ⟨r.delay, r.outcome.map fun a => [a]⟩ := by
  obtain ⟨delay, outcome⟩ := r
  cases outcome with
  | ok a => simp [gather, Reply.failure?, Except.map, pure, Except.pure, bind, Except.bind]
  | error failure =>
      simp [gather, Reply.failure?, failureAt?, List.rotateLeft, Except.map]

/-- An answer is accepted when it can be read. -/
theorem accept_eq_ok_iff {α : Type} {c : Wire.Codec α} {what : String} {answer : Json} {a : α} :
    accept c what answer = .ok a ↔ c.read answer = .ok a := by
  unfold accept
  cases c.read answer <;> simp [Except.mapError]

/-- An answer that cannot be read is malformed. -/
theorem accept_of_error {α : Type} {c : Wire.Codec α} {answer : Json} {why : Wire.DecodeError}
    (h : c.read answer = .error why) (what : String) :
    accept c what answer = .error (.network (.malformed what why)) := by
  rw [accept, h]
  rfl

namespace Link

variable {σ α : Type} (serve : Server σ)

/-- A call is recorded at its instant. -/
theorem sent_call (link : Link σ) (c : Call) :
    (link.call serve c).2.sent = link.sent ++ [⟨link.now, c⟩] := rfl

/-- An answer counts if it passes the check of the call. -/
theorem check_bind (answered : Outcome Json) (accept : Json → Outcome α) :
    ((answered.bind fun answer => ((accept answer).map fun _ => ()).map fun _ => answer).map
        fun answer => [answer]).bind (fun answers => accept (answers.headD .null))
      = answered.bind accept := by
  cases answered with
  | error failure => rfl
  | ok answer =>
      cases haccept : accept answer with
      | error failure => simp [Except.bind, Except.map, haccept]
      | ok a => simp [Except.bind, Except.map, haccept]

/-- An errand of one call brings back what the server answered to that call, if
that is what was asked for, and leaves the call on record. -/
theorem perform_fetch (link : Link σ) (c : Call) (accept : Json → Outcome α) :
    (link.perform serve (.fetch c accept)).1
        = (serve link.server link.now c).1.outcome.bind accept ∧
      (link.perform serve (.fetch c accept)).2.sent = link.sent ++ [⟨link.now, c⟩] := by
  have hissue : ∃ replies, link.issue serve (Plan.fetch c accept).fetches
      = (replies, (link.call serve c).2) ∧
      replies = [{ (serve link.server link.now c).1 with
        outcome := (serve link.server link.now c).1.outcome.bind fun answer =>
          ((accept answer).map fun _ => ()).map fun _ => answer }] := by
    refine ⟨_, ?_, rfl⟩
    simp only [Plan.fetch, issue]
    split <;> rfl
  obtain ⟨replies, hissue, rfl⟩ := hissue
  have hlaunch : link.launch serve (.fetch c accept) =
      (⟨(serve link.server link.now c).1.delay,
        (serve link.server link.now c).1.outcome.bind accept⟩, (link.call serve c).2) := by
    rw [launch, hissue]
    simp only [Replies.gather_singleton, Plan.fetch, check_bind]
  rw [perform, hlaunch]
  exact ⟨rfl, rfl⟩

/-- Calls that are issued together are recorded in order, as far as they are
made. -/
theorem exists_sent_issue (link : Link σ) (fetches : List Fetch) :
    ∃ made, made <+: fetches.map Fetch.call ∧
      (link.issue serve fetches).2.sent = link.sent ++ made.map (Sent.mk link.now) := by
  induction fetches generalizing link with
  | nil => exact ⟨[], List.prefix_rfl, by simp [issue]⟩
  | cons f rest ih =>
      obtain ⟨made, hprefix, hsent⟩ := ih (link.call serve f.call).2
      by_cases hfails : Reply.failsAtOnce { (link.call serve f.call).1 with
          outcome := (link.call serve f.call).1.outcome.bind fun answer =>
            (f.check answer).map fun _ => answer } = true
      · refine ⟨[f.call], ⟨rest.map Fetch.call, rfl⟩, ?_⟩
        simp only [issue, hfails, if_true]
        rfl
      · refine ⟨f.call :: made, List.cons_prefix_cons.mpr ⟨rfl, hprefix⟩, ?_⟩
        simp only [issue, hfails, Bool.false_eq_true, if_false]
        rw [hsent, sent_call, List.append_assoc]
        rfl

/-- An errand adds some of its calls to the record. -/
theorem exists_sent_send (link : Link σ) (e : Errand) :
    ∃ made, (link.send serve e).2.sent = link.sent ++ made ∧ ∀ x ∈ made, x.call ∈ e.calls := by
  obtain ⟨made, hprefix, hsent⟩ := exists_sent_issue serve link e.plan.fetches
  refine ⟨made.map (Sent.mk link.now), hsent, ?_⟩
  intro x hx
  obtain ⟨c, hc, rfl⟩ := List.mem_map.mp hx
  exact hprefix.subset hc

/-- A procedure adds calls of its errands to the record. -/
theorem exists_sent_run (link : Link σ) (d : Dialogue Errand Errand.Reply α) :
    ∃ made, (d.run (fun link e => link.send serve e) link).state.sent = link.sent ++ made ∧
      ∀ x ∈ made, ∃ e ∈ (d.run (fun link e => link.send serve e) link).asked, x.call ∈ e.calls := by
  induction d generalizing link with
  | done a => exact ⟨[], by simp [Dialogue.run], by simp⟩
  | ask e next ih =>
      obtain ⟨first, hfirst, hcalls⟩ := exists_sent_send serve link e
      obtain ⟨later, hlater, hasked⟩ := ih (link.send serve e).1 (link.send serve e).2
      refine ⟨first ++ later, ?_, ?_⟩
      · simp only [Dialogue.run, hlater, hfirst, List.append_assoc]
      · intro x hx
        rcases List.mem_append.mp hx with hx | hx
        · exact ⟨e, List.mem_cons_self, hcalls x hx⟩
        · obtain ⟨e', he', hcall⟩ := hasked x hx
          exact ⟨e', List.mem_cons_of_mem _ he', hcall⟩

end Link

end Http

end Docket
