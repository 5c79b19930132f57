import Docket.Proofs.Desk.Guard
import Docket.Proofs.Http.Link

/-!
# When a change of status may be tried again

A change is submitted by one call, the first that is made for it and the only
one of its kind. A failure that calls for another try says that this call
brought back no receipt: the connection failed, or the answer was not one that
can be read. Once the receipt has been read, every failure names the status
that is committed.

* `Errand.isMutation_of_mem_calls` — only mutations go where a status is
  changed.
* `Change.Course.failure_cases` — what a failure says of the commit.
* `changeStatus_retryable_iff` — all of this over a link, for every server.
-/

namespace Docket

open Http Wire

/-- The call goes where the status of some request is changed. -/
def Http.Call.ChangesStatus (call : Call) : Prop :=
  ∃ r : RequestId, call.segments = below r "status-change"

/-- The call that submits a change. -/
def Change.post (c : Change) (r : Request) : Call :=
  (Call.post (below r.id "status-change")).carrying
    (Submission.codec.write ⟨c.status, c.importantDate?, c.remark?⟩)

@[simp] theorem Http.Call.segments_askingFilled (call : Call) (key : String)
    (value? : Option String) : (call.askingFilled key value?).segments = call.segments := by
  cases value? <;> rfl

@[simp] theorem Http.Call.segments_asking (call : Call) (key value : String) :
    (call.asking key value).segments = call.segments := rfl

@[simp] theorem Http.Call.segments_carrying (call : Call) (value : Json) :
    (call.carrying value).segments = call.segments := rfl

@[simp] theorem Http.Call.segments_uploading (call : Call) (fields : List (String × String))
    (file : Upload) : (call.uploading fields file).segments = call.segments := rfl

@[simp] theorem Http.Call.segments_get (segments : List String) :
    (Call.get segments).segments = segments := rfl

@[simp] theorem Http.Call.segments_post (segments : List String) :
    (Call.post segments).segments = segments := rfl

/-- Nothing but a mutation goes where a status is changed. -/
theorem Errand.isMutation_of_mem_calls {e : Errand} {call : Call} (hcall : call ∈ e.calls)
    (hchanges : call.ChangesStatus) : e.isMutation = true := by
  obtain ⟨r, hsegments⟩ := hchanges
  cases e with
  | submit | claim | reassign => rfl
  | loadBoard q =>
      have hboard : (boardCall q).segments = ["kanban"] := by
        unfold boardCall
        split <;> rfl
      rw [List.mem_singleton.mp hcall] at hsegments
      simp [hboard, below] at hsegments
  | loadWorkspace request =>
      rw [calls_loadWorkspace] at hcall
      simp only [List.mem_cons, List.not_mem_nil, or_false] at hcall
      rcases hcall with rfl | rfl | rfl | rfl | rfl <;> simp [below] at hsegments
  | saveTemplate t =>
      have htemplate : (saveTemplateCall t).segments.head? = some "data-templates" := by
        unfold saveTemplateCall
        split <;> rfl
      simp only [calls, plan] at hcall
      split at hcall
      · cases hcall
      · have hsame : call = saveTemplateCall t := List.mem_singleton.mp hcall
        rw [← hsame, hsegments] at htemplate
        simp [below] at htemplate
  | saveValues request updates =>
      simp only [calls, plan] at hcall
      split at hcall
      · cases hcall
      · rw [List.mem_singleton.mp hcall] at hsegments
        simp [below] at hsegments
  | _ =>
      rw [List.mem_singleton.mp hcall] at hsegments
      simp [templatesCall, below] at hsegments

namespace Change

variable {c : Change} {r : Request} {talk : List Sending} {outcome : Outcome Changed}

/-- A change fails as its commit does, or it names the receipt that the commit
brought back. -/
theorem Course.failure_cases (h : c.Course r talk outcome) {answer : (c.commit r).Reply}
    {rest : List Sending} (htalk : talk = ⟨c.commit r, answer⟩ :: rest) {failure : Failure}
    (hfailure : outcome = .error failure) :
    answer = .error failure ∨
      ∃ receipt stage reason, answer = .ok receipt ∧ failure = .partly receipt stage reason := by
  cases h with
  | commitFails failure' =>
      cases hfailure
      cases htalk
      exact Or.inl rfl
  | noteFails receipt failure' tells =>
      cases hfailure
      cases htalk
      exact Or.inr ⟨receipt, .note, _, rfl, rfl⟩
  | uploadFails receipt message sent file rest' attachments failure' files length =>
      cases hfailure
      cases htalk
      exact Or.inr ⟨receipt, .upload, _, rfl, rfl⟩
  | reloadFails receipt message? attachments failure' noted =>
      cases hfailure
      cases htalk
      exact Or.inr ⟨receipt, .reload, _, rfl, rfl⟩
  | done receipt message? attachments workspace noted => cases hfailure

/-- Nothing that is asked after the commit is a mutation. -/
theorem Course.quiet_tail (h : c.Course r talk outcome) :
    ∀ x ∈ talk.tail, x.question.isMutation = false := by
  obtain ⟨receipt, message, hpursued, -⟩ := h.pursued
  intro x hx
  cases hpursued with
  | failed => cases hx
  | went a more => exact isMutation_of_mem_tail_agenda (more.question_mem x hx)

end Change

/-- A failure of a change agrees with what the server answered to its commit. -/
structure Failure.FitsAnswer (failure : Failure) (answered : Outcome Json) : Prop where
  /-- The change may be tried again exactly when the commit brought back no
  receipt because of the connection or because of what the answer was. -/
  retryable_iff : failure.isRetryable = true ↔
    (∃ outage, answered = .error (.network outage)) ∨
      ∃ answer why, answered = .ok answer ∧ Receipt.codec.read answer = .error why
  /-- With a receipt the status is known to be committed. -/
  committed : ∀ answer receipt, answered = .ok answer → Receipt.codec.read answer = .ok receipt →
    failure.committed? = some receipt.target
  /-- Without one the answer is told to be malformed. -/
  malformed : ∀ answer why, answered = .ok answer → Receipt.codec.read answer = .error why →
    failure = .network (.malformed "status change receipt" why)

/-- A receipt as it is read from an answer. -/
abbrev Http.acceptReceipt : Json → Outcome Receipt :=
  accept Receipt.codec "status change receipt"

namespace Failure

variable {failure : Failure} {answered : Outcome Json}

/-- The commit failed, and its failure is told as it is. -/
theorem fitsAnswer_of_commit (h : answered.bind acceptReceipt = .error failure) :
    failure.FitsAnswer answered := by
  cases answered with
  | error failure' =>
      cases h
      refine ⟨?_, ?_, ?_⟩
      · cases failure <;> simp [isRetryable]
      · intro answer receipt hanswer
        cases hanswer
      · intro answer why hanswer
        cases hanswer
  | ok answer =>
      cases hread : Receipt.codec.read answer with
      | ok receipt =>
          cases (accept_eq_ok_iff.mpr hread).symm.trans h
      | error why =>
          cases (accept_of_error hread _).symm.trans h
          refine ⟨?_, ?_, ?_⟩
          · simp [isRetryable, hread]
          · intro answer' receipt hanswer hreceipt
            cases hanswer
            cases hread.symm.trans hreceipt
          · intro answer' why' hanswer hwhy
            cases hanswer
            cases hread.symm.trans hwhy
            rfl

/-- The commit brought back a receipt, and something behind it failed. -/
theorem fitsAnswer_partly {receipt : Receipt} {stage : FollowUp} {reason : String}
    (h : answered.bind acceptReceipt = .ok receipt) :
    (partly receipt stage reason).FitsAnswer answered := by
  cases answered with
  | error failure' => cases h
  | ok answer =>
      have hread : Receipt.codec.read answer = .ok receipt := accept_eq_ok_iff.mp h
      refine ⟨?_, ?_, ?_⟩
      · simp [isRetryable, hread]
      · intro answer' receipt' hanswer hreceipt
        cases hanswer
        cases hread.symm.trans hreceipt
        rfl
      · intro answer' why hanswer hwhy
        cases hanswer
        cases hread.symm.trans hwhy

end Failure

namespace Desk

variable {σ : Type} (serve : Server σ) (link : Link σ) {actor : Actor} {r : Request} {c : Change}

/-- What refuses a change does not call for another try. -/
theorem isRetryable_of_mayChange {status : StatusCode} {failure : Failure}
    (h : mayChange actor r status = .error failure) : failure.isRetryable = false := by
  obtain rfl | rfl | ⟨why, rfl⟩ := mayChange_eq_error h <;> rfl

/-- A refused change makes no call. -/
theorem work_changeStatus_refused {refusal : Failure}
    (refused : mayChange actor r c.status = .error refusal) :
    (link.work serve (changeStatus actor r c)).result = .error refusal ∧
      (link.work serve (changeStatus actor r c)).state = link := by
  unfold changeStatus Link.work
  rw [refused]
  exact ⟨rfl, rfl⟩

/-- The commit brings back the receipt that the server answered. -/
theorem send_commit :
    (link.send serve (c.commit r)).1
        = (serve link.server link.now (c.post r)).1.outcome.bind acceptReceipt ∧
      (link.send serve (c.commit r)).2.sent = link.sent ++ [⟨link.now, c.post r⟩] :=
  link.perform_fetch serve (c.post r) acceptReceipt

/-- An allowed change makes the call of its commit first and never again, and
its failure fits what the server answered to it. -/
theorem work_changeStatus (allowed : mayChange actor r c.status = .ok ()) :
    (∃ later, (link.work serve (changeStatus actor r c)).state.sent
        = link.sent ++ ⟨link.now, c.post r⟩ :: later ∧ ∀ x ∈ later, ¬ x.call.ChangesStatus) ∧
      ∀ failure, (link.work serve (changeStatus actor r c)).result = .error failure →
        failure.FitsAnswer (serve link.server link.now (c.post r)).1.outcome := by
  obtain ⟨next, hrun⟩ := exists_run_changeStatus allowed
  obtain ⟨hanswer, hsent⟩ := send_commit serve link (c := c) (r := r)
  have hcourse := Dialogue.course_exchanges (fun link e => link.send serve e) link
    (changeStatus actor r c).run
  have hway := course_changeStatus allowed hcourse
  have htalk : Dialogue.exchanges (fun link e => link.send serve e) link
      (changeStatus actor r c).run =
      ⟨c.commit r, (link.send serve (c.commit r)).1⟩ ::
        Dialogue.exchanges (fun link e => link.send serve e) (link.send serve (c.commit r)).2
          (next (link.send serve (c.commit r)).1) := by
    rw [hrun]
    rfl
  rw [htalk] at hway
  constructor
  · obtain ⟨made, hmade, hasked⟩ := Link.exists_sent_run serve (link.send serve (c.commit r)).2
      (next (link.send serve (c.commit r)).1)
    refine ⟨made, ?_, ?_⟩
    · unfold Link.work
      rw [hrun]
      simpa [Dialogue.run, hsent] using hmade
    · intro x hx hchanges
      obtain ⟨e, he, hcall⟩ := hasked x hx
      rw [Dialogue.asked_eq_exchanges] at he
      obtain ⟨y, hy, rfl⟩ := List.mem_map.mp he
      have hquiet := hway.quiet_tail y hy
      rw [Errand.isMutation_of_mem_calls hcall hchanges] at hquiet
      cases hquiet
  · intro failure hfailure
    rcases hway.failure_cases rfl hfailure with hfails | ⟨receipt, stage, reason, hcommit, rfl⟩
    · exact Failure.fitsAnswer_of_commit (hanswer.symm.trans hfails)
    · exact Failure.fitsAnswer_partly (hanswer.symm.trans hcommit)

/-- **A change may be tried again exactly when no receipt came back.** Whatever
the server answers: a refused change makes no call and calls for no other try.
An allowed one makes the call of its commit first and never again, and its
failure calls for another try exactly when the connection failed at this call
or the answer to it is no receipt. Once a receipt was answered, every failure
names the status that is committed. -/
theorem changeStatus_retryable_iff (actor : Actor) (r : Request) (c : Change) :
    let ran := link.work serve (changeStatus actor r c)
    (∀ refusal, mayChange actor r c.status = .error refusal →
      ran.result = .error refusal ∧ refusal.isRetryable = false ∧ ran.state.sent = link.sent) ∧
    (mayChange actor r c.status = .ok () →
      (∃ later, ran.state.sent = link.sent ++ ⟨link.now, c.post r⟩ :: later ∧
        ∀ x ∈ later, ¬ x.call.ChangesStatus) ∧
      ∀ failure, ran.result = .error failure →
        failure.FitsAnswer (serve link.server link.now (c.post r)).1.outcome) := by
  intro ran
  constructor
  · intro refusal hrefused
    obtain ⟨hresult, hstate⟩ := work_changeStatus_refused serve link hrefused
    have hsent : ran.state.sent = link.sent := congrArg Link.sent hstate
    exact ⟨hresult, isRetryable_of_mayChange hrefused, hsent⟩
  · intro hallowed
    exact work_changeStatus serve link hallowed

end Desk

/-- A server that commits a change and then loses the connection. -/
def Http.Server.lostAfterCommit : Server Unit := fun s _ call =>
  if call.segments.getLast? = some "status-change" then
    (⟨0, .ok (.object [("from_status", .text "NEW"), ("to_status", .text "REVIEW")])⟩, s)
  else (⟨0, .error (.network (.reported "connection lost"))⟩, s)

/-- A server that takes every call and answers nothing. -/
def Http.Server.wordless : Server Unit := fun s _ _ => (⟨0, .ok .null⟩, s)

/-- A change of status with nothing to tell. -/
def Change.quiet : Change :=
  ⟨⟨"REVIEW"⟩, none, none, []⟩

namespace Desk

/-- When the connection is lost behind the commit, the change is not to be tried
again, and the new status is known to be committed. -/
theorem changeStatus_not_retryable_after_commit :
    ∃ failure,
      ((Link.start ()).work .lostAfterCommit
        (changeStatus ⟨⟨"u-1"⟩, .admin⟩ .fresh .quiet)).result = .error failure ∧
      failure.isRetryable = false ∧ failure.committed? = some ⟨"REVIEW"⟩ := by
  obtain ⟨-, hallowed⟩ := changeStatus_retryable_iff .lostAfterCommit (Link.start ())
    ⟨⟨"u-1"⟩, .admin⟩ .fresh .quiet
  obtain ⟨-, hfits⟩ := hallowed rfl
  obtain ⟨failure, hfailure⟩ : ∃ failure,
      ((Link.start ()).work .lostAfterCommit
        (changeStatus ⟨⟨"u-1"⟩, .admin⟩ .fresh .quiet)).result = .error failure := ⟨_, rfl⟩
  have hfit := hfits failure hfailure
  have hfinal : ¬ failure.isRetryable = true := by
    rw [hfit.retryable_iff]
    rintro (⟨outage, hanswer⟩ | ⟨answer, why, hanswer, hwhy⟩)
    · cases hanswer
    · cases hanswer
      cases hwhy
  exact ⟨failure, hfailure, by simpa using hfinal,
    hfit.committed _ ⟨⟨"NEW"⟩, ⟨"REVIEW"⟩⟩ rfl rfl⟩

/-- Null in answer to the commit: the change seems worth another try, and no
status is known to be committed. -/
theorem changeStatus_retryable_after_null :
    (Server.wordless () 0 (Change.quiet.post .fresh)).1.outcome = .ok .null ∧
      ∃ failure,
        ((Link.start ()).work .wordless
          (changeStatus ⟨⟨"u-1"⟩, .admin⟩ .fresh .quiet)).result = .error failure ∧
        failure.isRetryable = true ∧ failure.committed? = none :=
  ⟨rfl, _, rfl, rfl, rfl⟩

end Desk

end Docket
