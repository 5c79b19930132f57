import Docket.Proofs.Desk.Change

/-!
# What leaves the desk

Three errands change a request for everybody: a new status, a claim and a
handing over. Each is lawful for some persons and some requests only. The desk
checks that before it sends anything, so whatever it is asked to do and
however the server answers, every errand that it sends is lawful, and a task
that is refused sends none.

* `Errand.Lawful` — who may send what for which request.
* `Actor.mayMove_eq_ok_iff`, `Actor.mayClaim_eq_ok_iff`,
  `Actor.mayReassign_eq_ok_iff` — what the checks of the desk let pass.
* `Desk.Task.guarded` — every course of a task is lawful, and a refused one is
  empty.
-/

namespace Docket

/-- The errand changes a request: its status or the lawyer to whom it is
assigned. -/
def Errand.isMutation : Errand → Bool
  | .submit _ _ | .claim _ | .reassign _ _ => true
  | _ => false

/-- A person may send the errand on behalf of a request. A new status is
submitted by an administrator or by the lawyer to whom the request is
assigned, and it is a new one; nobody's request is claimed, and not by a
client; an administrator hands a request to somebody. -/
def Errand.Lawful (actor : Actor) (r : Request) : Errand → Prop
  | .submit request submission =>
      request = r.id ∧
      (actor.role = .admin ∨
        actor.role = .lawyer ∧ r.assignee? = some actor.id ∧ actor.id.isBlank = false) ∧
      submission.status.isBlank = false ∧ submission.status ≠ r.status
  | .claim request =>
      request = r.id ∧ actor.role ≠ .client ∧
      ∀ owner, r.assignee? = some owner → owner.isBlank = true
  | .reassign request lawyer =>
      request = r.id ∧ actor.role = .admin ∧ lawyer.isBlank = false
  | _ => True

theorem Errand.lawful_of_not_mutation {actor : Actor} {r : Request} {e : Errand}
    (h : e.isMutation = false) : e.Lawful actor r := by
  cases e with
  | submit | claim | reassign => cases h
  | _ => trivial

theorem Request.isUnassigned_iff {r : Request} :
    r.isUnassigned = true ↔ ∀ owner, r.assignee? = some owner → owner.isBlank = true := by
  unfold isUnassigned
  cases r.assignee? with
  | none => simp
  | some owner => simp

theorem Request.isAssignedTo_iff {r : Request} {person : ActorId} :
    r.isAssignedTo person = true ↔ r.assignee? = some person ∧ person.isBlank = false := by
  unfold isAssignedTo
  cases r.assignee? with
  | none => simp
  | some owner =>
      simp only [Bool.and_eq_true, Bool.not_eq_true', beq_iff_eq, Option.some.injEq]
      constructor
      · rintro ⟨hfilled, rfl⟩
        exact ⟨rfl, hfilled⟩
      · rintro ⟨rfl, hfilled⟩
        exact ⟨hfilled, rfl⟩

namespace Actor

variable {actor : Actor} {r : Request}

theorem mayMove_eq_ok_iff :
    actor.mayMove r = .ok () ↔
      actor.role = .admin ∨
        actor.role = .lawyer ∧ r.assignee? = some actor.id ∧ actor.id.isBlank = false := by
  rw [← Request.isAssignedTo_iff, mayMove]
  cases actor.role with
  | admin => simp
  | client => simp
  | lawyer =>
      cases hown : r.isAssignedTo actor.id with
      | true => simp
      | false => cases hfree : r.isUnassigned <;> simp

theorem mayClaim_eq_ok_iff :
    actor.mayClaim r = .ok () ↔
      actor.role ≠ .client ∧ ∀ owner, r.assignee? = some owner → owner.isBlank = true := by
  rw [← Request.isUnassigned_iff, mayClaim]
  by_cases hclient : actor.role = .client
  · simp [hclient]
  · cases hfree : r.isUnassigned <;> simp [hclient]

theorem mayReassign_eq_ok_iff {lawyer : ActorId} :
    actor.mayReassign r lawyer = .ok () ↔ actor.role = .admin ∧ lawyer.isBlank = false := by
  unfold mayReassign isAdmin
  by_cases hadmin : actor.role = .admin
  · cases hblank : lawyer.isBlank <;> simp [hadmin]
  · simp [hadmin]

end Actor

/-- What has been sent was on the agenda. -/
theorem Pursued.question_mem {agenda : List Errand} {talk : List Sending} (h : Pursued agenda talk) :
    ∀ x ∈ talk, x.question ∈ agenda := by
  induction h with
  | finished => exact fun x hx => absurd hx List.not_mem_nil
  | failed e failure rest =>
      intro x hx
      cases List.mem_singleton.mp hx
      exact List.mem_cons_self
  | went a more ih =>
      intro x hx
      rcases List.mem_cons.mp hx with rfl | hx
      · exact List.mem_cons_self
      · exact List.mem_cons_of_mem _ (ih x hx)

/-- What follows the commit of a change is no mutation. -/
theorem Change.isMutation_of_mem_tail_agenda {c : Change} {r : Request} {receipt : Receipt}
    {message : MessageId} {e : Errand} (h : e ∈ (c.agenda r receipt message).tail) :
    e.isMutation = false := by
  rcases List.mem_append.mp h with h | h
  · split at h
    · rcases List.mem_cons.mp h with rfl | h
      · rfl
      · obtain ⟨file, -, rfl⟩ := List.mem_map.mp h
        rfl
    · cases h
  · cases List.mem_singleton.mp h
    rfl

/-- The only mutation of a change is its commit. -/
theorem Change.eq_commit_or_of_mem_agenda {c : Change} {r : Request} {receipt : Receipt}
    {message : MessageId} {e : Errand} (h : e ∈ c.agenda r receipt message) :
    e = c.commit r ∨ e.isMutation = false := by
  rcases List.mem_cons.mp h with rfl | h
  · exact Or.inl rfl
  · exact Or.inr (isMutation_of_mem_tail_agenda h)

namespace Desk

/-- One thing that the desk is asked to do with a row. -/
inductive Task where
  | change (r : Request) (c : Change)
  | move (r : Request) (column? : Option Column) (status? : Option StatusCode) (details : Change)
  | claim (r : Request)
  | reassign (r : Request) (lawyer : ActorId)

namespace Task

/-- The row with which it is done. -/
def row : Task → Request
  | .change r _ | .move r _ _ _ | .claim r | .reassign r _ => r

/-- Does it. -/
def perform (actor : Actor) : Task → Desk Unit
  | .change r c => do let _ ← Desk.changeStatus actor r c
  | .move r column? status? details => do let _ ← Desk.move actor r column? status? details
  | .claim r => do let _ ← Desk.claim actor r
  | .reassign r lawyer => do let _ ← Desk.reassign actor r lawyer

/-- What the checks say of a move that comes to this. -/
def placeVerdict (actor : Actor) (r : Request) : Outcome Destination → Outcome Unit
  | .error failure => .error failure
  | .ok (.settled status) => mayChange actor r status
  | .ok _ => .ok ()

/-- What the checks say of it. -/
def verdict (actor : Actor) : Task → Outcome Unit
  | .change r c => mayChange actor r c.status
  | .move r column? status? _ => placeVerdict actor r (r.destination column? status?)
  | .claim r => actor.mayClaim r
  | .reassign r lawyer => actor.mayReassign r lawyer

end Task

/-- What is sent for a row agrees with what the checks say: it is lawful, a
mutation comes first, and after a refusal nothing is sent. -/
structure Guarded {α : Type} (actor : Actor) (r : Request) (verdict : Outcome Unit)
    (talk : List Sending) (outcome : Outcome α) : Prop where
  lawful : ∀ x ∈ talk, x.question.Lawful actor r
  first : talk = [] ∨ ∃ x rest, talk = x :: rest ∧ x.question.isMutation = true
  refused : ∀ failure, verdict = .error failure → talk = [] ∧ outcome = .error failure

variable {actor : Actor} {r : Request} {talk : List Sending}

/-- A task that sends nothing breaks no law. -/
theorem Guarded.of_nil {α : Type} {verdict : Outcome Unit} {outcome : Outcome α}
    (h : ∀ failure, verdict = .error failure → outcome = .error failure) :
    Guarded actor r verdict [] outcome where
  lawful := fun _ hx => absurd hx List.not_mem_nil
  first := Or.inl rfl
  refused := fun failure hfailure => ⟨rfl, h failure hfailure⟩

/-- A change is submitted by those who may make it. -/
theorem guarded_changeStatus {c : Change} {outcome : Outcome Changed}
    (h : Course (changeStatus actor r c) talk outcome) :
    Guarded actor r (mayChange actor r c.status) talk outcome := by
  cases hmay : mayChange actor r c.status with
  | error failure =>
      obtain ⟨rfl, rfl⟩ := course_changeStatus_refused hmay h
      exact .of_nil fun failure' hfailure => by cases hfailure; rfl
  | ok u =>
      obtain ⟨hfilled, hother, hmove⟩ := mayChange_eq_ok_iff.mp hmay
      obtain ⟨receipt, message, hpursued, -⟩ := (course_changeStatus hmay h).pursued
      refine ⟨?_, ?_, fun failure hfailure => by cases hfailure⟩
      · intro x hx
        rcases Change.eq_commit_or_of_mem_agenda (hpursued.question_mem x hx) with hcommit | hquiet
        · rw [hcommit]
          exact ⟨rfl, Actor.mayMove_eq_ok_iff.mp hmove, hfilled, hother⟩
        · exact Errand.lawful_of_not_mutation hquiet
      · cases hpursued with
        | failed => exact Or.inr ⟨_, _, rfl, rfl⟩
        | went => exact Or.inr ⟨_, _, rfl, rfl⟩

/-- A mutation that is checked, sent and followed by a reload. -/
theorem guarded_mutation {verdict : Outcome Unit} {e : Errand} {outcome : Outcome Workspace}
    (hmutation : e.isMutation = true) (hlawful : verdict = .ok () → e.Lawful actor r)
    (h : Course (do check verdict; let _ ← send e; send (.loadWorkspace r.id)) talk outcome) :
    Guarded actor r verdict talk outcome := by
  cases verdict with
  | error failure =>
      obtain ⟨rfl, rfl⟩ := course_check_error_bind_iff.mp h
      exact .of_nil fun failure' hfailure => by cases hfailure; rfl
  | ok u =>
      rw [course_check_ok_bind_iff] at h
      have hsent : ∃ answer rest, talk = ⟨e, answer⟩ :: rest ∧
          ∀ x ∈ rest, x.question = .loadWorkspace r.id := by
        rcases course_send_bind_iff.mp h with ⟨failure, rfl, -⟩ | ⟨a, rest, rfl, hrest⟩
        · exact ⟨.error failure, [], rfl, fun x hx => absurd hx List.not_mem_nil⟩
        · refine ⟨.ok a, rest, rfl, ?_⟩
          rw [course_send_iff.mp hrest]
          intro x hx
          cases List.mem_singleton.mp hx
          rfl
      obtain ⟨answer, rest, rfl, hrest⟩ := hsent
      refine ⟨?_, Or.inr ⟨_, _, rfl, hmutation⟩, fun failure hfailure => by cases hfailure⟩
      intro x hx
      rcases List.mem_cons.mp hx with rfl | hx
      · exact hlawful rfl
      · rw [hrest x hx]
        trivial

/-- A request is claimed by those who may claim it. -/
theorem guarded_claim {outcome : Outcome Workspace} (h : Course (claim actor r) talk outcome) :
    Guarded actor r (actor.mayClaim r) talk outcome := by
  have hlawful : actor.mayClaim r = .ok () → (Errand.claim r.id).Lawful actor r :=
    fun hok => ⟨rfl, Actor.mayClaim_eq_ok_iff.mp hok⟩
  exact guarded_mutation rfl hlawful h

/-- A request is handed over by those who may do that. -/
theorem guarded_reassign {lawyer : ActorId} {outcome : Outcome Workspace}
    (h : Course (reassign actor r lawyer) talk outcome) :
    Guarded actor r (actor.mayReassign r lawyer) talk outcome := by
  have hlawful : actor.mayReassign r lawyer = .ok () →
      (Errand.reassign r.id lawyer).Lawful actor r :=
    fun hok => ⟨rfl, Actor.mayReassign_eq_ok_iff.mp hok⟩
  exact guarded_mutation rfl hlawful h

/-- What came of something does not matter to the law. -/
theorem Guarded.map {α β : Type} {verdict : Outcome Unit} {outcome : Outcome α}
    (h : Guarded actor r verdict talk outcome) (f : α → β) :
    Guarded actor r verdict talk (outcome.map f) where
  lawful := h.lawful
  first := h.first
  refused failure hfailure := by
    obtain ⟨htalk, rfl⟩ := h.refused failure hfailure
    exact ⟨htalk, rfl⟩

/-- A card is moved by those who may make the change that it comes to. -/
theorem guarded_move {column? : Option Column} {status? : Option StatusCode} {details : Change}
    {outcome : Outcome Moved} (h : Course (move actor r column? status? details) talk outcome) :
    Guarded actor r (Task.placeVerdict actor r (r.destination column? status?)) talk outcome := by
  unfold move at h
  cases hplace : r.destination column? status? with
  | error failure =>
      rw [hplace] at h
      obtain ⟨rfl, rfl⟩ := course_check_error_bind_iff.mp h
      exact .of_nil fun failure' hfailure => by cases hfailure; rfl
  | ok place =>
      rw [hplace, course_check_ok_bind_iff] at h
      cases place with
      | stay =>
          obtain ⟨rfl, rfl⟩ := course_pure_iff.mp h
          exact .of_nil fun failure hfailure => by cases hfailure
      | choice offers =>
          obtain ⟨rfl, rfl⟩ := course_pure_iff.mp h
          exact .of_nil fun failure hfailure => by cases hfailure
      | settled status =>
          obtain ⟨inner, hchange, rfl⟩ := Dialogue.Course.except_bind_pure h
          exact (guarded_changeStatus hchange).map _

/-- **Whatever the desk does is lawful.** -/
theorem Task.guarded (task : Task) {outcome : Outcome Unit}
    (h : Course (task.perform actor) talk outcome) :
    Guarded actor task.row (task.verdict actor) talk outcome := by
  cases task with
  | change r c =>
      obtain ⟨inner, hinner, rfl⟩ := Dialogue.Course.except_bind_pure h
      exact (guarded_changeStatus hinner).map _
  | move r column? status? details =>
      obtain ⟨inner, hinner, rfl⟩ := Dialogue.Course.except_bind_pure h
      exact (guarded_move hinner).map _
  | claim r =>
      obtain ⟨inner, hinner, rfl⟩ := Dialogue.Course.except_bind_pure h
      exact (guarded_claim hinner).map _
  | reassign r lawyer =>
      obtain ⟨inner, hinner, rfl⟩ := Dialogue.Course.except_bind_pure h
      exact (guarded_reassign hinner).map _

end Desk

end Docket
