import Docket.Desk
import Docket.Proofs.Dialogue.Course

/-!
# How far a change of status gets

A change that the actor may make is an agenda: the commit, then the note and
its files if there is anything to tell, then the reload. The desk works
through it and stops behind the first errand that fails. What fails before the
commit is told as it is, and what fails behind it as a change that was made in
part, with the receipt of the commit and the stage that was reached.

* `Change.Course` — the five ways in which a change can go.
* `course_changeStatus` — an allowed change goes one of them.
* `changeStatus_stops_at_first_failure` — what is sent, what comes back, and
  when a status is known to be committed.
-/

namespace Docket

/-- The errands of a list were sent in order, up to and including the first
that failed. -/
inductive Pursued : List Errand → List Sending → Prop
  | finished : Pursued [] []
  | failed (e : Errand) (failure : Failure) (rest : List Errand) :
      Pursued (e :: rest) [⟨e, .error failure⟩]
  | went {e : Errand} (a : e.Answer) {rest : List Errand} {talk : List Sending}
      (more : Pursued rest talk) : Pursued (e :: rest) (⟨e, .ok a⟩ :: talk)

namespace Change

/-- Something is to be told with the change: the comment is not blank, or
there are files. -/
def Tells (c : Change) : Prop :=
  (∃ comment, c.comment? = some comment ∧ Text.trim comment ≠ "") ∨ c.files ≠ []

theorem hasNote_iff_tells (c : Change) : c.hasNote = true ↔ c.Tells := by
  have hremark : c.remark?.isSome = true ↔
      ∃ comment, c.comment? = some comment ∧ Text.trim comment ≠ "" := by
    unfold remark? Text.filled?
    cases c.comment? with
    | none => simp
    | some comment =>
        have hblank := Text.isBlank_iff_trim comment
        by_cases h : Text.isBlank comment = true <;> simp_all
  simp [hasNote, Tells, hremark]

instance (c : Change) : Decidable c.Tells :=
  decidable_of_iff _ c.hasNote_iff_tells

/-- The commit of a change. -/
abbrev commit (c : Change) (r : Request) : Errand :=
  .submit r.id ⟨c.status, c.importantDate?, c.remark?⟩

/-- The note that tells of a committed change. -/
abbrev note (c : Change) (r : Request) (receipt : Receipt) : Errand :=
  .post r.id ⟨noteBody receipt c.remark?⟩

/-- All that belongs to a change with this receipt and a note with this id. -/
def agenda (c : Change) (r : Request) (receipt : Receipt) (message : MessageId) : List Errand :=
  c.commit r ::
    ((if c.Tells then c.note r receipt :: c.files.map (.upload r.id message) else [])
      ++ [.loadWorkspace r.id])

/-- Files that were uploaded, and as what they were attached. -/
def uploads (r : Request) (message : MessageId) (files : List Upload)
    (attachments : List Attachment) : List Sending :=
  List.zipWith (fun file attachment => ⟨.upload r.id message file, .ok attachment⟩)
    files attachments

/-- A note that was posted with all its files, if it was. -/
def noteTalk (c : Change) (r : Request) (receipt : Receipt) (message? : Option Message)
    (attachments : List Attachment) : List Sending :=
  match message? with
  | none => []
  | some message => ⟨c.note r receipt, .ok message⟩ :: uploads r message.id c.files attachments

/-- A note was posted if there was anything to tell, and every file is
attached. -/
structure Noted (c : Change) (message? : Option Message) (attachments : List Attachment) :
    Prop where
  isSome_iff : message?.isSome = true ↔ c.Tells
  length_eq : attachments.length = c.files.length

/-- The ways in which an allowed change can go. -/
inductive Course (c : Change) (r : Request) : List Sending → Outcome Changed → Prop
  | commitFails (failure : Failure) :
      Course c r [⟨c.commit r, .error failure⟩] (.error failure)
  | noteFails (receipt : Receipt) (failure : Failure) (tells : c.Tells) :
      Course c r [⟨c.commit r, .ok receipt⟩, ⟨c.note r receipt, .error failure⟩]
        (.error (.partly receipt .note failure.message))
  | uploadFails (receipt : Receipt) (message : Message) (sent : List Upload) (file : Upload)
      (rest : List Upload) (attachments : List Attachment) (failure : Failure)
      (files : c.files = sent ++ file :: rest) (length : attachments.length = sent.length) :
      Course c r
        (⟨c.commit r, .ok receipt⟩ :: ⟨c.note r receipt, .ok message⟩ ::
          (uploads r message.id sent attachments
            ++ [⟨.upload r.id message.id file, .error failure⟩]))
        (.error (.partly receipt .upload failure.message))
  | reloadFails (receipt : Receipt) (message? : Option Message) (attachments : List Attachment)
      (failure : Failure) (noted : c.Noted message? attachments) :
      Course c r
        (⟨c.commit r, .ok receipt⟩ ::
          (c.noteTalk r receipt message? attachments
            ++ [⟨.loadWorkspace r.id, .error failure⟩]))
        (.error (.partly receipt .reload failure.message))
  | done (receipt : Receipt) (message? : Option Message) (attachments : List Attachment)
      (workspace : Workspace) (noted : c.Noted message? attachments) :
      Course c r
        (⟨c.commit r, .ok receipt⟩ ::
          (c.noteTalk r receipt message? attachments
            ++ [⟨.loadWorkspace r.id, .ok workspace⟩]))
        (.ok ⟨receipt, message?, attachments, workspace⟩)

end Change

namespace Desk

/-- An errand that follows a commit ends the change in part if it fails. -/
theorem course_follow_bind {β : Type} {receipt : Receipt} {stage : FollowUp} {e : Errand}
    {f : e.Answer → Desk β} {talk : List Sending} {outcome : Outcome β}
    (h : Course (follow receipt stage e >>= f) talk outcome) :
    (∃ failure, talk = [⟨e, .error failure⟩] ∧
        outcome = .error (.partly receipt stage failure.message)) ∨
      ∃ a rest, talk = ⟨e, .ok a⟩ :: rest ∧ Course (f a) rest outcome := by
  rcases course_bind_iff.mp h with ⟨told, hfollow, rfl⟩ | ⟨first, a, rest, rfl, hfollow, hrest⟩
  · obtain ⟨inner, hsend, htold⟩ := course_adapt_iff.mp hfollow
    cases inner with
    | ok a => cases htold
    | error failure =>
        cases htold
        exact Or.inl ⟨failure, course_send_iff.mp hsend, rfl⟩
  · obtain ⟨inner, hsend, htold⟩ := course_adapt_iff.mp hfollow
    cases inner with
    | ok a =>
        cases htold
        cases course_send_iff.mp hsend
        exact Or.inr ⟨a, rest, rfl, hrest⟩
    | error failure => cases htold

/-- The files of a note are uploaded in order, up to the first that fails. -/
theorem course_uploadAll {receipt : Receipt} {r : Request} {message : MessageId}
    {files : List Upload} {talk : List Sending} {outcome : Outcome (List Attachment)}
    (h : Course (uploadAll receipt r.id message files) talk outcome) :
    (∃ attachments, attachments.length = files.length ∧
        talk = Change.uploads r message files attachments ∧ outcome = .ok attachments) ∨
      ∃ sent file rest attachments failure, files = sent ++ file :: rest ∧
        attachments.length = sent.length ∧
        talk = Change.uploads r message sent attachments
          ++ [⟨.upload r.id message file, .error failure⟩] ∧
        outcome = .error (.partly receipt .upload failure.message) := by
  induction files generalizing talk outcome with
  | nil =>
      obtain ⟨rfl, rfl⟩ := course_pure_iff.mp h
      exact Or.inl ⟨[], rfl, rfl, rfl⟩
  | cons file rest ih =>
      rcases course_follow_bind h with ⟨failure, rfl, rfl⟩ | ⟨a, later, rfl, hlater⟩
      · exact Or.inr ⟨[], file, rest, [], failure, rfl, rfl, rfl, rfl⟩
      · rcases course_bind_iff.mp hlater with ⟨told, hrest, rfl⟩ | ⟨t₁, as, t₂, rfl, hrest, hend⟩
        · rcases ih hrest with ⟨_, _, _, hok⟩ |
            ⟨sent, next, rest', as, failure, rfl, hlength, rfl, htold⟩
          · cases hok
          · cases htold
            exact Or.inr ⟨file :: sent, next, rest', a :: as, failure, rfl,
              by simp [hlength], rfl, rfl⟩
        · obtain ⟨rfl, rfl⟩ := course_pure_iff.mp hend
          rcases ih hrest with ⟨as', hlength, rfl, hok⟩ | ⟨_, _, _, _, _, _, _, _, herror⟩
          · cases hok
            exact Or.inl ⟨a :: as, by simp [hlength], by simp [Change.uploads], rfl⟩
          · cases herror

/-- The note of a change is posted if there is anything to tell, and the files
follow it. -/
theorem course_annotate {receipt : Receipt} {r : Request} {c : Change} {talk : List Sending}
    {outcome : Outcome (Option Message × List Attachment)}
    (h : Course (annotate receipt r c) talk outcome) :
    (∃ message? attachments, c.Noted message? attachments ∧
        talk = c.noteTalk r receipt message? attachments ∧
        outcome = .ok (message?, attachments)) ∨
      (∃ failure, c.Tells ∧ talk = [⟨c.note r receipt, .error failure⟩] ∧
        outcome = .error (.partly receipt .note failure.message)) ∨
      ∃ message sent file rest attachments failure, c.files = sent ++ file :: rest ∧
        attachments.length = sent.length ∧
        talk = ⟨c.note r receipt, .ok message⟩ ::
          (Change.uploads r message.id sent attachments
            ++ [⟨.upload r.id message.id file, .error failure⟩]) ∧
        outcome = .error (.partly receipt .upload failure.message) := by
  unfold annotate at h
  by_cases hnote : c.hasNote = true
  · have htells : c.Tells := c.hasNote_iff_tells.mp hnote
    rw [if_pos hnote] at h
    rcases course_follow_bind h with ⟨failure, rfl, rfl⟩ | ⟨message, later, rfl, hlater⟩
    · exact Or.inr (Or.inl ⟨failure, htells, rfl, rfl⟩)
    · rcases course_bind_iff.mp hlater with ⟨told, hfiles, rfl⟩ | ⟨t₁, as, t₂, rfl, hfiles, hend⟩
      · rcases course_uploadAll hfiles with ⟨_, _, _, hok⟩ |
          ⟨sent, file, rest, as, failure, hsplit, hlength, rfl, htold⟩
        · cases hok
        · cases htold
          exact Or.inr (Or.inr
            ⟨message, sent, file, rest, as, failure, hsplit, hlength, rfl, rfl⟩)
      · obtain ⟨rfl, rfl⟩ := course_pure_iff.mp hend
        rcases course_uploadAll hfiles with ⟨_, hlength, rfl, hok⟩ |
          ⟨_, _, _, _, _, _, _, _, herror⟩
        · cases hok
          exact Or.inl ⟨some message, as, ⟨by simp [htells], hlength⟩,
            by simp [Change.noteTalk], rfl⟩
        · cases herror
  · have hquiet : ¬ c.Tells := fun htells => hnote (c.hasNote_iff_tells.mpr htells)
    have hfiles : c.files = [] := Classical.byContradiction fun hne => hquiet (Or.inr hne)
    rw [if_neg hnote] at h
    obtain ⟨rfl, rfl⟩ := course_pure_iff.mp h
    exact Or.inl ⟨none, [], ⟨by simp [hquiet], by simp [hfiles]⟩, rfl, rfl⟩

/-- An allowed change goes one of its ways. -/
theorem course_changeStatus {actor : Actor} {r : Request} {c : Change} {talk : List Sending}
    {outcome : Outcome Changed} (allowed : mayChange actor r c.status = .ok ())
    (h : Course (changeStatus actor r c) talk outcome) : c.Course r talk outcome := by
  unfold changeStatus at h
  rw [allowed, course_check_ok_bind_iff] at h
  rcases course_send_bind_iff.mp h with ⟨failure, rfl, rfl⟩ | ⟨receipt, t₁, rfl, h₁⟩
  · exact .commitFails failure
  rcases course_bind_iff.mp h₁ with ⟨told, hnote, rfl⟩ | ⟨t₂, ⟨message?, as⟩, t₃, rfl, hnote, h₃⟩
  · rcases course_annotate hnote with ⟨_, _, _, _, hok⟩ | ⟨failure, htells, rfl, htold⟩ |
      ⟨message, sent, file, rest, as, failure, hsplit, hlength, rfl, htold⟩
    · cases hok
    · cases htold
      exact .noteFails receipt failure htells
    · cases htold
      exact .uploadFails receipt message sent file rest as failure hsplit hlength
  · rcases course_annotate hnote with ⟨_, _, hnoted, rfl, hok⟩ | ⟨_, _, _, herror⟩ |
      ⟨_, _, _, _, _, _, _, _, _, herror⟩
    · cases hok
      rcases course_follow_bind h₃ with ⟨failure, rfl, rfl⟩ | ⟨workspace, t₄, rfl, h₄⟩
      · exact .reloadFails receipt message? as failure hnoted
      · obtain ⟨rfl, rfl⟩ := course_pure_iff.mp h₄
        exact .done receipt message? as workspace hnoted
    · cases herror
    · cases herror

end Desk

/-- The stage of an errand that follows a commit. -/
def Errand.stage? : Errand → Option FollowUp
  | .post _ _ => some .note
  | .upload _ _ _ => some .upload
  | .loadWorkspace _ => some .reload
  | _ => none

namespace Change

variable {c : Change} {r : Request} {talk : List Sending} {outcome : Outcome Changed}

/-- The first thing sent was the commit, and it brought back this receipt. -/
def CommittedWith (c : Change) (r : Request) (talk : List Sending) (receipt : Receipt) : Prop :=
  talk.head? = some ⟨c.commit r, .ok receipt⟩

/-- What came of an allowed change agrees with what was sent and answered. -/
structure Reports (c : Change) (r : Request) (talk : List Sending) (outcome : Outcome Changed) :
    Prop where
  /-- The change is done exactly when nothing has failed. -/
  done_iff : (∃ changed, outcome = .ok changed) ↔ ∀ x ∈ talk, x.failure? = none
  /-- A change that is done holds what the server answered. -/
  answers : ∀ changed, outcome = .ok changed →
    c.Noted changed.note? changed.attachments ∧
      talk = ⟨c.commit r, .ok changed.receipt⟩ ::
        (c.noteTalk r changed.receipt changed.note? changed.attachments
          ++ [⟨.loadWorkspace r.id, .ok changed.workspace⟩])
  /-- A commit that fails is told as it is. -/
  commit_failure : ∀ failure, talk.head? = some ⟨c.commit r, .error failure⟩ →
    outcome = .error failure
  /-- What fails behind the commit is told with its stage and the receipt. -/
  later_failure : ∀ x ∈ talk, ∀ failure stage, x.failure? = some failure →
    x.question.stage? = some stage →
      ∃ receipt, c.CommittedWith r talk receipt ∧
        outcome = .error (.partly receipt stage failure.message)

theorem failure?_of_mem_uploads {message : MessageId} {files : List Upload}
    {attachments : List Attachment} {x : Sending} (hx : x ∈ uploads r message files attachments) :
    x.failure? = none := by
  induction files generalizing attachments with
  | nil => cases hx
  | cons file files ih =>
      cases attachments with
      | nil => cases hx
      | cons attachment attachments =>
          rcases List.mem_cons.mp hx with rfl | hx
          · rfl
          · exact ih hx

theorem failure?_of_mem_noteTalk {receipt : Receipt} {message? : Option Message}
    {attachments : List Attachment} {x : Sending}
    (hx : x ∈ c.noteTalk r receipt message? attachments) : x.failure? = none := by
  cases message? with
  | none => cases hx
  | some message =>
      rcases List.mem_cons.mp hx with rfl | hx
      · rfl
      · exact failure?_of_mem_uploads hx

theorem committedWith_append {receipt : Receipt} {first second : List Sending}
    (h : c.CommittedWith r first receipt) : c.CommittedWith r (first ++ second) receipt := by
  unfold CommittedWith at h ⊢
  rw [List.head?_append, h]
  rfl

/-- A change that ends with a failure behind its commit is told in part. -/
theorem Reports.of_partly (good : List Sending) {bad : Sending} {receipt : Receipt}
    {failure : Failure} {stage : FollowUp} (hgood : ∀ x ∈ good, x.failure? = none)
    (hcommit : c.CommittedWith r good receipt) (hbad : bad.failure? = some failure)
    (hstage : bad.question.stage? = some stage) :
    c.Reports r (good ++ [bad]) (.error (.partly receipt stage failure.message)) where
  done_iff := by
    constructor
    · rintro ⟨changed, hchanged⟩
      cases hchanged
    · intro hall
      have hnone := hall bad (by simp)
      rw [hbad] at hnone
      cases hnone
  answers := by
    intro changed hchanged
    cases hchanged
  commit_failure := by
    intro failure' hfirst
    cases (committedWith_append hcommit).symm.trans hfirst
  later_failure := by
    intro x hx failure' stage' hfailure hstage'
    rcases List.mem_append.mp hx with hx | hx
    · rw [hgood x hx] at hfailure
      cases hfailure
    · cases List.mem_singleton.mp hx
      cases hbad.symm.trans hfailure
      cases hstage.symm.trans hstage'
      exact ⟨receipt, committedWith_append hcommit, rfl⟩

/-- What came of an allowed change agrees with its course. -/
theorem Course.reports (h : c.Course r talk outcome) : c.Reports r talk outcome := by
  cases h with
  | commitFails failure =>
      refine ⟨?_, ?_, ?_, ?_⟩
      · constructor
        · rintro ⟨changed, hchanged⟩
          cases hchanged
        · intro hall
          cases hall _ List.mem_cons_self
      · intro changed hchanged
        cases hchanged
      · intro failure' hfirst
        cases hfirst
        rfl
      · intro x hx failure' stage hfailure hstage
        cases List.mem_singleton.mp hx
        cases hstage
  | noteFails receipt failure tells =>
      refine Reports.of_partly [⟨c.commit r, .ok receipt⟩] ?_ rfl rfl rfl
      intro x hx
      cases List.mem_singleton.mp hx
      rfl
  | uploadFails receipt message sent file rest attachments failure files length =>
      refine Reports.of_partly (⟨c.commit r, .ok receipt⟩ ::
        ⟨c.note r receipt, .ok message⟩ :: uploads r message.id sent attachments)
        ?_ rfl rfl rfl
      intro x hx
      rcases List.mem_cons.mp hx with rfl | hx
      · rfl
      rcases List.mem_cons.mp hx with rfl | hx
      · rfl
      · exact failure?_of_mem_uploads hx
  | reloadFails receipt message? attachments failure noted =>
      refine Reports.of_partly (⟨c.commit r, .ok receipt⟩ ::
        c.noteTalk r receipt message? attachments) ?_ rfl rfl rfl
      intro x hx
      rcases List.mem_cons.mp hx with rfl | hx
      · rfl
      · exact failure?_of_mem_noteTalk hx
  | done receipt message? attachments workspace noted =>
      have hgood : ∀ x : Sending, x ∈ ⟨c.commit r, .ok receipt⟩ ::
          (c.noteTalk r receipt message? attachments
            ++ [⟨.loadWorkspace r.id, .ok workspace⟩]) → x.failure? = none := by
        intro x hx
        rcases List.mem_cons.mp hx with rfl | hx
        · rfl
        rcases List.mem_append.mp hx with hx | hx
        · exact failure?_of_mem_noteTalk hx
        · cases List.mem_singleton.mp hx
          rfl
      refine ⟨⟨fun _ => hgood, fun _ => ⟨_, rfl⟩⟩, ?_, ?_, ?_⟩
      · intro changed hchanged
        cases hchanged
        exact ⟨noted, rfl⟩
      · intro failure' hfirst
        cases hfirst
      · intro x hx failure' stage hfailure hstage
        rw [hgood x hx] at hfailure
        cases hfailure

theorem pursued_uploads_append {message : MessageId} {sent : List Upload} (rest : List Upload)
    {attachments : List Attachment} {after : List Errand} {talk : List Sending}
    (hlength : attachments.length = sent.length)
    (h : Pursued (rest.map (.upload r.id message) ++ after) talk) :
    Pursued ((sent ++ rest).map (.upload r.id message) ++ after)
      (uploads r message sent attachments ++ talk) := by
  induction sent generalizing attachments with
  | nil => simpa [uploads] using h
  | cons file sent ih =>
      cases attachments with
      | nil => cases hlength
      | cons attachment attachments =>
          exact Pursued.went (e := .upload r.id message file) attachment
            (ih (by simpa using hlength))

theorem pursued_noteTalk_append {receipt : Receipt} {message? : Option Message}
    {attachments : List Attachment} {after : List Errand} {talk : List Sending}
    (noted : c.Noted message? attachments) (message : MessageId)
    (hmessage : ∀ m, message? = some m → m.id = message) (h : Pursued after talk) :
    Pursued ((if c.Tells then c.note r receipt :: c.files.map (.upload r.id message) else [])
        ++ after) (c.noteTalk r receipt message? attachments ++ talk) := by
  cases message? with
  | none =>
      have hquiet : ¬ c.Tells := fun tells => by simpa using noted.isSome_iff.mpr tells
      simpa [hquiet, noteTalk] using h
  | some m =>
      have htells : c.Tells := noted.isSome_iff.mp rfl
      rw [if_pos htells, ← hmessage m rfl]
      refine Pursued.went (e := c.note r receipt) m ?_
      simpa using pursued_uploads_append [] noted.length_eq h

/-- What is sent for an allowed change is its agenda up to the first failure.
The receipt in it is the one that the commit brought back, and the files hang
on the note that was posted. -/
theorem Course.pursued (h : c.Course r talk outcome) :
    ∃ receipt message, Pursued (c.agenda r receipt message) talk ∧
      (∀ answer, c.CommittedWith r talk answer → answer = receipt) ∧
      ∀ answer, talk[1]? = some ⟨c.note r receipt, .ok answer⟩ → answer.id = message := by
  cases h with
  | commitFails failure =>
      refine ⟨⟨r.status, c.status⟩, ⟨""⟩, .failed _ failure _, ?_, ?_⟩
      · intro answer hcommit
        cases hcommit
      · intro answer hnote
        cases hnote
  | noteFails receipt failure tells =>
      refine ⟨receipt, ⟨""⟩, ?_, ?_, ?_⟩
      · unfold agenda
        rw [if_pos tells]
        exact Pursued.went (e := c.commit r) receipt (.failed _ failure _)
      · intro answer hcommit
        cases hcommit
        rfl
      · intro answer hnote
        cases hnote
  | uploadFails receipt message sent file rest attachments failure files length =>
      have tells : c.Tells := Or.inr (by simp [files])
      refine ⟨receipt, message.id, ?_, ?_, ?_⟩
      · unfold agenda
        rw [if_pos tells, files]
        exact Pursued.went (e := c.commit r) receipt
          (Pursued.went (e := c.note r receipt) message
            (pursued_uploads_append _ length (.failed _ failure _)))
      · intro answer hcommit
        cases hcommit
        rfl
      · intro answer hnote
        cases hnote
        rfl
  | reloadFails receipt message? attachments failure noted =>
      refine ⟨receipt, (message?.map Message.id).getD ⟨""⟩, ?_, ?_, ?_⟩
      · exact Pursued.went (e := c.commit r) receipt (pursued_noteTalk_append noted _
          (by rintro m rfl; rfl) (.failed _ failure _))
      · intro answer hcommit
        cases hcommit
        rfl
      · intro answer hnote
        cases message? with
        | none => cases hnote
        | some message =>
            cases hnote
            rfl
  | done receipt message? attachments workspace noted =>
      refine ⟨receipt, (message?.map Message.id).getD ⟨""⟩, ?_, ?_, ?_⟩
      · exact Pursued.went (e := c.commit r) receipt (pursued_noteTalk_append noted _
          (by rintro m rfl; rfl) (Pursued.went (e := .loadWorkspace r.id) workspace .finished))
      · intro answer hcommit
        cases hcommit
        rfl
      · intro answer hnote
        cases message? with
        | none => cases hnote
        | some message =>
            cases hnote
            rfl

theorem committed?_partly_iff {receipt : Receipt} {stage : FollowUp} {reason : String}
    (hcommit : c.CommittedWith r talk receipt) (status : StatusCode) :
    (Failure.partly receipt stage reason).committed? = some status ↔
      ∃ receipt, c.CommittedWith r talk receipt ∧ receipt.target = status := by
  constructor
  · intro hstatus
    exact ⟨receipt, hcommit, Option.some.inj hstatus⟩
  · rintro ⟨receipt', hcommit', rfl⟩
    cases hcommit.symm.trans hcommit'
    rfl

/-- A status is known to be committed exactly when the commit brought back a
receipt, provided that the server tells of no change made in part. -/
theorem Course.committed?_iff (h : c.Course r talk outcome)
    (own : ∀ x ∈ talk, ∀ failure, x.failure? = some failure → failure.committed? = none)
    {failure : Failure} (hfailure : outcome = .error failure) (status : StatusCode) :
    failure.committed? = some status ↔
      ∃ receipt, c.CommittedWith r talk receipt ∧ receipt.target = status := by
  cases h with
  | commitFails failure' =>
      cases hfailure
      rw [own _ List.mem_cons_self failure rfl]
      constructor
      · intro hnone
        cases hnone
      · rintro ⟨receipt, hcommit, -⟩
        cases hcommit
  | noteFails receipt failure' tells =>
      cases hfailure
      refine committed?_partly_iff ?_ status
      rfl
  | uploadFails receipt message sent file rest attachments failure' files length =>
      cases hfailure
      refine committed?_partly_iff ?_ status
      rfl
  | reloadFails receipt message? attachments failure' noted =>
      cases hfailure
      refine committed?_partly_iff ?_ status
      rfl
  | done receipt message? attachments workspace noted => cases hfailure

end Change

namespace Desk

/-- A change is refused before anything is sent when it has no destination,
when the request is there already, or when the actor may not make it. -/
theorem mayChange_eq_ok_iff {actor : Actor} {r : Request} {status : StatusCode} :
    mayChange actor r status = .ok () ↔
      status.isBlank = false ∧ status ≠ r.status ∧ actor.mayMove r = .ok () := by
  unfold mayChange
  by_cases hblank : status.isBlank = true
  · simp [hblank]
  · by_cases hsame : status = r.status
    · subst hsame
      simp [hblank]
    · simp [hblank, hsame]

/-- A change is refused for one of three reasons. -/
theorem mayChange_eq_error {actor : Actor} {r : Request} {status : StatusCode}
    {failure : Failure} (h : mayChange actor r status = .error failure) :
    failure = .invalid .noDestination ∨ failure = .noChange status ∨
      ∃ why, failure = .denied why := by
  unfold mayChange Actor.mayMove at h
  split at h
  · cases h
    exact Or.inl rfl
  split at h
  · cases h
    exact Or.inr (Or.inl rfl)
  refine Or.inr (Or.inr ?_)
  split at h
  · cases h
  · cases h
    exact ⟨_, rfl⟩
  · split at h
    · cases h
    · split at h <;> cases h <;> exact ⟨_, rfl⟩

/-- What refuses a change does not claim that one was made. -/
theorem committed?_of_mayChange {actor : Actor} {r : Request} {status : StatusCode}
    {failure : Failure} (h : mayChange actor r status = .error failure) :
    failure.committed? = none := by
  obtain rfl | rfl | ⟨why, rfl⟩ := mayChange_eq_error h <;> rfl

/-- A refused change sends nothing. -/
theorem course_changeStatus_refused {actor : Actor} {r : Request} {c : Change}
    {talk : List Sending} {outcome : Outcome Changed} {failure : Failure}
    (refused : mayChange actor r c.status = .error failure)
    (h : Course (changeStatus actor r c) talk outcome) :
    talk = [] ∧ outcome = .error failure := by
  unfold changeStatus at h
  rw [refused] at h
  exact course_check_error_bind_iff.mp h

/-- An allowed change begins with its commit. -/
theorem exists_run_changeStatus {actor : Actor} {r : Request} {c : Change}
    (allowed : mayChange actor r c.status = .ok ()) :
    ∃ next, (changeStatus actor r c).run = .ask (c.commit r) next := by
  unfold changeStatus
  rw [allowed]
  exact ⟨_, rfl⟩

/-- **A change stops at its first failure.** For everybody who may answer: a
refused change sends nothing. Of an allowed one, the agenda is sent up to and
including the first errand that fails, and what comes back reports exactly
what was answered. When the server itself never tells of a change made in
part, a failure names a committed status exactly when the commit succeeded. -/
theorem changeStatus_stops_at_first_failure {σ : Type}
    (respond : σ → (e : Errand) → e.Reply × σ) (s : σ) (actor : Actor) (r : Request) (c : Change)
    (own : ∀ s e failure, (respond s e).1 = .error failure → failure.committed? = none) :
    let talk : List Sending := Dialogue.exchanges respond s (changeStatus actor r c).run
    let ran := Dialogue.run respond s (changeStatus actor r c).run
    ran.asked = talk.map Exchange.question ∧
      ((c.status.isBlank = true ∨ c.status = r.status ∨
          ∃ failure, actor.mayMove r = .error failure) →
        talk = [] ∧ ∃ failure, ran.result = .error failure) ∧
      (c.status.isBlank = false → c.status ≠ r.status → actor.mayMove r = .ok () →
        (∃ receipt message, Pursued (c.agenda r receipt message) talk ∧
          (∀ answer, c.CommittedWith r talk answer → answer = receipt) ∧
          ∀ answer, talk[1]? = some ⟨c.note r receipt, .ok answer⟩ → answer.id = message) ∧
        c.Reports r talk ran.result) ∧
      ∀ failure, ran.result = .error failure → ∀ status,
        (failure.committed? = some status ↔
          ∃ receipt, c.CommittedWith r talk receipt ∧ receipt.target = status) := by
  intro talk ran
  have hcourse : Course (changeStatus actor r c) talk ran.result :=
    Dialogue.course_exchanges respond s _
  have hown : ∀ x ∈ talk, ∀ failure, x.failure? = some failure → failure.committed? = none := by
    intro x hx failure hfailure
    obtain ⟨s', hs'⟩ := Dialogue.exists_respond_of_mem_exchanges hx
    exact own s' x.question failure (hs'.trans (Sending.answer_eq_error hfailure))
  refine ⟨Dialogue.asked_eq_exchanges respond s _, ?_, ?_, ?_⟩
  · intro hrefused
    cases hmay : mayChange actor r c.status with
    | error failure =>
        obtain ⟨htalk, hresult⟩ := course_changeStatus_refused hmay hcourse
        exact ⟨htalk, failure, hresult⟩
    | ok u =>
        obtain ⟨hfilled, hother, hmove⟩ := mayChange_eq_ok_iff.mp hmay
        rcases hrefused with hblank | hsame | ⟨failure, herror⟩
        · cases hfilled.symm.trans hblank
        · exact absurd hsame hother
        · cases hmove.symm.trans herror
  · intro hfilled hother hmove
    have hway := course_changeStatus (mayChange_eq_ok_iff.mpr ⟨hfilled, hother, hmove⟩) hcourse
    exact ⟨hway.pursued, hway.reports⟩
  · intro failure hfailure status
    cases hmay : mayChange actor r c.status with
    | ok u => exact (course_changeStatus hmay hcourse).committed?_iff hown hfailure status
    | error refusal =>
        obtain ⟨htalk, hresult⟩ := course_changeStatus_refused hmay hcourse
        cases hresult.symm.trans hfailure
        rw [committed?_of_mayChange hmay, htalk]
        constructor
        · intro hnone
          cases hnone
        · rintro ⟨receipt, hcommit, -⟩
          cases hcommit

end Desk

/-- A server that takes one file and then loses the connection. -/
def Errand.untilSecondFile : Nat → (e : Errand) → e.Reply × Nat
  | n, .submit _ submission => (.ok ⟨⟨"NEW"⟩, submission.status⟩, n)
  | n, .post request message => (.ok ⟨⟨"m-1"⟩, request, "Lawyer", message.body, "", none⟩, n)
  | 0, .upload request message file =>
      (.ok ⟨⟨"a-1"⟩, request, some message, file.fileName, file.mimeType, 0, "", none⟩, 1)
  | n, _ => (.error (.network (.reported "connection lost")), n)

/-- A request with a new case. -/
def Request.fresh : Request :=
  ⟨⟨"r-1"⟩, "", ⟨"DIVORCE"⟩, ⟨"NEW"⟩, none, none, [], none, none, none⟩

/-- A change of status with three files and no comment. -/
def Change.threeFiles : Change :=
  ⟨⟨"REVIEW"⟩, none, none, [⟨"a", "", []⟩, ⟨"b", "", []⟩, ⟨"c", "", []⟩]⟩

namespace Desk

/-- Of three files the second is lost: the third is not sent, the workspace is
not loaded again, and the new status is known to be committed. -/
theorem changeStatus_stops_at_second_file :
    (∀ s e failure, (Errand.untilSecondFile s e).1 = .error failure →
        failure.committed? = none) ∧
      ∃ failure,
        (Dialogue.run Errand.untilSecondFile 0
          (changeStatus ⟨⟨"u-1"⟩, .admin⟩ .fresh .threeFiles).run).result = .error failure ∧
        failure.committed? = some ⟨"REVIEW"⟩ ∧
        (Dialogue.run Errand.untilSecondFile 0
          (changeStatus ⟨⟨"u-1"⟩, .admin⟩ .fresh .threeFiles).run).asked.length = 4 := by
  have own : ∀ s e failure, (Errand.untilSecondFile s e).1 = .error failure →
      failure.committed? = none := by
    intro s e failure h
    unfold Errand.untilSecondFile at h
    split at h <;> cases h
    rfl
  obtain ⟨-, -, -, hcommitted⟩ := changeStatus_stops_at_first_failure
    Errand.untilSecondFile 0 ⟨⟨"u-1"⟩, .admin⟩ .fresh .threeFiles own
  obtain ⟨reason, hresult⟩ : ∃ reason,
      (Dialogue.run Errand.untilSecondFile 0
        (changeStatus ⟨⟨"u-1"⟩, .admin⟩ .fresh .threeFiles).run).result
        = .error (.partly ⟨⟨"NEW"⟩, ⟨"REVIEW"⟩⟩ .upload reason) := ⟨_, rfl⟩
  refine ⟨own, _, hresult, (hcommitted _ hresult _).mpr ⟨⟨⟨"NEW"⟩, ⟨"REVIEW"⟩⟩, ?_, rfl⟩, rfl⟩
  rfl

end Desk

end Docket
