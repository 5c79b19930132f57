import Docket.Errand
import Mathlib.Data.List.Forall2

/-!
# The courses of a dialogue

Whoever answers a dialogue chooses one way through its tree. A **course** is
such a way: the exchanges of question and answer that happened, in order, and
the result to which they led. Nothing is assumed of the answers, so a
statement about every course of a procedure is one about everybody who might
answer it.

* `Course.bind_iff` — a course of a sequence is one of its first part followed
  by one of its second.
* `course_exchanges` — every run of a dialogue takes a course.
* `answers_exchanges` — the answers in it take the one who answers from his
  state to that behind the run.
* `course_inTurn` — a course of several dialogues in turn is one of each.
* `Desk.course_bind_iff` — a desk procedure goes on exactly as long as nothing
  has failed.
-/

namespace Docket

/-- A question and what was answered to it. -/
structure Exchange (Ask : Type) (Answer : Ask → Type) where
  question : Ask
  answer : Answer question

namespace Dialogue

variable {Ask : Type} {Answer : Ask → Type} {α β σ : Type}

/-- The dialogue can take these exchanges and end with this result. -/
inductive Course : Dialogue Ask Answer α → List (Exchange Ask Answer) → α → Prop
  | done (a : α) : Course (.done a) [] a
  | ask {q : Ask} {next : Answer q → Dialogue Ask Answer α} (answer : Answer q)
      {talk : List (Exchange Ask Answer)} {a : α} (rest : Course (next answer) talk a) :
      Course (.ask q next) (⟨q, answer⟩ :: talk) a

/-- What a run of a dialogue asks and is answered, in order. -/
def exchanges (respond : σ → (q : Ask) → Answer q × σ) :
    σ → Dialogue Ask Answer α → List (Exchange Ask Answer)
  | _, .done _ => []
  | s, .ask q next =>
      ⟨q, (respond s q).1⟩ :: exchanges respond (respond s q).2 (next (respond s q).1)

/-- The questions on record are those of the exchanges. -/
theorem asked_eq_exchanges (respond : σ → (q : Ask) → Answer q × σ) (s : σ)
    (d : Dialogue Ask Answer α) :
    (run respond s d).asked = (exchanges respond s d).map Exchange.question := by
  induction d generalizing s with
  | done a => rfl
  | ask q next ih => simp [run, exchanges, ih]

/-- Every run of a dialogue takes a course. -/
theorem course_exchanges (respond : σ → (q : Ask) → Answer q × σ) (s : σ)
    (d : Dialogue Ask Answer α) :
    Course d (exchanges respond s d) (run respond s d).result := by
  induction d generalizing s with
  | done a => exact .done a
  | ask q next ih => exact .ask _ (ih _ _)

/-- Every answer of a run was given by the one who answers. -/
theorem exists_respond_of_mem_exchanges {respond : σ → (q : Ask) → Answer q × σ} {s : σ}
    {d : Dialogue Ask Answer α} {x : Exchange Ask Answer} (hx : x ∈ exchanges respond s d) :
    ∃ s', (respond s' x.question).1 = x.answer := by
  induction d generalizing s with
  | done a => cases hx
  | ask q next ih =>
      rcases List.mem_cons.mp hx with rfl | hrest
      · exact ⟨s, rfl⟩
      · exact ih _ hrest

/-- Whoever answers gives these answers, one after another, and has become
another by then. -/
inductive Answers (respond : σ → (q : Ask) → Answer q × σ) :
    σ → List (Exchange Ask Answer) → σ → Prop
  | done (s : σ) : Answers respond s [] s
  | ask {s s' : σ} {q : Ask} {talk : List (Exchange Ask Answer)}
      (rest : Answers respond (respond s q).2 talk s') :
      Answers respond s (⟨q, (respond s q).1⟩ :: talk) s'

/-- The answers of a run are those of the one who answers. -/
theorem answers_exchanges (respond : σ → (q : Ask) → Answer q × σ) (s : σ)
    (d : Dialogue Ask Answer α) :
    Answers respond s (exchanges respond s d) (run respond s d).state := by
  induction d generalizing s with
  | done a => exact .done s
  | ask q next ih => exact .ask (ih _ _)

/-- The first of the answers, and those that are given behind it. -/
theorem Answers.of_cons {respond : σ → (q : Ask) → Answer q × σ} {s s' : σ}
    {x : Exchange Ask Answer} {talk : List (Exchange Ask Answer)}
    (h : Answers respond s (x :: talk) s') :
    x.answer = (respond s x.question).1 ∧ Answers respond (respond s x.question).2 talk s' := by
  cases h with
  | ask rest => exact ⟨rfl, rest⟩

/-- Answers are given to the first questions before those to the others. -/
theorem Answers.exists_of_append {respond : σ → (q : Ask) → Answer q × σ} {s s' : σ}
    {first second : List (Exchange Ask Answer)} (h : Answers respond s (first ++ second) s') :
    ∃ between, Answers respond s first between ∧ Answers respond between second s' := by
  induction first generalizing s with
  | nil => exact ⟨s, .done s, h⟩
  | cons x rest ih =>
      cases h with
      | ask hrest =>
          obtain ⟨between, hfirst, hsecond⟩ := ih hrest
          exact ⟨between, .ask hfirst, hsecond⟩

@[simp] theorem course_done_iff {a b : α} {talk : List (Exchange Ask Answer)} :
    Course (.done a) talk b ↔ talk = [] ∧ b = a := by
  constructor
  · rintro ⟨⟩
    exact ⟨rfl, rfl⟩
  · rintro ⟨rfl, rfl⟩
    exact .done _

theorem course_ask_iff {q : Ask} {next : Answer q → Dialogue Ask Answer α}
    {talk : List (Exchange Ask Answer)} {a : α} :
    Course (.ask q next) talk a ↔
      ∃ answer rest, talk = ⟨q, answer⟩ :: rest ∧ Course (next answer) rest a := by
  constructor
  · rintro ⟨⟩
    exact ⟨_, _, rfl, ‹_›⟩
  · rintro ⟨answer, rest, rfl, h⟩
    exact .ask answer h

/-- A course of a sequence is one of its first part followed by one of its
second. -/
theorem Course.bind_iff {d : Dialogue Ask Answer α} {f : α → Dialogue Ask Answer β}
    {talk : List (Exchange Ask Answer)} {b : β} :
    Course (d.bind f) talk b ↔
      ∃ first a second, talk = first ++ second ∧ Course d first a ∧ Course (f a) second b := by
  induction d generalizing talk with
  | done a =>
      constructor
      · intro h
        exact ⟨[], a, talk, rfl, .done a, h⟩
      · rintro ⟨first, a', second, rfl, h₁, h₂⟩
        obtain ⟨rfl, rfl⟩ := course_done_iff.mp h₁
        exact h₂
  | ask q next ih =>
      simp only [bind, course_ask_iff, ih]
      constructor
      · rintro ⟨answer, _, rfl, first, a, second, rfl, h₁, h₂⟩
        exact ⟨⟨q, answer⟩ :: first, a, second, rfl, ⟨answer, first, rfl, h₁⟩, h₂⟩
      · rintro ⟨_, a, second, rfl, ⟨answer, first, rfl, h₁⟩, h₂⟩
        exact ⟨answer, first ++ second, rfl, first, a, second, rfl, h₁, h₂⟩

/-- A procedure that may fail goes on exactly as long as nothing has failed. -/
theorem Course.except_bind_iff {ε : Type} {d : ExceptT ε (Dialogue Ask Answer) α}
    {f : α → ExceptT ε (Dialogue Ask Answer) β} {talk : List (Exchange Ask Answer)}
    {outcome : Except ε β} :
    Course (d >>= f).run talk outcome ↔
      (∃ failure, Course d.run talk (.error failure) ∧ outcome = .error failure) ∨
        ∃ first a second, talk = first ++ second ∧ Course d.run first (.ok a) ∧
          Course (f a).run second outcome := by
  refine Course.bind_iff.trans ⟨?_, ?_⟩
  · rintro ⟨first, o, second, rfl, h₁, h₂⟩
    cases o with
    | error failure =>
        obtain ⟨rfl, rfl⟩ := course_done_iff.mp h₂
        exact Or.inl ⟨failure, by rwa [List.append_nil], rfl⟩
    | ok a => exact Or.inr ⟨first, a, second, rfl, h₁, h₂⟩
  · rintro (⟨failure, h, rfl⟩ | ⟨first, a, second, rfl, h₁, h₂⟩)
    · exact ⟨talk, .error failure, [], by simp, h, .done _⟩
    · exact ⟨first, .ok a, second, rfl, h₁, h₂⟩

/-- To go on with a value asks nothing more. -/
theorem Course.except_bind_pure {ε : Type} {d : ExceptT ε (Dialogue Ask Answer) α} {f : α → β}
    {talk : List (Exchange Ask Answer)} {outcome : Except ε β}
    (h : Course (d >>= fun a => pure (f a)).run talk outcome) :
    ∃ inner, Course d.run talk inner ∧ outcome = inner.map f := by
  rcases Course.except_bind_iff.mp h with ⟨failure, hfails, rfl⟩ | ⟨first, a, second, rfl, ha, hend⟩
  · exact ⟨.error failure, hfails, rfl⟩
  · obtain ⟨rfl, rfl⟩ := course_done_iff.mp hend
    exact ⟨.ok a, by rwa [List.append_nil], rfl⟩

/-- Several dialogues of one kind, one after another. -/
def inTurn {ι : Type} (dialogue : ι → Dialogue Ask Answer α) :
    List ι → Dialogue Ask Answer (List α)
  | [] => .done []
  | i :: rest => (dialogue i).bind fun a => (inTurn dialogue rest).bind fun as => .done (a :: as)

/-- A course of several dialogues in turn is one of each. -/
theorem course_inTurn {ι : Type} {dialogue : ι → Dialogue Ask Answer α} {items : List ι}
    {talk : List (Exchange Ask Answer)} {results : List α}
    (h : Course (inTurn dialogue items) talk results) :
    ∃ parts : List (List (Exchange Ask Answer) × α),
      talk = (parts.map Prod.fst).flatten ∧ results = parts.map Prod.snd ∧
        List.Forall₂ (fun i part => Course (dialogue i) part.1 part.2) items parts := by
  induction items generalizing talk results with
  | nil =>
      obtain ⟨rfl, rfl⟩ := course_done_iff.mp h
      exact ⟨[], rfl, rfl, .nil⟩
  | cons i rest ih =>
      obtain ⟨first, a, later, rfl, hfirst, hlater⟩ := Course.bind_iff.mp h
      obtain ⟨second, as, last, rfl, hsecond, hend⟩ := Course.bind_iff.mp hlater
      obtain ⟨rfl, rfl⟩ := course_done_iff.mp hend
      obtain ⟨parts, rfl, rfl, hparts⟩ := ih hsecond
      exact ⟨(first, a) :: parts, by simp, rfl, .cons hfirst hparts⟩

end Dialogue

/-- An errand and what it brought back. -/
abbrev Sending := Exchange Errand Errand.Reply

/-- Why an errand brought nothing back, if it did not. -/
def Sending.failure? (x : Sending) : Option Failure :=
  match x.answer with
  | .error failure => some failure
  | .ok _ => none

theorem Sending.answer_eq_error {x : Sending} {failure : Failure}
    (h : Sending.failure? x = some failure) : x.answer = .error failure := by
  unfold Sending.failure? at h
  split at h
  · rw [← Option.some.inj h]
    assumption
  · cases h

namespace Desk

variable {α β : Type}

/-- The procedure can send these errands and end like this. -/
def Course (d : Desk α) (talk : List Sending) (outcome : Outcome α) : Prop :=
  Dialogue.Course d.run talk outcome

@[simp] theorem course_pure_iff {a : α} {talk : List Sending} {outcome : Outcome α} :
    Course (pure a : Desk α) talk outcome ↔ talk = [] ∧ outcome = .ok a :=
  Dialogue.course_done_iff

@[simp] theorem course_send_iff {e : Errand} {talk : List Sending} {outcome : Outcome e.Answer} :
    Course (send e) talk outcome ↔ talk = [⟨e, outcome⟩] := by
  refine Dialogue.course_ask_iff.trans ⟨?_, ?_⟩
  · rintro ⟨answer, rest, rfl, h⟩
    obtain ⟨rfl, rfl⟩ := Dialogue.course_done_iff.mp h
    rfl
  · rintro rfl
    exact ⟨outcome, [], rfl, .done _⟩

/-- A desk procedure goes on exactly as long as nothing has failed. -/
theorem course_bind_iff {d : Desk α} {f : α → Desk β} {talk : List Sending}
    {outcome : Outcome β} :
    Course (d >>= f) talk outcome ↔
      (∃ failure, Course d talk (.error failure) ∧ outcome = .error failure) ∨
        ∃ first a second, talk = first ++ second ∧ Course d first (.ok a) ∧
          Course (f a) second outcome :=
  Dialogue.Course.except_bind_iff

/-- A check that fails ends a procedure before anything is sent. -/
@[simp] theorem course_check_error_bind_iff {failure : Failure} {f : α → Desk β}
    {talk : List Sending} {outcome : Outcome β} :
    Course (check (.error failure) >>= f) talk outcome ↔ talk = [] ∧ outcome = .error failure :=
  Dialogue.course_done_iff

/-- A check that passes leaves no trace. -/
@[simp] theorem course_check_ok_bind_iff {a : α} {f : α → Desk β} {talk : List Sending}
    {outcome : Outcome β} : Course (check (.ok a) >>= f) talk outcome ↔ Course (f a) talk outcome :=
  Iff.rfl

/-- A procedure that begins with an errand ends with it if it fails, and goes
on with what it brought back otherwise. -/
theorem course_send_bind_iff {e : Errand} {f : e.Answer → Desk β} {talk : List Sending}
    {outcome : Outcome β} :
    Course (send e >>= f) talk outcome ↔
      (∃ failure, talk = [⟨e, .error failure⟩] ∧ outcome = .error failure) ∨
        ∃ a rest, talk = ⟨e, .ok a⟩ :: rest ∧ Course (f a) rest outcome := by
  rw [course_bind_iff]
  constructor
  · rintro (⟨failure, hsend, rfl⟩ | ⟨first, a, second, rfl, hsend, hrest⟩)
    · exact Or.inl ⟨failure, course_send_iff.mp hsend, rfl⟩
    · cases course_send_iff.mp hsend
      exact Or.inr ⟨a, second, rfl, hrest⟩
  · rintro (⟨failure, rfl, rfl⟩ | ⟨a, rest, rfl, hrest⟩)
    · exact Or.inl ⟨failure, course_send_iff.mpr rfl, rfl⟩
    · exact Or.inr ⟨[⟨e, .ok a⟩], a, rest, rfl, course_send_iff.mpr rfl, hrest⟩

/-- Telling failures in other words changes nothing else. -/
theorem course_adapt_iff {d : Desk α} {tell : Failure → Failure} {talk : List Sending}
    {outcome : Outcome α} :
    Course (d.adapt tell) talk outcome ↔
      ∃ inner, Course d talk inner ∧ outcome = inner.mapError tell := by
  refine Dialogue.Course.bind_iff.trans ⟨?_, ?_⟩
  · rintro ⟨first, inner, second, rfl, h₁, h₂⟩
    obtain ⟨rfl, rfl⟩ := Dialogue.course_done_iff.mp h₂
    exact ⟨inner, by rwa [List.append_nil], rfl⟩
  · rintro ⟨inner, h, rfl⟩
    exact ⟨talk, inner, [], by simp, h, .done _⟩

end Desk

end Docket
