/-!
# Dialogues

A procedure that depends on others is a dialogue: a tree of questions, each
with a continuation for every answer. Nothing happens until a dialogue is run
against somebody who answers, and then everything that was asked is on
record, in order. Who answers may also act on the world; the dialogue is the
same.

Main statements: `run_bind`, a sequence asks the questions of its first part
and then those of its second; `converse_state`, a run is what the dialogue
comes to with somebody who only remembers.
-/

namespace Docket

/-- A procedure that may ask questions before it has a result. -/
inductive Dialogue (Ask : Type) (Answer : Ask → Type) (α : Type) where
  | done (result : α)
  | ask (question : Ask) (next : Answer question → Dialogue Ask Answer α)

namespace Dialogue

variable {Ask : Type} {Answer : Ask → Type} {α β σ : Type}

/-- One dialogue after another. -/
def bind : Dialogue Ask Answer α → (α → Dialogue Ask Answer β) → Dialogue Ask Answer β
  | .done a, f => f a
  | .ask q next, f => .ask q fun answer => (next answer).bind f

instance : Monad (Dialogue Ask Answer) where
  pure := .done
  bind := bind

/-- Asks one question. -/
def question (q : Ask) : Dialogue Ask Answer (Answer q) :=
  .ask q .done

/-- The same dialogue in a language that can say more. -/
def relay {Ask' : Type} {Answer' : Ask' → Type} (say : Ask → Ask')
    (hear : (q : Ask) → Answer' (say q) → Answer q) :
    Dialogue Ask Answer α → Dialogue Ask' Answer' α
  | .done a => .done a
  | .ask q next => .ask (say q) fun answer => (next (hear q answer)).relay say hear

/-- What became of a dialogue. -/
structure Ran (Ask σ α : Type) where
  result : α
  /-- The questions that were asked, in order. -/
  asked : List Ask
  /-- What has become of the one who answered. -/
  state : σ

/-- Runs a dialogue against somebody who answers and remembers. -/
def run (respond : σ → (q : Ask) → Answer q × σ) : σ → Dialogue Ask Answer α → Ran Ask σ α
  | s, .done a => ⟨a, [], s⟩
  | s, .ask q next =>
      let (answer, s) := respond s q
      let rest := run respond s (next answer)
      { rest with asked := q :: rest.asked }

/-- A sequence asks the questions of its first part and then those of its
second. -/
theorem run_bind (respond : σ → (q : Ask) → Answer q × σ) (s : σ)
    (d : Dialogue Ask Answer α) (f : α → Dialogue Ask Answer β) :
    run respond s (d.bind f) =
      let first := run respond s d
      let second := run respond first.state (f first.result)
      ⟨second.result, first.asked ++ second.asked, second.state⟩ := by
  induction d generalizing s with
  | done a => rfl
  | ask q next ih => simp [bind, run, ih]

/-- Holds a dialogue with somebody who acts to find his answers. -/
def converse {m : Type → Type} [Monad m] (respond : (q : Ask) → m (Answer q)) :
    Dialogue Ask Answer α → m α
  | .done a => pure a
  | .ask q next => respond q >>= fun answer => (next answer).converse respond

/-- With somebody who only remembers, a dialogue comes to what its run comes to. -/
theorem converse_state (respond : σ → (q : Ask) → Answer q × σ) (s : σ)
    (d : Dialogue Ask Answer α) :
    (d.converse (m := StateM σ) fun q s => respond s q).run s =
      ((run respond s d).result, (run respond s d).state) := by
  induction d generalizing s with
  | done a => rfl
  | ask q next ih => exact ih (respond s q).1 (respond s q).2

end Dialogue

end Docket
