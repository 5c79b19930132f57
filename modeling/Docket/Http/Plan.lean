import Docket.Http.Call
import Docket.Reply

/-!
# Plans

A plan is a number of calls that are made at one instant, and a way to put
their answers together. It succeeds when all of its calls are answered as
they should be, at the instant of the last answer. It fails at the instant of
the first bad answer. Answers of one instant are looked at in turn, and the
turn begins one further at every instant at which something arrives. A bad
answer that takes no time keeps the calls behind it from being made.
-/

namespace Docket.Http

/-- A server answers calls at instants, and remembers what it will. -/
abbrev Server (σ : Type) :=
  σ → (now : Nat) → Call → Reply Json × σ

/-- One call of a plan, and what may be wrong with its answer. -/
structure Fetch where
  call : Call
  check : Json → Outcome Unit

/-- Calls that are made together, and what their answers mean. -/
structure Plan (α : Type) where
  fetches : List Fetch
  finish : List Json → Outcome α

namespace Plan

variable {α β γ : Type}

/-- A plan without calls. -/
def settled (outcome : Outcome α) : Plan α :=
  ⟨[], fun _ => outcome⟩

/-- One call. -/
def fetch (call : Call) (accept : Json → Outcome α) : Plan α :=
  ⟨[⟨call, fun answer => (accept answer).map fun _ => ()⟩],
   fun answers => accept (answers.headD .null)⟩

/-- Two plans at the same instant. -/
def both (p : Plan α) (q : Plan β) (f : α → β → γ) : Plan γ where
  fetches := p.fetches ++ q.fetches
  finish answers := do
    let a ← p.finish (answers.take p.fetches.length)
    let b ← q.finish (answers.drop p.fetches.length)
    return f a b

end Plan

namespace Replies

variable {α : Type}

/-- The first of these replies that fails after this delay. -/
def failureAt? (delay : Nat) (rs : List (Reply α)) : Option Failure :=
  rs.findSome? fun r => if r.delay = delay then r.failure? else none

/-- How many times something had arrived by the end of this delay. -/
def arrivals (delay : Nat) (rs : List (Reply α)) : Nat :=
  ((rs.map Reply.delay).filter fun d => 0 < d ∧ d ≤ delay).eraseDups.length

/-- All replies as one. -/
def gather (rs : List (Reply α)) : Reply (List α) :=
  match ((rs.filter fun r => r.failure?.isSome).map Reply.delay).min? with
  | none => ⟨(rs.map Reply.delay).foldl max 0, rs.mapM Reply.outcome⟩
  | some delay =>
      let turn := rs.rotateLeft (arrivals delay rs)
      match failureAt? delay turn with
      | some failure => ⟨delay, .error failure⟩
      | none => ⟨delay, rs.mapM Reply.outcome⟩

end Replies

end Docket.Http
