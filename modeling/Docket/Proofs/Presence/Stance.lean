import Docket.Proofs.Presence.Turn

/-!
# What a poller keeps to

A poller keeps to its schedule, to whether somebody looks, and to the request
that it watches. Only what is asked of it changes that, and a nudge does not;
so what it keeps to can be read off what was asked, without its probes.

* `Poller.stance_obey`, `Poller.stance_answer`, `Poller.stance_turn` — what each
  operation makes of it.
* `Polling.stance_run` — what a whole run makes of it.
-/

namespace Docket.Poller

variable {p : Poller}

/-- The schedule, whether somebody looks, and what is watched. -/
structure Stance where
  policy : Backoff
  visible : Bool
  active? : Option RequestId

/-- What the poller keeps to. -/
def stance (p : Poller) : Stance :=
  ⟨p.policy, p.visible, p.active?⟩

namespace Stance

/-- What an act makes of it. -/
def told (stance : Stance) : Polling.Act → Stance
  | .start request _ => { stance with active? := some request }
  | .stop => { stance with active? := none }
  | .setVisible visible => { stance with visible }
  | .nudge | .pass _ => stance

theorem policy_told (stance : Stance) (act : Polling.Act) :
    (stance.told act).policy = stance.policy := by
  cases act <;> rfl

/-- Nobody changes the schedule. -/
theorem policy_foldl (stance : Stance) (acts : List Polling.Act) :
    (acts.foldl told stance).policy = stance.policy := by
  induction acts generalizing stance with
  | nil => rfl
  | cons act rest ih => rw [List.foldl_cons, ih, policy_told]

end Stance

theorem stance_nudge (p : Poller) : p.nudge.stance = p.stance := by
  unfold nudge
  split
  · rename_i s hs
    split
    · have hrequest : s.nudged.request = s.request := by
        unfold Session.nudged
        split <;> rfl
      simp [stance, active?, hs, hrequest]
    · rfl
  · rfl

theorem stance_setVisible (p : Poller) (visible : Bool) :
    (p.setVisible visible).stance = { p.stance with visible } := by
  unfold setVisible
  split
  · rename_i hsame
    rw [← hsame]
    rfl
  · simp only [stance, active?, Option.map_map]
    rfl

theorem stance_stop (p : Poller) : p.stop.stance = { p.stance with active? := none } := by
  unfold stop
  split
  · rename_i hnone
    have hsession : p.session? = none := by simpa using hnone
    simp [stance, active?, hsession]
  · rfl

theorem stance_start (p : Poller) (now : Nat) (request : RequestId) (seed : Cursor) :
    (p.start now request seed).stance = { p.stance with active? := some request } := by
  by_cases h : p.active? = some request
  · rw [start_of_active h, ← h]
    rfl
  · rw [start, if_neg h]
    show { p.stop.stance with active? := some request } = _
    rw [stance_stop]

/-- What is asked of a poller makes this of what it keeps to. -/
theorem stance_obey (p : Poller) (now : Nat) (act : Polling.Act) :
    (p.obey now act).stance = p.stance.told act := by
  cases act with
  | start request seed => exact stance_start p now request seed
  | stop => exact stance_stop p
  | nudge => exact stance_nudge p
  | setVisible visible => exact stance_setVisible p visible
  | pass span => rfl

theorem stance_answer (p : Poller) (now : Nat) (outcome : Outcome Liveness) :
    (p.answer now outcome).stance = p.stance := by
  unfold answer
  split
  · rename_i s hs
    split
    · simp [succeed, resume, stance, active?, hs]
    · simp [fail, resume, stance, active?, hs]
    · rfl
  · rfl

theorem stance_turn {now : Nat} {p' : Poller} {q? : Option Probe}
    (hturn : p.turn now = (p', q?)) : p'.stance = p.stance := by
  have htook := turn_took p now
  rw [hturn] at htook
  cases htook with
  | rest => rfl
  | park hs => simp [stance, active?, hs]
  | probe hs => simp [stance, active?, hs]

end Docket.Poller

namespace Docket.Polling

open Poller (Stance)

variable {σ : Type} {answer : Prober σ}

/-- What a poller does of its own accord changes nothing that it keeps to. -/
theorem steady_stance (stance : Stance) :
    Steady answer fun w => w.poller.stance = stance :=
  .of_poller (fun now outcome h => (Poller.stance_answer _ now outcome).trans h)
    fun hturn h => (Poller.stance_turn hturn).trans h

theorem stance_perform (w : Polling σ) (now : Nat) (act : Act) :
    (w.perform answer now act).poller.stance = w.poller.stance.told act := by
  cases act with
  | start request seed => exact Poller.stance_start w.poller now request seed
  | stop => exact Poller.stance_stop w.poller
  | nudge => exact Poller.stance_nudge w.poller
  | setVisible visible => exact Poller.stance_setVisible w.poller visible
  | pass span => exact (steady_stance w.poller.stance).advance now span rfl

/-- What a poller keeps to can be read off what was asked of it. -/
theorem stance_run (now : Nat) (acts : List Act) (w : Polling σ) :
    (run answer now acts w).poller.stance = acts.foldl Stance.told w.poller.stance := by
  induction acts generalizing now w with
  | nil => rfl
  | cons act rest ih => rw [run, ih, stance_perform, List.foldl_cons]

end Docket.Polling
