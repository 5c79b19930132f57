import Docket.Presence.Poller

/-!
# What a poller can do

Whatever is asked of a poller, it probes only in a turn of its own, and only
when it is not probing already. A poller without a session publishes nothing
and does nothing.

* `turn_took` — a turn rests, parks the session or sends a probe.
* `Tidy` — what is published when nothing is watched; every operation
  keeps it.
-/

namespace Docket.Poller

/-- The session waits for the answer to a probe. -/
def Session.isProbing (s : Session) : Bool :=
  match s.phase with
  | .probing => true
  | _ => false

/-- The poller waits for the answer to a probe. -/
def isProbing (p : Poller) : Bool :=
  p.session?.any Session.isProbing

@[simp] theorem Session.isProbing_iff {s : Session} :
    s.isProbing = true ↔ s.phase = .probing := by
  unfold Session.isProbing
  split <;> simp_all

theorem isProbing_of_session {p : Poller} {s : Session} (hs : p.session? = some s) :
    p.isProbing = s.isProbing := by
  rw [isProbing, hs, Option.any_some]

theorem isProbing_of_none {p : Poller} (hs : p.session? = none) : p.isProbing = false := by
  rw [isProbing, hs, Option.any_none]

/-- A probing poller has a session that waits for an answer. -/
theorem exists_session_of_isProbing {p : Poller} (h : p.isProbing = true) :
    ∃ s, p.session? = some s ∧ s.phase = .probing := by
  obtain ⟨s, hs, hprobing⟩ := (Option.any_eq_true _ _).mp h
  exact ⟨s, hs, Session.isProbing_iff.mp hprobing⟩

/-- A poller that waits for an answer does nothing of its own accord. -/
theorem turn_of_isProbing {p : Poller} (h : p.isProbing = true) (now : Nat) :
    p.turn now = (p, none) := by
  obtain ⟨s, hs, hphase⟩ := exists_session_of_isProbing h
  simp [turn, hs, hphase]

theorem due?_of_isProbing {p : Poller} (h : p.isProbing = true) : p.due? = none := by
  obtain ⟨s, hs, hphase⟩ := exists_session_of_isProbing h
  simp [due?, hs, hphase]

/-- What a turn comes to. A session that neither rests nor waits for an answer
is parked or sends a probe; at most its permit and the change of visibility
it has not seen are used up. -/
inductive Took (p : Poller) : Poller × Option Probe → Prop where
  | rest (h : p.session? = none ∨ p.isProbing = true) : Took p (p, none)
  | park {s : Session} (hs : p.session? = some s) (hphase : s.isProbing = false)
      (permit unseen : Bool) (due : Nat) :
      Took p ({ p with permit }.park { s with unseen } due)
  | probe {s : Session} (hs : p.session? = some s) (hphase : s.isProbing = false)
      (permit unseen : Bool) :
      Took p ({ p with permit }.probe { s with unseen })

/-- A session that looks for something to do is parked or sends a probe. -/
theorem look_took {p : Poller} {s : Session} (hs : p.session? = some s)
    (hphase : s.isProbing = false) (due : Nat) (nudged : Bool) (now : Nat) :
    Took p (p.look s due nudged now) := by
  unfold look
  split
  · exact .probe hs hphase _ s.unseen
  split
  · exact .park hs hphase false false due
  split
  · exact .probe hs hphase p.permit s.unseen
  split
  · exact .probe hs hphase false s.unseen
  split
  · exact .probe hs hphase p.permit false
  · exact .park hs hphase p.permit false due

/-- **A turn rests, parks the session or sends a probe.** -/
theorem turn_took (p : Poller) (now : Nat) : Took p (p.turn now) := by
  unfold turn
  split
  · exact .rest (Or.inl ‹_›)
  · rename_i s hs
    split
    · exact look_took hs (by simp [Session.isProbing, *]) _ false now
    · exact look_took hs (by simp [Session.isProbing, *]) _ _ now
    · refine .rest (Or.inr ?_)
      rw [isProbing_of_session hs, Session.isProbing_iff]
      assumption

/-- A turn without a probe does not begin to wait for an answer. -/
theorem isProbing_of_turn_none {p p' : Poller} {now : Nat} (h : p.turn now = (p', none)) :
    p'.isProbing = p.isProbing := by
  have htook := turn_took p now
  rw [h] at htook
  cases htook with
  | rest => rfl
  | park hs hphase => exact ((isProbing_of_session hs).trans hphase).symm

/-- A turn sends a probe only if the poller does not wait for an answer, and
from then on it does. -/
theorem isProbing_of_turn_some {p p' : Poller} {now : Nat} {q : Probe}
    (h : p.turn now = (p', some q)) : p.isProbing = false ∧ p'.isProbing = true := by
  have htook := turn_took p now
  rw [h] at htook
  cases htook with
  | probe hs hphase => exact ⟨(isProbing_of_session hs).trans hphase, rfl⟩

theorem Session.isProbing_nudged (s : Session) : s.nudged.isProbing = s.isProbing := by
  unfold Session.nudged
  split
  · simp [Session.isProbing, *]
  · rfl

theorem isProbing_nudge (p : Poller) : p.nudge.isProbing = p.isProbing := by
  unfold nudge
  split
  · rename_i s hs
    split
    · rw [isProbing_of_session rfl, s.isProbing_nudged, isProbing_of_session hs]
    · rfl
  · rfl

theorem isProbing_setVisible (p : Poller) (visible : Bool) :
    (p.setVisible visible).isProbing = p.isProbing := by
  unfold setVisible
  split
  · rfl
  · exact Option.any_map ..

theorem session?_stop (p : Poller) : p.stop.session? = none := by
  unfold stop
  split
  · simpa using ‹p.session?.isNone = true›
  · rfl

theorem isProbing_stop (p : Poller) : p.stop.isProbing = false := by
  rw [isProbing, session?_stop]
  rfl

/-- Nothing changes when the request is watched already. -/
theorem start_of_active {p : Poller} {request : RequestId} (h : p.active? = some request)
    (now : Nat) (seed : Cursor) : p.start now request seed = p :=
  if_pos h

theorem isProbing_start_of_other {p : Poller} {request : RequestId}
    (h : p.active? ≠ some request) (now : Nat) (seed : Cursor) :
    (p.start now request seed).isProbing = false := by
  rw [start, if_neg h]
  rfl

/-- Whatever the answer, the poller does not wait for it any more. -/
theorem isProbing_answer (p : Poller) (now : Nat) (outcome : Outcome Liveness) :
    (p.answer now outcome).isProbing = false := by
  unfold answer
  split
  · rename_i s hs
    split
    · rfl
    · rfl
    · rename_i answered _ _ hok herror
      rw [isProbing_of_session hs, Bool.eq_false_iff, ne_eq, Session.isProbing_iff]
      intro hphase
      cases answered with
      | ok liveness => exact hok liveness hphase rfl
      | error failure => exact herror failure hphase rfl
  · exact isProbing_of_none ‹_›

/-- The poller publishes nothing when it watches nothing. -/
def Tidy (p : Poller) : Prop :=
  p.session? = none → p.snapshot = .empty

namespace Tidy

variable {p : Poller}

theorem nudge (h : p.Tidy) : p.nudge.Tidy := by
  unfold Poller.nudge
  split
  · split
    · exact fun hnone => absurd hnone (Option.some_ne_none _)
    · exact h
  · exact h

theorem setVisible (h : p.Tidy) (visible : Bool) : (p.setVisible visible).Tidy := by
  unfold Poller.setVisible
  split
  · exact h
  · exact fun hnone => h (Option.map_eq_none_iff.mp hnone)

theorem stop (h : p.Tidy) : p.stop.Tidy := by
  unfold Poller.stop
  split
  · exact h
  · exact fun _ => rfl

theorem start (h : p.Tidy) (now : Nat) (request : RequestId) (seed : Cursor) :
    (p.start now request seed).Tidy := by
  unfold Poller.start
  split
  · exact h
  · exact fun hnone => absurd hnone (Option.some_ne_none _)

theorem answer (h : p.Tidy) (now : Nat) (outcome : Outcome Liveness) :
    (p.answer now outcome).Tidy := by
  unfold Poller.answer
  split
  · split
    · exact fun hnone => absurd hnone (Option.some_ne_none _)
    · exact fun hnone => absurd hnone (Option.some_ne_none _)
    · exact h
  · exact h

theorem turn (h : p.Tidy) {p' : Poller} {q? : Option Probe} {now : Nat}
    (hturn : p.turn now = (p', q?)) : p'.Tidy := by
  have htook := turn_took p now
  rw [hturn] at htook
  cases htook with
  | rest => exact h
  | park => exact fun hnone => absurd hnone (Option.some_ne_none _)
  | probe => exact fun hnone => absurd hnone (Option.some_ne_none _)

end Tidy

end Docket.Poller
