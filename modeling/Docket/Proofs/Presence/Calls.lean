import Docket.Presence.Poller.Calls
import Docket.Proofs.Presence.Stance

/-!
# Starts and stops that overlap

Calls that do not overlap stop and start the poller as one. Calls that do may
leave it watching a request and publishing none: a start gets in between the
two halves of a stop and publishes its session, and then the stop clears what
is published. This is the only way in which what is published goes wrong.

* `run_alone` — a call that nobody disturbs is a stop or a start of the poller.
* `Sound` — the invariant: what is published against what is watched while
  calls are under way; every step keeps it.
* `published_unless_beside` — when no call is under way, nothing watched is
  nothing published, and what is watched is published if and only if no stop
  had still to clear up when it was.
-/

namespace Docket

namespace Poller

/-- The poller watches what it did and publishes the request that it did; with
nothing to watch it publishes what it did. -/
structure Stays (p p' : Poller) : Prop where
  active : p'.active? = p.active?
  request : p'.snapshot.request? = p.snapshot.request?
  vacant : p.active? = none → p'.snapshot = p.snapshot

namespace Stays

variable {p p' : Poller}

/-- A poller with a session only has to keep to it and to its request. -/
theorem of_session {s : Session} (hs : p.session? = some s) (hstance : p'.stance = p.stance)
    (hrequest : p'.snapshot.request? = p.snapshot.request?) : p.Stays p' where
  active := congrArg Stance.active? hstance
  request := hrequest
  vacant h := by simp [active?, hs] at h

/-- A poller may publish the same. -/
theorem of_snapshot (hstance : p'.stance = p.stance) (hsnapshot : p'.snapshot = p.snapshot) :
    p.Stays p' where
  active := congrArg Stance.active? hstance
  request := by rw [hsnapshot]
  vacant _ := hsnapshot

end Stays

theorem stays_nudge (p : Poller) : p.Stays p.nudge := by
  refine .of_snapshot (stance_nudge p) ?_
  unfold nudge
  split
  · split <;> rfl
  · rfl

theorem stays_setVisible (p : Poller) (visible : Bool) : p.Stays (p.setVisible visible) where
  active := congrArg Stance.active? (stance_setVisible p visible)
  request := by unfold setVisible; split <;> rfl
  vacant _ := by unfold setVisible; split <;> rfl

theorem stays_turn (p : Poller) (now : Nat) : p.Stays (p.turn now).1 := by
  have hstance : (p.turn now).1.stance = p.stance := stance_turn rfl
  have htook := turn_took p now
  generalize p.turn now = after at hstance htook
  cases htook with
  | rest => exact .of_snapshot rfl rfl
  | park => exact .of_snapshot hstance rfl
  | probe hs => exact .of_session hs hstance rfl

theorem stays_answer (p : Poller) (now : Nat) (outcome : Outcome Liveness) :
    p.Stays (p.answer now outcome) := by
  have hstance := stance_answer p now outcome
  cases hs : p.session? with
  | none =>
      have hsame : p.answer now outcome = p := by
        unfold answer
        rw [hs]
      rw [hsame]
      exact .of_snapshot rfl rfl
  | some s =>
      refine .of_session hs hstance ?_
      unfold answer
      rw [hs]
      dsimp only
      split <;> rfl

end Poller

namespace Calls

variable {w : Calls}

/-- What a call makes of a poller. -/
def Call.alone (p : Poller) (now : Nat) : Call → Poller
  | .stop => p.stop
  | .start request seed => p.start now request seed

/-- The steps of a call from its beginning to its end. -/
def Call.steps (now : Nat) : Call → List Step
  | .stop => [.call .stop, .enter 0 now, .stopped]
  | .start request seed => [.call (.start request seed), .enter 0 now, .switched now true]

/-- **A call that nobody disturbs is a stop or a start of the poller.** -/
theorem run_alone (hquiet : w.isQuiet = true) (now : Nat) (c : Call) :
    (w.run (c.steps now)).poller = c.alone w.poller now ∧ (w.run (c.steps now)).isQuiet = true := by
  obtain ⟨p, waiting, stopping, switching?, beside⟩ := w
  simp only [isQuiet, Bool.and_eq_true, List.isEmpty_iff, beq_iff_eq, Option.isNone_iff_eq_none]
    at hquiet
  obtain ⟨⟨rfl, rfl⟩, rfl⟩ := hquiet
  cases c with
  | stop =>
      cases hs : p.session? with
      | none => simp [run, Call.steps, step, enter, beginStop, endStop, isQuiet, Call.alone,
          Poller.stop, hs]
      | some s => simp [run, Call.steps, step, enter, beginStop, endStop, isQuiet, Call.alone,
          Poller.stop, hs]
  | start request seed =>
      by_cases hactive : p.active? = some request
      · simp [run, Call.steps, step, enter, beginStart, endStart, isQuiet, Call.alone,
          Poller.start, hactive]
      · cases hs : p.session? with
        | none => simp [run, Call.steps, step, enter, beginStart, endStart, publish, isQuiet,
            Call.alone, Poller.start, Poller.stop, hactive, hs]
        | some s => simp [run, Call.steps, step, enter, beginStart, endStart, publish, isQuiet,
            Call.alone, Poller.start, Poller.stop, hactive, hs]

/-- While a start holds the poller nothing is watched. When nothing is watched,
nothing is published, or a call that has taken a session away has still to
clear what is published. When a request is watched, it is published, and as
long as stops have still to clear up it will not stay so; or it is published no
more since one of them did. -/
structure Sound (w : Calls) : Prop where
  exclusive : w.switching?.isSome = true → w.poller.active? = none
  vacant : w.poller.active? = none →
    w.poller.snapshot = .empty ∨ 0 < w.stopping ∨ w.switching?.isSome = true
  watched : ∀ request, w.poller.active? = some request →
    w.poller.snapshot.request? = some request ∧ (w.beside = true ↔ 0 < w.stopping) ∨
      w.poller.snapshot.request? = none ∧ w.beside = true

namespace Sound

theorem new (policy : Backoff) : (Calls.new policy).Sound where
  exclusive h := by cases h
  vacant _ := Or.inl rfl
  watched _ h := by cases h

/-- Nothing that the poller does itself matters. -/
theorem own (h : w.Sound) {p' : Poller} (hstays : w.poller.Stays p') :
    Sound { w with poller := p' } where
  exclusive hswitching := hstays.active.trans (h.exclusive hswitching)
  vacant hnone := by
    have hvacant : w.poller.active? = none := hstays.active.symm.trans hnone
    show p'.snapshot = .empty ∨ _
    rw [hstays.vacant hvacant]
    exact h.vacant hvacant
  watched request hactive := by
    show p'.snapshot.request? = some request ∧ _ ∨ p'.snapshot.request? = none ∧ _
    rw [hstays.request]
    exact h.watched request (hstays.active.symm.trans hactive)

/-- Whoever waits does not matter. -/
theorem waiting (h : w.Sound) (waiting : List Call) : Sound { w with waiting } :=
  ⟨h.exclusive, h.vacant, h.watched⟩

theorem publish (hfree : w.switching? = none) (now : Nat) (request : RequestId) (seed : Cursor) :
    (w.publish now request seed).Sound where
  exclusive hswitching := by
    have hsome : w.switching?.isSome = true := hswitching
    simp [hfree] at hsome
  vacant hnone := by cases hnone
  watched request' hactive := by
    cases hactive
    exact Or.inl ⟨rfl, decide_eq_true_iff⟩

theorem beginStop (h : w.Sound) : w.beginStop.Sound := by
  unfold Calls.beginStop
  split
  · exact h
  · exact ⟨fun _ => rfl, fun _ => Or.inr (Or.inl (Nat.succ_pos _)), fun _ hactive => by cases hactive⟩

theorem beginStart (h : w.Sound) (hfree : w.switching? = none) (now : Nat) (request : RequestId)
    (seed : Cursor) : (w.beginStart now request seed).Sound := by
  unfold Calls.beginStart
  split
  · exact h
  · split
    · exact publish hfree now request seed
    · exact ⟨fun _ => rfl, fun _ => Or.inr (Or.inr rfl), fun _ hactive => by cases hactive⟩

theorem enter (h : w.Sound) (i now : Nat) : (w.enter i now).Sound := by
  unfold Calls.enter
  split
  · exact h
  · have hfree : w.switching? = none := by simpa using ‹¬w.switching?.isSome = true›
    dsimp only
    split
    · exact (h.waiting (w.waiting.eraseIdx i)).beginStop
    · exact (h.waiting (w.waiting.eraseIdx i)).beginStart hfree now _ _
    · exact h

/-- A stop that ends clears whatever is published, and what is watched then was
published beside it. -/
theorem endStop (h : w.Sound) : w.endStop.Sound := by
  unfold Calls.endStop
  split
  · exact h
  · refine ⟨h.exclusive, fun _ => Or.inl rfl, fun request hactive => Or.inr ⟨rfl, ?_⟩⟩
    rcases h.watched request hactive with ⟨-, hbeside⟩ | ⟨-, hbeside⟩
    · exact hbeside.mpr (Nat.pos_of_ne_zero ‹_›)
    · exact hbeside

/-- Nobody else publishes while a start holds the poller. -/
theorem endStart (h : w.Sound) (now : Nat) (sound : Bool) : (w.endStart now sound).Sound := by
  unfold Calls.endStart
  split
  · rename_i request seed hswitching
    have hnone : w.poller.active? = none := h.exclusive (by rw [hswitching]; rfl)
    dsimp only
    split
    · exact publish rfl now request seed
    · exact ⟨fun _ => hnone, fun _ => Or.inl rfl,
        fun _ hactive => absurd (hnone.symm.trans hactive) (Option.some_ne_none _).symm⟩
  · exact h

theorem straggle (h : w.Sound) (snapshot : Snapshot) : (w.straggle snapshot).Sound := by
  unfold Calls.straggle
  split
  · exact ⟨h.exclusive, fun _ => Or.inr ‹_›, h.watched⟩
  · exact h

/-- **Every step of a schedule keeps what is published in agreement with what is
watched**, as far as they agree. -/
theorem step (h : w.Sound) (st : Step) : (w.step st).Sound := by
  cases st with
  | call c => exact h.waiting _
  | enter i now => exact h.enter i now
  | stopped => exact h.endStop
  | switched now sound => exact h.endStart now sound
  | straggle snapshot => exact h.straggle snapshot
  | nudge => exact h.own (Poller.stays_nudge w.poller)
  | setVisible visible => exact h.own (Poller.stays_setVisible w.poller visible)
  | turn now => exact h.own (Poller.stays_turn w.poller now)
  | answer now outcome => exact h.own (Poller.stays_answer w.poller now outcome)

theorem run (h : w.Sound) (steps : List Step) : (w.run steps).Sound := by
  induction steps generalizing w with
  | nil => exact h
  | cons st rest ih => exact ih (h.step st)

end Sound

/-- **What is watched is published unless a stop had still to clear up beside
it.** Whatever calls overlap in whatever way, when none is under way any more:
if nothing is watched, nothing is published. A request that is watched is
published if no stop had still to clear up when it was, and otherwise none is
published. -/
theorem published_unless_beside (policy : Backoff) (steps : List Step)
    (hquiet : ((new policy).run steps).isQuiet = true) :
    (((new policy).run steps).poller.active? = none →
      ((new policy).run steps).poller.snapshot = .empty) ∧
    ∀ request, ((new policy).run steps).poller.active? = some request →
      ((new policy).run steps).poller.snapshot.request? =
        if ((new policy).run steps).beside then none else some request := by
  have hsound := (Sound.new policy).run steps
  generalize (new policy).run steps = w at hquiet hsound ⊢
  simp only [isQuiet, Bool.and_eq_true, beq_iff_eq, Option.isNone_iff_eq_none] at hquiet
  obtain ⟨⟨-, hstopping⟩, hswitching⟩ := hquiet
  constructor
  · intro hnone
    rcases hsound.vacant hnone with hempty | hstops | hholds
    · exact hempty
    · omega
    · simp [hswitching] at hholds
  · intro request hactive
    rcases hsound.watched request hactive with ⟨hrequest, hbeside⟩ | ⟨hrequest, hbeside⟩
    · have hclear : w.beside = false := by
        rw [Bool.eq_false_iff, ne_eq, hbeside]
        omega
      rw [hrequest, hclear]
      rfl
    · rw [hrequest, hbeside]
      rfl

/-- A stop and a start are called at once, and the start comes in after both halves
of the stop. -/
def orderly : List Step :=
  [.call (.start ⟨"r-1"⟩ .start), .enter 0 0, .call .stop, .call (.start ⟨"r-2"⟩ .start), .enter 0 1,
    .stopped, .enter 0 2]

/-- The same calls, and the start comes in between the two halves of the stop. -/
def disorderly : List Step :=
  [.call (.start ⟨"r-1"⟩ .start), .enter 0 0, .call .stop, .call (.start ⟨"r-2"⟩ .start), .enter 0 1,
    .enter 0 2, .stopped]

/-- A stop that clears up before the next start publishes does no harm. -/
theorem published_unless_beside_orderly :
    ((new .standard).run orderly).isQuiet = true ∧
      ((new .standard).run orderly).poller.active? = some ⟨"r-2"⟩ ∧
      ((new .standard).run orderly).poller.snapshot.request? = some ⟨"r-2"⟩ := by
  have hquiet : ((new .standard).run orderly).isQuiet = true := by decide +kernel
  have hactive : ((new .standard).run orderly).poller.active? = some ⟨"r-2"⟩ := by decide +kernel
  have hbeside : ((new .standard).run orderly).beside = false := by decide +kernel
  refine ⟨hquiet, hactive, ?_⟩
  have hpublished := (published_unless_beside .standard orderly hquiet).2 ⟨"r-2"⟩ hactive
  rw [hpublished, hbeside]
  rfl

/-- A stop that clears up after the next start has published leaves a request
that is watched and not published, and no call is under way. -/
theorem late_stop_clears_watched_request :
    ((new .standard).run disorderly).isQuiet = true ∧
      ((new .standard).run disorderly).poller.active? = some ⟨"r-2"⟩ ∧
      ((new .standard).run disorderly).poller.snapshot.request? = none := by
  decide +kernel

end Calls

end Docket
