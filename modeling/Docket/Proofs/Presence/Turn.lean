import Docket.Proofs.Presence.Poller
import Docket.Proofs.Presence.Polling

/-!
# When a poller sends a probe

Between two probes a session is slated: its next probe is due at an instant
that was set when the last answer was taken. Somebody may beckon meanwhile, by
a nudge or by looking again. A session that has not failed follows at its next
turn; one that has failed waits for its instant.

* `turn_of_slated` — in its turn a slated session sends a probe exactly when
  that is due, or somebody beckons and no failure holds it back.
* `Slated.obey` — nothing that is asked of a poller moves the instant.
* `slated_answer`, `slated_start` — who sets it.
-/

namespace Docket.Poller

variable {p : Poller} {due failures now : Nat}

/-- The instant at which the next probe of a session is due. -/
def Session.scheduled? (s : Session) : Option Nat :=
  match s.phase with
  | .ready due => some due
  | .parked due _ => some due
  | .probing => none

/-- The next probe is due at an instant, after so many failures in a row. -/
def Slated (p : Poller) (due failures : Nat) : Prop :=
  ∃ s, p.session? = some s ∧ s.scheduled? = some due ∧ s.failures = failures

/-- Somebody asks for an early probe: a nudge is pending, or a change of
visibility that has not been looked at leaves the poller visible. -/
def Beckoned (p : Poller) : Prop :=
  ∃ s, p.session? = some s ∧
    (p.permit = true ∨ s.isNudged = true ∨ s.unseen = true ∧ p.visible = true)

theorem Slated.isProbing (h : p.Slated due failures) : p.isProbing = false := by
  obtain ⟨s, hs, hscheduled, -⟩ := h
  rw [isProbing_of_session hs, Bool.eq_false_iff, ne_eq, Session.isProbing_iff]
  intro hphase
  rw [Session.scheduled?, hphase] at hscheduled
  cases hscheduled

/-- A session that is parked without a nudge, and has looked at everything, is
slated and not beckoned. -/
theorem slated_park (p : Poller) (due : Nat) {s : Session} (hfailures : s.failures = failures) :
    ({ p with permit := false }.park { s with unseen := false } due).1.Slated due failures ∧
      ¬ ({ p with permit := false }.park { s with unseen := false } due).1.Beckoned ∧
      ({ p with permit := false }.park { s with unseen := false } due).1.due? = some due := by
  refine ⟨⟨_, rfl, rfl, hfailures⟩, ?_, rfl⟩
  rintro ⟨s', hs', hcall⟩
  cases hs'
  rcases hcall with hcall | hcall | ⟨hcall, -⟩ <;> cases hcall

/-- A session that looks for something to do waits or sends a probe. -/
theorem look_of_slated {s : Session} {nudged : Bool} (hfailures : s.failures = failures) :
    (now < due ∧ (failures = 0 →
        ¬ (p.permit = true ∨ nudged = true ∨ s.unseen = true ∧ p.visible = true)) ∧
      p.look s due nudged now = { p with permit := false }.park { s with unseen := false } due) ∨
    ((due ≤ now ∨ failures = 0 ∧
        (p.permit = true ∨ nudged = true ∨ s.unseen = true ∧ p.visible = true)) ∧
      ∃ p' q, p.look s due nudged now = (p', some q)) := by
  subst hfailures
  unfold look
  by_cases hdue : due ≤ now
  · rw [if_pos hdue]
    exact Or.inr ⟨Or.inl hdue, _, _, rfl⟩
  rw [if_neg hdue]
  have hearly := Nat.lt_of_not_le hdue
  by_cases hfailed : 0 < s.failures
  · rw [if_pos hfailed]
    exact Or.inl ⟨hearly, fun h => absurd h (Nat.ne_of_gt hfailed), rfl⟩
  rw [if_neg hfailed]
  have hgood := Nat.eq_zero_of_not_pos hfailed
  by_cases hnudged : nudged = true
  · rw [if_pos hnudged]
    exact Or.inr ⟨Or.inr ⟨hgood, Or.inr (Or.inl hnudged)⟩, _, _, rfl⟩
  rw [if_neg hnudged]
  by_cases hpermit : p.permit = true
  · rw [if_pos hpermit]
    exact Or.inr ⟨Or.inr ⟨hgood, Or.inl hpermit⟩, _, _, rfl⟩
  rw [if_neg hpermit]
  by_cases hseen : (s.unseen && p.visible) = true
  · rw [if_pos hseen]
    exact Or.inr ⟨Or.inr ⟨hgood, Or.inr (Or.inr (by simpa using hseen))⟩, _, _, rfl⟩
  · rw [if_neg hseen]
    refine Or.inl ⟨hearly, fun _ => ?_, ?_⟩
    · rintro (h | h | h)
      · exact hpermit h
      · exact hnudged h
      · exact hseen (by simpa using h)
    · rw [← Bool.eq_false_iff.mpr hpermit]

/-- **A slated session sends a probe in its turn exactly when that is due, or
somebody beckons and no failure holds it back.** Otherwise it waits, and
nobody beckons any more. -/
theorem turn_of_slated (h : p.Slated due failures) (now : Nat) :
    (now < due ∧ (failures = 0 → ¬ p.Beckoned) ∧
      ∃ p', p.turn now = (p', none) ∧ p'.Slated due failures ∧ ¬ p'.Beckoned ∧
        p'.due? = some due) ∨
    ((due ≤ now ∨ failures = 0 ∧ p.Beckoned) ∧ ∃ p' q, p.turn now = (p', some q)) := by
  obtain ⟨s, hs, hscheduled, hfailures⟩ := h
  have hturn : p.turn now = p.look s due s.isNudged now := by
    unfold Session.scheduled? at hscheduled
    unfold turn Session.isNudged
    rw [hs]
    split at hscheduled <;> cases hscheduled <;> simp only [*]
  have hcalls : p.Beckoned ↔
      (p.permit = true ∨ s.isNudged = true ∨ s.unseen = true ∧ p.visible = true) := by
    constructor
    · rintro ⟨s', hs', hcall⟩
      cases hs.symm.trans hs'
      exact hcall
    · exact fun hcall => ⟨s, hs, hcall⟩
  rw [hturn, hcalls]
  rcases look_of_slated hfailures with ⟨hearly, hcalm, hpark⟩ | ⟨hcall, hsent⟩
  · exact Or.inl ⟨hearly, hcalm, _, hpark, slated_park p due hfailures⟩
  · exact Or.inr ⟨hcall, hsent⟩

/-- A slated session that waits is slated still, and the instant is to come. -/
theorem slated_of_turn_none (h : p.Slated due failures) {p' : Poller}
    (hturn : p.turn now = (p', none)) :
    now < due ∧ (failures = 0 → ¬ p.Beckoned) ∧ p'.Slated due failures ∧ ¬ p'.Beckoned ∧
      p'.due? = some due := by
  rcases turn_of_slated h now with ⟨hearly, hcalm, q, hq, hslated⟩ | ⟨-, q, probe, hsent⟩
  · cases hturn.symm.trans hq
    exact ⟨hearly, hcalm, hslated⟩
  · cases hturn.symm.trans hsent

/-- A slated session that sends a probe has a reason. -/
theorem called_of_turn_some (h : p.Slated due failures) {p' : Poller} {q : Probe}
    (hturn : p.turn now = (p', some q)) : due ≤ now ∨ failures = 0 ∧ p.Beckoned := by
  rcases turn_of_slated h now with ⟨-, -, q, hq, -⟩ | ⟨hcall, -⟩
  · cases hturn.symm.trans hq
  · exact hcall

/-- A poller that waits for an instant after its turn is slated for it, nobody
beckons, and the instant is to come. -/
theorem slated_of_due {p' : Poller} (hturn : p.turn now = (p', none))
    (hdue : p'.due? = some due) :
    now < due ∧ ∃ failures, p'.Slated due failures ∧ ¬ p'.Beckoned := by
  have htook := turn_took p now
  rw [hturn] at htook
  cases htook with
  | rest h =>
      rcases h with h | h
      · rw [due?, h] at hdue
        cases hdue
      · rw [due?_of_isProbing h] at hdue
        cases hdue
  | @park s hs hphase permit unseen due' =>
      obtain ⟨instant, hscheduled⟩ : ∃ instant, s.scheduled? = some instant := by
        unfold Session.scheduled?
        cases hcase : s.phase with
        | ready due => exact ⟨due, rfl⟩
        | parked due nudged => exact ⟨due, rfl⟩
        | probing => rw [Session.isProbing_iff.mpr hcase] at hphase; cases hphase
      obtain ⟨hearly, -, hslated, hcalm, hsame⟩ :=
        slated_of_turn_none ⟨s, hs, hscheduled, rfl⟩ hturn
      cases hdue.symm.trans hsame
      exact ⟨hearly, s.failures, hslated, hcalm⟩

/-- Does what is asked of a poller; that time may pass asks nothing of it. -/
def obey (p : Poller) (now : Nat) : Polling.Act → Poller
  | .start request seed => p.start now request seed
  | .stop => p.stop
  | .nudge => p.nudge
  | .setVisible visible => p.setVisible visible
  | .pass _ => p

/-- The session that is watched, if there is one, ends with the act. -/
def endedBy (p : Poller) : Polling.Act → Bool
  | .stop => true
  | .start request _ => p.active? ≠ some request
  | _ => false

theorem Session.scheduled?_nudged (s : Session) : s.nudged.scheduled? = s.scheduled? := by
  unfold Session.nudged
  split
  · simp only [Session.scheduled?, *]
  · rfl

theorem Session.failures_nudged (s : Session) : s.nudged.failures = s.failures := by
  unfold Session.nudged
  split <;> rfl

namespace Slated

theorem nudge (h : p.Slated due failures) : p.nudge.Slated due failures := by
  obtain ⟨s, hs, hscheduled, hfailures⟩ := h
  unfold Poller.nudge
  rw [hs]
  dsimp only
  split
  · exact ⟨s.nudged, rfl, s.scheduled?_nudged.trans hscheduled,
      s.failures_nudged.trans hfailures⟩
  · exact ⟨s, rfl, hscheduled, hfailures⟩

theorem setVisible (h : p.Slated due failures) (visible : Bool) :
    (p.setVisible visible).Slated due failures := by
  obtain ⟨s, hs, hscheduled, hfailures⟩ := h
  unfold Poller.setVisible
  split
  · exact ⟨s, hs, hscheduled, hfailures⟩
  · exact ⟨{ s with unseen := true }, by rw [hs]; rfl, hscheduled, hfailures⟩

/-- **Nothing that is asked of a poller moves the instant** as long as the
session goes on. -/
theorem obey (h : p.Slated due failures) {act : Polling.Act} (hgoes : p.endedBy act = false)
    (now : Nat) : (p.obey now act).Slated due failures := by
  cases act with
  | start request seed =>
      have hactive : p.active? = some request := by simpa [endedBy] using hgoes
      rw [Poller.obey, start_of_active hactive]
      exact h
  | stop => cases hgoes
  | nudge => exact h.nudge
  | setVisible visible => exact h.setVisible visible
  | pass span => exact h

end Slated

/-- Who looks away does not beckon. -/
theorem not_beckoned_hide (h : ¬ p.Beckoned) : ¬ (p.setVisible false).Beckoned := by
  unfold setVisible
  split
  · exact h
  · rintro ⟨s, hs, hcall⟩
    obtain ⟨s', hs', rfl⟩ := Option.map_eq_some_iff.mp hs
    rcases hcall with hcall | hcall | ⟨-, hcall⟩
    · exact h ⟨s', hs', Or.inl hcall⟩
    · exact h ⟨s', hs', Or.inr (Or.inl hcall)⟩
    · cases hcall

/-- The failures in a row after an answer. -/
def failuresAfter (failures : Nat) : Outcome Liveness → Nat
  | .ok _ => 0
  | .error _ => failures + 1

/-- An answer sets the instant of the next probe. -/
theorem slated_answer {s : Session} (hs : p.session? = some s) (hprobing : s.phase = .probing)
    (now : Nat) (outcome : Outcome Liveness) :
    (p.answer now outcome).Slated
      (now + p.policy.delay p.visible (min (failuresAfter s.failures outcome) Backoff.maxCount))
      (min (failuresAfter s.failures outcome) Backoff.maxCount) := by
  cases outcome with
  | ok liveness =>
      have hanswer : p.answer now (.ok liveness) = p.succeed s now liveness := by
        simp only [answer, hs, hprobing]
      rw [hanswer]
      exact ⟨_, rfl, rfl, rfl⟩
  | error failure =>
      have hanswer : p.answer now (.error failure) = p.fail s now := by
        simp only [answer, hs, hprobing]
      rw [hanswer]
      exact ⟨_, rfl, rfl, rfl⟩

/-- A session that begins is due at once. -/
theorem slated_start {request : RequestId} (h : p.active? ≠ some request) (now : Nat)
    (seed : Cursor) : (p.start now request seed).Slated now 0 := by
  rw [start, if_neg h]
  exact ⟨_, rfl, rfl, rfl⟩

end Docket.Poller
