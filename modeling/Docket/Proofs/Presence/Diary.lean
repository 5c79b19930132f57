import Docket.Proofs.Presence.Polling
import Docket.Proofs.Presence.Turn

/-!
# Diaries of a poller

A diary tells everything that happens to a poller and when: what is asked of
it, how its probes are answered, and what it does in its turns. Only one rule
binds it in time: time passes after a turn in which there is nothing left to
do, and not beyond the instant for which the poller then waits. Probes may be
answered at any time and in any way.

* `Lives` — the diaries that a poller can have.
* `Lives.split` — a diary can be closed at every entry and opened again.
* `Comes.run` — a poller at work has such a diary, which tells exactly what was
  done with it and what its log tells.
-/

namespace Docket.Poller

/-- What happens to a poller. -/
inductive Happening where
  /-- Something is asked of it. -/
  | told (act : Polling.Act)
  /-- The probe that is outstanding is answered. -/
  | answered (outcome : Outcome Liveness)
  /-- It sends a probe in its turn. -/
  | sent (probe : Probe)
  /-- It has nothing left to do in its turn, and time may pass. -/
  | waited

/-- An entry of a diary. -/
structure Entry where
  time : Nat
  /-- The poller as the happening finds it. -/
  poller : Poller
  happening : Happening

namespace Entry

/-- What is asked of the poller, and when. -/
def told? (e : Entry) : Option (Nat × Polling.Act) :=
  match e.happening with
  | .told act => some (e.time, act)
  | _ => none

/-- What the log of a poller at work tells of it. -/
def event? (e : Entry) : Option Polling.Event :=
  match e.happening with
  | .told act => if e.poller.isProbing && e.poller.endedBy act then some .dropped else none
  | .answered outcome => some (.answered e.time outcome)
  | .sent probe => some (.sent ⟨e.time, probe⟩)
  | .waited => none

end Entry

/-- A poller, found at an instant in a state, comes to another instant and
another state, and this is its diary. -/
inductive Lives : Nat → Poller → List Entry → Nat → Poller → Prop where
  | here {now : Nat} {p : Poller} : Lives now p [] now p
  | told {now last : Nat} {p q : Poller} {rest : List Entry} (act : Polling.Act)
      (tail : Lives now (p.obey now act) rest last q) :
      Lives now p (⟨now, p, .told act⟩ :: rest) last q
  | answered {now last : Nat} {p q : Poller} {rest : List Entry} (outcome : Outcome Liveness)
      (hprobing : p.isProbing = true) (tail : Lives now (p.answer now outcome) rest last q) :
      Lives now p (⟨now, p, .answered outcome⟩ :: rest) last q
  | sent {now last : Nat} {p p' q : Poller} {probe : Probe} {rest : List Entry}
      (hturn : p.turn now = (p', some probe)) (tail : Lives now p' rest last q) :
      Lives now p (⟨now, p, .sent probe⟩ :: rest) last q
  | waited {now later last : Nat} {p p' q : Poller} {rest : List Entry}
      (hturn : p.turn now = (p', none)) (hlater : now ≤ later)
      (hdue : ∀ due, p'.due? = some due → later ≤ due) (tail : Lives later p' rest last q) :
      Lives now p (⟨now, p, .waited⟩ :: rest) last q

namespace Lives

variable {now middle last : Nat} {p q r : Poller} {before later : List Entry}

theorem append (h : Lives now p before middle q) (h' : Lives middle q later last r) :
    Lives now p (before ++ later) last r := by
  induction h with
  | here => exact h'
  | told act _ ih => exact .told act (ih h')
  | answered outcome hprobing _ ih => exact .answered outcome hprobing (ih h')
  | sent hturn _ ih => exact .sent hturn (ih h')
  | waited hturn hlater hdue _ ih => exact .waited hturn hlater hdue (ih h')

/-- An entry finds the poller at its instant and in its state. -/
theorem head {e : Entry} (h : Lives now p (e :: later) last r) : e.time = now ∧ e.poller = p := by
  cases h <;> exact ⟨rfl, rfl⟩

/-- A diary can be closed at every entry and opened again. -/
theorem split {e : Entry} (h : Lives now p (before ++ e :: later) last r) :
    Lives now p before e.time e.poller ∧ Lives e.time e.poller (e :: later) last r := by
  induction before generalizing now p with
  | nil =>
      obtain ⟨htime, hpoller⟩ := h.head
      rw [htime, hpoller]
      exact ⟨.here, h⟩
  | cons first rest ih =>
      cases h with
      | told act tail => exact ⟨.told act (ih tail).1, (ih tail).2⟩
      | answered outcome hprobing tail =>
          exact ⟨.answered outcome hprobing (ih tail).1, (ih tail).2⟩
      | sent hturn tail => exact ⟨.sent hturn (ih tail).1, (ih tail).2⟩
      | waited hturn hlater hdue tail =>
          exact ⟨.waited hturn hlater hdue (ih tail).1, (ih tail).2⟩

/-- Diaries go forward in time. -/
theorem le_time (h : Lives now p later last r) : ∀ e ∈ later, now ≤ e.time := by
  induction h with
  | here => exact fun e he => absurd he List.not_mem_nil
  | told _ _ ih => exact List.forall_mem_cons.mpr ⟨Nat.le_refl _, ih⟩
  | answered _ _ _ ih => exact List.forall_mem_cons.mpr ⟨Nat.le_refl _, ih⟩
  | sent _ _ ih => exact List.forall_mem_cons.mpr ⟨Nat.le_refl _, ih⟩
  | waited _ hlater _ _ ih =>
      exact List.forall_mem_cons.mpr ⟨Nat.le_refl _, fun e he => Nat.le_trans hlater (ih e he)⟩

end Lives

end Docket.Poller

namespace Docket.Polling

variable {σ : Type} {answer : Prober σ} {w v u : Polling σ} {now middle last : Nat}

/-- What is done one after another, and when. -/
def timed : Nat → List Act → List (Nat × Act)
  | _, [] => []
  | now, act :: rest => (now, act) :: timed (now + act.span) rest

/-- From an instant to another a poller at work has come from one state to the
other, these things were asked of it, and the log tells the rest. -/
def Comes (w : Polling σ) (now : Nat) (asked : List (Nat × Act)) (v : Polling σ) (last : Nat) :
    Prop :=
  ∃ diary, Poller.Lives now w.poller diary last v.poller ∧
    diary.filterMap Poller.Entry.told? = asked ∧
    v.log = w.log ++ diary.filterMap Poller.Entry.event?

namespace Comes

theorem refl (w : Polling σ) (now : Nat) : w.Comes now [] w now :=
  ⟨[], .here, rfl, (List.append_nil w.log).symm⟩

theorem trans {asked asked' : List (Nat × Act)} (h : w.Comes now asked v middle)
    (h' : v.Comes middle asked' u last) : w.Comes now (asked ++ asked') u last := by
  obtain ⟨diary, hlives, rfl, hlog⟩ := h
  obtain ⟨diary', hlives', rfl, hlog'⟩ := h'
  refine ⟨diary ++ diary', hlives.append hlives', List.filterMap_append, ?_⟩
  rw [hlog', hlog, List.filterMap_append, List.append_assoc]

theorem receive (hw : w.Sound) (now : Nat) : w.Comes now [] (w.receive now) now := by
  unfold Polling.receive
  cases harriving : w.arriving? with
  | none => exact refl w now
  | some arriving =>
      obtain ⟨time, outcome⟩ := arriving
      dsimp only
      split
      · have hprobing : w.poller.isProbing = true := by
          rw [hw.probing, harriving]
          rfl
        exact ⟨[⟨now, w.poller, .answered outcome⟩], .answered outcome hprobing .here, rfl, rfl⟩
      · exact refl w now

theorem launch {p : Poller} {q : Probe} (hturn : w.poller.turn now = (p, some q)) :
    w.Comes now [] (launch answer { w with poller := p } now q) now :=
  ⟨[⟨now, w.poller, .sent q⟩], .sent hturn .here, rfl, rfl⟩

/-- A poller that has nothing left to do waits. -/
theorem wait {p : Poller} (hturn : w.poller.turn now = (p, none)) (hlast : now ≤ last)
    (hdue : ∀ due, p.due? = some due → last ≤ due) :
    w.Comes now [] { w with poller := p } last :=
  ⟨[⟨now, w.poller, .waited⟩], .waited hturn hlast hdue .here, rfl,
    (List.append_nil w.log).symm⟩

/-- To settle is to do what there is to do until nothing is left. -/
theorem settleIn (hw : w.Sound) {rounds : Nat} (hrounds : rounds = 0 → w.poller.isProbing = true) :
    ∃ v p, w.Comes now [] v now ∧ v.poller.turn now = (p, none) ∧
      settleIn answer now rounds w = { v with poller := p } := by
  induction rounds generalizing w with
  -- the rounds run out only behind a probe, and then there is nothing to do but wait
  | zero => exact ⟨w, w.poller, refl w now, Poller.turn_of_isProbing (hrounds rfl) now, rfl⟩
  | succ rounds ih =>
      have hreceive := receive hw now
      rcases hturn : (w.receive now).poller.turn now with ⟨p, _ | q⟩
      · exact ⟨w.receive now, p, hreceive, hturn, settleIn_rest hturn⟩
      · have hprobing := (Poller.isProbing_of_turn_some hturn).2
        have hlaunched : (Polling.launch answer { w.receive now with poller := p } now q).Sound :=
          (hw.receive now).launch hturn
        obtain ⟨v, p', hcomes, hrest⟩ := ih hlaunched fun _ => hprobing
        refine ⟨v, p', (hreceive.trans (launch hturn)).trans hcomes, ?_⟩
        rw [settleIn_launch hturn]
        exact hrest

/-- A poller at work settles before time passes. -/
theorem exists_settled (answer : Prober σ) (hw : w.Sound) (now : Nat) :
    ∃ v p, w.Comes now [] v now ∧ v.poller.turn now = (p, none) ∧
      settle answer now w = { v with poller := p } :=
  settleIn hw fun hrounds => absurd hrounds (by decide)

/-- What is due after settling is due later. -/
theorem lt_due_settle (hw : w.Sound) {due : Nat}
    (hdue : (settle answer now w).poller.due? = some due) : now < due := by
  obtain ⟨v, p, -, hturn, hsettle⟩ := exists_settled answer hw now
  rw [hsettle] at hdue
  exact (Poller.slated_of_due hturn hdue).1

/-- To settle and then to let time pass. -/
theorem settle (hw : w.Sound) (hlast : now ≤ last)
    (hdue : ∀ due, (settle answer now w).poller.due? = some due → last ≤ due) :
    w.Comes now [] (settle answer now w) last := by
  obtain ⟨v, p, hcomes, hturn, hsettle⟩ := exists_settled answer hw now
  rw [hsettle] at hdue ⊢
  exact hcomes.trans (wait hturn hlast hdue)

/-- Who waits for an instant waits for no answer, and goes on to that instant. -/
theorem next?_of_due {due : Nat} (hw : w.Sound) (hdue : w.poller.due? = some due) :
    w.next? = some due := by
  have hprobing : w.poller.isProbing = false := by
    rw [Bool.eq_false_iff]
    intro hprobing
    rw [Poller.due?_of_isProbing hprobing] at hdue
    cases hdue
  have harriving : w.arriving? = none := by
    rw [← Option.not_isSome_iff_eq_none, ← hw.probing, hprobing]
    exact Bool.false_ne_true
  rw [next?, harriving, hdue]

/-- Time passes from one instant at which there is something to do to the
next. -/
theorem advance (hw : w.Sound) (hlast : now ≤ last) :
    w.Comes now [] (Timeline.advance (Polling.settle answer) next? last now w) last := by
  induction now, w using Timeline.advance.induct (Polling.settle answer) next? last with
  | case1 now w settled hnext =>
      rw [Timeline.advance, hnext]
      refine settle hw hlast fun due hdue => ?_
      have hsettled : settled.Sound := Sound.kept.settleIn now rounds hw
      rw [next?_of_due hsettled hdue] at hnext
      cases hnext
  | case2 now w settled t hnext hlt ih =>
      have hsettled : settled.Sound := Sound.kept.settleIn now rounds hw
      have hcomes : w.Comes now [] settled t := by
        refine settle hw (Nat.le_of_lt hlt.1) fun due hdue => ?_
        rw [next?_of_due hsettled hdue] at hnext
        cases hnext
        exact Nat.le_refl _
      rw [Timeline.advance, hnext]
      simp only [if_pos hlt]
      exact hcomes.trans (ih hsettled (Nat.le_of_lt hlt.2))
  | case3 now w settled t hnext hlt =>
      rw [Timeline.advance, hnext]
      simp only [if_neg hlt]
      refine settle hw hlast fun due hdue => ?_
      have hsettled : settled.Sound := Sound.kept.settleIn now rounds hw
      have hearly := lt_due_settle hw hdue
      rw [next?_of_due hsettled hdue] at hnext
      cases hnext
      exact Nat.le_of_not_lt fun hbefore => hlt ⟨hearly, hbefore⟩

/-- What is asked of a poller and drops no probe. -/
theorem told {p : Poller} {act : Act} (hpoller : w.poller.obey now act = p)
    (hkept : (w.poller.isProbing && w.poller.endedBy act) = false) :
    w.Comes now [(now, act)] { w with poller := p } now := by
  refine ⟨[⟨now, w.poller, .told act⟩], .told act (hpoller ▸ .here), rfl, ?_⟩
  simp [Poller.Entry.event?, hkept]

/-- What is asked of a poller and ends a session drops the probe. -/
theorem told_drop (hw : w.Sound) {p : Poller} {act : Act} (hpoller : w.poller.obey now act = p)
    (hends : w.poller.endedBy act = true) :
    w.Comes now [(now, act)] { w.drop with poller := p } now := by
  refine ⟨[⟨now, w.poller, .told act⟩], .told act (hpoller ▸ .here), rfl, ?_⟩
  show w.drop.log = _
  unfold drop
  rw [← hw.probing]
  cases hprobing : w.poller.isProbing <;> simp [Poller.Entry.event?, hprobing, hends]

/-- To ask something of a poller at work is to ask it of the poller. -/
theorem perform (hw : w.Sound) (now : Nat) (act : Act) :
    w.Comes now [(now, act)] (w.perform answer now act) (now + act.span) := by
  cases act with
  | start request seed =>
      show w.Comes now _ (w.start now request seed) now
      by_cases hactive : w.poller.active? = some request
      · rw [Polling.start, if_pos hactive]
        exact told rfl (by simp [Poller.endedBy, hactive])
      · rw [start_of_other hactive]
        exact told_drop hw rfl (by simp [Poller.endedBy, hactive])
  | stop => exact told_drop hw rfl rfl
  | nudge => exact told rfl (Bool.and_false _)
  | setVisible visible => exact told rfl (Bool.and_false _)
  | pass span =>
      have htold : w.Comes now [(now, .pass span)] w now := told rfl (Bool.and_false _)
      exact htold.trans (advance hw (Nat.le_add_right now span))

/-- Whatever is done with a poller, it has a diary of it. -/
theorem run (hw : w.Sound) (now : Nat) (acts : List Act) :
    w.Comes now (timed now acts) (run answer now acts w) (done now acts) := by
  induction acts generalizing now w with
  | nil => exact refl w now
  | cons act rest ih =>
      have hperformed : (w.perform answer now act).Sound := Sound.kept.perform now act hw
      exact (perform hw now act).trans (ih hperformed (now + act.span))

end Comes
end Docket.Polling
