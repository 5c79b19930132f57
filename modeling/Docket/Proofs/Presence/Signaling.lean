import Docket.Presence.Typing.Run
import Docket.Proofs.Presence.Signaler
import Docket.Proofs.Timeline

/-!
# Signalers at work

A composer is edited, and time passes in between. Whatever is done, whenever,
and however long the server takes, what a signaler tells makes sense to those
who listen: the user types, and types, and ceases to type. While time passes
each signal says what the user does at that instant, which is ideal: no timer
rounds it up, and no clock ends behind it.

* `Told` — the order in which signals make sense.
* `Sound` — the invariant: signals, signaler and the signal on its way agree.
* `Grown` — what is told from one state to a later one fits the composer.
* `advance_grown`, `run_sound` — both hold whatever is done.
* `lastTold_advance` — what was told last is true once it has arrived.
-/

namespace Docket.Signaling

variable {σ : Type} {listen : Listener σ}

/-- What may be done to a composer. -/
inductive Edit where
  | update (composer : Composer)
  | focus (focused : Bool)
  | busy (busy : Bool)
  | draft (text : String)

/-- What becomes of a composer that is edited. -/
def Edit.apply (e : Edit) (c : Composer) : Composer :=
  match e with
  | .update composer => composer
  | .focus focused => { c with focused }
  | .busy engaged => { c with busy := engaged }
  | .draft text => { c with draft := text }

/-- What is done with a signaler; time passes only where it is let to. -/
inductive Act where
  | edit (e : Edit)
  | pass (span : Nat)

/-- How much time passes. -/
def Act.span : Act → Nat
  | .edit _ => 0
  | .pass span => span

/-- What becomes of the composer. -/
def Act.compose (c : Composer) : Act → Composer
  | .edit e => e.apply c
  | .pass _ => c

/-- Does it. -/
def perform (listen : Listener σ) (now : Nat) (w : Signaling σ) : Act → Signaling σ
  | .edit e => w.modify e.apply
  | .pass span => w.advance listen now span

/-- Does one thing after another. -/
def run (listen : Listener σ) : (now : Nat) → List Act → Signaling σ → Signaling σ
  | _, [], w => w
  | now, act :: rest, w => run listen (now + act.span) rest (w.perform listen now act)

/-- The instant at which everything is done. -/
def done (now : Nat) (acts : List Act) : Nat :=
  acts.foldl (fun now act => now + act.span) now

/-- The composer when everything is done. -/
def composed (acts : List Act) : Composer :=
  acts.foldl Act.compose .idle

theorem run_append (now : Nat) (before after : List Act) (w : Signaling σ) :
    run listen now (before ++ after) w =
      run listen (done now before) after (run listen now before w) := by
  induction before generalizing now w with
  | nil => rfl
  | cons act rest ih => exact ih (now + act.span) (w.perform listen now act)

/-- These signals make sense one after another; whether it is owed to say that
the user has ceased to type. -/
inductive Told : (owed : Bool) → List Bool → Prop
  | nothing : Told false []
  | types {owed : Bool} {said : List Bool} (before : Told owed said) : Told true (said ++ [true])
  | ceases {said : List Bool} (before : Told true said) : Told false (said ++ [false])

/-- What is said of a user who types for some heartbeats after the first. -/
def block (beats : Nat) : List Bool :=
  List.replicate (beats + 1) true ++ [false]

/-- Signals that make sense are blocks, and the beginning of one if there is
something owed. -/
theorem Told.exists_blocks {owed : Bool} {said : List Bool} (h : Told owed said) :
    ∃ (blocks : List Nat) (rest : Nat),
      said = blocks.flatMap block ++ List.replicate rest true ∧ (owed = true ↔ 0 < rest) := by
  induction h with
  | nothing => exact ⟨[], 0, rfl, by simp⟩
  | types before ih =>
      obtain ⟨blocks, rest, rfl, -⟩ := ih
      refine ⟨blocks, rest + 1, ?_, by simp⟩
      rw [List.append_assoc, List.replicate_succ']
  | ceases before ih =>
      obtain ⟨blocks, rest, rfl, howed⟩ := ih
      obtain ⟨n, rfl⟩ := Nat.exists_eq_succ_of_ne_zero (Nat.pos_iff_ne_zero.mp (howed.mp rfl))
      refine ⟨blocks ++ [n], 0, ?_, by simp⟩
      simp [block]

/-- Signals that make sense are blocks when nothing is owed. -/
theorem Told.exists_blocks_of_paid {said : List Bool} (h : Told false said) :
    ∃ blocks : List Nat, said = blocks.flatMap block := by
  obtain ⟨blocks, rest, hsaid, howed⟩ := h.exists_blocks
  have hrest : rest = 0 := by simpa using howed
  refine ⟨blocks, ?_⟩
  rw [hsaid, hrest, List.replicate_zero, List.append_nil]

/-- What was said last is owed to be taken back exactly if it is that the user
types. -/
theorem Told.getLast?_getD {owed : Bool} {said : List Bool} (h : Told owed said) :
    said.getLast?.getD false = owed := by
  cases h with
  | nothing => rfl
  | types => simp
  | ceases => simp

/-- What was told last; before anything is told, nobody types. -/
def lastTold (w : Signaling σ) : Bool :=
  (w.signals.map SentSignal.typing).getLast?.getD false

/-- A signal that was on its way is over, or nothing has arrived. -/
theorem receive_eq (w : Signaling σ) (now : Nat) :
    w.receive now = { w with signaler := w.signaler.sent, over? := none } ∨ w.receive now = w := by
  unfold receive
  split
  · split
    · exact Or.inl rfl
    · exact Or.inr rfl
  · exact Or.inr rfl

theorem closed_receive (w : Signaling σ) (now : Nat) :
    (w.receive now).signaler.closed = w.signaler.closed := by
  rcases w.receive_eq now with hover | hsame
  · rw [hover]
    exact Signaler.closed_sent _
  · rw [hsame]

theorem composer_receive (w : Signaling σ) (now : Nat) :
    (w.receive now).signaler.composer = w.signaler.composer := by
  rcases w.receive_eq now with hover | hsame
  · rw [hover]
    exact Signaler.composer_sent _
  · rw [hsame]

theorem request_receive (w : Signaling σ) (now : Nat) : (w.receive now).request = w.request := by
  rcases w.receive_eq now with hover | hsame
  · rw [hover]
  · rw [hsame]

theorem signals_receive (w : Signaling σ) (now : Nat) : (w.receive now).signals = w.signals := by
  rcases w.receive_eq now with hover | hsame
  · rw [hover]
  · rw [hsame]

/-- What a signaler does of its own accord at an instant keeps a property. -/
structure Steady (listen : Listener σ) (now : Nat) (P : Signaling σ → Prop) : Prop where
  receive : ∀ {w : Signaling σ}, P w → P (w.receive now)
  rest : ∀ {w : Signaling σ} {s : Signaler}, P w → w.signaler.Step s none →
    P { w with signaler := s }
  launch : ∀ {w : Signaling σ} {s : Signaler} {typing : Bool}, P w →
    w.signaler.Step s (some typing) → P (launch listen { w with signaler := s } now typing)

/-- Settling ends when the signaler rests. -/
theorem settleIn_rest {w : Signaling σ} {s : Signaler} {now rounds : Nat}
    (h : (w.receive now).signaler.turn now = (s, none)) :
    settleIn listen now (rounds + 1) w = { w.receive now with signaler := s } := by
  simp only [settleIn, h]

/-- Settling goes on after a signal. -/
theorem settleIn_launch {w : Signaling σ} {s : Signaler} {typing : Bool} {now rounds : Nat}
    (h : (w.receive now).signaler.turn now = (s, some typing)) :
    settleIn listen now (rounds + 1) w =
      settleIn listen now rounds (launch listen { w.receive now with signaler := s } now typing) := by
  simp only [settleIn, h]

/-- What the turns at an instant keep, settling keeps. -/
theorem settleIn_keeps {now : Nat} {P : Signaling σ → Prop}
    (hreceive : ∀ {w : Signaling σ}, P w → P (w.receive now))
    (hrest : ∀ {w : Signaling σ} {s : Signaler}, P w → w.signaler.Turns now s none →
      P { w with signaler := s })
    (hlaunch : ∀ {w : Signaling σ} {s : Signaler} {typing : Bool}, P w →
      w.signaler.Turns now s (some typing) →
      P (launch listen { w with signaler := s } now typing))
    (rounds : Nat) {w : Signaling σ} (hw : P w) : P (settleIn listen now rounds w) := by
  induction rounds generalizing w with
  | zero => exact hw
  | succ rounds ih =>
      have hreceived := hreceive hw
      rcases hturn : (w.receive now).signaler.turn now with ⟨s, _ | typing⟩
      · rw [settleIn_rest hturn]
        exact hrest hreceived (Signaler.turns_of_turn hturn)
      · rw [settleIn_launch hturn]
        exact ih (hlaunch hreceived (Signaler.turns_of_turn hturn))

theorem Steady.settleIn {now : Nat} {P : Signaling σ → Prop} (h : Steady listen now P)
    (rounds : Nat) {w : Signaling σ} (hw : P w) : P (settleIn listen now rounds w) :=
  settleIn_keeps h.receive (fun hv hturns => h.rest hv hturns.step)
    (fun hv hturns => h.launch hv hturns.step) rounds hw

/-- The signaler knows what it has seen, a signal is on its way when it says
so, and what was said makes sense. -/
structure Sound (w : Signaling σ) : Prop where
  signaler : w.signaler.Sound
  sending : w.over?.isSome = w.signaler.phase.isSending
  told : Told w.signaler.owes (w.signals.map SentSignal.typing)

theorem sound_new (request : RequestId) (heartbeat : Nat) (server : σ) :
    (new request heartbeat server).Sound :=
  ⟨Signaler.Sound.new heartbeat, rfl, .nothing⟩

namespace Sound

variable {w : Signaling σ}

theorem receive (h : w.Sound) (now : Nat) : (w.receive now).Sound := by
  rcases w.receive_eq now with hover | hsame
  · rw [hover]
    refine ⟨h.signaler.sent, (Signaler.isSending_sent _).symm, ?_⟩
    rw [Signaler.owes_sent]
    exact h.told
  · rw [hsame]
    exact h

theorem rest (h : w.Sound) {s : Signaler} (hstep : w.signaler.Step s none) :
    Sound { w with signaler := s } where
  signaler := h.signaler.step hstep
  sending := h.sending.trans hstep.isSending_of_none.symm
  told := by
    rw [hstep.owes_of_none]
    exact h.told

theorem launch (h : w.Sound) {s : Signaler} {typing : Bool} (now : Nat)
    (hstep : w.signaler.Step s (some typing)) :
    (launch listen { w with signaler := s } now typing).Sound where
  signaler := h.signaler.step hstep
  sending := hstep.isSending_of_some.2.symm
  told := by
    show Told s.owes ((w.signals ++ [SentSignal.mk now w.request typing]).map SentSignal.typing)
    rw [List.map_append]
    cases typing with
    | true =>
        rw [hstep.owes_of_true]
        exact .types h.told
    | false =>
        obtain ⟨howed, hpaid⟩ := hstep.owes_of_false
        rw [hpaid]
        exact .ceases (howed ▸ h.told)

theorem modify (h : w.Sound) (f : Composer → Composer) : (w.modify f).Sound where
  signaler := h.signaler.modify f
  sending := by
    show w.over?.isSome = (w.signaler.modify f).phase.isSending
    rw [Signaler.phase_modify]
    exact h.sending
  told := by
    show Told (w.signaler.modify f).owes (w.signals.map SentSignal.typing)
    rw [Signaler.owes_modify]
    exact h.told

theorem close (h : w.Sound) : w.close.Sound :=
  ⟨h.signaler.close, h.sending, h.told⟩

end Sound

/-- From one state of a signaler to a later one the composer was not changed,
and what was signalled meanwhile fits it. -/
structure Grown (meanwhile : Nat → Prop) (w v : Signaling σ) : Prop where
  composer : v.signaler.composer = w.signaler.composer
  closed : v.signaler.closed = w.signaler.closed
  request : v.request = w.request
  signals : ∃ later, v.signals = w.signals ++ later ∧
    ∀ x ∈ later, meanwhile x.time ∧ x.request = w.request ∧ w.signaler.Fits x.typing

namespace Grown

variable {meanwhile meanwhile' : Nat → Prop} {u v w : Signaling σ}

/-- Nothing was signalled. -/
theorem of_signals (composer : v.signaler.composer = w.signaler.composer)
    (closed : v.signaler.closed = w.signaler.closed) (request : v.request = w.request)
    (signals : v.signals = w.signals) : Grown meanwhile w v :=
  ⟨composer, closed, request, [], by simp [signals], by simp⟩

theorem refl (w : Signaling σ) : Grown meanwhile w w :=
  of_signals rfl rfl rfl rfl

theorem fits_iff (h : Grown meanwhile w v) (typing : Bool) :
    v.signaler.Fits typing ↔ w.signaler.Fits typing := by
  unfold Signaler.Fits
  rw [h.composer, h.closed]

theorem trans (h : Grown meanwhile u v) (h' : Grown meanwhile v w) : Grown meanwhile u w := by
  obtain ⟨first, hfirst, hfits⟩ := h.signals
  obtain ⟨second, hsecond, hfits'⟩ := h'.signals
  refine ⟨h'.composer.trans h.composer, h'.closed.trans h.closed, h'.request.trans h.request,
    first ++ second, ?_, ?_⟩
  · rw [hsecond, hfirst, List.append_assoc]
  · intro x hx
    rcases List.mem_append.mp hx with hx | hx
    · exact hfits x hx
    · obtain ⟨htime, hrequest, hfit⟩ := hfits' x hx
      exact ⟨htime, hrequest.trans h.request, (h.fits_iff x.typing).mp hfit⟩

theorem mono (h : Grown meanwhile w v) (hmono : ∀ t, meanwhile t → meanwhile' t) :
    Grown meanwhile' w v := by
  obtain ⟨later, hlater, hfits⟩ := h.signals
  refine ⟨h.composer, h.closed, h.request, later, hlater, ?_⟩
  intro x hx
  obtain ⟨htime, hrest⟩ := hfits x hx
  exact ⟨hmono x.time htime, hrest⟩

theorem receive (w : Signaling σ) (now : Nat) : Grown meanwhile w (w.receive now) := by
  rcases w.receive_eq now with hover | hsame
  · rw [hover]
    exact of_signals (Signaler.composer_sent _) (Signaler.closed_sent _) rfl rfl
  · rw [hsame]
    exact refl w

/-- A signal that is sent fits the composer. -/
theorem launch {s : Signaler} {typing : Bool} {now : Nat} (hnow : meanwhile now) (h : w.Sound)
    (hstep : w.signaler.Step s (some typing)) :
    Grown meanwhile w (launch listen { w with signaler := s } now typing) := by
  refine ⟨hstep.composer, hstep.closed, rfl, [⟨now, w.request, typing⟩], rfl, ?_⟩
  intro x hx
  cases List.mem_singleton.mp hx
  exact ⟨hnow, rfl, h.signaler.fits hstep⟩

/-- Whatever a signaler does, what it tells fits the composer. -/
theorem steady {now : Nat} (hnow : meanwhile now) (u : Signaling σ) :
    Steady listen now fun w => w.Sound ∧ Grown meanwhile u w where
  receive h := ⟨h.1.receive now, h.2.trans (receive _ now)⟩
  rest h hstep := ⟨h.1.rest hstep, h.2.trans (of_signals hstep.composer hstep.closed rfl rfl)⟩
  launch h hstep := ⟨h.1.launch now hstep, h.2.trans (Grown.launch hnow h.1 hstep)⟩

end Grown

/-- An instant between two, or the first of them. -/
def During (first last t : Nat) : Prop :=
  first ≤ t ∧ (t = first ∨ t < last)

variable {w : Signaling σ} (listen : Listener σ)

theorem settle_grown (h : w.Sound) (now : Nat) :
    (w.settle listen now).Sound ∧ Grown (During now now) w (w.settle listen now) := by
  have hnow : During now now now := ⟨Nat.le_refl now, Or.inl rfl⟩
  exact (Grown.steady hnow w).settleIn rounds ⟨h, .refl w⟩

/-- **While time passes a signaler tells what the user does.** -/
theorem advance_grown (h : w.Sound) (now span : Nat) :
    (w.advance listen now span).Sound ∧
      Grown (During now (now + span)) w (w.advance listen now span) := by
  refine Timeline.advance_keeps_until
    (P := fun v => v.Sound ∧ Grown (During now (now + span)) w v) ?_ ⟨h, .refl w⟩
  intro t v ht hv
  have hduring : During now (now + span) t := by
    unfold During
    omega
  exact (Grown.steady hduring w).settleIn rounds hv

theorem perform_sound (h : w.Sound) (now : Nat) (act : Act) : (w.perform listen now act).Sound := by
  cases act with
  | edit e => exact h.modify e.apply
  | pass span => exact (advance_grown listen h now span).1

/-- **Signals, signaler and the signal on its way agree whatever is done.** -/
theorem run_sound (now : Nat) (acts : List Act) (h : w.Sound) : (run listen now acts w).Sound := by
  induction acts generalizing now w with
  | nil => exact h
  | cons act rest ih => exact ih (now + act.span) (perform_sound listen h now act)

/-- An act shapes the composer and nothing else. -/
theorem perform_composer (h : w.Sound) (now : Nat) (act : Act) :
    (w.perform listen now act).signaler.composer = act.compose w.signaler.composer ∧
      (w.perform listen now act).signaler.closed = w.signaler.closed ∧
      (w.perform listen now act).request = w.request := by
  cases act with
  | edit e => exact ⟨Signaler.composer_modify _ _, Signaler.closed_modify _ _, rfl⟩
  | pass span =>
      have hgrown := (advance_grown listen h now span).2
      exact ⟨hgrown.composer, hgrown.closed, hgrown.request⟩

theorem run_composer (now : Nat) (acts : List Act) (h : w.Sound) :
    (run listen now acts w).signaler.composer = acts.foldl Act.compose w.signaler.composer ∧
      (run listen now acts w).signaler.closed = w.signaler.closed ∧
      (run listen now acts w).request = w.request := by
  induction acts generalizing now w with
  | nil => exact ⟨rfl, rfl, rfl⟩
  | cons act rest ih =>
      obtain ⟨hcomposer, hclosed, hrequest⟩ := perform_composer listen h now act
      obtain ⟨hcomposer', hclosed', hrequest'⟩ :=
        ih (now + act.span) (perform_sound listen h now act)
      rw [hcomposer] at hcomposer'
      exact ⟨hcomposer', hclosed'.trans hclosed, hrequest'.trans hrequest⟩

/-- The signaler has seen the composer unless a signal is on its way. -/
def Looked (w : Signaling σ) : Prop :=
  w.over? = none → w.signaler.unseen = false

/-- An open signaler is never finished, so it waits when no signal is on its
way. -/
theorem Sound.waits (h : w.Sound) (hopen : w.signaler.closed = false) (hover : w.over? = none) :
    w.signaler.phase = .waiting := by
  have hidle : w.signaler.phase.isSending = false := by
    rw [← h.sending, hover]
    rfl
  rcases Signaler.Phase.eq_waiting_or_finished hidle with hwaits | hfinished
  · exact hwaits
  · have hclosed : w.signaler.closed = true := h.signaler.last (by rw [hfinished]; rfl)
    cases hopen.symm.trans hclosed

/-- A signaler that rests has looked at the composer. -/
theorem looked_rest (h : w.Sound) (hopen : w.signaler.closed = false) {s : Signaler}
    (hstep : w.signaler.Step s none) : Looked { w with signaler := s } := by
  intro hover
  have hwaits := h.waits hopen hover
  cases hstep with
  | stays busy => exact absurd hwaits busy
  | rests => rfl
  | finishes => rfl

/-- An open signaler looks at the composer when it settles, if it does anything
at all. -/
theorem settleIn_looked {now rounds : Nat} (h : w.Sound) (hopen : w.signaler.closed = false)
    (hstart : 0 < rounds ∨ w.Looked) : (settleIn listen now rounds w).Looked := by
  induction rounds generalizing w with
  | zero =>
      rcases hstart with hpos | hlooked
      · exact absurd hpos (Nat.lt_irrefl 0)
      · exact hlooked
  | succ rounds ih =>
      have hopen' := (closed_receive w now).trans hopen
      rcases hturn : (w.receive now).signaler.turn now with ⟨s, _ | typing⟩
      · rw [settleIn_rest hturn]
        exact looked_rest (h.receive now) hopen' (Signaler.step_of_turn hturn)
      · have hstep := Signaler.step_of_turn hturn
        have hlaunched : (launch listen { w.receive now with signaler := s } now typing).Looked := by
          intro hover
          cases hover
        rw [settleIn_launch hturn]
        exact ih ((h.receive now).launch now hstep) (hstep.closed.trans hopen') (Or.inr hlaunched)

/-- When time has passed an open signaler has looked at the composer. -/
theorem advance_looked (h : w.Sound) (hopen : w.signaler.closed = false) (now span : Nat) :
    (w.advance listen now span).Looked := by
  have hsettle : ∀ t (v : Signaling σ), (v.Sound ∧ v.signaler.closed = false) ∧ v.Looked →
      ((v.settle listen t).Sound ∧ (v.settle listen t).signaler.closed = false) ∧
        (v.settle listen t).Looked := by
    rintro t v ⟨⟨hv, hvopen⟩, -⟩
    obtain ⟨hsound, hgrown⟩ := settle_grown listen hv t
    exact ⟨⟨hsound, hgrown.closed.trans hvopen⟩,
      settleIn_looked listen hv hvopen (Or.inl (by decide))⟩
  obtain ⟨hsound, hgrown⟩ := settle_grown listen h now
  unfold advance
  rw [Timeline.advance_eq]
  exact (Timeline.onward_keeps hsettle
    ⟨⟨hsound, hgrown.closed.trans hopen⟩,
      settleIn_looked listen h hopen (Or.inl (by decide))⟩).2

/-- **What was told last is true** when time has passed and no signal is on its
way. -/
theorem lastTold_advance (h : w.Sound) (hopen : w.signaler.closed = false) (now span : Nat)
    (hover : (w.advance listen now span).over? = none) :
    (w.advance listen now span).lastTold = w.signaler.composer.isTyping := by
  obtain ⟨hsound, hgrown⟩ := advance_grown listen h now span
  have hwaits := hsound.waits (hgrown.closed.trans hopen) hover
  have hseen := hsound.signaler.seen (advance_looked listen h hopen now span hover)
  rw [lastTold, hsound.told.getLast?_getD, Signaler.owes, hwaits, hseen, hgrown.composer]
  exact Bool.and_true _

end Docket.Signaling
