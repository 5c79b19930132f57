import Docket.Presence.Poller.Run
import Docket.Proofs.Presence.Poller
import Docket.Proofs.Timeline

/-!
# Pollers at work

A poller is told what to do, one thing after another, and time passes in
between. Whatever is done, whenever, and however the server answers, the log
of the poller tells one probe after another: no probe is sent before the last
one was answered or dropped.

* `run_keeps` — what every step of a poller keeps, every run keeps.
* `Sound` — the invariant: log, answer and session agree on whether a probe is
  outstanding.
* `run_sound` — it holds whatever is done with a new poller.
* `run_quiet` — nothing happens to a poller that watches nothing until it is
  started.
-/

namespace Docket.Polling

variable {σ : Type} {answer : Prober σ}

/-- What is done with a poller; time passes only where it is let to. -/
inductive Act where
  | start (request : RequestId) (seed : Cursor)
  | stop
  | nudge
  | setVisible (visible : Bool)
  | pass (span : Nat)

/-- How much time passes. -/
def Act.span : Act → Nat
  | .pass span => span
  | _ => 0

/-- The act starts the poller. -/
def Act.isStart : Act → Bool
  | .start _ _ => true
  | _ => false

/-- Does it. -/
def perform (answer : Prober σ) (now : Nat) (w : Polling σ) : Act → Polling σ
  | .start request seed => w.start now request seed
  | .stop => w.stop
  | .nudge => w.nudge
  | .setVisible visible => w.setVisible visible
  | .pass span => w.advance answer now span

/-- Does one thing after another. -/
def run (answer : Prober σ) : (now : Nat) → List Act → Polling σ → Polling σ
  | _, [], w => w
  | now, act :: rest, w => run answer (now + act.span) rest (w.perform answer now act)

/-- The instant at which everything is done. -/
def done (now : Nat) (acts : List Act) : Nat :=
  acts.foldl (fun now act => now + act.span) now

theorem run_append (now : Nat) (before after : List Act) (w : Polling σ) :
    run answer now (before ++ after) w =
      run answer (done now before) after (run answer now before w) := by
  induction before generalizing now w with
  | nil => rfl
  | cons act rest ih => exact ih (now + act.span) (w.perform answer now act)

/-- What a poller does of its own accord keeps a property. -/
structure Steady (answer : Prober σ) (P : Polling σ → Prop) : Prop where
  receive : ∀ {w : Polling σ} (now : Nat), P w → P (w.receive now)
  rest : ∀ {w : Polling σ} {p : Poller} {now : Nat}, P w → w.poller.turn now = (p, none) →
    P { w with poller := p }
  launch : ∀ {w : Polling σ} {p : Poller} {q : Probe} {now : Nat}, P w →
    w.poller.turn now = (p, some q) → P (launch answer { w with poller := p } now q)

/-- Whatever is done with a poller keeps a property, too. -/
structure Kept (answer : Prober σ) (P : Polling σ → Prop) : Prop extends Steady answer P where
  start : ∀ {w : Polling σ} (now : Nat) (request : RequestId) (seed : Cursor), P w →
    P (w.start now request seed)
  stop : ∀ {w : Polling σ}, P w → P w.stop
  nudge : ∀ {w : Polling σ}, P w → P w.nudge
  setVisible : ∀ {w : Polling σ} (visible : Bool), P w → P (w.setVisible visible)

/-- What answers and turns keep of a poller, a poller at work keeps. -/
theorem Steady.of_poller {Q : Poller → Prop}
    (hanswer : ∀ {p : Poller} (now : Nat) (outcome : Outcome Liveness), Q p →
      Q (p.answer now outcome))
    (hturn : ∀ {p p' : Poller} {q? : Option Probe} {now : Nat}, p.turn now = (p', q?) → Q p →
      Q p') : Steady answer fun w => Q w.poller where
  receive {w} now h := by
    unfold Polling.receive
    split
    · split
      · exact hanswer now _ h
      · exact h
    · exact h
  rest h hrest := hturn hrest h
  launch h hlaunch := hturn hlaunch h

/-- Settling ends when the poller rests. -/
theorem settleIn_rest {w : Polling σ} {p : Poller} {now rounds : Nat}
    (h : (w.receive now).poller.turn now = (p, none)) :
    settleIn answer now (rounds + 1) w = { w.receive now with poller := p } := by
  simp only [settleIn, h]

/-- Settling goes on after a probe. -/
theorem settleIn_launch {w : Polling σ} {p : Poller} {q : Probe} {now rounds : Nat}
    (h : (w.receive now).poller.turn now = (p, some q)) :
    settleIn answer now (rounds + 1) w =
      settleIn answer now rounds (launch answer { w.receive now with poller := p } now q) := by
  simp only [settleIn, h]

variable {P : Polling σ → Prop}

theorem Steady.settleIn (h : Steady answer P) (now rounds : Nat) {w : Polling σ} (hw : P w) :
    P (settleIn answer now rounds w) := by
  induction rounds generalizing w with
  | zero => exact hw
  | succ rounds ih =>
      have hreceived := h.receive now hw
      rcases hturn : (w.receive now).poller.turn now with ⟨p, _ | q⟩
      · rw [settleIn_rest hturn]
        exact h.rest hreceived hturn
      · rw [settleIn_launch hturn]
        exact ih (h.launch hreceived hturn)

theorem Steady.advance (h : Steady answer P) (now span : Nat) {w : Polling σ} (hw : P w) :
    P (w.advance answer now span) :=
  Timeline.advance_keeps (fun now _ hw => h.settleIn now rounds hw) hw

theorem Kept.perform (h : Kept answer P) (now : Nat) (act : Act) {w : Polling σ} (hw : P w) :
    P (w.perform answer now act) := by
  cases act with
  | start request seed => exact h.start now request seed hw
  | stop => exact h.stop hw
  | nudge => exact h.nudge hw
  | setVisible visible => exact h.setVisible visible hw
  | pass span => exact h.advance now span hw

/-- What every step of a poller keeps, every run keeps. -/
theorem run_keeps (h : Kept answer P) (now : Nat) (acts : List Act) {w : Polling σ} (hw : P w) :
    P (run answer now acts w) := by
  induction acts generalizing now w with
  | nil => exact hw
  | cons act rest ih => exact ih (now + act.span) (h.perform now act hw)

/-- The event sends a probe; every other event ends one. -/
def Event.isSent (e : Event) : Bool :=
  e.sent?.isSome

/-- How many probes were sent. -/
def sent (log : List Event) : Nat :=
  log.countP Event.isSent

/-- How many probes were answered or dropped. -/
def ended (log : List Event) : Nat :=
  log.countP fun e => !e.isSent

/-- Probes never overlap: however much of the log has happened, at most one
probe is outstanding. -/
def Serial (log : List Event) : Prop :=
  ∀ part, part <+: log → ended part ≤ sent part ∧ sent part ≤ ended part + 1

/-- The probe with this number, counted from zero, is outstanding. -/
def Awaits (w : Polling σ) (k : Nat) : Prop :=
  sent w.log = k + 1 ∧ ended w.log = k

@[simp] theorem sent_append (log : List Event) (e : Event) :
    sent (log ++ [e]) = sent log + if e.isSent then 1 else 0 := by
  simp [sent, List.countP_append, List.countP_cons]

@[simp] theorem ended_append (log : List Event) (e : Event) :
    ended (log ++ [e]) = ended log + if e.isSent then 0 else 1 := by
  cases h : e.isSent <;> simp [ended, List.countP_append, h]

/-- A log goes on being serial when the probes sent by its end are as many as
those that ended or one more. -/
theorem Serial.append {log : List Event} {e : Event} (h : Serial log)
    (hend : ended (log ++ [e]) ≤ sent (log ++ [e]) ∧ sent (log ++ [e]) ≤ ended (log ++ [e]) + 1) :
    Serial (log ++ [e]) := by
  intro part hpart
  rcases List.prefix_concat_iff.mp hpart with rfl | hpart
  · exact hend
  · exact h part hpart

theorem arriving?_drop (w : Polling σ) : w.drop.arriving? = none := by
  unfold drop
  split
  · rfl
  · simpa using ‹¬w.arriving?.isSome = true›

/-- To start what is watched already changes nothing. -/
theorem start_of_active {w : Polling σ} {request : RequestId}
    (h : w.poller.active? = some request) (now : Nat) (seed : Cursor) :
    w.start now request seed = w := by
  rw [start, if_pos h, Poller.start_of_active h]

/-- To start anything else drops the probe that is outstanding. -/
theorem start_of_other {w : Polling σ} {request : RequestId}
    (h : w.poller.active? ≠ some request) (now : Nat) (seed : Cursor) :
    w.start now request seed = { w.drop with poller := w.poller.start now request seed } := by
  rw [start, if_neg h]

/-- Log, answer and session agree on whether a probe is outstanding, the log
is serial, and a poller without a session publishes nothing. -/
structure Sound (w : Polling σ) : Prop where
  serial : Serial w.log
  outstanding : sent w.log = ended w.log + if w.arriving?.isSome then 1 else 0
  probing : w.poller.isProbing = w.arriving?.isSome
  tidy : w.poller.Tidy

theorem sound_new (policy : Backoff) (server : σ) : (new policy server).Sound where
  serial := by
    intro part hpart
    rw [List.prefix_nil.mp hpart]
    exact ⟨Nat.le_refl _, Nat.le_succ _⟩
  outstanding := rfl
  probing := rfl
  tidy := fun _ => rfl

namespace Sound

variable {w : Polling σ}

/-- A log that ends a probe which is outstanding stays serial, and none is
outstanding then. -/
theorem serial_end (h : w.Sound) (harriving : w.arriving?.isSome = true) {e : Event}
    (he : e.isSent = false) :
    Serial (w.log ++ [e]) ∧ sent (w.log ++ [e]) = ended (w.log ++ [e]) := by
  have hcount := h.outstanding
  rw [if_pos harriving] at hcount
  have hend : sent (w.log ++ [e]) = ended (w.log ++ [e]) := by
    simp [he, hcount]
  exact ⟨h.serial.append (by omega), hend⟩

theorem drop (h : w.Sound) : Serial w.drop.log ∧ sent w.drop.log = ended w.drop.log := by
  unfold Polling.drop
  by_cases harriving : w.arriving?.isSome = true
  · rw [if_pos harriving]
    exact h.serial_end harriving rfl
  · rw [if_neg harriving]
    have hcount := h.outstanding
    rw [if_neg harriving] at hcount
    exact ⟨h.serial, hcount⟩

/-- A poller that drops its probe may go on as any that does not wait. -/
theorem of_drop (h : w.Sound) {p : Poller} (hprobing : p.isProbing = false) (htidy : p.Tidy) :
    Sound { w.drop with poller := p } where
  serial := h.drop.1
  outstanding := by
    show sent w.drop.log = ended w.drop.log + if w.drop.arriving?.isSome then 1 else 0
    rw [h.drop.2, arriving?_drop]
    rfl
  probing := by
    show p.isProbing = w.drop.arriving?.isSome
    rw [hprobing, arriving?_drop]
    rfl
  tidy := htidy

theorem stop (h : w.Sound) : w.stop.Sound :=
  h.of_drop (Poller.isProbing_stop w.poller) h.tidy.stop

theorem start (h : w.Sound) (now : Nat) (request : RequestId) (seed : Cursor) :
    (w.start now request seed).Sound := by
  by_cases hactive : w.poller.active? = some request
  · rw [start_of_active hactive]
    exact h
  · rw [start_of_other hactive]
    exact h.of_drop (Poller.isProbing_start_of_other hactive now seed)
      (h.tidy.start now request seed)

theorem receive (h : w.Sound) (now : Nat) : (w.receive now).Sound := by
  unfold Polling.receive
  split
  · rename_i time outcome harriving
    split
    · have hend := h.serial_end (e := .answered now outcome) (by rw [harriving]; rfl) rfl
      exact ⟨hend.1, hend.2, Poller.isProbing_answer _ _ _, h.tidy.answer now outcome⟩
    · exact h
  · exact h

/-- A poller that turns to a probe has none outstanding. -/
theorem launch (h : w.Sound) {p : Poller} {q : Probe} {now : Nat}
    (hturn : w.poller.turn now = (p, some q)) :
    (launch answer { w with poller := p } now q).Sound := by
  obtain ⟨hidle, hprobing⟩ := Poller.isProbing_of_turn_some hturn
  have hcount := h.outstanding
  rw [← h.probing, hidle] at hcount
  have hsent : sent (w.log ++ [.sent ⟨now, q⟩]) = ended (w.log ++ [.sent ⟨now, q⟩]) + 1 := by
    simp [Event.isSent, Event.sent?, hcount]
  exact ⟨h.serial.append (by omega), hsent, hprobing, h.tidy.turn hturn⟩

/-- **Every step of a poller keeps log, answer and session in agreement.** -/
theorem kept : Kept answer fun w => w.Sound where
  receive now h := h.receive now
  rest h hturn :=
    ⟨h.serial, h.outstanding, (Poller.isProbing_of_turn_none hturn).trans h.probing,
      h.tidy.turn hturn⟩
  launch h hturn := h.launch hturn
  start now request seed h := h.start now request seed
  stop h := h.stop
  nudge {w} h :=
    ⟨h.serial, h.outstanding, (Poller.isProbing_nudge w.poller).trans h.probing, h.tidy.nudge⟩
  setVisible {w} visible h :=
    ⟨h.serial, h.outstanding, (Poller.isProbing_setVisible w.poller visible).trans h.probing,
      h.tidy.setVisible visible⟩

end Sound

/-- Log, answer and session agree whatever is done with a new poller. -/
theorem run_sound (policy : Backoff) (server : σ) (now : Nat) (acts : List Act) :
    (run answer now acts (new policy server)).Sound :=
  run_keeps Sound.kept now acts (sound_new policy server)

/-- Nothing is watched, published or on its way, and the log is this one. -/
structure Quiet (log : List Event) (w : Polling σ) : Prop where
  session : w.poller.session? = none
  snapshot : w.poller.snapshot = .empty
  arriving : w.arriving? = none
  log : w.log = log

/-- A poller that is stopped is quiet. -/
theorem Sound.quiet_stop {w : Polling σ} (h : w.Sound) : Quiet w.drop.log w.stop where
  session := Poller.session?_stop w.poller
  snapshot := h.tidy.stop (Poller.session?_stop w.poller)
  arriving := arriving?_drop w
  log := rfl

namespace Quiet

variable {log : List Event} {w : Polling σ}

theorem settleIn (h : Quiet log w) (now rounds : Nat) : settleIn answer now rounds w = w := by
  have hreceive : w.receive now = w := by
    rw [Polling.receive, h.arriving]
  have hturn : w.poller.turn now = (w.poller, none) := by
    rw [Poller.turn, h.session]
  cases rounds with
  | zero => rfl
  | succ rounds => rw [settleIn_rest (by rw [hreceive]; exact hturn), hreceive]

/-- Time passes and nothing happens. -/
theorem advance (h : Quiet log w) (now span : Nat) : w.advance answer now span = w := by
  refine Timeline.advance_of_settled (h.settleIn now rounds) ?_
  simp [next?, h.arriving, Poller.due?, h.session]

/-- A quiet poller stays quiet unless it is started. -/
theorem perform (h : Quiet log w) (now : Nat) {act : Act} (hact : act.isStart = false) :
    Quiet log (w.perform answer now act) := by
  cases act with
  | start request seed => cases hact
  | stop =>
      have hdrop : w.drop = w := by
        rw [drop, h.arriving]
        rfl
      have hstop : w.poller.stop = w.poller := by
        rw [Poller.stop, h.session]
        rfl
      show Quiet log { w.drop with poller := w.poller.stop }
      rw [hdrop, hstop]
      exact h
  | nudge =>
      show Quiet log { w with poller := w.poller.nudge }
      unfold Poller.nudge
      split
      · rename_i s hs
        exact absurd (h.session.symm.trans hs) (Option.some_ne_none s).symm
      · exact ⟨h.session, h.snapshot, h.arriving, h.log⟩
  | setVisible visible =>
      show Quiet log { w with poller := w.poller.setVisible visible }
      unfold Poller.setVisible
      split
      · exact h
      · exact ⟨by rw [h.session]; rfl, h.snapshot, h.arriving, h.log⟩
  | pass span =>
      show Quiet log (w.advance answer now span)
      rw [h.advance]
      exact h

end Quiet

/-- Nothing happens to a poller that watches nothing until it is started. -/
theorem run_quiet {log : List Event} (now : Nat) {acts : List Act}
    (hacts : ∀ act ∈ acts, act.isStart = false) {w : Polling σ} (h : Quiet log w) :
    Quiet log (run answer now acts w) := by
  induction acts generalizing now w with
  | nil => exact h
  | cons act rest ih =>
      rw [List.forall_mem_cons] at hacts
      exact ih (now + act.span) hacts.2 (h.perform now hacts.1)

end Docket.Polling
