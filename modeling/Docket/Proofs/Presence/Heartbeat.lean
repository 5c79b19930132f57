import Docket.Presence.Script
import Docket.Proofs.Presence.Pace
import Mathlib.Data.List.Infix

/-!
# Heartbeats on time

While a user types he is said to at every heartbeat, whatever else is done to
the composer. When he ceases to, or nobody can change the composer any more,
this is said at once if no signal is on its way, and else at the instant at
which that signal is over. Nothing else is said before that, and nothing
afterwards. Instants are ideal here: a timer that rounds up to milliseconds
says it on time when the heartbeat and what the server takes are whole ones.

* `Beating`, `advance_beating` — the heartbeats of a user who goes on typing.
* `Awaiting.settle` — what a signaler does that has to take its last signal
  back.
* `Ceasing`, `advance_ceasing`, `drain_ceases` — it does so once and on time.
* `signals_keep_time` — what is told from the beginning to the end, and when.
-/

namespace Docket.Signaling

variable {σ : Type} {listen : Listener σ} {request : RequestId} {heartbeat : Nat}
  {before : List SentSignal} {now : Nat} {w : Signaling σ}

/-- The user types, and since an instant at which he was said to he has been
said to at every heartbeat. -/
structure Beating (listen : Listener σ) (heartbeat first : Nat) (before : List SentSignal)
    (now : Nat) (w : Signaling σ) : Prop where
  unclosed : w.signaler.closed = false
  typing : w.signaler.composer.isTyping = true
  beats : ∃ count, Paced listen heartbeat (some (first + count * heartbeat)) now w ∧
    w.signals = before ++ beating w.request heartbeat (first + heartbeat) count

namespace Beating

variable {first : Nat}

theorem paced (h : Beating listen heartbeat first before now w) :
    ∃ owed, Paced listen heartbeat owed now w := by
  obtain ⟨count, hpaced, -⟩ := h.beats
  exact ⟨_, hpaced⟩

theorem receive (h : Beating listen heartbeat first before now w) :
    Beating listen heartbeat first before now (w.receive now) := by
  obtain ⟨count, hpaced, hsignals⟩ := h.beats
  refine ⟨(closed_receive w now).trans h.unclosed, ?_, count, hpaced.receive, ?_⟩
  · rw [composer_receive]
    exact h.typing
  · rw [signals_receive, request_receive]
    exact hsignals

/-- The only signal of a user who goes on typing is his heartbeat. -/
theorem launch (h : Beating listen heartbeat first before now w) {s : Signaler}
    {typing : Bool} (hturns : w.signaler.Turns now s (some typing)) :
    Beating listen heartbeat first before now
      (Signaling.launch listen { w with signaler := s } now typing) := by
  obtain ⟨count, hpaced, hsignals⟩ := h.beats
  obtain ⟨htick, -, hsoon⟩ := hpaced.due _ rfl
  have hlaunched := hpaced.launch hturns
  refine ⟨hturns.step.closed.trans h.unclosed, ?_, ?_⟩
  · show s.composer.isTyping = true
    rw [hturns.step.composer]
    exact h.typing
  have hbeat : typing = true ∧ now = first + (count + 1) * heartbeat := by
    generalize htold : some typing = told? at hturns
    cases hturns with
    | begins waits unseen composes idle => cases hpaced.owed_eq_none waits idle
    | beats waits active looked unclosed due =>
        refine ⟨Option.some.inj htold, ?_⟩
        rw [Nat.add_mul, Nat.one_mul]
        omega
    | ceases waits unseen idle => cases h.typing.symm.trans idle
    | ends waits active looked closed => cases h.unclosed.symm.trans closed
    | stays | rests | finishes => cases htold
  obtain ⟨rfl, hnow⟩ := hbeat
  refine ⟨count + 1, hnow ▸ hlaunched, ?_⟩
  show w.signals ++ [⟨now, w.request, true⟩] = _
  rw [hsignals, beating_succ, List.append_assoc, hnow]
  have hshift : first + heartbeat + count * heartbeat = first + (count + 1) * heartbeat := by
    rw [Nat.add_mul, Nat.one_mul]
    omega
  rw [hshift]
  rfl

theorem settle (h : Beating listen heartbeat first before now w) :
    Beating listen heartbeat first before now (w.settle listen now) := by
  refine settleIn_keeps (P := Beating listen heartbeat first before now)
    receive ?_ (fun hv hturns => hv.launch hturns) rounds h
  intro v s hv hturns
  obtain ⟨count, hpaced, hsignals⟩ := hv.beats
  refine ⟨hturns.step.closed.trans hv.unclosed, ?_, count, hpaced.rest hturns, hsignals⟩
  show s.composer.isTyping = true
  rw [hturns.step.composer]
  exact hv.typing

end Beating

/-- The passage of time brings heartbeats. -/
theorem advance_beating {first : Nat} (hpos : 0 < heartbeat)
    (h : Beating listen heartbeat first before now w) (span : Nat) :
    Beating listen heartbeat first before (now + span) (w.advance listen now span) := by
  refine Timeline.advance_arrives (P := Beating listen heartbeat first before)
    (Q := fun t v => Beating listen heartbeat first before t v ∧ Rested t v)
    ?_ ?_ (Nat.le_add_right now span) h
  · intro t v hv
    obtain ⟨owed, hpaced⟩ := hv.paced
    exact ⟨hv.settle, settle_rested hpaced hpos hv.unclosed⟩
  · rintro t v later ⟨hv, hrested⟩ hle hnext
    obtain ⟨count, hpaced, hsignals⟩ := hv.beats
    exact ⟨hv.unclosed, hv.typing, count, hpaced.wait_rested hrested hle hnext, hsignals⟩

/-- **A user who goes on typing is said to at every heartbeat**, whatever is
done to the composer. -/
theorem run_beating {first : Nat} (hpos : 0 < heartbeat)
    (h : Beating listen heartbeat first before now w) {acts : List Act}
    (htyping : ∀ part, part <+: acts →
      (part.foldl Act.compose w.signaler.composer).isTyping = true) :
    Beating listen heartbeat first before (done now acts) (run listen now acts w) := by
  obtain ⟨owed, hpaced⟩ := h.paced
  refine run_keeps (P := Beating listen heartbeat first before)
    (C := fun c => c.isTyping = true) ?_ ?_ hpaced.sound htyping h
  · intro t v e hv hcomposes
    obtain ⟨count, hpaced', hsignals⟩ := hv.beats
    refine ⟨(Signaler.closed_modify _ _).trans hv.unclosed, ?_, count,
      hpaced'.modify e.apply, hsignals⟩
    show (v.signaler.modify e.apply).composer.isTyping = true
    rw [Signaler.composer_modify]
    exact hcomposes
  · intro t v span hv
    exact advance_beating hpos hv span

/-- The first instant at which the signaler can send a signal. -/
def free (w : Signaling σ) (now : Nat) : Nat :=
  w.over?.getD now

theorem Paced.le_free {owed : Option Nat} (h : Paced listen heartbeat owed now w) :
    now ≤ w.free now := by
  unfold free
  cases hover : w.over? with
  | none => exact Nat.le_refl now
  | some ending => exact (h.flight ending hover).1

/-- A signaler that has said that the user types can take it back within a
heartbeat. -/
theorem Paced.free_le {last : Nat} (h : Paced listen heartbeat (some last) now w) :
    w.free now ≤ now + heartbeat := by
  unfold free
  cases hover : w.over? with
  | none => exact Nat.le_add_right now heartbeat
  | some ending =>
      obtain ⟨-, hbegun, -⟩ := h.due last rfl
      have hsoon := h.over_le rfl hover
      show ending ≤ now + heartbeat
      omega

/-- It was said last that the user types, and the signaler must take this back:
he does not type, or nobody can change the composer any more. -/
structure Awaiting (listen : Listener σ) (heartbeat instant : Nat) (before : List SentSignal)
    (now : Nat) (w : Signaling σ) : Prop where
  paced : ∃ last, Paced listen heartbeat (some last) now w
  must : w.signaler.closed = true ∨ w.signaler.composer.isTyping = false
  free : w.free now = instant
  signals : w.signals = before

/-- Nothing is owed, and nothing has happened that is to be told. -/
structure Hushed (w : Signaling σ) : Prop where
  paid : w.signaler.owes = false
  looked : w.signaler.unseen = true → w.signaler.composer.isTyping = false

namespace Hushed

theorem receive (h : w.Hushed) (now : Nat) : (w.receive now).Hushed := by
  rcases w.receive_eq now with hover | hsame
  · rw [hover]
    refine ⟨(Signaler.owes_sent _).trans h.paid, ?_⟩
    show w.signaler.sent.unseen = true → w.signaler.sent.composer.isTyping = false
    rw [Signaler.unseen_sent, Signaler.composer_sent]
    exact h.looked
  · rw [hsame]
    exact h

theorem rest (h : w.Hushed) {s : Signaler} (hturns : w.signaler.Turns now s none) :
    Hushed { w with signaler := s } := by
  refine ⟨hturns.step.owes_of_none.trans h.paid, ?_⟩
  cases hturns with
  | stays => exact h.looked
  | rests | finishes => exact fun hunseen => Bool.noConfusion hunseen

/-- Whoever is hushed sends no signal. -/
theorem not_turns (h : w.Hushed) {s : Signaler} {typing : Bool} :
    ¬ w.signaler.Turns now s (some typing) := by
  intro hturns
  have hidle : w.signaler.phase = .waiting → w.signaler.active = true → False := by
    intro hwaits hactive
    have howes := (Signaler.owes_of_waiting hwaits).trans hactive
    cases h.paid.symm.trans howes
  generalize htold : some typing = told? at hturns
  cases hturns with
  | begins waits unseen composes => cases (h.looked unseen).symm.trans composes
  | ceases waits unseen idle active => exact hidle waits active
  | beats waits active => exact hidle waits active
  | ends waits active => exact hidle waits active
  | stays | rests | finishes => cases htold

theorem settleIn (h : w.Hushed) (listen : Listener σ) (now rounds : Nat) :
    (settleIn listen now rounds w).Hushed ∧
      (settleIn listen now rounds w).signals = w.signals := by
  refine settleIn_keeps (P := fun v => v.Hushed ∧ v.signals = w.signals) ?_ ?_ ?_ rounds ⟨h, rfl⟩
  · rintro v ⟨hv, hsignals⟩
    exact ⟨hv.receive now, (signals_receive v now).trans hsignals⟩
  · rintro v s ⟨hv, hsignals⟩ hturns
    exact ⟨hv.rest hturns, hsignals⟩
  · rintro v s typing ⟨hv, -⟩ hturns
    exact absurd hturns hv.not_turns

/-- Until its end a signaler that is hushed tells nothing. -/
theorem drain (h : w.Hushed) (rounds now : Nat) :
    (w.drain listen rounds now).2.signals = w.signals := by
  induction rounds generalizing w now with
  | zero => rfl
  | succ rounds ih =>
      obtain ⟨hsettled, hsignals⟩ := h.settleIn listen now Signaling.rounds
      cases hnext : (w.settle listen now).next? with
      | none =>
          simp only [Signaling.drain, hnext]
          exact hsignals
      | some time =>
          simp only [Signaling.drain, hnext]
          exact (ih hsettled time).trans hsignals

end Hushed

/-- Who must take back that the user types, and waits, does so at once. -/
theorem ceases_of_turns (h : w.Sound) {s : Signaler} {told? : Option Bool}
    (waits : w.signaler.phase = .waiting) (active : w.signaler.active = true)
    (must : w.signaler.closed = true ∨ w.signaler.composer.isTyping = false)
    (hturns : w.signaler.Turns now s told?) : told? = some false ∧ s.unseen = false := by
  have hunlooked : (w.signaler.unseen = true → w.signaler.composer.isTyping = w.signaler.active) →
      w.signaler.closed = false → False := by
    intro looked unclosed
    have htyping := (h.signaler.active_of_looked looked).symm.trans active
    rcases must with hclosed | hidle
    · cases unclosed.symm.trans hclosed
    · cases hidle.symm.trans htyping
  cases hturns with
  | stays busy => exact absurd waits busy
  | begins _ unseen composes idle => cases idle.symm.trans active
  | ceases => exact ⟨rfl, rfl⟩
  | beats _ _ looked unclosed => exact (hunlooked looked unclosed).elim
  | rests _ looked unclosed => exact (hunlooked looked unclosed).elim
  | ends => exact ⟨rfl, rfl⟩
  | finishes _ idle => cases idle.symm.trans active

variable {instant : Nat}

/-- Who must take back that the user types does so when no signal is on its way,
and nothing before. -/
theorem Awaiting.settle (h : Awaiting listen heartbeat instant before now w) :
    now < instant ∧ w.over? = some instant ∧ w.settle listen now = w ∨
      now = instant ∧ (w.settle listen now).Hushed ∧
        (w.settle listen now).signals = before ++ [⟨instant, w.request, false⟩] := by
  obtain ⟨last, hpaced⟩ := h.paced
  have hfree := h.free
  by_cases harrived : w.Arrived now
  · have hnow : now = instant := by
      rw [← hfree, Signaling.free]
      cases hover : w.over? with
      | none => rfl
      | some ending => exact Nat.le_antisymm (hpaced.flight ending hover).1 (harrived ending hover)
    have hreceived := hpaced.receive
    have hidle : (w.receive now).signaler.phase.isSending = false := by
      rw [← hreceived.sound.sending, over?_receive harrived]
      rfl
    have howes : (w.receive now).signaler.owes = true := hreceived.owes
    obtain ⟨hwaits, hactive⟩ := Signaler.waits_of_owes hidle howes
    have hmust : (w.receive now).signaler.closed = true ∨
        (w.receive now).signaler.composer.isTyping = false := by
      rw [closed_receive, composer_receive]
      exact h.must
    rcases hturn : (w.receive now).signaler.turn now with ⟨s, told?⟩
    have hturns := Signaler.turns_of_turn hturn
    obtain ⟨rfl, hseen⟩ := ceases_of_turns hreceived.sound hwaits hactive hmust hturns
    -- the first turn takes the signal back, and the turns behind it tell nothing
    have hhushed : (launch listen { w.receive now with signaler := s } now false).Hushed :=
      ⟨hturns.step.owes_of_false.2, fun hunseen => by cases hseen.symm.trans hunseen⟩
    obtain ⟨hsettled, hsignals⟩ := hhushed.settleIn listen now 3
    refine Or.inr ⟨hnow, ?_⟩
    rw [Signaling.settle, rounds, settleIn_launch hturn]
    refine ⟨hsettled, hsignals.trans ?_⟩
    show (w.receive now).signals ++ [⟨now, (w.receive now).request, false⟩] = _
    rw [signals_receive, request_receive, h.signals, hnow]
  · obtain ⟨ending, hover, hlater⟩ := exists_over_of_not_arrived harrived
    have hat : ending = instant := by
      rw [← hfree, Signaling.free, hover]
      rfl
    rw [hat] at hover hlater
    exact Or.inl ⟨hlater, hover, settleIn_of_lt listen hpaced.sound hover hlater rounds⟩

/-- What a signaler does that has to take its last signal back, and has no more
to tell afterwards. -/
structure Ceasing (listen : Listener σ) (heartbeat instant : Nat) (before : List SentSignal)
    (now : Nat) (w : Signaling σ) : Prop where
  sound : w.Sound
  idle : w.signaler.composer.isTyping = false
  told : Awaiting listen heartbeat instant before now w ∨
    instant ≤ now ∧ w.Hushed ∧ w.signals = before ++ [⟨instant, w.request, false⟩]

theorem Ceasing.settle (h : Ceasing listen heartbeat instant before now w) :
    Ceasing listen heartbeat instant before now (w.settle listen now) ∧
      (Awaiting listen heartbeat instant before now (w.settle listen now) →
        now < instant ∧ (w.settle listen now).over? = some instant) := by
  obtain ⟨hsound, hgrown⟩ := settle_grown listen h.sound now
  have hidle : (w.settle listen now).signaler.composer.isTyping = false := by
    rw [hgrown.composer]
    exact h.idle
  rcases h.told with hawaits | ⟨hpast, hhushed, hsignals⟩
  · rcases hawaits.settle with ⟨hlater, hover, hsame⟩ | ⟨hnow, hhushed, hsignals⟩
    · rw [hsame]
      exact ⟨⟨h.sound, h.idle, Or.inl hawaits⟩, fun _ => ⟨hlater, hover⟩⟩
    · rw [← hgrown.request] at hsignals
      refine ⟨⟨hsound, hidle, Or.inr ⟨Nat.le_of_eq hnow.symm, hhushed, hsignals⟩⟩, ?_⟩
      intro hawaits'
      obtain ⟨last, hpaced⟩ := hawaits'.paced
      cases hhushed.paid.symm.trans hpaced.owes
  · obtain ⟨hsettled, hsame⟩ := hhushed.settleIn listen now rounds
    rw [← hgrown.request] at hsignals
    refine ⟨⟨hsound, hidle, Or.inr ⟨hpast, hsettled, hsame.trans hsignals⟩⟩, ?_⟩
    intro hawaits'
    obtain ⟨last, hpaced⟩ := hawaits'.paced
    cases hsettled.paid.symm.trans hpaced.owes

theorem advance_ceasing (h : Ceasing listen heartbeat instant before now w) (span : Nat) :
    Ceasing listen heartbeat instant before (now + span) (w.advance listen now span) := by
  refine Timeline.advance_arrives (P := Ceasing listen heartbeat instant before)
    (Q := fun t v => Ceasing listen heartbeat instant before t v ∧
      (Awaiting listen heartbeat instant before t v → t < instant ∧ v.over? = some instant))
    (fun t v hv => hv.settle) ?_ (Nat.le_add_right now span) h
  rintro t v later ⟨hv, hwaits⟩ hle hnext
  refine ⟨hv.sound, hv.idle, ?_⟩
  rcases hv.told with hawaits | ⟨hpast, htold⟩
  · obtain ⟨hlater, hover⟩ := hwaits hawaits
    have hdue : v.next? = some instant := by rw [next?, hover]
    obtain ⟨last, hpaced⟩ := hawaits.paced
    refine Or.inl ⟨⟨last, hpaced.wait hle ?_⟩, hawaits.must, ?_, hawaits.signals⟩
    · intro next hsame
      cases hdue.symm.trans hsame
      have hnot := hnext instant hdue
      omega
    · rw [free, hover]
      rfl
  · exact Or.inr ⟨Nat.le_trans hpast hle, htold⟩

/-- **That the user has ceased to type is said once**, as soon as no signal is
on its way, if he does not begin again. -/
theorem run_ceasing (h : Ceasing listen heartbeat instant before now w) {acts : List Act}
    (hidle : ∀ part, part <+: acts →
      (part.foldl Act.compose w.signaler.composer).isTyping = false) :
    Ceasing listen heartbeat instant before (done now acts) (run listen now acts w) := by
  refine run_keeps (P := Ceasing listen heartbeat instant before)
    (C := fun c => c.isTyping = false) ?_ ?_ h.sound hidle h
  · intro t v e hv hcomposes
    have hcomposer : (v.modify e.apply).signaler.composer.isTyping = false := by
      show (v.signaler.modify e.apply).composer.isTyping = false
      rw [Signaler.composer_modify]
      exact hcomposes
    refine ⟨hv.sound.modify e.apply, hcomposer, ?_⟩
    rcases hv.told with hawaits | ⟨hpast, hhushed, hsignals⟩
    · obtain ⟨last, hpaced⟩ := hawaits.paced
      exact Or.inl ⟨⟨last, hpaced.modify e.apply⟩, Or.inr hcomposer, hawaits.free,
        hawaits.signals⟩
    · refine Or.inr ⟨hpast, ⟨(Signaler.owes_modify _ _).trans hhushed.paid, fun _ => hcomposer⟩,
        hsignals⟩
  · intro t v span hv
    exact advance_ceasing hv span

/-- Behind its last signal a signaler comes to its end without another one. -/
theorem Hushed.drain_of_settle (h : (w.settle listen now).Hushed) (rounds : Nat) :
    (w.drain listen (rounds + 1) now).2.signals = (w.settle listen now).signals := by
  cases hnext : (w.settle listen now).next? with
  | none => simp only [Signaling.drain, hnext]
  | some time =>
      simp only [Signaling.drain, hnext]
      exact h.drain rounds time

/-- **When nobody can change the composer any more it is said once that the user
has ceased to type**, as soon as no signal is on its way. -/
theorem drain_ceases (h : Awaiting listen heartbeat instant before now w) (rounds : Nat) :
    (w.drain listen (rounds + 2) now).2.signals = before ++ [⟨instant, w.request, false⟩] := by
  rcases h.settle with ⟨hlater, hover, hsame⟩ | ⟨-, hhushed, hsignals⟩
  · have hnext : w.next? = some instant := by rw [next?, hover]
    have hdrain : w.drain listen (rounds + 2) now = w.drain listen (rounds + 1) instant := by
      rw [drain, hsame, hnext]
    obtain ⟨last, hpaced⟩ := h.paced
    have harrived : Awaiting listen heartbeat instant before instant w := by
      refine ⟨⟨last, hpaced.wait (Nat.le_of_lt hlater) ?_⟩, h.must, ?_, h.signals⟩
      · intro next hdue
        cases hnext.symm.trans hdue
        exact Nat.le_refl instant
      · rw [free, hover]
        rfl
    rw [hdrain]
    rcases harrived.settle with ⟨hnever, -⟩ | ⟨-, hhushed, hsignals⟩
    · exact absurd hnever (Nat.lt_irrefl instant)
    · exact (hhushed.drain_of_settle rounds).trans hsignals
  · exact (hhushed.drain_of_settle (rounds + 1)).trans hsignals

theorem done_append (start : Nat) (past later : List Act) :
    done start (past ++ later) = done (done start past) later :=
  List.foldl_append

theorem composed_append (past later : List Act) :
    composed (past ++ later) = later.foldl Act.compose (composed past) :=
  List.foldl_append

variable (listen) (request) (server : σ) (start : Nat)

/-- Whatever has been done with a new signaler, it keeps time. -/
theorem run_new_keeping (hpos : 0 < heartbeat) (acts : List Act) :
    Keeping listen heartbeat (done start acts)
      (run listen start acts (new request heartbeat server)) :=
  run_keeping hpos ⟨rfl, none, paced_new listen request heartbeat server start⟩ acts

/-- Heartbeats go on from the last signal of a user who goes on typing. -/
theorem beats_go_on (hpos : 0 < heartbeat) {past later : List Act} {first : Nat}
    (hlast : (run listen start past (new request heartbeat server)).signals.getLast? =
      some ⟨first, request, true⟩)
    (htyping : ∀ part, part <+: later → (composed (past ++ part)).isTyping = true) :
    ∃ count,
      (run listen start (past ++ later) (new request heartbeat server)).signals =
        (run listen start past (new request heartbeat server)).signals ++
          beating request heartbeat (first + heartbeat) count ∧
      first + count * heartbeat ≤ done start (past ++ later) ∧
      done start (past ++ later) ≤ first + (count + 1) * heartbeat := by
  obtain ⟨hopen, owed, hpaced⟩ := run_new_keeping listen request server start hpos past
  obtain ⟨-, hcomposer, -, hrequest⟩ := run_new listen request heartbeat server start past
  obtain ⟨-, -, -, hrequest'⟩ := run_new listen request heartbeat server start (past ++ later)
  have howed : owed = some first := by
    apply hpaced.owed_of_getLast?
    rw [hrequest]
    exact hlast
  have hbegun : Beating listen heartbeat first
      (run listen start past (new request heartbeat server)).signals (done start past)
      (run listen start past (new request heartbeat server)) := by
    refine ⟨hopen, ?_, 0, ?_, by simp [beating]⟩
    · rw [hcomposer, ← List.append_nil past]
      exact htyping [] List.nil_prefix
    · rw [Nat.zero_mul, Nat.add_zero, ← howed]
      exact hpaced
  have htyping' : ∀ part, part <+: later →
      (part.foldl Act.compose
        (run listen start past (new request heartbeat server)).signaler.composer).isTyping
        = true := by
    intro part hpart
    rw [hcomposer, ← composed_append]
    exact htyping part hpart
  have hbeating := run_beating hpos hbegun htyping'
  rw [← run_append, ← done_append] at hbeating
  obtain ⟨count, hpaced', hsignals⟩ := hbeating.beats
  obtain ⟨-, hbegan, hsoon⟩ := hpaced'.due _ rfl
  rw [hrequest'] at hsignals
  refine ⟨count, hsignals, hbegan, ?_⟩
  rw [Nat.add_mul, Nat.one_mul]
  omega

/-- What was told last is taken back once, as soon as no signal is on its way,
if the user has ceased to type and does not begin again. -/
theorem ceases_once (hpos : 0 < heartbeat) {past later : List Act}
    (htold : (run listen start past (new request heartbeat server)).lastTold = true)
    (hidle : ∀ part, part <+: later → (composed (past ++ part)).isTyping = false) :
    let after := fun acts => run listen start acts (new request heartbeat server)
    let instant := (after past).free (done start past)
    (after (past ++ later)).signals = (after past).signals ∧ done start (past ++ later) ≤ instant ∨
      (after (past ++ later)).signals = (after past).signals ++ [⟨instant, request, false⟩] ∧
        instant ≤ done start (past ++ later) := by
  intro after instant
  obtain ⟨-, owed, hpaced⟩ := run_new_keeping listen request server start hpos past
  obtain ⟨hsound, hcomposer, -⟩ := run_new listen request heartbeat server start past
  obtain ⟨-, -, -, hrequest⟩ := run_new listen request heartbeat server start (past ++ later)
  obtain ⟨last, rfl⟩ := Option.isSome_iff_exists.mp (hpaced.lastTold.symm.trans htold)
  have hceased : (after past).signaler.composer.isTyping = false := by
    show (run listen start past (new request heartbeat server)).signaler.composer.isTyping = false
    rw [hcomposer, ← List.append_nil past]
    exact hidle [] List.nil_prefix
  have hbegun : Ceasing listen heartbeat instant (after past).signals (done start past)
      (after past) :=
    ⟨hsound, hceased, Or.inl ⟨⟨last, hpaced⟩, Or.inr hceased, rfl, rfl⟩⟩
  have hidle' : ∀ part, part <+: later →
      (part.foldl Act.compose
        (run listen start past (new request heartbeat server)).signaler.composer).isTyping
        = false := by
    intro part hpart
    rw [hcomposer, ← composed_append]
    exact hidle part hpart
  have hceasing := run_ceasing hbegun hidle'
  rw [← run_append, ← done_append] at hceasing
  rcases hceasing.told with hawaits | ⟨hpast, -, hsignals⟩
  · obtain ⟨last', hpaced'⟩ := hawaits.paced
    exact Or.inl ⟨hawaits.signals, hawaits.free ▸ hpaced'.le_free⟩
  · rw [hrequest] at hsignals
    exact Or.inr ⟨hsignals, hpast⟩

/-- What was told last is taken back once by a signaler that is shut down, as soon
as no signal is on its way. -/
theorem shutdown_ceases (hpos : 0 < heartbeat) {acts : List Act}
    (htold : (run listen start acts (new request heartbeat server)).lastTold = true) :
    let after := run listen start acts (new request heartbeat server)
    (after.shutdown listen (done start acts)).2.signals =
      after.signals ++ [⟨after.free (done start acts), request, false⟩] := by
  intro after
  obtain ⟨-, owed, hpaced⟩ := run_new_keeping listen request server start hpos acts
  obtain ⟨-, -, -, hrequest⟩ := run_new listen request heartbeat server start acts
  obtain ⟨last, rfl⟩ := Option.isSome_iff_exists.mp (hpaced.lastTold.symm.trans htold)
  have hawaits : Awaiting listen heartbeat (after.free (done start acts)) after.signals
      (done start acts) after.close :=
    ⟨⟨last, hpaced.close⟩, Or.inl rfl, rfl, rfl⟩
  have hdrain := drain_ceases hawaits 2
  have hrequest' : after.close.request = request := hrequest
  rw [hrequest'] at hdrain
  exact hdrain

/-- **Signals keep time.** Whatever is done to the composer, and however long
the server takes, what a signaler tells is stretches: the user is said to type
at an instant and at every heartbeat after it, and to have ceased to before the
next one is overdue. While he goes on typing no edit puts off a heartbeat. When
he has ceased to, and does not begin again, or when the signaler is shut down,
this is said at that very instant if no signal is on its way, and else when that
signal is over, which is when it has been answered or a heartbeat after it was
sent. So it takes a heartbeat at most. -/
theorem signals_keep_time (hpos : 0 < heartbeat) (acts : List Act) :
    let after := fun past => run listen start past (new request heartbeat server)
    let instant := fun past => (after past).free (done start past)
    let ended := (after acts).shutdown listen (done start acts)
    (∃ stretches : List Stretch,
        ended.2.signals = stretches.flatMap (Stretch.signals request heartbeat) ∧
        ∀ x ∈ stretches, x.Complete heartbeat) ∧
      (∀ past later first, acts = past ++ later →
        (after past).signals.getLast? = some ⟨first, request, true⟩ →
        (∀ part, part <+: later → (composed (past ++ part)).isTyping = true) →
        ∃ count,
          (after acts).signals =
            (after past).signals ++ beating request heartbeat (first + heartbeat) count ∧
          first + count * heartbeat ≤ done start acts ∧
          done start acts ≤ first + (count + 1) * heartbeat) ∧
      (∀ past later, acts = past ++ later → (after past).lastTold = true →
        (∀ part, part <+: later → (composed (past ++ part)).isTyping = false) →
        (after acts).signals = (after past).signals ∧ done start acts ≤ instant past ∨
          (after acts).signals = (after past).signals ++ [⟨instant past, request, false⟩] ∧
            instant past ≤ done start acts) ∧
      ((after acts).lastTold = true →
        ended.2.signals = (after acts).signals ++ [⟨instant acts, request, false⟩]) ∧
      ∀ past,
        ((after past).over? = none → instant past = done start past) ∧
        (∀ ending, (after past).over? = some ending →
          instant past = ending ∧ done start past ≤ ending ∧
            UnderWay listen heartbeat (after past) ending) ∧
        ((after past).lastTold = true → instant past ≤ done start past + heartbeat) := by
  intro after instant ended
  refine ⟨?_, ?_, ?_, ?_, ?_⟩
  · obtain ⟨-, owed, hpaced⟩ := run_new_keeping listen request server start hpos acts
    obtain ⟨-, -, -, hrequest⟩ := run_new listen request heartbeat server start acts
    have hintime := shutdown_inTime hpaced
    rw [hrequest] at hintime
    obtain ⟨stretches, rest, hsignals, hcomplete, hrest, -⟩ := hintime.exists_stretches
    refine ⟨stretches, ?_, hcomplete⟩
    rw [hrest rfl, List.append_nil] at hsignals
    exact hsignals
  · rintro past later first rfl hlast htyping
    exact beats_go_on listen request server start hpos hlast htyping
  · rintro past later rfl htold hidle
    exact ceases_once listen request server start hpos htold hidle
  · exact shutdown_ceases listen request server start hpos
  · intro past
    obtain ⟨-, owed, hpaced⟩ := run_new_keeping listen request server start hpos past
    refine ⟨?_, ?_, ?_⟩
    · intro hnone
      show (after past).over?.getD (done start past) = done start past
      rw [hnone]
      rfl
    · intro ending hover
      obtain ⟨hlater, hunder⟩ := hpaced.flight ending hover
      refine ⟨?_, hlater, hunder⟩
      show (after past).over?.getD (done start past) = ending
      rw [hover]
      rfl
    · intro htold
      obtain ⟨last, rfl⟩ := Option.isSome_iff_exists.mp (hpaced.lastTold.symm.trans htold)
      exact hpaced.free_le

/-- A heartbeat of ten, and a server that takes seven to hear that the user
types. An edit after the second signal does not put off the third, and that he
has ceased to type is said when the third is over. -/
theorem signals_keep_time_past_slow_signals :
    let after := fun acts => run (.steady 7 3 (.ok ())) 0 acts (new ⟨"R1"⟩ 10 ())
    let typed := [Act.edit (.update ⟨true, false, "a"⟩), .pass 12]
    let ceased := typed ++ [.edit (.draft "ab"), .pass 10, .edit (.focus false)]
    0 < 10 ∧
      (after (typed ++ [.edit (.draft "ab"), .pass 10])).signals =
        (after typed).signals ++ [⟨20, ⟨"R1"⟩, true⟩] ∧
      (after (ceased ++ [.pass 8])).signals =
        (after ceased).signals ++ [⟨27, ⟨"R1"⟩, false⟩] ∧
      ((after ceased).shutdown (.steady 7 3 (.ok ())) 22).2.signals =
        (after ceased).signals ++ [⟨27, ⟨"R1"⟩, false⟩] := by
  intro after typed ceased
  have hkeeps := signals_keep_time (.steady 7 3 (.ok ())) ⟨"R1"⟩ () 0 (by decide : 0 < 10)
  refine ⟨by decide, ?_, ?_, ?_⟩
  · have hlast : (after typed).signals.getLast? = some ⟨10, ⟨"R1"⟩, true⟩ := by
      dsimp only [after, typed]
      cbv
    obtain ⟨count, hsignals, hbegan, hsoon⟩ :=
      (hkeeps (typed ++ [.edit (.draft "ab"), .pass 10])).2.1 typed _ 10 rfl hlast (by
        intro part hpart
        rw [← List.mem_inits] at hpart
        simp only [List.inits, List.mem_cons, List.map, List.not_mem_nil, or_false] at hpart
        rcases hpart with rfl | rfl | rfl <;> decide +kernel)
    have hdone : done 0 (typed ++ [.edit (.draft "ab"), .pass 10]) = 22 := rfl
    have hcount : count = 1 := by omega
    rw [hcount] at hsignals
    exact hsignals
  · have htold : (after ceased).lastTold = true := by cbv
    have hinstant : (after ceased).free (done 0 ceased) = 27 := by cbv
    rcases (hkeeps (ceased ++ [.pass 8])).2.2.1 ceased _ rfl htold (by
        intro part hpart
        rw [← List.mem_inits] at hpart
        simp only [List.inits, List.mem_cons, List.map, List.not_mem_nil, or_false] at hpart
        rcases hpart with rfl | rfl <;> decide +kernel) with ⟨-, hearly⟩ | ⟨hsignals, -⟩
    · have hdone : done 0 (ceased ++ [.pass 8]) = 30 := rfl
      rw [hdone] at hearly
      have hnot : 30 ≤ 27 := hinstant ▸ hearly
      omega
    · exact hinstant ▸ hsignals
  · have htold : (after ceased).lastTold = true := by cbv
    have hinstant : (after ceased).free (done 0 ceased) = 27 := by cbv
    exact hinstant ▸ (hkeeps ceased).2.2.2.1 htold

end Docket.Signaling
