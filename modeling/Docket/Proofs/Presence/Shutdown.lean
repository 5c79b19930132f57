import Docket.Proofs.Presence.Signaling

/-!
# The end of a signaler

When the composer is closed there are at most three signals more: one that is
on its way, one for a change that nobody has looked at, and one that says that
nobody types. The signaler waits for each of them, and is finished then. So
the rounds of a shutdown are enough, whatever the server does.

* `shutdown_finished` — a signaler that is shut down comes to its end.
* `advance_of_finished` — and tells nothing any more.
* `signals_follow_composer` — what is told from the beginning to the end, and
  when.
-/

namespace Docket.Signaling

variable {σ : Type} (listen : Listener σ) {w : Signaling σ} {now : Nat}

/-- The signal that is on its way, if there is one, has arrived by then. -/
def Arrived (now : Nat) (w : Signaling σ) : Prop :=
  ∀ time, w.over? = some time → time ≤ now

/-- The signaler is finished, or its signal will arrive later. -/
def Settled (now : Nat) (w : Signaling σ) : Prop :=
  w.signaler.phase = .finished ∨ ∃ time, w.over? = some time ∧ now < time

theorem over?_receive (harrived : w.Arrived now) : (w.receive now).over? = none := by
  unfold receive
  split
  next time hover => rw [if_pos (harrived time hover)]
  next hover => exact hover

theorem exists_over_of_not_arrived (h : ¬ w.Arrived now) :
    ∃ time, w.over? = some time ∧ now < time := by
  unfold Arrived at h
  simp only [Classical.not_forall, Nat.not_le] at h
  obtain ⟨time, hover, hlater⟩ := h
  exact ⟨time, hover, hlater⟩

/-- A signal that will arrive later is waited for. -/
theorem receive_of_lt {time : Nat} (hover : w.over? = some time) (hlater : now < time) :
    w.receive now = w := by
  have hnot : ¬ time ≤ now := by omega
  rw [receive, hover]
  simp only [if_neg hnot]

theorem left_receive_le (w : Signaling σ) (now : Nat) :
    (w.receive now).signaler.left ≤ w.signaler.left := by
  rcases w.receive_eq now with hover | hsame
  · rw [hover]
    exact Signaler.left_sent_le _
  · exact Nat.le_of_eq (congrArg (fun v => v.signaler.left) hsame)

/-- Nothing is done while a signal is on its way. -/
theorem settleIn_of_lt (h : w.Sound) {time : Nat} (hover : w.over? = some time)
    (hlater : now < time) (rounds : Nat) : settleIn listen now rounds w = w := by
  cases rounds with
  | zero => rfl
  | succ rounds =>
      have hreceive := receive_of_lt hover hlater
      have hsending : w.signaler.phase.isSending = true := by
        rw [← h.sending, hover]
        rfl
      have hbusy : w.signaler.phase ≠ .waiting := by
        intro hwaits
        rw [hwaits] at hsending
        cases hsending
      have hturn := Signaler.turn_of_busy hbusy now
      rw [← hreceive] at hturn
      rw [settleIn_rest hturn, hreceive]

/-- A closed signaler settles within as many rounds as it may act, and it is
nearer to its end if its signal has arrived. -/
theorem settleIn_closed {rounds : Nat} (h : w.Sound) (hclosed : w.signaler.closed = true)
    (hleft : w.signaler.left ≤ rounds) :
    Settled now (settleIn listen now rounds w) ∧
      (settleIn listen now rounds w).signaler.left ≤ w.signaler.left ∧
      (w.Arrived now → (settleIn listen now rounds w).signaler.left ≤ w.signaler.left - 1) := by
  induction rounds generalizing w with
  | zero =>
      have hzero : w.signaler.left = 0 := by omega
      refine ⟨Or.inl (Signaler.left_eq_zero_iff.mp hzero), Nat.le_refl _, fun _ => ?_⟩
      show w.signaler.left ≤ w.signaler.left - 1
      omega
  | succ rounds ih =>
      by_cases harrived : w.Arrived now
      · suffices hnearer : Settled now (settleIn listen now (rounds + 1) w) ∧
            (settleIn listen now (rounds + 1) w).signaler.left ≤ w.signaler.left - 1 from
          ⟨hnearer.1, Nat.le_trans hnearer.2 (Nat.sub_le _ _), fun _ => hnearer.2⟩
        have hreceived := h.receive now
        have hnear := left_receive_le w now
        have hclosed' : (w.receive now).signaler.closed = true :=
          (closed_receive w now).trans hclosed
        have hidle : (w.receive now).signaler.phase.isSending = false := by
          rw [← hreceived.sending, over?_receive harrived]
          rfl
        rcases Signaler.Phase.eq_waiting_or_finished hidle with hwaits | hfinished
        · rcases hturn : (w.receive now).signaler.turn now with ⟨s, _ | typing⟩
          · have hstep : (w.receive now).signaler.Step s none := Signaler.step_of_turn hturn
            have hlt := hstep.left_lt hclosed' hwaits
            rw [settleIn_rest hturn]
            refine ⟨Or.inl (hstep.finished_of_none hclosed' hwaits), ?_⟩
            show s.left ≤ w.signaler.left - 1
            omega
          · have hstep : (w.receive now).signaler.Step s (some typing) :=
              Signaler.step_of_turn hturn
            have hlt := hstep.left_lt hclosed' hwaits
            have hlaunched :
                (launch listen { w.receive now with signaler := s } now typing).Sound :=
              hreceived.launch now hstep
            have hless : s.left ≤ rounds := by omega
            obtain ⟨hsettled, hle, -⟩ := ih hlaunched (hstep.closed.trans hclosed') hless
            rw [settleIn_launch hturn]
            have hfirst : s.left ≤ w.signaler.left - 1 := by omega
            exact ⟨hsettled, Nat.le_trans hle hfirst⟩
        · have hbusy : (w.receive now).signaler.phase ≠ .waiting := by
            rw [hfinished]
            decide
          have hzero := Signaler.left_eq_zero_iff.mpr hfinished
          rw [settleIn_rest (Signaler.turn_of_busy hbusy now)]
          refine ⟨Or.inl hfinished, ?_⟩
          show (w.receive now).signaler.left ≤ w.signaler.left - 1
          omega
      · obtain ⟨time, hover, hlater⟩ := exists_over_of_not_arrived harrived
        rw [settleIn_of_lt listen h hover hlater]
        exact ⟨Or.inr ⟨time, hover, hlater⟩, Nat.le_refl _, fun h => absurd h harrived⟩

/-- A closed signaler settles within the rounds that there are. -/
theorem settle_closed (h : w.Sound) (hclosed : w.signaler.closed = true) (now : Nat) :
    Settled now (w.settle listen now) ∧
      (w.settle listen now).signaler.left ≤ w.signaler.left ∧
      (w.Arrived now → (w.settle listen now).signaler.left ≤ w.signaler.left - 1) :=
  settleIn_closed listen h hclosed
    (Nat.le_trans w.signaler.left_le_three (by decide : 3 ≤ rounds))

theorem Sound.over?_of_finished (h : w.Sound) (hfinished : w.signaler.phase = .finished) :
    w.over? = none := by
  have hnone : w.over?.isSome = false := by
    rw [h.sending, hfinished]
    rfl
  simpa using hnone

/-- A finished signaler owes nothing. -/
theorem Sound.told_of_finished (h : w.Sound) (hfinished : w.signaler.phase = .finished) :
    Told false (w.signals.map SentSignal.typing) := by
  have howes : w.signaler.owes = false := by
    rw [Signaler.owes, hfinished]
    exact Bool.and_false _
  rw [← howes]
  exact h.told

/-- A finished signaler has nothing more to do. -/
theorem Sound.next?_of_finished (h : w.Sound) (hfinished : w.signaler.phase = .finished) :
    w.next? = none := by
  rw [next?, h.over?_of_finished hfinished]
  simp [Signaler.due?, hfinished]

/-- A closed signaler is finished at once, or goes on when its signal arrives. -/
theorem drain_succ (h : w.Sound) (hclosed : w.signaler.closed = true) (n now : Nat) :
    (w.settle listen now).signaler.phase = .finished ∧
        w.drain listen (n + 1) now = (now, w.settle listen now) ∨
      ∃ time, now < time ∧ (w.settle listen now).Arrived time ∧
        w.drain listen (n + 1) now = (w.settle listen now).drain listen n time := by
  obtain ⟨hsettled, -⟩ := settle_closed listen h hclosed now
  rcases hsettled with hfinished | ⟨time, hover, hlater⟩
  · refine Or.inl ⟨hfinished, ?_⟩
    rw [drain, (settle_grown listen h now).1.next?_of_finished hfinished]
  · refine Or.inr ⟨time, hlater, ?_, ?_⟩
    · intro time' hover'
      cases hover.symm.trans hover'
      exact Nat.le_refl time
    · have hnext : (w.settle listen now).next? = some time := by
        rw [next?, hover]
      rw [drain, hnext]

/-- A closed signaler runs to its end. -/
theorem drain_finished {n : Nat} (h : w.Sound) (hclosed : w.signaler.closed = true)
    (hleft : w.signaler.left ≤ n) (hslack : ¬ w.Arrived now → w.signaler.left < n) :
    (w.drain listen n now).2.signaler.phase = .finished := by
  induction n generalizing w now with
  | zero => exact Signaler.left_eq_zero_iff.mp (Nat.le_zero.mp hleft)
  | succ n ih =>
      obtain ⟨hsound, hgrown⟩ := settle_grown listen h now
      obtain ⟨-, hle, hless⟩ := settle_closed listen h hclosed now
      rcases drain_succ listen h hclosed n now with ⟨hfinished, hdrain⟩ |
        ⟨time, hlater, harrived, hdrain⟩
      · rw [hdrain]
        exact hfinished
      · rw [hdrain]
        have hnearer : (w.settle listen now).signaler.left ≤ n := by
          by_cases hhere : w.Arrived now
          · have hnear := hless hhere
            omega
          · have hspare := hslack hhere
            omega
        exact ih hsound (hgrown.closed.trans hclosed) hnearer fun hnot => absurd harrived hnot

/-- What is told on the way to the end fits the composer. -/
theorem drain_grown (h : w.Sound) (hclosed : w.signaler.closed = true) (n now : Nat) :
    now ≤ (w.drain listen n now).1 ∧ (w.drain listen n now).2.Sound ∧
      Grown (fun t => now ≤ t ∧ t ≤ (w.drain listen n now).1) w (w.drain listen n now).2 := by
  induction n generalizing w now with
  | zero => exact ⟨Nat.le_refl now, h, .refl w⟩
  | succ n ih =>
      obtain ⟨hsound, hgrown⟩ := settle_grown listen h now
      rcases drain_succ listen h hclosed n now with ⟨-, hdrain⟩ |
        ⟨time, hlater, -, hdrain⟩
      · rw [hdrain]
        refine ⟨Nat.le_refl now, hsound, hgrown.mono ?_⟩
        intro t ht
        unfold During at ht
        omega
      · obtain ⟨htime, hsound', hgrown'⟩ := ih hsound (hgrown.closed.trans hclosed) time
        rw [hdrain]
        refine ⟨by omega, hsound', ?_⟩
        refine Grown.trans (hgrown.mono ?_) (hgrown'.mono ?_)
        · intro t ht
          unfold During at ht
          omega
        · intro t ht
          omega

/-- **A signaler that has been shut down is finished.** -/
theorem shutdown_finished (h : w.Sound) (now : Nat) :
    (w.shutdown listen now).2.signaler.phase = .finished := by
  have hslack : w.signaler.left < rounds :=
    Nat.lt_of_le_of_lt w.signaler.left_le_three (by decide)
  exact drain_finished listen h.close rfl (Nat.le_of_lt hslack) fun _ => hslack

theorem settle_of_finished (h : w.Sound) (hfinished : w.signaler.phase = .finished) (now : Nat) :
    w.settle listen now = w := by
  have hbusy : w.signaler.phase ≠ .waiting := by
    rw [hfinished]
    decide
  have hreceive : w.receive now = w := by
    rw [receive, h.over?_of_finished hfinished]
  have hturn := Signaler.turn_of_busy hbusy now
  rw [← hreceive] at hturn
  rw [settle, rounds, settleIn_rest hturn, hreceive]

/-- Time passes, and a finished signaler tells nothing. -/
theorem advance_of_finished (h : w.Sound) (hfinished : w.signaler.phase = .finished)
    (now span : Nat) : w.advance listen now span = w :=
  Timeline.advance_of_settled (settle_of_finished listen h hfinished now)
    (h.next?_of_finished hfinished)

variable (request : RequestId) (heartbeat : Nat) (server : σ) (start : Nat)

/-- A new signaler with which all this was done knows the composer, and may be
told more. -/
theorem run_new (acts : List Act) :
    (run listen start acts (new request heartbeat server)).Sound ∧
      (run listen start acts (new request heartbeat server)).signaler.composer = composed acts ∧
      (run listen start acts (new request heartbeat server)).signaler.closed = false ∧
      (run listen start acts (new request heartbeat server)).request = request :=
  ⟨run_sound listen start acts (sound_new request heartbeat server),
    run_composer listen start acts (sound_new request heartbeat server)⟩

/-- What is told while something is done is what the user does. An edit tells
nothing. -/
theorem perform_tells (past : List Act) (act : Act) :
    ∃ told : List SentSignal,
      (run listen start (past ++ [act]) (new request heartbeat server)).signals
        = (run listen start past (new request heartbeat server)).signals ++ told ∧
      ∀ x ∈ told, x.request = request ∧ x.typing = (composed past).isTyping ∧
        ∃ span, act = .pass span ∧
          During (done start past) (done start past + span) x.time := by
  obtain ⟨hsound, hcomposer, hclosed, hrequest⟩ :=
    run_new listen request heartbeat server start past
  rw [run_append]
  cases act with
  | edit e => exact ⟨[], (List.append_nil _).symm, fun x hx => absurd hx List.not_mem_nil⟩
  | pass span =>
      obtain ⟨told, htold, hfits⟩ :=
        (advance_grown listen hsound (done start past) span).2.signals
      refine ⟨told, htold, ?_⟩
      intro x hx
      obtain ⟨hduring, hsame, hfit⟩ := hfits x hx
      refine ⟨hsame.trans hrequest, ?_, span, rfl, hduring⟩
      rcases hfit with htyping | ⟨hclosed', -⟩
      · rw [htyping, hcomposer]
      · cases hclosed.symm.trans hclosed'

/-- What is told while the signaler is shut down is in order: that the user
types only if he does. -/
theorem shutdown_tells (acts : List Act) :
    ∃ told : List SentSignal,
      ((run listen start acts (new request heartbeat server)).shutdown listen
          (done start acts)).2.signals
        = (run listen start acts (new request heartbeat server)).signals ++ told ∧
      ∀ x ∈ told, x.request = request ∧
        (x.typing = true → (composed acts).isTyping = true) ∧
        done start acts ≤ x.time ∧
        x.time ≤ ((run listen start acts (new request heartbeat server)).shutdown listen
          (done start acts)).1 := by
  obtain ⟨hsound, hcomposer, -, hrequest⟩ := run_new listen request heartbeat server start acts
  obtain ⟨-, -, hgrown⟩ := drain_grown listen hsound.close rfl rounds (done start acts)
  obtain ⟨told, htold, hfits⟩ := hgrown.signals
  refine ⟨told, htold, ?_⟩
  intro x hx
  obtain ⟨⟨hbegun, hover⟩, hsame, hfit⟩ := hfits x hx
  refine ⟨hsame.trans hrequest, ?_, hbegun, hover⟩
  intro htyping
  rcases hfit with htrue | ⟨-, hfalse⟩
  · rw [← hcomposer, ← htyping, htrue]
    rfl
  · cases htyping.symm.trans hfalse

/-- When time has passed and no signal is on its way, what was told last is
what the user does. -/
theorem lastTold_pass (past : List Act) (span : Nat)
    (hover : (run listen start (past ++ [.pass span])
      (new request heartbeat server)).over? = none) :
    (run listen start (past ++ [.pass span]) (new request heartbeat server)).lastTold
      = (composed past).isTyping := by
  obtain ⟨hsound, hcomposer, hclosed, -⟩ := run_new listen request heartbeat server start past
  rw [run_append] at hover ⊢
  rw [← hcomposer]
  exact lastTold_advance listen hsound hclosed (done start past) span hover

/-- **A signaler tells what the user does.** Whatever is done to the composer,
and however long the server takes and whatever it answers: what was told when
the signaler has been shut down are blocks, each that the user types, once or
more, and once that he does not. All that is told while time passes is what
the composer says at that instant, and when no signal is on its way any more
it has been told. Edits tell nothing themselves, and during the shutdown
nobody is said to type who does not. Afterwards nothing is told any more. -/
theorem signals_follow_composer (acts : List Act) :
    let after := fun past => run listen start past (new request heartbeat server)
    let ended := (after acts).shutdown listen (done start acts)
    (∃ blocks : List Nat, ended.2.signals.map SentSignal.typing = blocks.flatMap block) ∧
      (∀ past act later, acts = past ++ act :: later → ∃ told,
        (after (past ++ [act])).signals = (after past).signals ++ told ∧
        ∀ x ∈ told, x.request = request ∧ x.typing = (composed past).isTyping ∧
          ∃ span, act = .pass span ∧
            During (done start past) (done start past + span) x.time) ∧
      (∀ past span later, acts = past ++ .pass span :: later →
        (after (past ++ [.pass span])).over? = none →
        (after (past ++ [.pass span])).lastTold = (composed past).isTyping) ∧
      (∃ told, ended.2.signals = (after acts).signals ++ told ∧
        ∀ x ∈ told, x.request = request ∧
          (x.typing = true → (composed acts).isTyping = true) ∧
          done start acts ≤ x.time ∧ x.time ≤ ended.1) ∧
      ∀ now span, ended.2.advance listen now span = ended.2 := by
  intro after ended
  obtain ⟨hsound, -⟩ := run_new listen request heartbeat server start acts
  have hfinished := shutdown_finished listen hsound (done start acts)
  obtain ⟨-, hended, -⟩ := drain_grown listen hsound.close rfl rounds (done start acts)
  refine ⟨?_, ?_, ?_, shutdown_tells listen request heartbeat server start acts, ?_⟩
  · exact (hended.told_of_finished hfinished).exists_blocks_of_paid
  · intro past act later _
    exact perform_tells listen request heartbeat server start past act
  · intro past span later _ hover
    exact lastTold_pass listen request heartbeat server start past span hover
  · intro now span
    exact advance_of_finished listen hended hfinished now span

end Docket.Signaling
