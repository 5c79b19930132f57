import Docket.Proofs.Presence.Shutdown

/-!
# The pace of a signaler

A signal is given up after a heartbeat, and the next heartbeat is due a
heartbeat after the last one. So a signaler that is told what time it is never
finds that it is late: when a heartbeat is due no signal is on its way any
more, and it is said at that very instant that the user types. What keeps a
heartbeat from being lost is that an open signaler which has settled knows a
later instant at which it will act.

* `InTime` — signals of which each comes a heartbeat after the one before.
* `InTime.exists_stretches` — such signals are stretches.
* `Paced` — the invariant: the next heartbeat and the signal on its way fit the
  signals that were sent.
* `settleIn_paced`, `advance_paced`, `drain_paced`, `run_paced` — it holds
  whatever is done.
-/

namespace Docket.Signaling

variable {σ : Type}

/-- Signals for a request that keep time with a heartbeat: while the user types
each comes a heartbeat after the one before, and that he has ceased is said no
later than the next one would have been. If the last of them says that the user
types, its instant. -/
inductive InTime (request : RequestId) (heartbeat : Nat) : Option Nat → List SentSignal → Prop
  | nothing : InTime request heartbeat none []
  | begins {signals : List SentSignal} (now : Nat)
      (before : InTime request heartbeat none signals) :
      InTime request heartbeat (some now) (signals ++ [⟨now, request, true⟩])
  | beats {signals : List SentSignal} {last : Nat}
      (before : InTime request heartbeat (some last) signals) :
      InTime request heartbeat (some (last + heartbeat))
        (signals ++ [⟨last + heartbeat, request, true⟩])
  | ceases {signals : List SentSignal} {last now : Nat}
      (before : InTime request heartbeat (some last) signals) (later : last ≤ now)
      (soon : now ≤ last + heartbeat) :
      InTime request heartbeat none (signals ++ [⟨now, request, false⟩])

/-- It is said that the user types, at every heartbeat from an instant on. -/
def beating (request : RequestId) (heartbeat first count : Nat) : List SentSignal :=
  (List.range count).map fun k => ⟨first + k * heartbeat, request, true⟩

/-- A user types for some heartbeats after the first, and ceases. -/
structure Stretch where
  first : Nat
  beats : Nat
  last : Nat

namespace Stretch

/-- The signals of a stretch. -/
def signals (request : RequestId) (heartbeat : Nat) (x : Stretch) : List SentSignal :=
  beating request heartbeat x.first (x.beats + 1) ++ [⟨x.last, request, false⟩]

/-- No heartbeat is missing at the end of a stretch. -/
def Complete (heartbeat : Nat) (x : Stretch) : Prop :=
  x.first + x.beats * heartbeat ≤ x.last ∧ x.last ≤ x.first + (x.beats + 1) * heartbeat

end Stretch

variable {request : RequestId} {heartbeat : Nat} {owed : Option Nat} {signals : List SentSignal}

theorem beating_succ (request : RequestId) (heartbeat first count : Nat) :
    beating request heartbeat first (count + 1) =
      beating request heartbeat first count ++ [⟨first + count * heartbeat, request, true⟩] := by
  rw [beating, List.range_succ, List.map_append]
  rfl

/-- Signals in time are stretches, and the beginning of one if the last of them
says that the user types. -/
theorem InTime.exists_stretches (h : InTime request heartbeat owed signals) :
    ∃ (stretches : List Stretch) (rest : List SentSignal),
      signals = stretches.flatMap (Stretch.signals request heartbeat) ++ rest ∧
      (∀ x ∈ stretches, x.Complete heartbeat) ∧ (owed = none → rest = []) ∧
      ∀ last, owed = some last → ∃ first beats, last = first + beats * heartbeat ∧
        rest = beating request heartbeat first (beats + 1) := by
  induction h with
  | nothing => exact ⟨[], [], rfl, by simp, by simp, by simp⟩
  | begins now before ih =>
      obtain ⟨stretches, rest, rfl, hcomplete, hrest, -⟩ := ih
      refine ⟨stretches, [⟨now, request, true⟩], ?_, hcomplete, by simp, ?_⟩
      · rw [hrest rfl, List.append_nil]
      · intro last hlast
        cases hlast
        exact ⟨now, 0, by omega, by simp [beating]⟩
  | @beats signals last before ih =>
      obtain ⟨stretches, rest, rfl, hcomplete, -, hlast⟩ := ih
      obtain ⟨first, beats, rfl, rfl⟩ := hlast last rfl
      have hnext : first + beats * heartbeat + heartbeat = first + (beats + 1) * heartbeat := by
        rw [Nat.add_mul, Nat.one_mul, Nat.add_assoc]
      refine ⟨stretches, beating request heartbeat first (beats + 2), ?_, hcomplete, by simp, ?_⟩
      · rw [beating_succ _ _ _ (beats + 1), hnext, List.append_assoc]
      · intro last' hlast'
        cases hlast'
        exact ⟨first, beats + 1, hnext, rfl⟩
  | @ceases signals last now before later soon ih =>
      obtain ⟨stretches, rest, rfl, hcomplete, -, hlast⟩ := ih
      obtain ⟨first, beats, rfl, rfl⟩ := hlast last rfl
      refine ⟨stretches ++ [⟨first, beats, now⟩], [], ?_, ?_, fun _ => rfl, by simp⟩
      · simp [Stretch.signals]
      · intro x hx
        rcases List.mem_append.mp hx with hx | hx
        · exact hcomplete x hx
        · cases List.mem_singleton.mp hx
          refine ⟨later, ?_⟩
          show now ≤ first + (beats + 1) * heartbeat
          rw [Nat.add_mul, Nat.one_mul]
          omega

/-- If it was said last that the user types, this was the last signal. -/
theorem InTime.getLast? {last : Nat} (h : InTime request heartbeat (some last) signals) :
    signals.getLast? = some ⟨last, request, true⟩ := by
  generalize howed : some last = owed at h
  cases h with
  | nothing => cases howed
  | begins now before =>
      cases howed
      simp
  | beats before =>
      cases howed
      simp
  | ceases => cases howed

/-- The last signal is on its way until then: until the server has answered it,
or for a heartbeat. -/
def UnderWay (listen : Listener σ) (heartbeat : Nat) (w : Signaling σ) (ending : Nat) : Prop :=
  ∃ x server, w.signals.getLast? = some x ∧
    (listen server x.time x.request x.typing).2 = w.server ∧
    ending = x.time + min (listen server x.time x.request x.typing).1.delay heartbeat

/-- At this instant a signaler keeps time: its signals do, its next heartbeat is
due a heartbeat after the last one and has not been missed, and the signal that
is on its way will be over. -/
structure Paced (listen : Listener σ) (heartbeat : Nat) (owed : Option Nat) (now : Nat)
    (w : Signaling σ) : Prop where
  sound : w.Sound
  regular : w.signaler.heartbeat = heartbeat
  inTime : InTime w.request heartbeat owed w.signals
  owes : w.signaler.owes = owed.isSome
  due : ∀ last, owed = some last →
    w.signaler.tick = last + heartbeat ∧ last ≤ now ∧ now ≤ last + heartbeat
  flight : ∀ ending, w.over? = some ending → now ≤ ending ∧ UnderWay listen heartbeat w ending

variable {listen : Listener σ} {now : Nat} {w : Signaling σ}

/-- What there is to wait for: the end of a signal, or a heartbeat. -/
theorem next?_cases {next : Nat} (h : w.next? = some next) :
    w.over? = some next ∨
      w.signaler.phase = .waiting ∧ w.signaler.active = true ∧ w.signaler.tick = next := by
  cases hover : w.over? with
  | some ending => exact Or.inl (by simpa [next?, hover] using h)
  | none =>
      simp only [next?, hover, Signaler.due?, Option.ite_none_right_eq_some, Option.some.injEq]
        at h
      exact Or.inr ⟨h.1.1, h.1.2, h.2⟩

theorem paced_new (listen : Listener σ) (request : RequestId) (heartbeat : Nat) (server : σ)
    (now : Nat) : Paced listen heartbeat none now (new request heartbeat server) where
  sound := sound_new request heartbeat server
  regular := rfl
  inTime := .nothing
  owes := rfl
  due := by
    intro last hlast
    cases hlast
  flight := by
    intro ending hover
    cases hover

namespace Paced

/-- The signal that says that the user types is given up by the next heartbeat. -/
theorem over_le (h : Paced listen heartbeat owed now w) {last ending : Nat}
    (howed : owed = some last) (hover : w.over? = some ending) : ending ≤ last + heartbeat := by
  obtain ⟨-, x, server, hx, -, hover'⟩ := h.flight ending hover
  rw [howed] at h
  have hlast : x = ⟨last, w.request, true⟩ := Option.some.inj (hx.symm.trans h.inTime.getLast?)
  have hmin := Nat.min_le_right (listen server x.time x.request x.typing).1.delay heartbeat
  calc ending
      = x.time + min (listen server x.time x.request x.typing).1.delay heartbeat := hover'
    _ ≤ x.time + heartbeat := Nat.add_le_add_left hmin x.time
    _ = last + heartbeat := by rw [hlast]

/-- What was told last is what is owed to be taken back. -/
theorem lastTold (h : Paced listen heartbeat owed now w) : w.lastTold = owed.isSome := by
  rw [Signaling.lastTold, h.sound.told.getLast?_getD, h.owes]

/-- If it was said last that the user types, this is what is owed to be taken
back. -/
theorem owed_of_getLast? (h : Paced listen heartbeat owed now w) {last : Nat}
    (hlast : w.signals.getLast? = some ⟨last, w.request, true⟩) : owed = some last := by
  have htold : w.lastTold = true := by
    rw [Signaling.lastTold, List.getLast?_map, hlast]
    rfl
  obtain ⟨last', rfl⟩ := Option.isSome_iff_exists.mp (h.lastTold.symm.trans htold)
  have hsame := h.inTime.getLast?.symm.trans hlast
  simpa using hsame

/-- Who waits and has said that the user types owes the contrary. -/
theorem exists_owed (h : Paced listen heartbeat owed now w)
    (waits : w.signaler.phase = .waiting) (active : w.signaler.active = true) :
    ∃ last, owed = some last := by
  have howes := (Signaler.owes_of_waiting waits).trans active
  rw [h.owes] at howes
  exact Option.isSome_iff_exists.mp howes

/-- Who waits and has not said that the user types owes nothing. -/
theorem owed_eq_none (h : Paced listen heartbeat owed now w)
    (waits : w.signaler.phase = .waiting) (idle : w.signaler.active = false) : owed = none := by
  have howes := (Signaler.owes_of_waiting waits).trans idle
  rw [h.owes] at howes
  simpa using howes

/-- Time may pass until there is something to do. -/
theorem wait (h : Paced listen heartbeat owed now w) {later : Nat} (hle : now ≤ later)
    (hnext : ∀ next, w.next? = some next → later ≤ next) :
    Paced listen heartbeat owed later w := by
  have hflight : ∀ ending, w.over? = some ending → later ≤ ending := by
    intro ending hover
    refine hnext ending ?_
    rw [next?, hover]
  refine ⟨h.sound, h.regular, h.inTime, h.owes, ?_, ?_⟩
  · intro last howed
    obtain ⟨htick, hbegun, -⟩ := h.due last howed
    refine ⟨htick, by omega, ?_⟩
    cases hover : w.over? with
    | some ending =>
        have hlater := hflight ending hover
        have hsoon := h.over_le howed hover
        omega
    | none =>
        -- what is owed is taken back by a signaler that waits for its heartbeat
        have howes : w.signaler.owes = true := by
          rw [h.owes, howed]
          rfl
        have hidle : w.signaler.phase.isSending = false := by
          rw [← h.sound.sending, hover]
          rfl
        obtain ⟨hwaits, hactive⟩ := Signaler.waits_of_owes hidle howes
        have hdue : w.next? = some w.signaler.tick := by
          simp [next?, hover, Signaler.due?, hwaits, hactive]
        have hlater := hnext w.signaler.tick hdue
        omega
  · intro ending hover
    exact ⟨hflight ending hover, (h.flight ending hover).2⟩

/-- There is nothing to do that has been missed. -/
theorem le_of_next? (h : Paced listen heartbeat owed now w) {next : Nat}
    (hnext : w.next? = some next) : now ≤ next := by
  rcases next?_cases hnext with hover | ⟨hwaits, hactive, rfl⟩
  · exact (h.flight next hover).1
  · obtain ⟨last, rfl⟩ := h.exists_owed hwaits hactive
    obtain ⟨htick, -, hsoon⟩ := h.due last rfl
    omega

theorem receive (h : Paced listen heartbeat owed now w) :
    Paced listen heartbeat owed now (w.receive now) := by
  rcases w.receive_eq now with hover | hsame
  · have hsound := h.sound.receive now
    rw [hover] at hsound ⊢
    refine ⟨hsound, ?_, h.inTime, ?_, ?_, ?_⟩
    · rw [Signaler.heartbeat_sent]
      exact h.regular
    · rw [Signaler.owes_sent]
      exact h.owes
    · rw [Signaler.tick_sent]
      exact h.due
    · intro ending hnone
      cases hnone
  · rw [hsame]
    exact h

theorem modify (h : Paced listen heartbeat owed now w) (f : Composer → Composer) :
    Paced listen heartbeat owed now (w.modify f) where
  sound := h.sound.modify f
  regular := (Signaler.heartbeat_modify _ f).trans h.regular
  inTime := h.inTime
  owes := (Signaler.owes_modify _ f).trans h.owes
  due := by
    intro last howed
    obtain ⟨htick, hbounds⟩ := h.due last howed
    exact ⟨(Signaler.tick_modify _ f).trans htick, hbounds⟩
  flight := h.flight

theorem close (h : Paced listen heartbeat owed now w) :
    Paced listen heartbeat owed now w.close :=
  ⟨h.sound.close, h.regular, h.inTime, h.owes, h.due, h.flight⟩

/-- A turn without a signal changes no time. -/
theorem rest (h : Paced listen heartbeat owed now w) {s : Signaler}
    (hturns : w.signaler.Turns now s none) :
    Paced listen heartbeat owed now { w with signaler := s } := by
  refine ⟨h.sound.rest hturns.step, hturns.heartbeat.trans h.regular, h.inTime,
    hturns.step.owes_of_none.trans h.owes, ?_, h.flight⟩
  have htick : s.tick = w.signaler.tick := by
    cases hturns <;> rfl
  rw [htick]
  exact h.due

/-- A signal keeps time. What it says is said at this instant, and if it is that
the user types, the next heartbeat is due a heartbeat later. -/
theorem launch (h : Paced listen heartbeat owed now w) {s : Signaler} {typing : Bool}
    (hturns : w.signaler.Turns now s (some typing)) :
    Paced listen heartbeat (if typing then some now else none) now
      (launch listen { w with signaler := s } now typing) := by
  have hsound : (Signaling.launch listen { w with signaler := s } now typing).Sound :=
    h.sound.launch now hturns.step
  have hregular : s.heartbeat = heartbeat := hturns.heartbeat.trans h.regular
  have hflight : ∀ ending,
      (Signaling.launch listen { w with signaler := s } now typing).over? = some ending →
      now ≤ ending ∧ UnderWay listen heartbeat
        (Signaling.launch listen { w with signaler := s } now typing) ending := by
    intro ending hover
    cases hover
    refine ⟨Nat.le_add_right _ _, ⟨now, w.request, typing⟩, w.server, ?_, rfl, ?_⟩
    · simp [Signaling.launch]
    · show now + min _ s.heartbeat = _
      rw [hregular]
  generalize htold : some typing = told? at hturns
  cases hturns with
  | begins waits unseen composes idle =>
      cases htold
      refine ⟨hsound, hregular, ?_, ?_, ?_, hflight⟩
      · have hnone := h.owed_eq_none waits idle
        rw [hnone] at h
        exact h.inTime.begins now
      · rfl
      · intro last hlast
        cases hlast
        refine ⟨?_, Nat.le_refl _, Nat.le_add_right _ _⟩
        show now + w.signaler.heartbeat = now + heartbeat
        rw [h.regular]
  | beats waits active looked unclosed due =>
      cases htold
      obtain ⟨last, rfl⟩ := h.exists_owed waits active
      obtain ⟨htick, -, hsoon⟩ := h.due last rfl
      -- it is due now at the earliest, and has not been missed
      have hnow : now = last + heartbeat := by omega
      refine ⟨hsound, hregular, ?_, ?_, ?_, hflight⟩
      · rw [hnow]
        exact h.inTime.beats
      · simp [Signaling.launch, Signaler.owes, active, Signaler.Phase.isLast]
      · intro last' hlast'
        cases hlast'
        refine ⟨?_, Nat.le_refl _, Nat.le_add_right _ _⟩
        show w.signaler.nextTick now = now + heartbeat
        rw [Signaler.nextTick_of_eq (by omega), h.regular]
  | ceases waits unseen idle active =>
      cases htold
      obtain ⟨last, rfl⟩ := h.exists_owed waits active
      obtain ⟨-, hbegun, hsoon⟩ := h.due last rfl
      refine ⟨hsound, hregular, h.inTime.ceases hbegun hsoon, rfl, ?_, hflight⟩
      intro last' hlast'
      cases hlast'
  | ends waits active looked closed =>
      cases htold
      obtain ⟨last, rfl⟩ := h.exists_owed waits active
      obtain ⟨-, hbegun, hsoon⟩ := h.due last rfl
      refine ⟨hsound, hregular, h.inTime.ceases hbegun hsoon, ?_, ?_, hflight⟩
      · simp [Signaling.launch, Signaler.owes, Signaler.Phase.isLast]
      · intro last' hlast'
        cases hlast'
  | stays => cases htold
  | rests => cases htold
  | finishes => cases htold

end Paced

theorem settleIn_paced (h : Paced listen heartbeat owed now w) (rounds : Nat) :
    ∃ owed', Paced listen heartbeat owed' now (settleIn listen now rounds w) := by
  refine settleIn_keeps (P := fun v => ∃ owed', Paced listen heartbeat owed' now v)
    ?_ ?_ ?_ rounds ⟨owed, h⟩
  · rintro v ⟨owed', hv⟩
    exact ⟨owed', hv.receive⟩
  · rintro v s ⟨owed', hv⟩ hturns
    exact ⟨owed', hv.rest hturns⟩
  · rintro v s typing ⟨owed', hv⟩ hturns
    exact ⟨_, hv.launch hturns⟩

/-- What there is to do next is later. -/
def Rested (now : Nat) (w : Signaling σ) : Prop :=
  ∀ next, w.next? = some next → now < next

/-- While a signaler rests it keeps time. -/
theorem Paced.wait_rested (h : Paced listen heartbeat owed now w) (hrested : Rested now w)
    {later : Nat} (hle : now ≤ later)
    (hnext : ∀ next, w.next? = some next → ¬ (now < next ∧ next < later)) :
    Paced listen heartbeat owed later w := by
  refine h.wait hle ?_
  intro next hdue
  have hlater := hrested next hdue
  have hnot := hnext next hdue
  omega

/-- The signaler has looked at the composer, and its heartbeat is not due. -/
structure Calm (now : Nat) (w : Signaling σ) : Prop where
  looked : w.signaler.unseen = false
  early : w.signaler.active = true → now < w.signaler.tick

theorem Calm.receive (h : w.Calm now) : (w.receive now).Calm now := by
  rcases w.receive_eq now with hover | hsame
  · rw [hover]
    refine ⟨(Signaler.unseen_sent _).trans h.looked, ?_⟩
    show w.signaler.sent.active = true → now < w.signaler.sent.tick
    rw [Signaler.tick_sent, Signaler.active_sent]
    exact h.early
  · rw [hsame]
    exact h

/-- A signal that has been waited for is over later. -/
theorem lt_of_over?_receive {ending : Nat} (h : (w.receive now).over? = some ending) :
    now < ending := by
  by_cases harrived : w.Arrived now
  · rw [over?_receive harrived] at h
    cases h
  · obtain ⟨time, hover, hlater⟩ := exists_over_of_not_arrived harrived
    rw [receive_of_lt hover hlater, hover] at h
    cases h
    exact hlater

/-- A signaler that has nothing to do knows a later instant at which it has, if
there is one. -/
theorem rested_of_turns {s : Signaler}
    (hturns : (w.receive now).signaler.Turns now s none) :
    Rested now { w.receive now with signaler := s } := by
  intro next hnext
  rcases next?_cases hnext with hover | ⟨hwaits, hactive, rfl⟩
  · exact lt_of_over?_receive hover
  · cases hturns with
    | stays busy => exact absurd hwaits busy
    | rests waits looked unclosed early => exact early hactive
    | finishes => cases hwaits

/-- An open signaler that is calm sends no signal. -/
theorem Calm.not_turns {s : Signaler} {typing : Bool} (h : w.Calm now)
    (hopen : w.signaler.closed = false) : ¬ w.signaler.Turns now s (some typing) := by
  intro hturns
  generalize htold : some typing = told? at hturns
  cases hturns with
  | begins waits unseen => cases h.looked.symm.trans unseen
  | ceases waits unseen => cases h.looked.symm.trans unseen
  | beats waits active looked unclosed due =>
      have hearly := h.early active
      omega
  | ends waits active looked closed => cases hopen.symm.trans closed
  | stays | rests | finishes => cases htold

/-- Behind a signal an open signaler is calm: its heartbeat is a whole heartbeat
away. -/
theorem Paced.calm_launch (h : Paced listen heartbeat owed now w) (hpos : 0 < heartbeat)
    {s : Signaler} {typing : Bool} (hopen : w.signaler.closed = false)
    (hturns : w.signaler.Turns now s (some typing)) :
    (Signaling.launch listen { w with signaler := s } now typing).Calm now := by
  have hpaced := h.launch hturns
  have hwaits : s.phase = .sending false ∧ s.unseen = false := by
    generalize htold : some typing = told? at hturns
    cases hturns with
    | begins | ceases | beats => exact ⟨rfl, rfl⟩
    | ends waits active looked closed => cases hopen.symm.trans closed
    | stays | rests | finishes => cases htold
  refine ⟨hwaits.2, ?_⟩
  intro hactive
  have howes : s.owes = true := by
    have hactive' : s.active = true := hactive
    simp [Signaler.owes, hactive', hwaits.1, Signaler.Phase.isLast]
  obtain ⟨last, hlast⟩ := Option.isSome_iff_exists.mp (hpaced.owes.symm.trans howes)
  obtain ⟨htick, -⟩ := hpaced.due last hlast
  have hnow : now = last := by
    cases typing with
    | true => exact Option.some.inj hlast
    | false => cases hlast
  omega

/-- An open signaler settles within the rounds that there are. -/
theorem settleIn_rested {rounds : Nat} (h : Paced listen heartbeat owed now w)
    (hpos : 0 < heartbeat) (hopen : w.signaler.closed = false)
    (hrounds : 1 < rounds ∨ 0 < rounds ∧ w.Calm now) :
    Rested now (settleIn listen now rounds w) := by
  induction rounds generalizing w owed with
  | zero => omega
  | succ rounds ih =>
      have hopen' := (closed_receive w now).trans hopen
      rcases hturn : (w.receive now).signaler.turn now with ⟨s, _ | typing⟩
      · rw [settleIn_rest hturn]
        exact rested_of_turns (Signaler.turns_of_turn hturn)
      · have hturns := Signaler.turns_of_turn hturn
        -- behind a signal the signaler is calm, and one round more will do
        have hmore : 0 < rounds := by
          rcases hrounds with hmany | ⟨-, hcalm⟩
          · omega
          · exact absurd hturns (hcalm.receive.not_turns hopen')
        rw [settleIn_launch hturn]
        exact ih (h.receive.launch hturns) (hturns.step.closed.trans hopen')
          (Or.inr ⟨hmore, h.receive.calm_launch hpos hopen' hturns⟩)

theorem settle_rested (h : Paced listen heartbeat owed now w) (hpos : 0 < heartbeat)
    (hopen : w.signaler.closed = false) : Rested now (w.settle listen now) :=
  settleIn_rested h hpos hopen (Or.inl (by decide))

/-- An open signaler keeps time. -/
def Keeping (listen : Listener σ) (heartbeat now : Nat) (w : Signaling σ) : Prop :=
  w.signaler.closed = false ∧ ∃ owed, Paced listen heartbeat owed now w

/-- **While time passes a signaler keeps time.** -/
theorem advance_keeping (hpos : 0 < heartbeat) (h : Keeping listen heartbeat now w) (span : Nat) :
    Keeping listen heartbeat (now + span) (w.advance listen now span) := by
  refine Timeline.advance_arrives (P := Keeping listen heartbeat)
    (Q := fun t v => Keeping listen heartbeat t v ∧ Rested t v) ?_ ?_ (Nat.le_add_right now span) h
  · rintro t v ⟨hopen, owed, hv⟩
    obtain ⟨-, hgrown⟩ := settle_grown listen hv.sound t
    exact ⟨⟨hgrown.closed.trans hopen, settleIn_paced hv Signaling.rounds⟩,
      settle_rested hv hpos hopen⟩
  · rintro t v later ⟨⟨hopen, owed, hv⟩, hrested⟩ hle hnext
    exact ⟨hopen, owed, hv.wait_rested hrested hle hnext⟩

/-- What edits and the passage of time keep is kept whatever is done, if the
composer stays as the edits need it. -/
theorem run_keeps {P : Nat → Signaling σ → Prop} {C : Composer → Prop}
    (hedit : ∀ t v (e : Edit), P t v → C (e.apply v.signaler.composer) → P t (v.modify e.apply))
    (hpass : ∀ t v span, P t v → P (t + span) (v.advance listen t span)) {acts : List Act}
    (hsound : w.Sound)
    (hcomposer : ∀ part, part <+: acts → C (part.foldl Act.compose w.signaler.composer))
    (h : P now w) : P (done now acts) (run listen now acts w) := by
  induction acts generalizing now w with
  | nil => exact h
  | cons act rest ih =>
      have hlater : ∀ part, part <+: rest →
          C (part.foldl Act.compose (w.perform listen now act).signaler.composer) := by
        intro part hpart
        rw [(perform_composer listen hsound now act).1]
        exact hcomposer (act :: part) (List.cons_prefix_cons.mpr ⟨rfl, hpart⟩)
      refine ih (perform_sound listen hsound now act) hlater ?_
      cases act with
      | edit e =>
          have hfirst : [Act.edit e] <+: Act.edit e :: rest := ⟨rest, rfl⟩
          exact hedit now w e h (hcomposer [Act.edit e] hfirst)
      | pass span => exact hpass now w span h

/-- **Whatever is done, a signaler keeps time.** -/
theorem run_keeping (hpos : 0 < heartbeat) (h : Keeping listen heartbeat now w)
    (acts : List Act) :
    Keeping listen heartbeat (done now acts) (run listen now acts w) := by
  have hsound : w.Sound := by
    obtain ⟨-, owed, hpaced⟩ := h
    exact hpaced.sound
  refine run_keeps (P := Keeping listen heartbeat) (C := fun _ => True) ?_ ?_ hsound
    (fun _ _ => trivial) h
  · rintro t v e ⟨hopen, owed, hv⟩ -
    exact ⟨(Signaler.closed_modify _ _).trans hopen, owed, hv.modify e.apply⟩
  · intro t v span hv
    exact advance_keeping hpos hv span

/-- Until its end a signaler keeps time. -/
theorem drain_paced (h : Paced listen heartbeat owed now w) (rounds : Nat) :
    ∃ owed', Paced listen heartbeat owed' (w.drain listen rounds now).1
      (w.drain listen rounds now).2 := by
  induction rounds generalizing now w owed with
  | zero => exact ⟨owed, h⟩
  | succ rounds ih =>
      obtain ⟨owed', hsettled⟩ := settleIn_paced h Signaling.rounds
      cases hnext : (w.settle listen now).next? with
      | none =>
          have hdrain : w.drain listen (rounds + 1) now = (now, w.settle listen now) := by
            simp only [drain, hnext]
          rw [hdrain]
          exact ⟨owed', hsettled⟩
      | some time =>
          have hdrain : w.drain listen (rounds + 1) now =
              (w.settle listen now).drain listen rounds time := by
            simp only [drain, hnext]
          rw [hdrain]
          refine ih (hsettled.wait (hsettled.le_of_next? hnext) ?_)
          intro next hsame
          cases hnext.symm.trans hsame
          exact Nat.le_refl time

/-- **All that was signalled keeps time** when a signaler has been shut down. -/
theorem shutdown_inTime (h : Paced listen heartbeat owed now w) :
    InTime w.request heartbeat none (w.shutdown listen now).2.signals := by
  obtain ⟨owed', hended⟩ := drain_paced h.close Signaling.rounds
  obtain ⟨-, -, hgrown⟩ := drain_grown listen h.close.sound rfl Signaling.rounds now
  have hfinished := shutdown_finished listen h.sound now
  have howes : (w.shutdown listen now).2.signaler.owes = false := by
    rw [Signaler.owes, hfinished]
    exact Bool.and_false _
  have hnone : owed' = none := by
    have hpaid := hended.owes.symm.trans howes
    simpa using hpaid
  have hrequest : (w.shutdown listen now).2.request = w.request := hgrown.request
  rw [← hrequest, ← hnone]
  exact hended.inTime

end Docket.Signaling
