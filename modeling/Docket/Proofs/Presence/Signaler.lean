import Docket.Presence.Typing

/-!
# One step of a signaler

All that a signaler can do at an instant, said once. From it follow the facts
on which its signals rest: what it takes the user to be doing is what it saw
when it looked, it says that nobody types only if it has said the contrary,
and once nobody can change the composer it comes to its end.

* `Turns`, `turns_turn` — the ways of a turn.
* `Step`, `Turns.step` — what they come to, whatever the time is.
* `Sound` — what a signaler knows while nothing is unseen.
* `Step.owes_of_true`, `Step.owes_of_false` — signals take turns as they should.
* `Step.left_lt` — how far it is to the end.
-/

namespace Docket.Signaler

/-- The signal that ends it all has been sent. -/
def Phase.isLast : Phase → Bool
  | .waiting => false
  | .sending final => final
  | .finished => true

/-- A signal is on its way. -/
def Phase.isSending : Phase → Bool
  | .sending _ => true
  | _ => false

/-- It was said that the user types, and nothing has been said since. -/
def owes (s : Signaler) : Bool :=
  s.active && !s.phase.isLast

/-- How often a closed signaler acts until it is finished, at most. -/
def left (s : Signaler) : Nat :=
  match s.phase with
  | .finished => 0
  | .sending true => 1
  | _ => if s.unseen then 3 else 2

/-- The ways in which a signaler can turn: whatever it does, it has looked at
the composer before. -/
inductive Step (s : Signaler) : Signaler → Option Bool → Prop
  /-- A signal is on its way, or all is over. -/
  | stays (busy : s.phase ≠ .waiting) : Step s s none
  /-- The user has begun or ceased to type. -/
  | flips (tick : Nat) (waits : s.phase = .waiting) (unseen : s.unseen = true)
      (differs : s.composer.isTyping ≠ s.active) :
      Step s { s with unseen := false, active := s.composer.isTyping, tick,
                      phase := .sending false } (some s.composer.isTyping)
  /-- The heartbeat of a user who types. -/
  | beats (tick : Nat) (waits : s.phase = .waiting) (active : s.active = true)
      (looked : s.unseen = true → s.composer.isTyping = s.active) (unclosed : s.closed = false) :
      Step s { s with unseen := false, tick, phase := .sending false } (some true)
  /-- There is nothing to do. -/
  | rests (waits : s.phase = .waiting)
      (looked : s.unseen = true → s.composer.isTyping = s.active) (unclosed : s.closed = false) :
      Step s { s with unseen := false } none
  /-- The last signal of a user who typed. -/
  | ends (waits : s.phase = .waiting) (active : s.active = true)
      (looked : s.unseen = true → s.composer.isTyping = s.active) (closed : s.closed = true) :
      Step s { s with unseen := false, phase := .sending true } (some false)
  /-- The end of a user who did not type. -/
  | finishes (waits : s.phase = .waiting) (idle : s.active = false)
      (looked : s.unseen = true → s.composer.isTyping = s.active) (closed : s.closed = true) :
      Step s { s with unseen := false, phase := .finished } none

/-- What a signaler does at an instant, and when its heartbeat is due then. -/
inductive Turns (s : Signaler) (now : Nat) : Signaler → Option Bool → Prop
  /-- A signal is on its way, or all is over. -/
  | stays (busy : s.phase ≠ .waiting) : Turns s now s none
  /-- The user has begun to type. -/
  | begins (waits : s.phase = .waiting) (unseen : s.unseen = true)
      (typing : s.composer.isTyping = true) (idle : s.active = false) :
      Turns s now { s with unseen := false, active := true, tick := now + s.heartbeat,
                           phase := .sending false } (some true)
  /-- The user has ceased to type. -/
  | ceases (waits : s.phase = .waiting) (unseen : s.unseen = true)
      (idle : s.composer.isTyping = false) (active : s.active = true) :
      Turns s now { s with unseen := false, active := false, phase := .sending false } (some false)
  /-- The heartbeat of a user who types. -/
  | beats (waits : s.phase = .waiting) (active : s.active = true)
      (looked : s.unseen = true → s.composer.isTyping = s.active) (unclosed : s.closed = false)
      (due : s.tick ≤ now) :
      Turns s now { s with unseen := false, tick := s.nextTick now, phase := .sending false }
        (some true)
  /-- There is nothing to do yet. -/
  | rests (waits : s.phase = .waiting)
      (looked : s.unseen = true → s.composer.isTyping = s.active) (unclosed : s.closed = false)
      (early : s.active = true → now < s.tick) :
      Turns s now { s with unseen := false } none
  /-- The last signal of a user who typed. -/
  | ends (waits : s.phase = .waiting) (active : s.active = true)
      (looked : s.unseen = true → s.composer.isTyping = s.active) (closed : s.closed = true) :
      Turns s now { s with unseen := false, phase := .sending true } (some false)
  /-- The end of a user who did not type. -/
  | finishes (waits : s.phase = .waiting) (idle : s.active = false)
      (looked : s.unseen = true → s.composer.isTyping = s.active) (closed : s.closed = true) :
      Turns s now { s with unseen := false, phase := .finished } none

variable {s s' : Signaler} {told? : Option Bool} {now : Nat}

/-- What is done behind a look at the composer. -/
theorem turns_rest (waits : s.phase = .waiting)
    (looked : s.unseen = true → s.composer.isTyping = s.active) (now : Nat) :
    s.Turns now (rest { s with unseen := false } now).1
      (rest { s with unseen := false } now).2 := by
  unfold rest
  split
  next hclosed =>
    split
    next hactive => exact Turns.ends waits hactive looked hclosed
    next hidle => exact Turns.finishes waits (by simpa using hidle) looked hclosed
  next hunclosed =>
    have hopen : s.closed = false := by simpa using hunclosed
    split
    next hdue => exact Turns.beats waits hdue.1 looked hopen hdue.2
    next hnot =>
      refine Turns.rests waits looked hopen ?_
      intro hactive
      exact Nat.lt_of_not_le fun hdue => hnot ⟨hactive, hdue⟩

/-- These are all the ways of a turn. -/
theorem turns_turn (s : Signaler) (now : Nat) : s.Turns now (s.turn now).1 (s.turn now).2 := by
  unfold turn
  by_cases hphase : s.phase = .waiting
  · rw [if_neg (fun hbusy => hbusy hphase)]
    by_cases hunseen : s.unseen = true
    · rw [if_pos hunseen]
      by_cases hsame : s.composer.isTyping = s.active
      · simp only [if_pos hsame]
        exact turns_rest hphase (fun _ => hsame) now
      · simp only [if_neg hsame]
        by_cases htyping : s.composer.isTyping = true
        · simp only [if_pos htyping]
          have hidle : s.active = false := by
            rw [htyping] at hsame
            simpa using hsame
          exact Turns.begins hphase hunseen htyping hidle
        · simp only [if_neg htyping]
          have hidle : s.composer.isTyping = false := by simpa using htyping
          have hactive : s.active = true := by
            rw [hidle] at hsame
            simpa using hsame
          exact Turns.ceases hphase hunseen hidle hactive
    · rw [if_neg hunseen]
      have hseen : { s with unseen := false } = s := by
        have hfalse : s.unseen = false := by simpa using hunseen
        rw [← hfalse]
      have hrest := turns_rest hphase (fun h => absurd h hunseen) now
      rw [hseen] at hrest
      exact hrest
  · rw [if_pos hphase]
    exact Turns.stays hphase

theorem turns_of_turn (h : s.turn now = (s', told?)) : s.Turns now s' told? := by
  have hturns := s.turns_turn now
  rw [h] at hturns
  exact hturns

/-- A turn is a step. -/
theorem Turns.step (h : s.Turns now s' told?) : s.Step s' told? := by
  cases h with
  | stays busy => exact Step.stays busy
  | begins waits unseen typing idle =>
      have hdiffers : s.composer.isTyping ≠ s.active := by
        rw [typing, idle]
        decide
      have hflip := Step.flips (now + s.heartbeat) waits unseen hdiffers
      rw [typing] at hflip
      exact hflip
  | ceases waits unseen idle active =>
      have hdiffers : s.composer.isTyping ≠ s.active := by
        rw [idle, active]
        decide
      have hflip := Step.flips s.tick waits unseen hdiffers
      rw [idle] at hflip
      exact hflip
  | beats waits active looked unclosed => exact Step.beats _ waits active looked unclosed
  | rests waits looked unclosed => exact Step.rests waits looked unclosed
  | ends waits active looked closed => exact Step.ends waits active looked closed
  | finishes waits idle looked closed => exact Step.finishes waits idle looked closed

theorem Turns.heartbeat (h : s.Turns now s' told?) : s'.heartbeat = s.heartbeat := by
  cases h <;> rfl

theorem step_of_turn (h : s.turn now = (s', told?)) : s.Step s' told? :=
  (turns_of_turn h).step

theorem Step.composer (h : s.Step s' told?) : s'.composer = s.composer := by
  cases h <;> rfl

theorem Step.closed (h : s.Step s' told?) : s'.closed = s.closed := by
  cases h <;> rfl

/-- A signaler knows what the user did when it looked, and its last signal is
sent only when nobody can change the composer. -/
structure Sound (s : Signaler) : Prop where
  seen : s.unseen = false → s.active = s.composer.isTyping
  last : s.phase.isLast = true → s.closed = true

/-- A signal tells what the user does; to tell that nobody types any more is in
order at the end, too. -/
def Fits (s : Signaler) (typing : Bool) : Prop :=
  typing = s.composer.isTyping ∨ s.closed = true ∧ typing = false

namespace Sound

theorem new (heartbeat : Nat) : (new heartbeat).Sound :=
  ⟨fun _ => rfl, fun h => Bool.noConfusion h⟩

/-- What the signaler has been told before it has looked is what it sees. -/
theorem active_of_looked (h : s.Sound) (looked : s.unseen = true → s.composer.isTyping = s.active) :
    s.active = s.composer.isTyping := by
  cases hunseen : s.unseen with
  | false => exact h.seen hunseen
  | true => exact (looked hunseen).symm

theorem step (h : s.Sound) (hstep : s.Step s' told?) : s'.Sound := by
  cases hstep with
  | stays => exact h
  | flips tick waits => exact ⟨fun _ => rfl, fun hlast => Bool.noConfusion hlast⟩
  | beats tick waits active looked =>
      exact ⟨fun _ => h.active_of_looked looked, fun hlast => Bool.noConfusion hlast⟩
  | rests waits looked =>
      exact ⟨fun _ => h.active_of_looked looked, h.last⟩
  | ends waits active looked closed => exact ⟨fun _ => h.active_of_looked looked, fun _ => closed⟩
  | finishes waits idle looked closed =>
      exact ⟨fun _ => h.active_of_looked looked, fun _ => closed⟩

/-- A signal fits what the user does. -/
theorem fits (h : s.Sound) {typing : Bool} (hstep : s.Step s' (some typing)) : s.Fits typing := by
  cases hstep with
  | flips => exact Or.inl rfl
  | beats tick waits active looked =>
      exact Or.inl (active.symm.trans (h.active_of_looked looked))
  | ends waits active looked closed => exact Or.inr ⟨closed, rfl⟩

theorem sent (h : s.Sound) : s.sent.Sound := by
  unfold Signaler.sent
  split
  next hphase =>
    have hclosed : s.closed = true := h.last (by rw [hphase]; rfl)
    exact ⟨h.seen, fun _ => hclosed⟩
  next => exact ⟨h.seen, fun hlast => Bool.noConfusion hlast⟩
  next => exact h

theorem modify (h : s.Sound) (f : Composer → Composer) : (s.modify f).Sound := by
  unfold Signaler.modify
  by_cases hsame : f s.composer = s.composer
  · rw [if_pos hsame]
    exact h
  · rw [if_neg hsame]
    exact ⟨fun hunseen => Bool.noConfusion hunseen, h.last⟩

theorem close (h : s.Sound) : s.close.Sound :=
  ⟨h.seen, fun _ => rfl⟩

end Sound

/-- A heartbeat that is noticed when it is due is followed by the next one a
heartbeat later. -/
theorem nextTick_of_eq (h : s.tick = now) : s.nextTick now = now + s.heartbeat := by
  have hnotLate : ¬ s.tick + tolerance < now := by omega
  rw [nextTick, if_neg hnotLate, h]

/-- Without a signal nothing is owed that was not owed before. -/
theorem Step.owes_of_none (h : s.Step s' none) : s'.owes = s.owes := by
  cases h with
  | stays => rfl
  | rests => rfl
  | finishes waits idle => simp [owes, idle]

/-- After a signal that the user types, the contrary is owed. -/
theorem Step.owes_of_true (h : s.Step s' (some true)) : s'.owes = true := by
  generalize htold : some true = told? at h
  cases h with
  | flips tick waits =>
      have htyping : s.composer.isTyping = true := (Option.some.inj htold).symm
      simp [owes, htyping, Phase.isLast]
  | beats tick waits active => simp [owes, active, Phase.isLast]
  | stays | rests | ends | finishes => cases htold

/-- The contrary is said when it is owed, and once. -/
theorem Step.owes_of_false (h : s.Step s' (some false)) : s.owes = true ∧ s'.owes = false := by
  generalize htold : some false = told? at h
  cases h with
  | flips tick waits unseen differs =>
      have hidle : s.composer.isTyping = false := (Option.some.inj htold).symm
      have hactive : s.active = true := by simpa [hidle] using differs
      exact ⟨by simp [owes, hactive, waits, Phase.isLast], by simp [owes, hidle]⟩
  | ends waits active =>
      exact ⟨by simp [owes, active, waits, Phase.isLast], by simp [owes, Phase.isLast]⟩
  | stays | beats | rests | finishes => cases htold

/-- A signaler that waits owes what it has signalled. -/
theorem owes_of_waiting (waits : s.phase = .waiting) : s.owes = s.active := by
  simp [owes, waits, Phase.isLast]

/-- A signal is sent when none is on its way. -/
theorem Step.isSending_of_none (h : s.Step s' none) : s'.phase.isSending = s.phase.isSending := by
  cases h with
  | stays => rfl
  | rests => rfl
  | finishes waits => rw [waits]; rfl

theorem Step.isSending_of_some {typing : Bool} (h : s.Step s' (some typing)) :
    s.phase.isSending = false ∧ s'.phase.isSending = true := by
  cases h with
  | flips tick waits => exact ⟨by rw [waits]; rfl, rfl⟩
  | beats tick waits => exact ⟨by rw [waits]; rfl, rfl⟩
  | ends waits => exact ⟨by rw [waits]; rfl, rfl⟩

theorem composer_sent (s : Signaler) : s.sent.composer = s.composer := by
  unfold sent
  split <;> rfl

theorem closed_sent (s : Signaler) : s.sent.closed = s.closed := by
  unfold sent
  split <;> rfl

theorem unseen_sent (s : Signaler) : s.sent.unseen = s.unseen := by
  unfold sent
  split <;> rfl

theorem active_sent (s : Signaler) : s.sent.active = s.active := by
  unfold sent
  split <;> rfl

theorem tick_sent (s : Signaler) : s.sent.tick = s.tick := by
  unfold sent
  split <;> rfl

theorem heartbeat_sent (s : Signaler) : s.sent.heartbeat = s.heartbeat := by
  unfold sent
  split <;> rfl

theorem owes_sent (s : Signaler) : s.sent.owes = s.owes := by
  unfold sent
  split
  next hphase => simp [owes, hphase, Phase.isLast]
  next hphase => simp [owes, hphase, Phase.isLast]
  next => rfl

theorem isSending_sent (s : Signaler) : s.sent.phase.isSending = false := by
  unfold sent
  split
  next => rfl
  next => rfl
  next hlast hnext =>
    cases hphase : s.phase with
    | waiting => rfl
    | finished => rfl
    | sending final =>
        cases final with
        | false => exact absurd hphase hnext
        | true => exact absurd hphase hlast

theorem composer_modify (s : Signaler) (f : Composer → Composer) :
    (s.modify f).composer = f s.composer := by
  unfold modify
  by_cases hsame : f s.composer = s.composer
  · rw [if_pos hsame, hsame]
  · rw [if_neg hsame]

theorem closed_modify (s : Signaler) (f : Composer → Composer) :
    (s.modify f).closed = s.closed := by
  unfold modify
  split <;> rfl

theorem phase_modify (s : Signaler) (f : Composer → Composer) : (s.modify f).phase = s.phase := by
  unfold modify
  split <;> rfl

theorem tick_modify (s : Signaler) (f : Composer → Composer) : (s.modify f).tick = s.tick := by
  unfold modify
  split <;> rfl

theorem heartbeat_modify (s : Signaler) (f : Composer → Composer) :
    (s.modify f).heartbeat = s.heartbeat := by
  unfold modify
  split <;> rfl

theorem owes_modify (s : Signaler) (f : Composer → Composer) : (s.modify f).owes = s.owes := by
  unfold modify
  split <;> rfl

theorem left_le_three (s : Signaler) : s.left ≤ 3 := by
  unfold left
  split
  · omega
  · omega
  · split <;> omega

theorem left_eq_zero_iff : s.left = 0 ↔ s.phase = .finished := by
  unfold left
  split
  next hphase => simp [hphase]
  next hphase => simp [hphase]
  next hlast hnext =>
    constructor
    · intro hzero
      split at hzero <;> omega
    · intro hphase
      exact absurd hphase hlast

/-- That a signal has arrived does not make the way longer. -/
theorem left_sent_le (s : Signaler) : s.sent.left ≤ s.left := by
  unfold sent
  split
  next => exact Nat.zero_le _
  next hphase => simp [left, hphase]
  next => exact Nat.le_refl _

/-- A closed signaler that does not wait for its signal gets nearer to its end. -/
theorem Step.left_lt (h : s.Step s' told?) (hclosed : s.closed = true)
    (waits : s.phase = .waiting) : s'.left < s.left := by
  have hleft : s.left = if s.unseen then 3 else 2 := by rw [left, waits]
  cases h with
  | stays busy => exact absurd waits busy
  | flips tick _ unseen =>
      rw [hleft, if_pos unseen]
      exact Nat.lt_succ_self 2
  | beats tick _ active looked unclosed => cases hclosed.symm.trans unclosed
  | rests _ looked unclosed => cases hclosed.symm.trans unclosed
  | ends =>
      have hone : ({ s with unseen := false, phase := .sending true } : Signaler).left = 1 := rfl
      rw [hone, hleft]
      split <;> omega
  | finishes =>
      have hnone : ({ s with unseen := false, phase := .finished } : Signaler).left = 0 := rfl
      rw [hnone, hleft]
      split <;> omega

/-- A closed signaler that waits rests only at its end. -/
theorem Step.finished_of_none (h : s.Step s' none) (hclosed : s.closed = true)
    (waits : s.phase = .waiting) : s'.phase = .finished := by
  cases h with
  | stays busy => exact absurd waits busy
  | rests _ looked unclosed => cases hclosed.symm.trans unclosed
  | finishes => rfl

/-- Nothing is done while a signal is on its way, or when all is over. -/
theorem turn_of_busy (h : s.phase ≠ .waiting) (now : Nat) : s.turn now = (s, none) := by
  rw [turn, if_pos h]

/-- A signaler that owes something waits when no signal is on its way. -/
theorem waits_of_owes (hidle : s.phase.isSending = false) (howes : s.owes = true) :
    s.phase = .waiting ∧ s.active = true := by
  simp only [owes, Bool.and_eq_true, Bool.not_eq_true'] at howes
  refine ⟨?_, howes.1⟩
  cases hphase : s.phase with
  | waiting => rfl
  | sending final =>
      rw [hphase] at hidle
      cases hidle
  | finished =>
      rw [hphase] at howes
      cases howes.2

theorem Phase.eq_waiting_or_finished {phase : Phase} (h : phase.isSending = false) :
    phase = .waiting ∨ phase = .finished := by
  cases phase with
  | waiting => exact Or.inl rfl
  | finished => exact Or.inr rfl
  | sending final => cases h

end Docket.Signaler
