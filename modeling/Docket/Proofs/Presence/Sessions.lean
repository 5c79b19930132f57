import Docket.Proofs.Presence.Polling

/-!
# Sessions of a poller stay apart

The server answers each probe as it likes and after as long as it likes. When
a session ends while a probe is outstanding, nobody learns how that probe
would have been answered: two runs that differ in this reply alone go on as
one. Latencies and instants are ideal, of any length and exact.

The proof runs the poller against both replies at once. Until the probe is
sent the two runs are the same. While both wait for the reply they differ in
what is on its way and in nothing else. A run that has taken the reply or
dropped it can never wait for it again.

* `Together.run` — two runs stay together in one of these three ways.
* `after_of_dropped` — they are the same once both have dropped the reply.
* `sessions_stay_apart` — all that sessions leave to each other and to a
  poller at rest.
-/

namespace Docket

/-- Answers the probes with these replies, by their number. -/
def Prober.choice (replies : Nat → Reply Liveness) : Prober Nat := fun k _now _probe =>
  (replies k, k + 1)

namespace Polling

variable {replies replies' : Nat → Reply Liveness} {k : Nat} {w w' : Polling Nat}

/-- A poller after some acts, whose probes get these replies. -/
def after (policy : Backoff) (replies : Nat → Reply Liveness) (acts : List Act) : Polling Nat :=
  run (.choice replies) 0 acts (new policy 0)

/-- The acts are done one after another. -/
theorem after_append (policy : Backoff) (before rest : List Act) :
    after policy replies (before ++ rest) =
      run (.choice replies) (done 0 before) rest (after policy replies before) :=
  run_append 0 before rest (new policy 0)

theorem after_sound (policy : Backoff) (replies : Nat → Reply Liveness) (acts : List Act) :
    (after policy replies acts).Sound :=
  run_sound policy 0 0 acts

@[simp] theorem server_drop (w : Polling Nat) : w.drop.server = w.server := by
  unfold drop
  split <;> rfl

theorem sent_drop (w : Polling Nat) : sent w.drop.log = sent w.log := by
  unfold drop
  split
  · exact sent_append w.log .dropped
  · rfl

theorem probes_drop (w : Polling Nat) : w.drop.probes = w.probes := by
  unfold drop
  split
  · simp [probes, Event.sent?]
  · rfl

@[simp] theorem server_start (w : Polling Nat) (now : Nat) (request : RequestId) (seed : Cursor) :
    (w.start now request seed).server = w.server := by
  by_cases hactive : w.poller.active? = some request
  · rw [start_of_active hactive]
  · rw [start_of_other hactive]
    exact server_drop w

@[simp] theorem server_receive (w : Polling Nat) (now : Nat) :
    (w.receive now).server = w.server := by
  unfold receive
  split
  · split <;> rfl
  · rfl

/-- More probes were sent than `k`. -/
theorem kept_later : Kept (.choice replies) fun w => k < w.server where
  receive now h := by rw [server_receive]; exact h
  rest h _ := h
  launch h _ := Nat.lt_succ_of_lt h
  start now request seed h := by rw [server_start]; exact h
  stop {w} h := by show k < w.drop.server; rw [server_drop]; exact h
  nudge h := h
  setVisible _ h := h

/-- Two servers that differ in one reply agree on every other probe. -/
theorem launch_agree (hoff : ∀ i, i ≠ k → replies' i = replies i) (h : w.server ≠ k) (now : Nat)
    (q : Probe) : launch (.choice replies') w now q = launch (.choice replies) w now q := by
  unfold launch Prober.choice
  rw [hoff _ h]

/-- They agree on all probes that are still to come. -/
theorem settleIn_agree (hoff : ∀ i, i ≠ k → replies' i = replies i) (now rounds : Nat)
    (h : k < w.server) :
    settleIn (.choice replies') now rounds w = settleIn (.choice replies) now rounds w := by
  induction rounds generalizing w with
  | zero => rfl
  | succ rounds ih =>
      rcases hturn : (w.receive now).poller.turn now with ⟨p, _ | q⟩
      · rw [settleIn_rest hturn, settleIn_rest hturn]
      · have hserver : k < (w.receive now).server := by rw [server_receive]; exact h
        have hlaunch := launch_agree (w := { w.receive now with poller := p }) hoff
          (Nat.ne_of_gt hserver) now q
        rw [settleIn_launch hturn, settleIn_launch hturn, hlaunch]
        exact ih (Nat.lt_succ_of_lt hserver)

theorem perform_agree (hoff : ∀ i, i ≠ k → replies' i = replies i) (now : Nat) (act : Act)
    (h : k < w.server) :
    w.perform (.choice replies') now act = w.perform (.choice replies) now act := by
  cases act with
  | pass span =>
      exact Timeline.advance_congr (P := fun w => k < w.server)
        (fun now _ hw => kept_later.settleIn now rounds hw)
        (fun now _ hw => settleIn_agree hoff now rounds hw) h
  | _ => rfl

/-- Runs that have one probe behind them do not depend on its reply. -/
theorem run_agree (hoff : ∀ i, i ≠ k → replies' i = replies i) (now : Nat) (acts : List Act)
    (h : k < w.server) :
    run (.choice replies') now acts w = run (.choice replies) now acts w := by
  induction acts generalizing now w with
  | nil => rfl
  | cons act rest ih =>
      rw [run, run, perform_agree hoff now act h]
      exact ih _ (kept_later.perform now act h)

/-- The reply to the probe with this number was taken or dropped. -/
def Past (k : Nat) (w : Polling Nat) : Prop :=
  k + 1 < w.server ∨ w.server = k + 1 ∧ w.arriving? = none

theorem Past.drop (h : Past k w) : Past k w.drop := by
  rcases h with h | ⟨hserver, -⟩
  · exact Or.inl ((server_drop w).symm ▸ h)
  · exact Or.inr ⟨(server_drop w).trans hserver, arriving?_drop w⟩

/-- Once a reply was taken or dropped it stays so. -/
theorem kept_past : Kept (.choice replies) (Past k) where
  receive {w} now h := by
    rcases h with h | ⟨hserver, hnone⟩
    · exact Or.inl (by rw [server_receive]; exact h)
    · rw [receive, hnone]
      exact Or.inr ⟨hserver, hnone⟩
  rest h _ := h
  launch {w p q now} h _ := by
    refine Or.inl ?_
    show k + 1 < w.server + 1
    rcases h with h | ⟨hserver, -⟩ <;> omega
  start {w} now request seed h := by
    by_cases hactive : w.poller.active? = some request
    · rw [start_of_active hactive]
      exact h
    · rw [start_of_other hactive]
      exact h.drop
  stop h := h.drop
  nudge h := h
  setVisible _ h := h

/-- The poller waits for the probe with this number, whose reply arrives at an
instant. -/
structure Waiting (k time : Nat) (w : Polling Nat) : Prop where
  server : w.server = k + 1
  probing : w.poller.isProbing = true
  arriving : ∃ outcome, w.arriving? = some (time, outcome)

namespace Waiting

variable {time now : Nat}

/-- A reply that is not there yet is not taken. -/
theorem receive_of_lt (h : Waiting k time w) (hnow : now < time) : w.receive now = w := by
  obtain ⟨outcome, harriving⟩ := h.arriving
  rw [receive, harriving]
  exact if_neg (Nat.not_le.mpr hnow)

theorem past_receive (h : Waiting k time w) (hnow : time ≤ now) : Past k (w.receive now) := by
  obtain ⟨outcome, harriving⟩ := h.arriving
  rw [receive, harriving]
  refine Or.inr ?_
  dsimp only
  rw [if_pos hnow]
  exact ⟨h.server, rfl⟩

theorem next? (h : Waiting k time w) : w.next? = some time := by
  obtain ⟨outcome, harriving⟩ := h.arriving
  simp [Polling.next?, harriving, Poller.due?_of_isProbing h.probing]

/-- Settling takes the reply if it is there. -/
theorem past_settleIn (h : Waiting k time w) (hnow : time ≤ now) {rounds : Nat}
    (hrounds : 0 < rounds) : Past k (settleIn (.choice replies) now rounds w) := by
  obtain ⟨rounds, rfl⟩ := Nat.exists_eq_succ_of_ne_zero (Nat.ne_of_gt hrounds)
  have hpast := h.past_receive hnow
  rcases hturn : (w.receive now).poller.turn now with ⟨p, _ | q⟩
  · rw [settleIn_rest hturn]
    exact hpast
  · rw [settleIn_launch hturn]
    exact kept_past.settleIn now rounds (kept_past.launch hpast hturn)

/-- Settling does nothing before the reply is there. -/
theorem settleIn_of_lt (h : Waiting k time w) (hnow : now < time) (rounds : Nat) :
    settleIn (.choice replies) now rounds w = w := by
  have hreceive := h.receive_of_lt hnow
  have hturn : (w.receive now).poller.turn now = (w.poller, none) := by
    rw [hreceive]
    exact Poller.turn_of_isProbing h.probing now
  cases rounds with
  | zero => rfl
  | succ rounds => rw [settleIn_rest hturn, hreceive]

/-- Time that goes on to the reply takes it. -/
theorem past_onward (h : Waiting k time w) {target : Nat} (hnow : now < time ∧ time < target) :
    Past k (Timeline.onward (settle (.choice replies)) Polling.next? target now w) := by
  rw [Timeline.onward, h.next?]
  dsimp only
  rw [if_pos hnow, Timeline.advance_eq]
  exact Timeline.onward_keeps (fun now _ hw => kept_past.settleIn now rounds hw)
    (h.past_settleIn (Nat.le_refl time) (by decide : 0 < rounds))

/-- Time that ends before the reply goes on in silence. -/
theorem onward_of_not (h : Waiting k time w) {target : Nat}
    (hnow : ¬(now < time ∧ time < target)) :
    Timeline.onward (settle (.choice replies)) Polling.next? target now w = w := by
  rw [Timeline.onward, h.next?]
  exact if_neg hnow

theorem nudge (h : Waiting k time w) : Waiting k time w.nudge :=
  ⟨h.server, (Poller.isProbing_nudge w.poller).trans h.probing, h.arriving⟩

theorem setVisible (h : Waiting k time w) (visible : Bool) :
    Waiting k time (w.setVisible visible) :=
  ⟨h.server, (Poller.isProbing_setVisible w.poller visible).trans h.probing, h.arriving⟩

theorem past_drop (h : Waiting k time w) : Past k w.drop :=
  Or.inr ⟨(server_drop w).trans h.server, arriving?_drop w⟩

end Waiting

/-- How two runs stay together that differ in the reply to one probe. They are
the same until it is sent, then they wait for different replies, and in the
end one of them waits no more. Replies that are `tied` take the same time, and
are then waited for equally long. -/
inductive Together (k : Nat) (tied : Prop) : Polling Nat → Polling Nat → Prop where
  | same {w : Polling Nat} (h : w.server ≤ k) : Together k tied w w
  | waiting {w w' : Polling Nat} {time time' : Nat} (h : Waiting k time w)
      (h' : Waiting k time' w') (htied : tied → time' = time)
      (heq : { w with arriving? := w'.arriving? } = w') : Together k tied w w'
  | past {w w' : Polling Nat} (h : Past k w ∨ ¬ tied ∧ Past k w') : Together k tied w w'

namespace Together

variable {tied : Prop}

/-- Two runs that wait and then wait or take the reply stay together. -/
theorem of_waiting {time time' : Nat} (h : Waiting k time w) (h' : Waiting k time' w')
    (htied : tied → time' = time) (heq : { w with arriving? := w'.arriving? } = w')
    {v v' : Polling Nat}
    {taken taken' : Prop} (hv : taken → Past k v) (hv' : taken' → Past k v')
    (hw : ¬ taken → v = w) (hw' : ¬ taken' → v' = w')
    (hboth : time' = time → (taken' ↔ taken)) : Together k tied v v' := by
  by_cases htaken : taken
  · exact .past (Or.inl (hv htaken))
  by_cases htaken' : taken'
  · exact .past (Or.inr ⟨fun ht => htaken ((hboth (htied ht)).mp htaken'), hv' htaken'⟩)
  · rw [hw htaken, hw' htaken']
    exact .waiting h h' htied heq

/-- Settling keeps two runs together that wait. -/
theorem settleIn_waiting {time time' : Nat} (h : Waiting k time w) (h' : Waiting k time' w')
    (htied : tied → time' = time) (heq : { w with arriving? := w'.arriving? } = w')
    (now rounds : Nat) :
    Together k tied (settleIn (.choice replies) now rounds w)
      (settleIn (.choice replies') now rounds w') := by
  cases rounds with
  | zero => exact .waiting h h' htied heq
  | succ rounds =>
      refine of_waiting h h' htied heq
        (fun hnow => h.past_settleIn hnow rounds.succ_pos)
        (fun hnow => h'.past_settleIn hnow rounds.succ_pos)
        (fun hnow => h.settleIn_of_lt (Nat.not_le.mp hnow) _)
        (fun hnow => h'.settleIn_of_lt (Nat.not_le.mp hnow) _) ?_
      rintro rfl
      exact Iff.rfl

/-- Settling keeps two runs together that have not come to the probe. -/
theorem settleIn_same (hoff : ∀ i, i ≠ k → replies' i = replies i)
    (htied : tied → (replies' k).delay = (replies k).delay) (now rounds : Nat)
    (h : w.server ≤ k) :
    Together k tied (settleIn (.choice replies) now rounds w)
      (settleIn (.choice replies') now rounds w) := by
  induction rounds generalizing w with
  | zero => exact .same h
  | succ rounds ih =>
      have hserver : (w.receive now).server ≤ k := by rw [server_receive]; exact h
      rcases hturn : (w.receive now).poller.turn now with ⟨p, _ | q⟩
      · rw [settleIn_rest hturn, settleIn_rest hturn]
        exact .same hserver
      · rw [settleIn_launch hturn, settleIn_launch hturn]
        by_cases hk : (w.receive now).server = k
        -- this is the probe whose replies differ: from here on both runs wait
        · have hprobing := (Poller.isProbing_of_turn_some hturn).2
          have hwaiting : ∀ replies : Nat → Reply Liveness, Waiting k (now + (replies k).delay)
              (launch (.choice replies) { w.receive now with poller := p } now q) :=
            fun replies => ⟨congrArg Nat.succ hk, hprobing, (replies k).outcome,
              by rw [← hk]; rfl⟩
          exact settleIn_waiting (hwaiting replies) (hwaiting replies')
            (fun ht => by rw [htied ht]) rfl now rounds
        · have hlaunch := launch_agree (w := { w.receive now with poller := p }) hoff hk now q
          rw [hlaunch]
          exact ih (Nat.lt_of_le_of_ne hserver hk)

variable {target now : Nat}

/-- Time goes onward for two runs together if it does for two that are the
same. -/
theorem onward (hsame : ∀ t, w.next? = some t → now < t ∧ t < target → w.server ≤ k →
      Together k tied (Timeline.advance (settle (.choice replies)) next? target t w)
        (Timeline.advance (settle (.choice replies')) next? target t w))
    (h : Together k tied w w') :
    Together k tied (Timeline.onward (settle (.choice replies)) next? target now w)
      (Timeline.onward (settle (.choice replies')) next? target now w') := by
  cases h with
  | same h =>
      unfold Timeline.onward
      cases hnext : w.next? with
      | none => exact .same h
      | some t =>
          by_cases ht : now < t ∧ t < target
          · simp only [if_pos ht]
            exact hsame t hnext ht h
          · simp only [if_neg ht]
            exact .same h
  | waiting h h' htied heq =>
      refine of_waiting h h' htied heq h.past_onward h'.past_onward h.onward_of_not
        h'.onward_of_not ?_
      rintro rfl
      exact Iff.rfl
  | past h =>
      refine .past (h.imp (fun h => ?_) (fun h => ⟨h.1, ?_⟩))
      · exact Timeline.onward_keeps (fun now _ hw => kept_past.settleIn now rounds hw) h
      · exact Timeline.onward_keeps (fun now _ hw => kept_past.settleIn now rounds hw) h.2

/-- Time keeps two runs together that have not come to the probe. -/
theorem advance_same (hoff : ∀ i, i ≠ k → replies' i = replies i)
    (htied : tied → (replies' k).delay = (replies k).delay) (h : w.server ≤ k) :
    Together k tied (Timeline.advance (settle (.choice replies)) next? target now w)
      (Timeline.advance (settle (.choice replies')) next? target now w) := by
  -- on the time that is left, since the two runs may go onward to different instants
  induction hleft : target - now using Nat.strongRecOn generalizing now w with
  | ind left ih =>
      rw [Timeline.advance_eq, Timeline.advance_eq]
      refine onward (fun t _ ht hserver => ?_) (settleIn_same hoff htied now rounds h)
      exact ih (target - t) (by omega) hserver rfl

theorem perform (hoff : ∀ i, i ≠ k → replies' i = replies i)
    (htied : tied → (replies' k).delay = (replies k).delay) (now : Nat) (act : Act)
    (h : Together k tied w w') :
    Together k tied (w.perform (.choice replies) now act)
      (w'.perform (.choice replies') now act) := by
  cases h with
  | same h =>
      cases act with
      | pass span => exact advance_same hoff htied h
      | start request seed => exact .same ((server_start w now request seed).symm ▸ h)
      | stop => exact .same ((server_drop w).symm ▸ h)
      | nudge => exact .same h
      | setVisible visible => exact .same h
  | waiting h h' hsame heq =>
      cases act with
      | start request seed =>
          have hpoller : w'.poller = w.poller := by rw [← heq]
          by_cases hactive : w.poller.active? = some request
          · show Together k tied (w.start now request seed) (w'.start now request seed)
            rw [start_of_active hactive, start_of_active (hpoller.symm ▸ hactive)]
            exact .waiting h h' hsame heq
          · refine .past (Or.inl ?_)
            show Past k (w.start now request seed)
            rw [start_of_other hactive]
            exact h.past_drop
      | stop => exact .past (Or.inl h.past_drop)
      | nudge => exact .waiting h.nudge h'.nudge hsame (congrArg Polling.nudge heq)
      | setVisible visible =>
          exact .waiting (h.setVisible visible) (h'.setVisible visible) hsame
            (congrArg (·.setVisible visible) heq)
      | pass span =>
          show Together k tied (Timeline.advance _ _ _ _ w) (Timeline.advance _ _ _ _ w')
          rw [Timeline.advance_eq, Timeline.advance_eq]
          refine onward (fun t _ _ hserver => ?_) (settleIn_waiting h h' hsame heq now rounds)
          have hsent : k < w.server := h.server ▸ Nat.lt_succ_self k
          have hlater : k < (settleIn (.choice replies) now rounds w).server :=
            kept_later.settleIn now rounds hsent
          exact absurd hserver (Nat.not_le.mpr hlater)
  | past h =>
      exact .past (h.imp (kept_past.perform now act) (fun h => ⟨h.1, kept_past.perform now act h.2⟩))

/-- Two runs that differ in the reply to one probe stay together. -/
theorem run (hoff : ∀ i, i ≠ k → replies' i = replies i)
    (htied : tied → (replies' k).delay = (replies k).delay) (now : Nat) (acts : List Act)
    (h : Together k tied w w') :
    Together k tied (run (.choice replies) now acts w) (run (.choice replies') now acts w') := by
  induction acts generalizing now w w' with
  | nil => exact h
  | cons act rest ih => exact ih (now + act.span) (h.perform hoff htied now act)

end Together

/-- The server has seen the probes that the log tells. -/
theorem kept_counted : Kept (.choice replies) fun w => w.server = sent w.log where
  receive {w} now h := by
    unfold receive
    split
    · split
      · simpa [Event.isSent, Event.sent?] using h
      · exact h
    · exact h
  rest h _ := h
  launch {w p q now} h _ := by
    show w.server + 1 = sent (w.log ++ [.sent ⟨now, q⟩])
    rw [sent_append, h]
    rfl
  start {w} now request seed h := by
    by_cases hactive : w.poller.active? = some request
    · rw [start_of_active hactive]
      exact h
    · rw [start_of_other hactive]
      exact (server_drop w).trans (h.trans (sent_drop w).symm)
  stop {w} h := (server_drop w).trans (h.trans (sent_drop w).symm)
  nudge h := h
  setVisible _ h := h

/-- A probe that is outstanding is on its way and neither taken nor dropped. -/
theorem not_past_of_awaits {policy : Backoff} {acts : List Act}
    (h : (after policy replies acts).Awaits k) :
    (after policy replies acts).server = k + 1 ∧ ¬ Past k (after policy replies acts) := by
  have hserver : (after policy replies acts).server = sent (after policy replies acts).log :=
    run_keeps kept_counted 0 acts rfl
  have hcount := (after_sound policy replies acts).outstanding
  refine ⟨hserver.trans h.1, ?_⟩
  rintro (hlater | ⟨-, hnone⟩)
  · have := h.1
    omega
  · rw [hnone, h.1, h.2] at hcount
    simp at hcount

/-- The act ends the session that is watched, if there is one. -/
def Act.Ends (w : Polling Nat) : Act → Prop
  | .stop => True
  | .start request _ => w.poller.active? ≠ some request
  | _ => False

/-- What ends a session leaves nothing of the reply that is on its way. -/
theorem perform_of_ends {now : Nat} {act : Act} (h : act.Ends w)
    (heq : { w with arriving? := w'.arriving? } = w') (harriving : w.arriving?.isSome = true)
    (harriving' : w'.arriving?.isSome = true) :
    w'.perform (.choice replies') now act = w.perform (.choice replies) now act := by
  have hdrop : w'.drop = w.drop := by
    unfold drop
    rw [if_pos harriving, if_pos harriving', ← heq]
  have hpoller : w'.poller = w.poller := by rw [← heq]
  cases act with
  | start request seed =>
      show w'.start now request seed = w.start now request seed
      rw [start_of_other h, start_of_other (hpoller.symm ▸ h), hdrop, hpoller]
  | stop =>
      show ({ w'.drop with poller := w'.poller.stop } : Polling Nat) = w.stop
      rw [hdrop, hpoller]
      rfl
  | _ => exact h.elim

/-- **A reply that was dropped changes nothing.** Let a session end while a
probe is outstanding. With any other reply to it, as long as it would have
been outstanding still, the poller goes on as it does. -/
theorem after_of_dropped {policy : Backoff} {before later : List Act} {act : Act}
    (hawaits : (after policy replies before).Awaits k)
    (hoff : ∀ i, i ≠ k → replies' i = replies i)
    (hstill : (replies' k).delay = (replies k).delay ∨ (after policy replies' before).Awaits k)
    (hends : act.Ends (after policy replies before)) :
    after policy replies' (before ++ act :: later) =
      after policy replies (before ++ act :: later) := by
  obtain ⟨hserver, hpast⟩ := not_past_of_awaits hawaits
  have htogether : Together k ((replies' k).delay = (replies k).delay)
      (after policy replies before) (after policy replies' before) :=
    Together.run hoff id 0 before (.same (Nat.zero_le k))
  rw [after_append, after_append, run, run]
  generalize hw : after policy replies before = w at *
  generalize hw' : after policy replies' before = w' at *
  cases htogether with
  | same h => omega
  | waiting h h' _ heq =>
      obtain ⟨outcome, harriving⟩ := h.arriving
      obtain ⟨outcome', harriving'⟩ := h'.arriving
      have hperform : w'.perform (.choice replies') (done 0 before) act =
          w.perform (.choice replies) (done 0 before) act :=
        perform_of_ends hends heq (by rw [harriving]; rfl) (by rw [harriving']; rfl)
      rw [hperform]
      refine run_agree hoff _ later (kept_later.perform _ act ?_)
      omega
  | past h =>
      rcases h with h | ⟨htied, h⟩
      · exact absurd h hpast
      · have hawaits' := hstill.resolve_left htied
        subst hw'
        exact absurd h (not_past_of_awaits hawaits').2

/-- After a stop nothing is published and no probe is sent until a start. -/
theorem after_stop (policy : Backoff) (before : List Act) {idle : List Act}
    (hidle : ∀ act ∈ idle, act.isStart = false) :
    (after policy replies (before ++ .stop :: idle)).poller.snapshot = .empty ∧
      (after policy replies (before ++ .stop :: idle)).probes =
        (after policy replies before).probes := by
  have hquiet : Quiet (after policy replies before).drop.log
      (run (.choice replies) (done 0 before) idle (after policy replies before).stop) :=
    run_quiet (done 0 before) hidle (after_sound policy replies before).quiet_stop
  rw [after_append]
  refine ⟨hquiet.snapshot, ?_⟩
  exact (congrArg (List.filterMap Event.sent?) hquiet.log).trans (probes_drop _)

/-- **Sessions of a poller stay apart.** Whatever is done with a poller, in
whatever order and at whatever times, and however and whenever each probe is
answered: at most one probe is outstanding at every moment; the reply to a
probe that is outstanding when its session ends changes nothing from then on,
whatever it would have been; after a stop nothing is published and no probe is
sent until a start; and to start what is watched already changes nothing. -/
theorem sessions_stay_apart (policy : Backoff) (replies : Nat → Reply Liveness)
    (before : List Act) :
    Serial (after policy replies before).log ∧
    (∀ (k : Nat) (replies' : Nat → Reply Liveness) (act : Act) (later : List Act),
      (after policy replies before).Awaits k → (∀ i, i ≠ k → replies' i = replies i) →
      ((replies' k).delay = (replies k).delay ∨ (after policy replies' before).Awaits k) →
      act.Ends (after policy replies before) →
      after policy replies' (before ++ act :: later) =
        after policy replies (before ++ act :: later)) ∧
    (∀ idle : List Act, (∀ act ∈ idle, act.isStart = false) →
      (after policy replies (before ++ .stop :: idle)).poller.snapshot = .empty ∧
      (after policy replies (before ++ .stop :: idle)).probes =
        (after policy replies before).probes) ∧
    (∀ (request : RequestId) (seed : Cursor) (later : List Act),
      (after policy replies before).poller.active? = some request →
      after policy replies (before ++ .start request seed :: later) =
        after policy replies (before ++ later)) := by
  refine ⟨(after_sound policy replies before).serial, ?_, ?_, ?_⟩
  · intro k replies' act later hawaits hoff hstill hends
    exact after_of_dropped hawaits hoff hstill hends
  · intro idle hidle
    exact after_stop policy before hidle
  · intro request seed later hactive
    have hstart : (after policy replies before).start (done 0 before) request seed =
        after policy replies before := start_of_active hactive _ seed
    rw [after_append, after_append, run]
    exact congrArg (run _ _ later) hstart

/-- A reply that takes its time, and one that takes longer and tells more. -/
def lateReplies (late : Bool) (i : Nat) : Reply Liveness :=
  if late ∧ i = 0 then ⟨20, .ok ⟨none, [⟨"Ada", none⟩]⟩⟩ else ⟨10, .ok .silent⟩

/-- Another request is watched while the first probe is outstanding, and the
late reply to it is not missed. -/
theorem sessions_stay_apart_at_first_probe :
    (after .standard (lateReplies false) [.start ⟨"R1"⟩ .start, .pass 1]).Awaits 0 ∧
      lateReplies true 0 ≠ lateReplies false 0 ∧
      after .standard (lateReplies true)
          ([.start ⟨"R1"⟩ .start, .pass 1] ++ .start ⟨"R2"⟩ .start :: [.pass 50]) =
        after .standard (lateReplies false)
          ([.start ⟨"R1"⟩ .start, .pass 1] ++ .start ⟨"R2"⟩ .start :: [.pass 50]) := by
  have hawaits : ∀ late,
      (after .standard (lateReplies late) [.start ⟨"R1"⟩ .start, .pass 1]).Awaits 0 := by
    intro late
    cases late
    · exact ⟨by decide +kernel, by decide +kernel⟩
    · exact ⟨by decide +kernel, by decide +kernel⟩
  have hends : Act.Ends
      (after .standard (lateReplies false) [.start ⟨"R1"⟩ .start, .pass 1])
      (.start ⟨"R2"⟩ .start) := by
    show ¬ _ = _
    decide +kernel
  have hoff : ∀ i, i ≠ 0 → lateReplies true i = lateReplies false i := by
    intro i hi
    simp [lateReplies, hi]
  refine ⟨hawaits false, fun heq => ?_, ?_⟩
  · exact absurd (congrArg Reply.delay heq) (by decide)
  · exact (sessions_stay_apart .standard (lateReplies false) _).2.1 0 (lateReplies true) _ [.pass 50]
      (hawaits false) hoff (Or.inr (hawaits true)) hends

end Polling
end Docket
