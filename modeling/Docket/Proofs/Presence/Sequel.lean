import Docket.Proofs.Presence.Sessions

/-!
# The sequel of a run

What a poller does from some moment on depends on what it is then and on the
replies from then on, and on nothing else that went before. So a run falls
into its beginning, which knows only the first replies, and its sequel, which
counts the probes and writes the log as if it were the first.

* `run_agree_below` — a run depends on no reply beyond its last probe.
* `run_onto` — a run goes on behind any earlier one as it does by itself.
* `after_spliced` — the two together: a run is its beginning and its sequel.
-/

namespace Docket.Polling

variable {replies replies' : Nat → Reply Liveness} {w : Polling Nat}

/-- A probe reaches two servers alike that agree on its reply. -/
theorem launch_of_eq (h : replies' w.server = replies w.server) (now : Nat) (q : Probe) :
    launch (.choice replies') w now q = launch (.choice replies) w now q := by
  unfold launch Prober.choice
  rw [h]

theorem settleIn_agree_below {now rounds : Nat}
    (h : ∀ i < (settleIn (.choice replies) now rounds w).server, replies' i = replies i) :
    settleIn (.choice replies') now rounds w = settleIn (.choice replies) now rounds w := by
  induction rounds generalizing w with
  | zero => rfl
  | succ rounds ih =>
      rcases hturn : (w.receive now).poller.turn now with ⟨p, _ | q⟩
      · rw [settleIn_rest hturn, settleIn_rest hturn]
      · rw [settleIn_launch hturn] at h ⊢
        have hsent : (w.receive now).server <
            (settleIn (.choice replies) now rounds
              (launch (.choice replies) { w.receive now with poller := p } now q)).server :=
          kept_later.settleIn now rounds (Nat.lt_succ_self (w.receive now).server)
        have hlaunch := launch_of_eq (w := { w.receive now with poller := p }) (h _ hsent) now q
        rw [settleIn_launch hturn, hlaunch]
        exact ih h

theorem advance_agree_below {target now : Nat}
    (h : ∀ i < (Timeline.advance (settle (.choice replies)) next? target now w).server,
      replies' i = replies i) :
    Timeline.advance (settle (.choice replies')) next? target now w =
      Timeline.advance (settle (.choice replies)) next? target now w := by
  have hsettle : ∀ {now : Nat} {w : Polling Nat},
      (∀ i < (settle (.choice replies) now w).server, replies' i = replies i) →
      settle (.choice replies') now w = settle (.choice replies) now w :=
    settleIn_agree_below
  induction now, w using Timeline.advance.induct (settle (.choice replies)) next? target with
  | case1 now w settled hnext =>
      rw [Timeline.advance, hnext] at h
      rw [Timeline.advance, Timeline.advance, hsettle h, hnext]
  | case2 now w settled t hnext hlt ih =>
      rw [Timeline.advance, hnext] at h
      simp only [if_pos hlt] at h
      have hsettled : settle (.choice replies') now w = settled := by
        apply hsettle
        intro i hi
        exact h i (Timeline.advance_keeps (P := fun w : Polling Nat => i < w.server)
          (fun now _ hw => kept_later.settleIn now rounds hw) hi)
      rw [Timeline.advance, Timeline.advance, hsettled, hnext]
      simp only [if_pos hlt]
      exact ih h
  | case3 now w settled t hnext hlt =>
      rw [Timeline.advance, hnext] at h
      simp only [if_neg hlt] at h
      rw [Timeline.advance, Timeline.advance, hsettle h, hnext]
      simp only [if_neg hlt]

theorem perform_agree_below {now : Nat} {act : Act}
    (h : ∀ i < (w.perform (.choice replies) now act).server, replies' i = replies i) :
    w.perform (.choice replies') now act = w.perform (.choice replies) now act := by
  cases act with
  | pass span => exact advance_agree_below h
  | _ => rfl

/-- A run depends on no reply beyond its last probe. -/
theorem run_agree_below {now : Nat} {acts : List Act}
    (h : ∀ i < (run (.choice replies) now acts w).server, replies' i = replies i) :
    run (.choice replies') now acts w = run (.choice replies) now acts w := by
  induction acts generalizing now w with
  | nil => rfl
  | cons act rest ih =>
      have hperform : w.perform (.choice replies') now act =
          w.perform (.choice replies) now act := by
        apply perform_agree_below
        intro i hi
        exact h i (run_keeps kept_later _ rest hi)
      rw [run, run, hperform]
      exact ih h

/-- The poller goes on behind an earlier run: its probes are numbered from
there, and its log is added. -/
def onto (earlier w : Polling Nat) : Polling Nat :=
  { w with server := earlier.server + w.server, log := earlier.log ++ w.log }

/-- The poller begins to count and to log anew. -/
def afresh (w : Polling Nat) : Polling Nat :=
  { w with server := 0, log := [] }

@[simp] theorem onto_afresh (w : Polling Nat) : w.onto w.afresh = w := by
  simp [onto, afresh]

variable (earlier : Polling Nat)

theorem receive_onto (w : Polling Nat) (now : Nat) :
    (earlier.onto w).receive now = earlier.onto (w.receive now) := by
  unfold receive onto
  dsimp only
  split
  · split
    · simp only [List.append_assoc]
    · rfl
  · rfl

theorem drop_onto (w : Polling Nat) : (earlier.onto w).drop = earlier.onto w.drop := by
  unfold drop onto
  dsimp only
  split
  · simp only [List.append_assoc]
  · rfl

theorem start_onto (w : Polling Nat) (now : Nat) (request : RequestId) (seed : Cursor) :
    (earlier.onto w).start now request seed = earlier.onto (w.start now request seed) := by
  by_cases hactive : w.poller.active? = some request
  · have honto : (earlier.onto w).poller.active? = some request := hactive
    rw [start_of_active hactive, start_of_active honto]
  · have honto : (earlier.onto w).poller.active? ≠ some request := hactive
    rw [start_of_other hactive, start_of_other honto, drop_onto]
    rfl

theorem stop_onto (w : Polling Nat) : (earlier.onto w).stop = earlier.onto w.stop := by
  unfold stop
  rw [drop_onto]
  rfl

/-- The replies to later probes are these. -/
def Continues (replies answers : Nat → Reply Liveness) : Prop :=
  ∀ i, replies (earlier.server + i) = answers i

variable {earlier} {answers : Nat → Reply Liveness}

theorem launch_onto (h : earlier.Continues replies answers) (w : Polling Nat) (now : Nat)
    (q : Probe) :
    launch (.choice replies) (earlier.onto w) now q =
      earlier.onto (launch (.choice answers) w now q) := by
  unfold launch Prober.choice onto
  dsimp only
  rw [h, List.append_assoc, Nat.add_assoc]

theorem settleIn_onto (h : earlier.Continues replies answers) (now rounds : Nat)
    (w : Polling Nat) :
    settleIn (.choice replies) now rounds (earlier.onto w) =
      earlier.onto (settleIn (.choice answers) now rounds w) := by
  induction rounds generalizing w with
  | zero => rfl
  | succ rounds ih =>
      have hreceive := receive_onto earlier w now
      rcases hturn : (w.receive now).poller.turn now with ⟨p, _ | q⟩
      · have honto : ((earlier.onto w).receive now).poller.turn now = (p, none) := by
          rw [hreceive]
          exact hturn
        rw [settleIn_rest hturn, settleIn_rest honto, hreceive]
        rfl
      · have honto : ((earlier.onto w).receive now).poller.turn now = (p, some q) := by
          rw [hreceive]
          exact hturn
        have hlaunch := launch_onto h { w.receive now with poller := p } now q
        rw [settleIn_launch hturn, settleIn_launch honto, hreceive, ← ih, ← hlaunch]
        rfl

theorem perform_onto (h : earlier.Continues replies answers) (now : Nat) (act : Act)
    (w : Polling Nat) :
    (earlier.onto w).perform (.choice replies) now act =
      earlier.onto (w.perform (.choice answers) now act) := by
  cases act with
  | start request seed => exact start_onto earlier w now request seed
  | stop => exact stop_onto earlier w
  | nudge => rfl
  | setVisible visible => rfl
  | pass span =>
      exact Timeline.advance_map (fun now w => settleIn_onto h now rounds w) (fun _ => rfl) _ now w

/-- A run goes on behind an earlier one as it does by itself. -/
theorem run_onto (h : earlier.Continues replies answers) (now : Nat) (acts : List Act)
    (w : Polling Nat) :
    run (.choice replies) now acts (earlier.onto w) =
      earlier.onto (run (.choice answers) now acts w) := by
  induction acts generalizing now w with
  | nil => rfl
  | cons act rest ih =>
      rw [run, run, perform_onto h, ih]

/-- So many replies, and then others. -/
def spliced (n : Nat) (replies answers : Nat → Reply Liveness) (i : Nat) : Reply Liveness :=
  if i < n then replies i else answers (i - n)

/-- What a poller does after some acts, with the replies to the probes from
then on, counted and logged from then on. -/
def sequel (policy : Backoff) (replies : Nat → Reply Liveness) (before : List Act)
    (answers : Nat → Reply Liveness) (later : List Act) : Polling Nat :=
  run (.choice answers) (done 0 before) later (after policy replies before).afresh

/-- **A run is its beginning and its sequel.** The beginning gets the replies
to the probes that it sends, and the sequel the replies after those. -/
theorem after_spliced (policy : Backoff) (replies answers : Nat → Reply Liveness)
    (before later : List Act) :
    after policy (spliced (after policy replies before).server replies answers)
        (before ++ later) =
      (after policy replies before).onto (sequel policy replies before answers later) := by
  have hbefore : after policy (spliced (after policy replies before).server replies answers)
      before = after policy replies before := by
    apply run_agree_below
    intro i hi
    exact if_pos hi
  have hcontinues : (after policy replies before).Continues
      (spliced (after policy replies before).server replies answers) answers := by
    intro i
    rw [spliced, if_neg (by omega), Nat.add_sub_cancel_left]
  have hrun := run_onto hcontinues (done 0 before) later (after policy replies before).afresh
  rw [onto_afresh] at hrun
  rw [after_append, hbefore]
  exact hrun

end Docket.Polling
