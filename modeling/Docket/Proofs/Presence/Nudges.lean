import Docket.Proofs.Presence.Sequel
import Docket.Proofs.Presence.Stance

/-!
# Nudges that outlive their session

A nudge that nobody has used is kept when a session ends and when none is
there, and the next session finds it. So sessions do influence each other: a
session that begins with such a nudge probes again as soon as its first probe
was answered well. Nothing else that nudges do reaches a later session.

* `Poller.hasNudge` — a nudge waits to be used.
* `sequel_of_start` — how a session begins; of all nudges given before, it
  knows only whether one waits.
* `nudges_reach_later_sessions` — two histories alike but for nudges make no
  difference to a later session if and only if a nudge waits after both or
  after neither.
-/

namespace Docket.Poller

variable {p : Poller}

/-- A nudge waits to be used, kept as a permit or in the hand of the session. -/
def hasNudge (p : Poller) : Bool :=
  p.permit || p.session?.any Session.isNudged

theorem hasNudge_nudge (p : Poller) : p.nudge.hasNudge = true := by
  unfold nudge
  split
  · split
    · rename_i s hs hawaits
      have hnudged : s.nudged.isNudged = true := by
        unfold Session.awaitsNudge at hawaits
        unfold Session.nudged
        split at hawaits
        · rfl
        · cases hawaits
      simp [hasNudge, hnudged]
    · rfl
  · rfl

theorem hasNudge_setVisible (p : Poller) (visible : Bool) :
    (p.setVisible visible).hasNudge = p.hasNudge := by
  unfold setVisible
  split
  · rfl
  · unfold hasNudge
    rw [Option.any_map]
    rfl

/-- A session leaves its nudge behind. -/
theorem hasNudge_stop (p : Poller) : p.stop.hasNudge = p.hasNudge := by
  unfold stop
  split
  · rfl
  · exact Bool.or_false _

/-- A session begins with the nudge that waits. -/
theorem start_of_other {request : RequestId} (h : p.active? ≠ some request) (now : Nat)
    (seed : Cursor) :
    p.start now request seed =
      ⟨p.policy, p.visible, p.hasNudge, .opening request seed,
        some ⟨request, seed, 0, false, .ready now⟩⟩ := by
  rw [start, if_neg h]
  unfold stop
  split
  · rename_i hnone
    have hsession : p.session? = none := by simpa using hnone
    simp [attach, hasNudge, hsession]
  · rfl

theorem hasNudge_start (p : Poller) (now : Nat) (request : RequestId) (seed : Cursor) :
    (p.start now request seed).hasNudge = p.hasNudge := by
  by_cases h : p.active? = some request
  · rw [start_of_active h]
  · rw [start_of_other h]
    exact Bool.or_false _

theorem hasNudge_answer (p : Poller) (now : Nat) (outcome : Outcome Liveness) :
    (p.answer now outcome).hasNudge = p.hasNudge := by
  unfold answer
  split
  · rename_i s hs
    split
    · simp [succeed, resume, hasNudge, Session.isNudged, *]
    · simp [fail, resume, hasNudge, Session.isNudged, *]
    · rfl
  · rfl

/-- A turn makes no nudge. -/
theorem hasNudge_turn {now : Nat} {p' : Poller} {q? : Option Probe}
    (hturn : p.turn now = (p', q?)) (h : p.hasNudge = false) : p'.hasNudge = false := by
  obtain ⟨hpermit, hsession⟩ := Bool.or_eq_false_iff.mp h
  have hlook : ∀ (s : Session) (due : Nat), p.look s due false now = (p', q?) →
      p'.hasNudge = false := by
    intro s due hlook
    unfold look at hlook
    grind [probe, park, hasNudge, Session.isNudged]
  unfold turn at hturn
  split at hturn
  · cases hturn
    exact h
  · rename_i s hs
    rw [hs, Option.any_some] at hsession
    split at hturn
    · exact hlook s _ hturn
    · rename_i due nudged hphase
      have hnudged : nudged = false := by simpa [Session.isNudged, hphase] using hsession
      rw [hnudged] at hturn
      exact hlook s due hturn
    · cases hturn
      exact h

end Docket.Poller

namespace Docket.Polling

open Poller (Stance)

section

variable {σ : Type} {answer : Prober σ} {w : Polling σ}

/-- The act asks for an early probe. -/
def Act.isNudge : Act → Bool
  | .nudge => true
  | _ => false

/-- All but the nudges. -/
def unnudged (acts : List Act) : List Act :=
  acts.filter fun act => !act.isNudge

/-- What takes no notice of nudges comes to the same without them. -/
theorem foldl_unnudged {α : Type} {f : α → Act → α} (hf : ∀ a, f a .nudge = a) (acts : List Act)
    (a : α) : (unnudged acts).foldl f a = acts.foldl f a := by
  induction acts generalizing a with
  | nil => rfl
  | cons act rest ih =>
      cases act with
      | nudge => rw [List.foldl_cons, hf]; exact ih a
      | _ => exact ih _

theorem steady_hasNudge : Steady answer fun w => w.poller.hasNudge = false :=
  .of_poller (fun now outcome h => (Poller.hasNudge_answer _ now outcome).trans h)
    Poller.hasNudge_turn

theorem hasNudge_perform {act : Act} (hact : act.isNudge = false) (now : Nat)
    (h : w.poller.hasNudge = false) : (w.perform answer now act).poller.hasNudge = false := by
  cases act with
  | start request seed => exact (Poller.hasNudge_start _ now request seed).trans h
  | stop => exact (Poller.hasNudge_stop w.poller).trans h
  | nudge => cases hact
  | setVisible visible => exact (Poller.hasNudge_setVisible w.poller visible).trans h
  | pass span => exact steady_hasNudge.advance now span h

/-- Without nudges none waits. -/
theorem hasNudge_run_unnudged {acts : List Act} (hacts : ∀ act ∈ acts, act.isNudge = false)
    (now : Nat) (h : w.poller.hasNudge = false) :
    (run answer now acts w).poller.hasNudge = false := by
  induction acts generalizing now w with
  | nil => exact h
  | cons act rest ih =>
      rw [List.forall_mem_cons] at hacts
      exact ih hacts.2 (now + act.span) (hasNudge_perform hacts.1 now h)

/-- While nothing is watched, nudges are kept and none is used. -/
theorem Quiet.hasNudge_perform {log : List Event} (h : Quiet log w) (now : Nat) {act : Act}
    (hact : act.isStart = false) :
    (w.perform answer now act).poller.hasNudge = (w.poller.hasNudge || act.isNudge) := by
  cases act with
  | start request seed => cases hact
  | stop => exact (Poller.hasNudge_stop w.poller).trans (Bool.or_false _).symm
  | nudge => exact (Poller.hasNudge_nudge w.poller).trans (Bool.or_true _).symm
  | setVisible visible =>
      exact (Poller.hasNudge_setVisible w.poller visible).trans (Bool.or_false _).symm
  | pass span =>
      show (w.advance answer now span).poller.hasNudge = _
      rw [h.advance]
      exact (Bool.or_false _).symm

theorem Quiet.hasNudge_run {log : List Event} (h : Quiet log w) (now : Nat) {idle : List Act}
    (hidle : ∀ act ∈ idle, act.isStart = false) :
    (run answer now idle w).poller.hasNudge = (w.poller.hasNudge || idle.any Act.isNudge) := by
  induction idle generalizing now w with
  | nil => exact (Bool.or_false _).symm
  | cons act rest ih =>
      rw [List.forall_mem_cons] at hidle
      rw [run, ih (h.perform now hidle.1) _ hidle.2, h.hasNudge_perform now hidle.1, List.any_cons,
        Bool.or_assoc]

end

/-- A session that has just begun, and before which nothing is counted. -/
def opened (stance : Stance) (nudged : Bool) (now : Nat) (request : RequestId) (seed : Cursor) :
    Polling Nat :=
  ⟨⟨stance.policy, stance.visible, nudged, .opening request seed,
    some ⟨request, seed, 0, false, .ready now⟩⟩, none, 0, []⟩

variable {policy : Backoff} {replies replies' : Nat → Reply Liveness} {before before' : List Act}
  {request : RequestId}

/-- Of all that was done before, a session knows what the poller keeps to and
whether a nudge waits. -/
theorem sequel_of_start
    (hother : (after policy replies before).poller.active? ≠ some request) (seed : Cursor)
    (answers : Nat → Reply Liveness) (later : List Act) :
    sequel policy replies (before ++ [.start request seed]) answers later =
      run (.choice answers) (done 0 before) later
        (opened (after policy replies before).poller.stance
          (after policy replies before).poller.hasNudge (done 0 before) request seed) := by
  have hdone : done 0 (before ++ [.start request seed]) = done 0 before := by
    simp [done, Act.span]
  rw [sequel, after_append, hdone]
  show run _ _ later ((after policy replies before).start (done 0 before) request seed).afresh = _
  rw [start_of_other hother, afresh, arriving?_drop, Poller.start_of_other hother]
  rfl

/-- A server that is prompt at first and takes its time afterwards. -/
def promptReplies (i : Nat) : Reply Liveness :=
  if i = 0 then ⟨0, .ok .silent⟩ else ⟨1, .ok .silent⟩

/-- A session that begins with a nudge sends a second probe at once, and one that
begins with none waits after the first. -/
theorem probes_opened {stance : Stance} (hbase : 0 < stance.policy.base stance.visible)
    (nudged : Bool) (now : Nat) (request : RequestId) (seed : Cursor) :
    (run (.choice promptReplies) now [.pass 0]
      (opened stance nudged now request seed)).probes.length = if nudged then 2 else 1 := by
  have hlater : ¬ now + stance.policy.base stance.visible ≤ now := by omega
  have hpause : ¬ now + 1 ≤ now := Nat.not_succ_le_self now
  obtain ⟨more, hrounds⟩ : ∃ more, rounds = more + 3 := ⟨999997, rfl⟩
  have hend : ∀ w : Polling Nat, Timeline.onward (settle (.choice promptReplies)) next? (now + 0)
      now w = w := by
    intro w
    unfold Timeline.onward
    split
    · rfl
    · exact if_neg (by omega)
  show (Timeline.advance (settle (.choice promptReplies)) next? (now + 0) now _).probes.length = _
  rw [Timeline.advance_eq, hend, settle, hrounds]
  cases nudged <;>
    simp [settleIn, receive, opened, Poller.turn, Poller.look, Poller.probe, Poller.park, launch,
      Prober.choice, promptReplies, Poller.answer, Poller.succeed, Poller.resume, Backoff.delay,
      hlater, hpause, probes, Event.sent?, List.filterMap_cons]

/-- What shows of a poller after some acts, whose later probes get these
answers: what becomes of those probes, and what is published. -/
def shown (policy : Backoff) (replies : Nat → Reply Liveness) (before : List Act)
    (answers : Nat → Reply Liveness) (later : List Act) : List Event × Snapshot :=
  let begun := after policy replies before
  let w := after policy (spliced begun.server replies answers) (before ++ later)
  (w.log.drop begun.log.length, w.poller.snapshot)

/-- It is what shows of the sequel. -/
theorem shown_eq_sequel (policy : Backoff) (replies : Nat → Reply Liveness) (before : List Act)
    (answers : Nat → Reply Liveness) (later : List Act) :
    shown policy replies before answers later =
      ((sequel policy replies before answers later).log,
        (sequel policy replies before answers later).poller.snapshot) := by
  unfold shown
  dsimp only
  rw [after_spliced]
  simp [onto]

theorem policy_after (policy : Backoff) (replies : Nat → Reply Liveness) (acts : List Act) :
    (after policy replies acts).poller.stance.policy = policy := by
  unfold after
  rw [stance_run]
  exact Stance.policy_foldl _ acts

/-- Histories alike but for nudges leave the poller to keep to the same. -/
theorem stance_of_alike (halike : unnudged before = unnudged before') :
    (after policy replies before).poller.stance = (after policy replies' before').poller.stance := by
  unfold after
  rw [stance_run, stance_run, ← foldl_unnudged (fun _ => rfl) before, halike,
    foldl_unnudged fun _ => rfl]

theorem done_of_alike (halike : unnudged before = unnudged before') :
    done 0 before = done 0 before' := by
  unfold done
  rw [← foldl_unnudged (fun _ => rfl) before, halike, foldl_unnudged fun _ => rfl]

/-- **Nudges reach later sessions.** Let two histories of a poller be alike but
for nudges, whatever their probes were answered, and let a session begin after
each, with a schedule that leaves time between two good probes. However its
probes are answered and whatever is done with the poller from then on, the same
shows, if and only if a nudge waits at the end of both histories or of neither.
A nudge just given waits, and none waits where none was given; a stop leaves
the nudge that waits where it is, and nudges given while nothing is watched
wait, too. -/
theorem nudges_reach_later_sessions (policy : Backoff) (replies replies' : Nat → Reply Liveness)
    (before before' : List Act) (request : RequestId) (seed : Cursor)
    (halike : unnudged before = unnudged before')
    (hother : (after policy replies before).poller.active? ≠ some request)
    (hbase : 0 < policy.base (after policy replies before).poller.visible) :
    ((∀ answers later,
        shown policy replies (before ++ [.start request seed]) answers later =
          shown policy replies' (before' ++ [.start request seed]) answers later) ↔
      (after policy replies before).poller.hasNudge =
        (after policy replies' before').poller.hasNudge) ∧
    (after policy replies (before ++ [.nudge])).poller.hasNudge = true ∧
    ((∀ act ∈ before, act.isNudge = false) →
      (after policy replies before).poller.hasNudge = false) ∧
    (∀ idle : List Act, (∀ act ∈ idle, act.isStart = false) →
      (after policy replies (before ++ .stop :: idle)).poller.hasNudge =
        ((after policy replies before).poller.hasNudge || idle.any Act.isNudge)) := by
  have hstance : (after policy replies before).poller.stance =
      (after policy replies' before').poller.stance := stance_of_alike halike
  have hother' : (after policy replies' before').poller.active? ≠ some request := by
    intro hactive
    exact hother ((congrArg Stance.active? hstance).trans hactive)
  have hinterval : 0 < (after policy replies before).poller.stance.policy.base
      (after policy replies before).poller.stance.visible := by
    rw [policy_after]
    exact hbase
  have hbegins := sequel_of_start hother seed
  have hbegins' := sequel_of_start hother' seed
  rw [← hstance, ← done_of_alike halike] at hbegins'
  refine ⟨⟨fun hshown => ?_, fun hnudge answers later => ?_⟩, ?_, ?_, ?_⟩
  · have hprobes := congrArg (fun shown => (shown.1.filterMap Event.sent?).length)
      (hshown promptReplies [.pass 0])
    simp only [shown_eq_sequel, hbegins, hbegins'] at hprobes
    have hlength := (probes_opened hinterval _ _ request seed).symm.trans
      (hprobes.trans (probes_opened hinterval _ _ request seed))
    revert hlength
    cases (after policy replies before).poller.hasNudge <;>
      cases (after policy replies' before').poller.hasNudge <;> decide
  · rw [shown_eq_sequel, shown_eq_sequel, hbegins, hbegins', hnudge]
  · rw [after_append]
    exact Poller.hasNudge_nudge _
  · intro hbefore
    exact hasNudge_run_unnudged hbefore 0 rfl
  · intro idle hidle
    rw [after_append]
    have hquiet := (after_sound policy replies before).quiet_stop
    refine (hquiet.hasNudge_run (done 0 before) hidle).trans ?_
    rw [← Poller.hasNudge_stop (after policy replies before).poller]
    rfl

/-- What is done with a poller that watches a request for a while, is nudged
while it waits, and is stopped before it can follow the nudge. -/
def watchedOnce (nudged : Bool) : List Act :=
  [.start ⟨"r-1"⟩ .start, .pass 1] ++ (if nudged then [.nudge] else []) ++ [.stop]

/-- The nudge in hand of a session that was stopped reaches the next one. -/
theorem nudges_reach_later_sessions_after_stop :
    unnudged (watchedOnce true) = unnudged (watchedOnce false) ∧
      (after .standard promptReplies (watchedOnce true)).poller.active? ≠ some ⟨"r-2"⟩ ∧
      0 < Backoff.standard.base
        (after .standard promptReplies (watchedOnce true)).poller.visible ∧
      ¬ ∀ answers later,
        shown .standard promptReplies (watchedOnce true ++ [.start ⟨"r-2"⟩ .start]) answers later =
          shown .standard promptReplies (watchedOnce false ++ [.start ⟨"r-2"⟩ .start]) answers
            later := by
  have hother : (after .standard promptReplies (watchedOnce true)).poller.active? ≠
      some ⟨"r-2"⟩ := by decide +kernel
  have hbase : 0 < Backoff.standard.base
      (after .standard promptReplies (watchedOnce true)).poller.visible := by decide +kernel
  have hnudge : (after .standard promptReplies (watchedOnce true)).poller.hasNudge ≠
      (after .standard promptReplies (watchedOnce false)).poller.hasNudge := by decide +kernel
  refine ⟨rfl, hother, hbase, fun hshown => hnudge ?_⟩
  exact (nudges_reach_later_sessions .standard promptReplies promptReplies (watchedOnce true)
    (watchedOnce false) ⟨"r-2"⟩ .start rfl hother hbase).1.mp hshown

/-- The instants of the probes that show. -/
def probeTimes (shown : List Event × Snapshot) : List Nat :=
  (shown.1.filterMap Event.sent?).map SentProbe.time

/-- One nudge, given before anything was watched, makes the first session probe
twice at its beginning. -/
theorem nudge_at_rest_probes_twice :
    probeTimes (shown .standard promptReplies [.start ⟨"r-1"⟩ .start] promptReplies
        [.pass 1]) = [0] ∧
      probeTimes (shown .standard promptReplies [.nudge, .start ⟨"r-1"⟩ .start] promptReplies
        [.pass 1]) = [0, 0] := by
  constructor <;> decide +kernel

end Docket.Polling
