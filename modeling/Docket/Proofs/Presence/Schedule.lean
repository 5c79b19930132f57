import Docket.Proofs.Presence.Diary
import Docket.Proofs.Presence.Stance
import Mathlib.Order.Bounds.Basic

/-!
# When probes are sent

Every diary of a poller keeps to the schedule of its policy. A session begins
with a probe. After a failure the next one follows when the wait that the
policy asks for is over, whatever happens meanwhile. After a good answer it
follows then, or as soon as somebody beckons. Who looks away moves nothing.

What carries the proof is the instant that an answer has set: it is kept while
the session goes on and sends no probe, and time does not pass it. Instants are
ideal: the schedule is kept to the nanosecond, without a timer that rounds up to
milliseconds, and however far ahead the next probe lies.

* `NextAt` — the next probe is sent at the first of some instants.
* `Lives.nextAt` — so it is for a slated session: the instants are the one that
  was set and those at which somebody beckons.
* `Lives.counts` — a session counts the failures in a row that its diary
  tells.
* `probes_keep_schedule` — every diary, and so every poller at work, keeps to
  the schedule.
-/

namespace Docket.Poller

variable {now last due failures : Nat} {p q : Poller} {later : List Entry} {instants : Set Nat}

/-- The next probe of the session is sent at the first of some instants: it is
sent at no other, and time does not pass the first of them before. A session
that ends first sends none. -/
def NextAt (instants : Set Nat) (last : Nat) : List Entry → Prop
  | [] => ∀ t ∈ instants, last ≤ t
  | e :: rest =>
      match e.happening with
      | .sent _ => IsLeast instants e.time
      | .told act => e.poller.endedBy act = true ∨ NextAt instants last rest
      | _ => NextAt instants last rest

/-- The entry tells of a turn of the poller. -/
def Entry.isTurn (e : Entry) : Bool :=
  match e.happening with
  | .sent _ | .waited => true
  | _ => false

/-- The instants at which the poller finds in its turn that somebody beckons.
Since time passes only after a turn, nobody beckons at any other without
taking it back at once. -/
def beckonings (later : List Entry) : Set Nat :=
  {t | ∃ e ∈ later, e.isTurn = true ∧ e.poller.Beckoned ∧ e.time = t}

theorem beckonings_cons_of_not {e : Entry} (h : ¬ (e.isTurn = true ∧ e.poller.Beckoned)) :
    beckonings (e :: later) = beckonings later := by
  ext t
  constructor
  · intro ht
    obtain ⟨e', he', hturn, hbeckoned, htime⟩ := ht
    rcases List.mem_cons.mp he' with rfl | he'
    · exact absurd ⟨hturn, hbeckoned⟩ h
    · exact ⟨e', he', hturn, hbeckoned, htime⟩
  · intro ht
    obtain ⟨e', he', hbeckoned⟩ := ht
    exact ⟨e', List.mem_cons_of_mem e he', hbeckoned⟩

/-- What is asked of a poller is noticed in its next turn. -/
theorem beckonings_told (now : Nat) (p : Poller) (act : Polling.Act) (rest : List Entry) :
    beckonings (⟨now, p, .told act⟩ :: rest) = beckonings rest :=
  beckonings_cons_of_not fun hturn => Bool.false_ne_true hturn.1

/-- Nobody beckons before the diary begins. -/
theorem Lives.le_beckoning (h : Lives now p later last q) {t : Nat} (ht : t ∈ beckonings later) :
    now ≤ t := by
  obtain ⟨e, he, -, -, rfl⟩ := ht
  exact h.le_time e he

/-- **A slated session sends its next probe at the first of some instants.**
One of them is the instant that was set; every other one is an instant at
which somebody beckons while no failure holds the session back; and an
instant of that kind that is not among them is later than the one that was
set. -/
theorem Lives.nextAt (h : Lives now p later last q) (hslated : p.Slated due failures)
    (hnow : now ≤ due) (hset : due ∈ instants)
    (hreason : ∀ t ∈ instants, t = due ∨ failures = 0 ∧ t ∈ beckonings later)
    (hearly : failures = 0 → ∀ t ∈ beckonings later, t ∈ instants ∨ due ≤ t) :
    NextAt instants last later := by
  -- along the diary: the session stays slated, and time has not passed the instant
  induction h with
  | here =>
      intro t ht
      rcases hreason t ht with rfl | ⟨-, hbeckoned⟩
      · exact hnow
      · obtain ⟨e, he, -⟩ := hbeckoned
        exact absurd he List.not_mem_nil
  | @told now last p q rest act tail ih =>
      rw [beckonings_told] at hreason hearly
      cases hgoes : p.endedBy act with
      | true => exact Or.inl hgoes
      | false => exact Or.inr (ih (hslated.obey hgoes now) hnow hreason hearly)
  | answered outcome hprobing tail ih =>
      rw [hslated.isProbing] at hprobing
      cases hprobing
  | @sent now last p p' q probe rest hturn tail ih =>
      have hlive : Lives now p (⟨now, p, .sent probe⟩ :: rest) last q := .sent hturn tail
      constructor
      · rcases called_of_turn_some hslated hturn with hdue | ⟨hgood, hbeckoned⟩
        · rw [Nat.le_antisymm hnow hdue]
          exact hset
        · have hhead : now ∈ beckonings (⟨now, p, .sent probe⟩ :: rest) :=
            ⟨⟨now, p, .sent probe⟩, List.mem_cons_self, rfl, hbeckoned, rfl⟩
          rcases hearly hgood now hhead with hmem | hdue
          · exact hmem
          · rw [Nat.le_antisymm hnow hdue]
            exact hset
      · intro t ht
        rcases hreason t ht with rfl | ⟨-, hbeckoned⟩
        · exact hnow
        · exact hlive.le_beckoning hbeckoned
  | @waited now later last p p' q rest hturn hlater hdue tail ih =>
      obtain ⟨-, hcalm, hslated', -, hwaits⟩ := slated_of_turn_none hslated hturn
      have hsame : failures = 0 →
          beckonings (⟨now, p, .waited⟩ :: rest) = beckonings rest := fun hgood =>
        beckonings_cons_of_not fun hbeckoned => hcalm hgood hbeckoned.2
      refine ih hslated' (hdue due hwaits) ?_ ?_
      · intro t ht
        rcases hreason t ht with hset | ⟨hgood, hbeckoned⟩
        · exact Or.inl hset
        · exact Or.inr ⟨hgood, hsame hgood ▸ hbeckoned⟩
      · intro hgood t hbeckoned
        exact hearly hgood t ((hsame hgood).symm ▸ hbeckoned)

/-- A session that was slated after a failure sends its next probe then. -/
theorem Lives.nextAt_of_failed (h : Lives now p later last q) (hslated : p.Slated due failures)
    (hnow : now ≤ due) (hfailed : failures ≠ 0) : NextAt {due} last later :=
  h.nextAt hslated hnow rfl (fun _ ht => Or.inl ht) fun hgood => absurd hgood hfailed

/-- Who only looks away does not beckon, so nobody does before the instant
that was set. -/
theorem Lives.le_beckoning_of_hidden (h : Lives now p later last q)
    (hslated : p.Slated due failures) (hcalm : ¬ p.Beckoned)
    (hhides : ∀ e ∈ later, ∀ act, e.happening = .told act →
      act = .setVisible false ∨ ∃ span, act = .pass span) :
    ∀ t ∈ beckonings later, due ≤ t := by
  induction h with
  | here =>
      intro t ht
      obtain ⟨e, he, -⟩ := ht
      exact absurd he List.not_mem_nil
  | @told now last p q rest act tail ih =>
      obtain ⟨hhead, hrest⟩ := List.forall_mem_cons.mp hhides
      rw [beckonings_told]
      rcases hhead act rfl with rfl | ⟨span, rfl⟩
      · exact ih (hslated.setVisible false) (not_beckoned_hide hcalm) hrest
      · exact ih hslated hcalm hrest
  | answered outcome hprobing tail ih =>
      rw [hslated.isProbing] at hprobing
      cases hprobing
  | @sent now last p p' q probe rest hturn tail ih =>
      have hlive : Lives now p (⟨now, p, .sent probe⟩ :: rest) last q := .sent hturn tail
      have hdue : due ≤ now :=
        (called_of_turn_some hslated hturn).resolve_right fun hcall => hcalm hcall.2
      exact fun t ht => Nat.le_trans hdue (hlive.le_beckoning ht)
  | @waited now later last p p' q rest hturn hlater hdue tail ih =>
      obtain ⟨-, -, hslated', hcalm', -⟩ := slated_of_turn_none hslated hturn
      have hsame : beckonings (⟨now, p, .waited⟩ :: rest) = beckonings rest :=
        beckonings_cons_of_not fun hbeckoned => hcalm hbeckoned.2
      rw [hsame]
      exact ih hslated' hcalm' (List.forall_mem_cons.mp hhides).2

/-- The failures in a row after an entry, if there were so many before it. A
session that begins has none. -/
def Entry.streak (e : Entry) (failures : Nat) : Nat :=
  match e.happening with
  | .told (.start request _) => if e.poller.active? = some request then failures else 0
  | .answered outcome => failuresAfter failures outcome
  | _ => failures

/-- The failures in a row that a diary tells of by its end. -/
def streak (diary : List Entry) : Nat :=
  diary.foldl (fun failures e => e.streak failures) 0

theorem streak_concat (diary : List Entry) (e : Entry) :
    streak (diary ++ [e]) = e.streak (streak diary) := by
  rw [streak, List.foldl_append]
  rfl

/-- The session, if there is one, counts so many failures, as far as it counts
them. -/
def Counts (p : Poller) (failures : Nat) : Prop :=
  ∀ s, p.session? = some s → s.failures = min failures Backoff.maxCount

/-- What a session counts after an answer. -/
theorem min_failuresAfter (failures : Nat) (outcome : Outcome Liveness) :
    min (failuresAfter (min failures Backoff.maxCount) outcome) Backoff.maxCount =
      min (failuresAfter failures outcome) Backoff.maxCount := by
  cases outcome with
  | ok liveness => rfl
  | error failure =>
      show min (min failures Backoff.maxCount + 1) Backoff.maxCount =
        min (failures + 1) Backoff.maxCount
      omega

namespace Counts

theorem obey (h : p.Counts failures) (now : Nat) (act : Polling.Act) :
    (p.obey now act).Counts (Entry.streak ⟨now, p, .told act⟩ failures) := by
  cases act with
  | start request seed =>
      show (p.start now request seed).Counts (if p.active? = some request then failures else 0)
      by_cases hactive : p.active? = some request
      · rw [if_pos hactive, start_of_active hactive]
        exact h
      · rw [if_neg hactive, start, if_neg hactive]
        intro s hs
        cases hs
        rfl
  | stop =>
      intro s hs
      rw [Poller.obey, session?_stop] at hs
      cases hs
  | nudge =>
      intro s' hs'
      rw [Poller.obey, Poller.nudge] at hs'
      split at hs'
      · rename_i s hs
        split at hs'
        · cases hs'
          exact s.failures_nudged.trans (h s hs)
        · exact h s' hs'
      · exact h s' hs'
  | setVisible visible =>
      show (p.setVisible visible).Counts failures
      unfold Poller.setVisible
      split
      · exact h
      · intro s hs
        obtain ⟨s', hs', rfl⟩ := Option.map_eq_some_iff.mp hs
        exact h s' hs'
  | pass span => exact h

theorem answer (h : p.Counts failures) (now : Nat) (outcome : Outcome Liveness)
    (hprobing : p.isProbing = true) :
    (p.answer now outcome).Counts (failuresAfter failures outcome) := by
  obtain ⟨s, hs, hphase⟩ := exists_session_of_isProbing hprobing
  obtain ⟨s', hs', -, hfailures⟩ := slated_answer hs hphase now outcome
  intro s'' hs''
  cases hs'.symm.trans hs''
  rw [hfailures, h s hs, min_failuresAfter]

theorem turn (h : p.Counts failures) {p' : Poller} {q? : Option Probe}
    (hturn : p.turn now = (p', q?)) : p'.Counts failures := by
  have htook := turn_took p now
  rw [hturn] at htook
  cases htook with
  | rest => exact h
  | @park s hs hphase permit unseen due =>
      intro s' hs'
      cases hs'
      exact h s hs
  | @probe s hs hphase permit unseen =>
      intro s' hs'
      cases hs'
      exact h s hs

end Counts

/-- A session counts the failures in a row that its diary tells of. -/
theorem Lives.counts (h : Lives now p later last q) (hp : p.Counts failures) :
    q.Counts (later.foldl (fun failures e => e.streak failures) failures) := by
  induction h generalizing failures with
  | here => exact hp
  | told act _ ih => exact ih (hp.obey _ act)
  | answered outcome hprobing _ ih => exact ih (hp.answer _ outcome hprobing)
  | sent hturn _ ih => exact ih (hp.turn hturn)
  | waited hturn _ _ _ ih => exact ih (hp.turn hturn)

theorem policy_obey (p : Poller) (now : Nat) (act : Polling.Act) :
    (p.obey now act).policy = p.policy :=
  (congrArg Stance.policy (stance_obey p now act)).trans (p.stance.policy_told act)

/-- A poller keeps to the policy that it was given. -/
theorem Lives.policy (h : Lives now p later last q) : q.policy = p.policy := by
  induction h with
  | here => rfl
  | told act _ ih => exact ih.trans (policy_obey _ _ act)
  | answered outcome _ _ ih =>
      exact ih.trans (congrArg Stance.policy (stance_answer _ _ outcome))
  | sent hturn _ ih => exact ih.trans (congrArg Stance.policy (stance_turn hturn))
  | waited hturn _ _ _ ih => exact ih.trans (congrArg Stance.policy (stance_turn hturn))

end Docket.Poller

namespace Docket.Backoff

/-- The wait grows no more after the last failure that is counted. -/
theorem delay_min (b : Backoff) (visible : Bool) (failures : Nat) :
    b.delay visible (min failures maxCount) = b.delay visible failures := by
  by_cases hcount : failures ≤ maxCount
  · rw [Nat.min_eq_left hcount]
  · have hmany : maxCount < failures := Nat.lt_of_not_le hcount
    have hlimit : 32 < maxCount := by decide
    have hgrowth : growth maxCount = growth failures := by
      rw [growth, growth, if_neg (by omega), if_neg (by omega)]
    rw [Nat.min_eq_right (Nat.le_of_lt hmany), delay, delay, if_neg (by omega),
      if_neg (by omega), hgrowth]

end Docket.Backoff

namespace Docket.Poller

variable {now last : Nat} {p : Poller} {policy : Backoff} {diary : List Entry}

/-- A diary keeps to the schedule of a policy. -/
structure KeepsSchedule (policy : Backoff) (diary : List Entry) (last : Nat) : Prop where
  /-- A session sends its first probe at once. -/
  first : ∀ (before later : List Entry) (e : Entry) (request : RequestId) (seed : Cursor),
    diary = before ++ e :: later → e.happening = .told (.start request seed) →
    e.poller.active? ≠ some request → NextAt {e.time} last later
  /-- After a failure it sends the next one when the wait for so many failures
  in a row is over, and not before. -/
  failed : ∀ (before later : List Entry) (e : Entry) (failure : Failure),
    diary = before ++ e :: later → e.happening = .answered (.error failure) →
    NextAt {e.time + policy.delay e.poller.visible (streak (before ++ [e]))} last later
  /-- After a good answer it sends the next one when the interval is over, or
  before, as soon as somebody beckons. -/
  succeeded : ∀ (before later : List Entry) (e : Entry) (liveness : Liveness),
    diary = before ++ e :: later → e.happening = .answered (.ok liveness) →
    NextAt (insert (e.time + policy.delay e.poller.visible 0) (beckonings later)) last later
  /-- A session that waits for an instant sends its probe then if nobody does
  anything but look away. -/
  hidden : ∀ (before later : List Entry) (e : Entry) (due : Nat),
    diary = before ++ e :: later → e.happening = .waited →
    (e.poller.turn e.time).1.due? = some due →
    (∀ e' ∈ later, ∀ act, e'.happening = .told act →
      act = .setVisible false ∨ ∃ span, act = .pass span) →
    NextAt {due} last later

/-- An answer sets the next probe to the end of the wait that the policy asks
for after the failures in a row that the diary tells of. -/
theorem Lives.slated_answer {before later : List Entry} {e : Entry} {outcome : Outcome Liveness}
    (h : Lives 0 (.new policy) (before ++ e :: later) last p)
    (he : e.happening = .answered outcome) :
    ∃ q, Lives e.time q later last p ∧
      q.Slated (e.time + policy.delay e.poller.visible (streak (before ++ [e])))
        (min (streak (before ++ [e])) Backoff.maxCount) := by
  obtain ⟨hbefore, hlater⟩ := h.split
  obtain ⟨time, found, happening⟩ := e
  subst he
  cases hlater with
  | answered outcome hprobing tail =>
      obtain ⟨s, hs, hphase⟩ := exists_session_of_isProbing hprobing
      have hnone : (Poller.new policy).Counts 0 := fun s hs => by cases hs
      have hcounts : s.failures = min (streak before) Backoff.maxCount := hbefore.counts hnone s hs
      have hpolicy : found.policy = policy := hbefore.policy
      have hstreak : streak (before ++ [⟨time, found, .answered outcome⟩]) =
          failuresAfter (streak before) outcome := streak_concat before _
      have hslated := Poller.slated_answer hs hphase time outcome
      rw [hcounts, min_failuresAfter, hpolicy, Backoff.delay_min] at hslated
      rw [hstreak]
      exact ⟨_, tail, hslated⟩

/-- **Every diary keeps to the schedule.** -/
theorem Lives.keepsSchedule (h : Lives 0 (.new policy) diary last p) :
    KeepsSchedule policy diary last where
  first before later e request seed hdiary he hother := by
    subst hdiary
    obtain ⟨-, hlater⟩ := h.split
    obtain ⟨time, found, happening⟩ := e
    subst he
    cases hlater with
    | told act tail =>
        have hslated : (found.obey time (.start request seed)).Slated time 0 :=
          slated_start hother time seed
        exact tail.nextAt hslated (Nat.le_refl time) rfl (fun _ ht => Or.inl ht)
          fun _ _ ht => Or.inr (tail.le_beckoning ht)
  failed before later e failure hdiary he := by
    subst hdiary
    obtain ⟨q, hlater, hslated⟩ := h.slated_answer he
    refine hlater.nextAt_of_failed hslated (Nat.le_add_right _ _) ?_
    have hstreak : streak (before ++ [e]) = streak before + 1 := by
      rw [streak_concat, Entry.streak, he]
      rfl
    rw [hstreak]
    have hcount : 0 < Backoff.maxCount := by decide
    omega
  succeeded before later e liveness hdiary he := by
    subst hdiary
    obtain ⟨q, hlater, hslated⟩ := h.slated_answer he
    have hstreak : streak (before ++ [e]) = 0 := by
      rw [streak_concat, Entry.streak, he]
      rfl
    rw [hstreak] at hslated
    refine hlater.nextAt hslated (Nat.le_add_right _ _) (Set.mem_insert _ _) ?_ ?_
    · intro t ht
      exact ht.imp id fun ht => ⟨rfl, ht⟩
    · exact fun _ t ht => Or.inl (Set.mem_insert_of_mem _ ht)
  hidden before later e due hdiary he hdue hhides := by
    subst hdiary
    obtain ⟨-, hlater⟩ := h.split
    obtain ⟨time, found, happening⟩ := e
    subst he
    cases hlater with
    | waited hturn hle hwaits tail =>
        rw [hturn] at hdue
        obtain ⟨-, failures, hslated, hcalm⟩ := slated_of_due hturn hdue
        exact tail.nextAt hslated (hwaits due hdue) rfl (fun _ ht => Or.inl ht)
          fun _ t ht => Or.inr (tail.le_beckoning_of_hidden hslated hcalm hhides t ht)

/-- **Probes keep to the schedule.** Every diary that a poller can have, with
whatever is asked of it and however and whenever its probes are answered,
keeps to the schedule of its policy: a session begins with a probe; after a
failure the next one follows at the end of the wait for so many failures in a
row and at no other instant; after a good answer it follows at the end of the
interval or at the first instant at which somebody beckons; and who looks away
moves nothing. Every poller at work has such a diary: it tells what was done
with the poller, and all that its log tells. -/
theorem probes_keep_schedule (policy : Backoff) :
    (∀ (diary : List Entry) (last : Nat) (p : Poller), Lives 0 (.new policy) diary last p →
      KeepsSchedule policy diary last) ∧
    ∀ (σ : Type) (answer : Prober σ) (server : σ) (acts : List Polling.Act),
      ∃ diary : List Entry,
        Lives 0 (.new policy) diary (Polling.done 0 acts)
          (Polling.run answer 0 acts (.new policy server)).poller ∧
        diary.filterMap Entry.told? = Polling.timed 0 acts ∧
        (Polling.run answer 0 acts (.new policy server)).log = diary.filterMap Entry.event? ∧
        KeepsSchedule policy diary (Polling.done 0 acts) := by
  constructor
  · intro diary last p hlives
    exact hlives.keepsSchedule
  · intro σ answer server acts
    have hsound := Polling.sound_new policy server
    have hcomes : (Polling.new policy server).Comes 0 (Polling.timed 0 acts)
        (Polling.run answer 0 acts (.new policy server)) (Polling.done 0 acts) := .run hsound 0 acts
    obtain ⟨diary, hlives, htold, hlog⟩ := hcomes
    exact ⟨diary, hlives, htold, hlog, hlives.keepsSchedule⟩

/-- A nudge comes after a failure, and the next probe is sent when it was due. -/
theorem probes_keep_schedule_after_failure :
    ∃ (before later : List Entry) (e : Entry) (p : Poller),
      Lives 0 (.new ⟨10, 20, 100, 3⟩) (before ++ e :: later) 13 p ∧
      e.happening = .answered (.error (.denied .clientMoves)) ∧ e.time = 3 ∧
      later.filterMap Entry.told? = [(5, .nudge)] ∧
      later.filterMap Entry.event? = [.sent ⟨13, ⟨⟨"R1"⟩, none⟩⟩] ∧
      NextAt {13} 13 later := by
  have hlives : Lives 0 (.new ⟨10, 20, 100, 3⟩) _ 13 _ :=
    .told (.start ⟨"R1"⟩ .start) <| .sent rfl <|
    .waited rfl (by decide : 0 ≤ 3) (fun due hdue => by cases hdue) <|
    .answered (.error (.denied .clientMoves)) rfl <|
    .waited rfl (by decide : 3 ≤ 5) (fun due hdue => by cases hdue; decide) <|
    .told .nudge <|
    .waited rfl (by decide : 5 ≤ 13) (fun due hdue => by cases hdue; decide) <|
    .sent rfl .here
  have hkeeps := (probes_keep_schedule ⟨10, 20, 100, 3⟩).1 _ _ _ hlives
  exact ⟨[_, _, _], [_, _, _, _], _, _, hlives, rfl, rfl, rfl, rfl,
    hkeeps.failed [_, _, _] _ _ _ rfl rfl⟩

end Docket.Poller
