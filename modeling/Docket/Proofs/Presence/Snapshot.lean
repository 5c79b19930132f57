import Docket.Proofs.Presence.Cursor
import Docket.Proofs.Presence.Schedule
import Mathlib.Data.List.Chain
import Mathlib.Data.List.Pairwise

/-!
# What a poller publishes

A snapshot is written in three places: when a probe is sent, when it is
answered well, and when it fails. Still it always tells of the session what its
diary tells: the failures in a row, whether they are too many, who was typing
at the last good answer, whether a probe is outstanding, and the cursor that
the next probe will carry. The cursor, once there, stays there, moves only
forward between stamps, and the generation counts its moves.

* `Onward` — what one happening makes of a session that goes on.
* `Tracks.after` — one happening keeps the snapshot true to the diary.
* `Lives.tracks` — so does a whole session.
* `Tracks.tells` — what follows for the cursor over a whole session.
* `snapshot_tells_session` — every diary, and so every poller at work.
-/

namespace Docket.Poller

variable {now last : Nat} {p q : Poller} {s s' : Session} {policy : Backoff}
  {request : RequestId} {seed : Cursor} {later : List Entry} {e : Entry}

/-- Nothing but a probe or its answer touches what is published. -/
def Happening.isCalm : Happening → Bool
  | .told _ | .waited => true
  | _ => false

/-- The session that is watched, if there is one, does not end with this. -/
def Entry.GoesOn (e : Entry) : Prop :=
  ∀ act, e.happening = .told act → e.poller.endedBy act = false

/-- The same session but for its timing. -/
structure Session.Alike (s s' : Session) : Prop where
  request : s'.request = s.request
  cursor : s'.cursor = s.cursor
  failures : s'.failures = s.failures
  probing : s'.isProbing = s.isProbing

theorem Session.Alike.refl (s : Session) : s.Alike s :=
  ⟨rfl, rfl, rfl, rfl⟩

/-- What a happening makes of a poller whose session goes on. -/
inductive Onward (p : Poller) (s : Session) : Happening → Poller → Prop
  | calm {happening : Happening} {q : Poller} {s' : Session} (calm : happening.isCalm = true)
      (session : q.session? = some s') (alike : s.Alike s') (snapshot : q.snapshot = p.snapshot) :
      Onward p s happening q
  | sent {q : Poller} {s' : Session} (idle : s.isProbing = false) (session : q.session? = some s')
      (request : s'.request = s.request) (cursor : s'.cursor = s.cursor)
      (failures : s'.failures = s.failures) (probing : s'.isProbing = true)
      (snapshot : q.snapshot = { p.snapshot with inFlight := true }) :
      Onward p s (.sent ⟨s.request, s.cursor.value?⟩) q
  | succeeded (now : Nat) (liveness : Liveness) (probing : s.isProbing = true) :
      Onward p s (.answered (.ok liveness)) (p.succeed s now liveness)
  | failed (now : Nat) (failure : Failure) (probing : s.isProbing = true) :
      Onward p s (.answered (.error failure)) (p.fail s now)

/-- What is asked of a poller leaves a session that goes on as it is. -/
theorem onward_obey (hs : p.session? = some s) {act : Polling.Act}
    (hgoes : p.endedBy act = false) (now : Nat) : Onward p s (.told act) (p.obey now act) := by
  cases act with
  | start request seed =>
      have hactive : p.active? = some request := by simpa [endedBy] using hgoes
      have hsame : p.obey now (.start request seed) = p := start_of_active hactive now seed
      rw [hsame]
      exact .calm rfl hs (.refl s) rfl
  | stop => cases hgoes
  | nudge =>
      show Onward p s _ p.nudge
      unfold nudge
      rw [hs]
      dsimp only
      split
      · have halike : s.Alike s.nudged := by
          unfold Session.nudged
          split
          · exact ⟨rfl, rfl, rfl, by simp [Session.isProbing, *]⟩
          · exact .refl s
        exact .calm rfl rfl halike rfl
      · exact .calm rfl rfl (.refl s) rfl
  | setVisible visible =>
      show Onward p s _ (p.setVisible visible)
      unfold setVisible
      split
      · exact .calm rfl hs (.refl s) rfl
      · have hsession : (p.session?.map fun s => { s with unseen := true }) =
            some { s with unseen := true } := by
          rw [hs]
          rfl
        exact .calm rfl hsession ⟨rfl, rfl, rfl, rfl⟩ rfl
  | pass span => exact .calm rfl hs (.refl s) rfl

/-- Every entry after which a session goes on makes one of these of it. -/
theorem Lives.onward (h : Lives now p [e] last q) (hs : p.session? = some s) (hgoes : e.GoesOn) :
    Onward p s e.happening q := by
  cases h with
  | told act tail =>
      cases tail
      exact onward_obey hs (hgoes act rfl) now
  | answered outcome hprobing tail =>
      cases tail
      obtain ⟨s', hs', hphase⟩ := exists_session_of_isProbing hprobing
      cases hs.symm.trans hs'
      have hsession : s.isProbing = true := Session.isProbing_iff.mpr hphase
      cases outcome with
      | ok liveness =>
          have hanswer : p.answer now (.ok liveness) = p.succeed s now liveness := by
            simp only [answer, hs, hphase]
          rw [hanswer]
          exact .succeeded now liveness hsession
      | error failure =>
          have hanswer : p.answer now (.error failure) = p.fail s now := by
            simp only [answer, hs, hphase]
          rw [hanswer]
          exact .failed now failure hsession
  | sent hturn tail =>
      cases tail
      have htook := turn_took p now
      rw [hturn] at htook
      cases htook with
      | probe hs' hphase permit unseen =>
          cases hs.symm.trans hs'
          exact .sent hphase rfl rfl rfl rfl rfl rfl
  | waited hturn hlater hdue tail =>
      cases tail
      have htook := turn_took p now
      rw [hturn] at htook
      cases htook with
      | rest => exact .calm rfl hs (.refl s) rfl
      | park hs' hphase permit unseen due =>
          cases hs.symm.trans hs'
          exact .calm rfl rfl ⟨rfl, rfl, rfl, hphase.symm⟩ rfl

/-- The entry tells of a probe that is sent. -/
def Entry.isSent (e : Entry) : Bool :=
  match e.happening with
  | .sent _ => true
  | _ => false

/-- The entry tells of a probe that is answered. -/
def Entry.isAnswered (e : Entry) : Bool :=
  match e.happening with
  | .answered _ => true
  | _ => false

/-- The good answer of which the entry tells. -/
def Entry.brought? (e : Entry) : Option Liveness :=
  match e.happening with
  | .answered (.ok liveness) => some liveness
  | _ => none

/-- Who was typing at the last good answer of a diary. -/
def lastTyping (later : List Entry) : List Peer :=
  ((later.filterMap Entry.brought?).getLast?.map Liveness.typing).getD []

/-- All that was published in a session, in order: what each happening found,
and what is published now. -/
def published (later : List Entry) (snapshot : Snapshot) : List Snapshot :=
  later.map (fun e => e.poller.snapshot) ++ [snapshot]

/-- Between one snapshot and the next the cursor stays and the generation with
it, or the cursor moves and the generation counts that. -/
def Follows (a b : Snapshot) : Prop :=
  b.cursor? = a.cursor? ∧ b.generation = a.generation ∨
    Cursor.Moves a.cursor? b.cursor? ∧ b.generation = a.generation + 1

/-- A snapshot is true to a session and its diary. -/
structure Tracks (policy : Backoff) (request : RequestId) (seed : Cursor) (later : List Entry)
    (snapshot : Snapshot) : Prop where
  watches : snapshot.request? = some request
  /-- The failures in a row that the diary tells of, as far as they are counted. -/
  failures : snapshot.failures = min (streak later) Backoff.maxCount
  /-- The connection counts as degraded after so many failures, and after one at least. -/
  health : snapshot.health = .degraded ↔ max policy.degradedAfter 1 ≤ snapshot.failures
  typing : snapshot.typing = lastTyping later
  /-- One probe is outstanding while the snapshot says so, and none otherwise. -/
  outstanding : later.countP Entry.isSent = later.countP Entry.isAnswered + snapshot.inFlight.toNat
  /-- A probe carries the cursor that is published when it is sent. -/
  probes : ∀ e ∈ later, ∀ probe, e.happening = .sent probe →
    probe = ⟨request, e.poller.snapshot.cursor?⟩
  opening : (published later snapshot).head? = some (.opening request seed)
  follows : (published later snapshot).IsChain Follows

/-- The session as it is published. -/
structure Session.Shown (s : Session) (snapshot : Snapshot) : Prop where
  request : snapshot.request? = some s.request
  cursor : snapshot.cursor? = s.cursor.value?
  failures : snapshot.failures = s.failures
  inFlight : snapshot.inFlight = s.isProbing

theorem Follows.of_eq {a b : Snapshot} (hcursor : b.cursor? = a.cursor?)
    (hgeneration : b.generation = a.generation) : Follows a b :=
  Or.inl ⟨hcursor, hgeneration⟩

/-- The generation counts whether a good answer has moved the cursor. -/
theorem follows_succeed (hshown : s.Shown p.snapshot) (now : Nat) (liveness : Liveness) :
    Follows p.snapshot (p.succeed s now liveness).snapshot := by
  rcases s.cursor.advance_cases liveness.cursor? with hstays | ⟨mark, hmoved, hmoves⟩
  · refine .of_eq ?_ ?_
    · simp [succeed, resume, hstays, hshown.cursor]
    · simp [succeed, resume, hstays]
  · refine Or.inr ⟨?_, ?_⟩
    · rw [hshown.cursor]
      simpa [succeed, resume, hmoved] using hmoves
    · simp [succeed, resume, hmoved]

theorem streak_of_calm (hcalm : e.happening.isCalm = true) (hgoes : e.GoesOn) (failures : Nat) :
    e.streak failures = failures := by
  obtain ⟨time, found, happening⟩ := e
  cases happening with
  | told act =>
      cases act with
      | start request seed =>
          have hactive : found.active? = some request := by
            simpa [endedBy] using hgoes (.start request seed) rfl
          exact if_pos hactive
      | _ => rfl
  | waited => rfl
  | answered outcome => cases hcalm
  | sent probe => cases hcalm

theorem isSent_of_calm (hcalm : e.happening.isCalm = true) : e.isSent = false := by
  unfold Entry.isSent
  cases hhappening : e.happening <;> simp_all [Happening.isCalm]

theorem isAnswered_of_calm (hcalm : e.happening.isCalm = true) : e.isAnswered = false := by
  unfold Entry.isAnswered
  cases hhappening : e.happening <;> simp_all [Happening.isCalm]

theorem brought?_of_calm (hcalm : e.happening.isCalm = true) : e.brought? = none := by
  unfold Entry.brought?
  cases hhappening : e.happening <;> simp_all [Happening.isCalm]

theorem published_concat (e : Entry) (snapshot : Snapshot) :
    published (later ++ [e]) snapshot = published later e.poller.snapshot ++ [snapshot] := by
  simp [published]

/-- What is published next continues what was published. -/
theorem Tracks.continue {found snapshot : Snapshot} (h : Tracks policy request seed later found)
    (hfound : e.poller.snapshot = found) (hfollows : Follows found snapshot) :
    (published (later ++ [e]) snapshot).head? = some (.opening request seed) ∧
      (published (later ++ [e]) snapshot).IsChain Follows := by
  rw [published_concat, hfound]
  constructor
  · rw [List.head?_append, h.opening]
    rfl
  · refine List.isChain_append.mpr ⟨h.follows, List.isChain_singleton _, ?_⟩
    intro a ha b hb
    obtain rfl : snapshot = b := by simpa using hb
    obtain rfl : found = a := by simpa [published] using ha
    exact hfollows

theorem lastTyping_of_none (hnone : e.brought? = none) :
    lastTyping (later ++ [e]) = lastTyping later := by
  rw [lastTyping, List.filterMap_append, List.filterMap_cons_none hnone, List.filterMap_nil,
    List.append_nil]
  rfl

theorem lastTyping_of_some {liveness : Liveness} (hsome : e.brought? = some liveness) :
    lastTyping (later ++ [e]) = liveness.typing := by
  rw [lastTyping, List.filterMap_append, List.filterMap_cons_some hsome, List.filterMap_nil,
    List.getLast?_concat]
  rfl

/-- A probe that carries what is published keeps all probes of the diary like that. -/
theorem Tracks.probes_concat {snapshot : Snapshot}
    (h : Tracks policy request seed later snapshot) (hfound : e.poller.snapshot = snapshot)
    (hprobe : ∀ probe, e.happening = .sent probe → probe = ⟨request, snapshot.cursor?⟩) :
    ∀ e' ∈ later ++ [e], ∀ probe, e'.happening = .sent probe →
      probe = ⟨request, e'.poller.snapshot.cursor?⟩ := by
  refine List.forall_mem_append.mpr ⟨h.probes, List.forall_mem_singleton.mpr ?_⟩
  rw [hfound]
  exact hprobe

/-- What a calm happening finds is what it leaves. -/
theorem Tracks.of_calm {snapshot : Snapshot} (h : Tracks policy request seed later snapshot)
    (hfound : e.poller.snapshot = snapshot) (hcalm : e.happening.isCalm = true)
    (hgoes : e.GoesOn) : Tracks policy request seed (later ++ [e]) snapshot := by
  obtain ⟨hopening, hfollows⟩ := h.continue hfound (.of_eq rfl rfl)
  refine ⟨h.watches, ?_, h.health, ?_, ?_, h.probes_concat hfound ?_, hopening, hfollows⟩
  · rw [streak_concat, streak_of_calm hcalm hgoes]
    exact h.failures
  · rw [lastTyping_of_none (brought?_of_calm hcalm)]
    exact h.typing
  · have hcount := h.outstanding
    simpa [isSent_of_calm hcalm, isAnswered_of_calm hcalm] using hcount
  · intro probe hsent
    rw [hsent] at hcalm
    cases hcalm

/-- A probe that is sent is outstanding. -/
theorem Tracks.of_sent {snapshot : Snapshot} (h : Tracks policy request seed later snapshot)
    (hfound : e.poller.snapshot = snapshot) (hidle : snapshot.inFlight = false)
    (hsent : e.happening = .sent ⟨request, snapshot.cursor?⟩) :
    Tracks policy request seed (later ++ [e]) { snapshot with inFlight := true } := by
  obtain ⟨hopening, hfollows⟩ := h.continue hfound
    (Follows.of_eq rfl rfl : Follows snapshot { snapshot with inFlight := true })
  refine ⟨h.watches, ?_, h.health, ?_, ?_, h.probes_concat hfound ?_, hopening, hfollows⟩
  · rw [streak_concat, Entry.streak, hsent]
    exact h.failures
  · have hnone : e.brought? = none := by rw [Entry.brought?, hsent]
    rw [lastTyping_of_none hnone]
    exact h.typing
  · have hcount := h.outstanding
    rw [hidle] at hcount
    simpa [Entry.isSent, Entry.isAnswered, hsent] using hcount
  · intro probe hprobe
    cases hsent.symm.trans hprobe
    rfl

/-- A good answer settles everything. -/
theorem Tracks.of_succeeded (h : Tracks policy request seed later p.snapshot)
    (hshown : s.Shown p.snapshot) (hfound : e.poller.snapshot = p.snapshot)
    (hprobing : s.isProbing = true) {liveness : Liveness}
    (hgood : e.happening = .answered (.ok liveness)) (now : Nat) :
    Tracks policy request seed (later ++ [e]) (p.succeed s now liveness).snapshot := by
  obtain ⟨hopening, hfollows⟩ := h.continue hfound (follows_succeed hshown now liveness)
  refine ⟨h.watches, ?_, ?_, ?_, ?_, h.probes_concat hfound ?_, hopening, hfollows⟩
  · rw [streak_concat, Entry.streak, hgood]
    rfl
  · constructor
    · intro hdegraded
      cases hdegraded
    · intro hmany
      have hnone : (p.succeed s now liveness).snapshot.failures = 0 := rfl
      omega
  · have hsome : e.brought? = some liveness := by rw [Entry.brought?, hgood]
    rw [lastTyping_of_some hsome]
    rfl
  · have hcount := h.outstanding
    rw [hshown.inFlight, hprobing] at hcount
    have hidle : (p.succeed s now liveness).snapshot.inFlight = false := rfl
    simpa [Entry.isSent, Entry.isAnswered, hgood, hidle] using hcount
  · intro probe hsent
    cases hgood.symm.trans hsent

/-- A failure is counted, and may be one too many. -/
theorem Tracks.of_failed (h : Tracks policy request seed later p.snapshot)
    (hpolicy : p.policy = policy) (hshown : s.Shown p.snapshot)
    (hfound : e.poller.snapshot = p.snapshot) (hprobing : s.isProbing = true)
    {failure : Failure} (hbad : e.happening = .answered (.error failure)) (now : Nat) :
    Tracks policy request seed (later ++ [e]) (p.fail s now).snapshot := by
  have hfollows : Follows p.snapshot (p.fail s now).snapshot := .of_eq rfl rfl
  obtain ⟨hopening, hfollows⟩ := h.continue hfound hfollows
  have hcounted : s.failures = min (streak later) Backoff.maxCount :=
    hshown.failures.symm.trans h.failures
  have hfailures : (p.fail s now).snapshot.failures = min (s.failures + 1) Backoff.maxCount := rfl
  refine ⟨h.watches, ?_, ?_, ?_, ?_, h.probes_concat hfound ?_, hopening, hfollows⟩
  · have hstreak : e.streak (streak later) = streak later + 1 := by
      rw [Entry.streak, hbad]
      rfl
    rw [streak_concat, hstreak, hfailures]
    omega
  · have hhealth : (p.fail s now).snapshot.health =
        if policy.isDegraded (min (s.failures + 1) Backoff.maxCount) then .degraded
        else p.snapshot.health := by
      rw [← hpolicy]
      rfl
    rw [hhealth, hfailures, Backoff.isDegraded]
    by_cases hmany : max policy.degradedAfter 1 ≤ min (s.failures + 1) Backoff.maxCount
    · simp [hmany]
    · -- so few failures were not too many before either
      have hfew : ¬ max policy.degradedAfter 1 ≤ p.snapshot.failures := by
        rw [hshown.failures]
        omega
      have hwell : ¬ p.snapshot.health = .degraded := fun hbad => hfew (h.health.mp hbad)
      simp only [hmany, decide_false, Bool.false_eq_true, if_false, iff_false]
      exact hwell
  · have hnone : e.brought? = none := by rw [Entry.brought?, hbad]
    rw [lastTyping_of_none hnone]
    exact h.typing
  · have hcount := h.outstanding
    rw [hshown.inFlight, hprobing] at hcount
    have hidle : (p.fail s now).snapshot.inFlight = false := rfl
    simpa [Entry.isSent, Entry.isAnswered, hbad, hidle] using hcount
  · intro probe hsent
    cases hbad.symm.trans hsent

/-- **One happening keeps the snapshot true to the diary.** -/
theorem Tracks.after (h : Tracks policy request seed later p.snapshot) (hpolicy : p.policy = policy)
    (hshown : s.Shown p.snapshot) (hfound : e.poller = p) (hgoes : e.GoesOn)
    (honward : Onward p s e.happening q) :
    Tracks policy request seed (later ++ [e]) q.snapshot ∧
      ∃ s', q.session? = some s' ∧ s'.Shown q.snapshot := by
  have hsnapshot : e.poller.snapshot = p.snapshot := congrArg Poller.snapshot hfound
  generalize hhappening : e.happening = happening at honward
  cases honward with
  | @calm happening q s' calm session alike snapshot =>
      rw [snapshot]
      refine ⟨h.of_calm hsnapshot (hhappening ▸ calm) hgoes, s', session, ?_⟩
      exact ⟨hshown.request.trans (congrArg some alike.request.symm),
        hshown.cursor.trans (congrArg Cursor.value? alike.cursor.symm),
        hshown.failures.trans alike.failures.symm, hshown.inFlight.trans alike.probing.symm⟩
  | @sent q s' idle session hrequest hcursor hfailures probing snapshot =>
      have hwatched : s.request = request :=
        Option.some.inj (hshown.request.symm.trans h.watches)
      rw [hwatched, ← hshown.cursor] at hhappening
      rw [snapshot]
      refine ⟨h.of_sent hsnapshot (hshown.inFlight.trans idle) hhappening, s', session, ?_⟩
      exact ⟨hshown.request.trans (congrArg some hrequest.symm),
        hshown.cursor.trans (congrArg Cursor.value? hcursor.symm),
        hshown.failures.trans hfailures.symm, probing.symm⟩
  | succeeded now liveness probing =>
      exact ⟨h.of_succeeded hshown hsnapshot probing hhappening now, _, rfl,
        hshown.request, rfl, rfl, rfl⟩
  | failed now failure probing =>
      exact ⟨h.of_failed hpolicy hshown hsnapshot probing hhappening now, _, rfl,
        hshown.request, hshown.cursor, rfl, rfl⟩

/-- A session is published as it begins. -/
theorem tracks_start (hother : p.active? ≠ some request) (now : Nat) :
    Tracks policy request seed [] (p.start now request seed).snapshot ∧
      ∃ s, (p.start now request seed).session? = some s ∧
        s.Shown (p.start now request seed).snapshot := by
  have hstart : p.start now request seed = p.stop.attach now request seed := if_neg hother
  rw [hstart]
  refine ⟨⟨rfl, rfl, ?_, rfl, rfl, ?_, rfl, List.isChain_singleton _⟩, _, rfl, rfl, rfl, rfl, rfl⟩
  · have hnone : (p.stop.attach now request seed).snapshot.failures = 0 := rfl
    constructor
    · intro hdegraded
      cases hdegraded
    · intro hmany
      omega
  · exact List.forall_mem_nil _

/-- **A session is published as its diary tells.** -/
theorem Lives.tracks (hpolicy : p.policy = policy) (hother : p.active? ≠ some request)
    (h : Lives now (p.start now request seed) later last q) (hgoes : ∀ e ∈ later, e.GoesOn) :
    Tracks policy request seed later q.snapshot ∧
      ∃ s, q.session? = some s ∧ s.Shown q.snapshot := by
  induction later using List.reverseRecOn generalizing last q with
  | nil =>
      cases h
      exact tracks_start hother now
  | append_singleton earlier e ih =>
      obtain ⟨hearlier, hlast⟩ := h.split
      obtain ⟨hbefore, hgoesOn⟩ := List.forall_mem_append.mp hgoes
      rw [List.forall_mem_singleton] at hgoesOn
      obtain ⟨htracks, s, hs, hshown⟩ := ih hearlier hbefore
      have hkeeps : e.poller.policy = policy :=
        (hearlier.policy.trans (policy_obey p now (.start request seed))).trans hpolicy
      exact htracks.after hkeeps hshown rfl hgoesOn (hlast.onward hs hgoesOn)

/-- How often neighbours in a list differ. -/
def changes : List (Option String) → Nat
  | a :: b :: rest => (if b = a then 0 else 1) + changes (b :: rest)
  | _ => 0

/-- The generation grows by one with every change of the cursor. -/
theorem generation_eq_changes {a : Snapshot} {rest : List Snapshot} {z : Snapshot}
    (h : (a :: rest).IsChain Follows) (hlast : (a :: rest).getLast? = some z) :
    z.generation = a.generation + changes ((a :: rest).map Snapshot.cursor?) := by
  induction rest generalizing a with
  | nil =>
      cases hlast
      rfl
  | cons b rest ih =>
      obtain ⟨hfirst, hrest⟩ := List.isChain_cons_cons.mp h
      have hlater := ih hrest (by simpa using hlast)
      have hchanges : changes ((a :: b :: rest).map Snapshot.cursor?) =
          (if b.cursor? = a.cursor? then 0 else 1) + changes ((b :: rest).map Snapshot.cursor?) :=
        rfl
      rw [hlater, hchanges]
      rcases hfirst with ⟨hcursor, hgeneration⟩ | ⟨hmoves, hgeneration⟩
      · rw [if_pos hcursor, hgeneration]
        omega
      · rw [if_neg hmoves.differs, hgeneration]
        omega

/-- Of two snapshots of a session, what the later one keeps. -/
structure Keeps (a b : Snapshot) : Prop where
  generation : a.generation ≤ b.generation
  same : b.generation = a.generation → b.cursor? = a.cursor?
  /-- A cursor that is there stays there, and is not replaced by a blank one. -/
  present : ∀ x, a.cursor? = some x →
    ∃ y, b.cursor? = some y ∧ (y = x ∨ Text.isBlank y = false)

theorem Keeps.of_follows {a b : Snapshot} (h : Follows a b) : Keeps a b := by
  rcases h with ⟨hcursor, hgeneration⟩ | ⟨hmoves, hgeneration⟩
  · exact ⟨by omega, fun _ => hcursor, fun x hx => ⟨x, hcursor.trans hx, Or.inl rfl⟩⟩
  · refine ⟨by omega, fun hsame => by omega, fun x hx => ?_⟩
    obtain ⟨mark, hmark, hfilled⟩ := hmoves.filled
    exact ⟨mark, hmark, Or.inr hfilled⟩

theorem Keeps.trans {a b c : Snapshot} (hab : Keeps a b) (hbc : Keeps b c) : Keeps a c := by
  have hlower := hab.generation
  have hupper := hbc.generation
  refine ⟨Nat.le_trans hlower hupper, ?_, ?_⟩
  · intro hsame
    have hfirst : b.generation = a.generation := by omega
    have hsecond : c.generation = b.generation := by omega
    exact (hbc.same hsecond).trans (hab.same hfirst)
  · intro x hx
    obtain ⟨y, hy, hyx⟩ := hab.present x hx
    obtain ⟨z, hz, hzy⟩ := hbc.present y hy
    refine ⟨z, hz, ?_⟩
    rcases hzy with rfl | hfilled
    · exact hyx
    · exact Or.inr hfilled

instance : IsTrans Snapshot Keeps :=
  ⟨fun _ _ _ => Keeps.trans⟩

/-- A snapshot tells of a session what its diary tells, and of the cursor what
was published. -/
structure Tells (policy : Backoff) (request : RequestId) (seed : Cursor) (later : List Entry)
    (snapshot : Snapshot) : Prop extends Tracks policy request seed later snapshot where
  /-- The generation counts the changes of the cursor since the session began. -/
  generation : snapshot.generation = changes ((published later snapshot).map Snapshot.cursor?)
  /-- Whatever was published keeps what was published before it. -/
  keeps : (published later snapshot).Pairwise Keeps
  /-- Snapshots of one generation show one cursor. -/
  same : ∀ a ∈ published later snapshot, ∀ b ∈ published later snapshot,
    b.generation = a.generation → b.cursor? = a.cursor?

/-- What is true to its diary tells all of it. -/
theorem Tracks.tells {snapshot : Snapshot} (h : Tracks policy request seed later snapshot) :
    Tells policy request seed later snapshot := by
  have hkeeps : (published later snapshot).Pairwise Keeps :=
    List.isChain_iff_pairwise.mp (h.follows.imp fun _ _ => Keeps.of_follows)
  refine ⟨h, ?_, hkeeps, ?_⟩
  · have hlast : (published later snapshot).getLast? = some snapshot := List.getLast?_concat
    have hopening := h.opening
    have hfollows := h.follows
    generalize published later snapshot = shown at *
    cases shown with
    | nil => cases hlast
    | cons first rest =>
        obtain rfl : first = .opening request seed := Option.some.inj hopening
        have hcounts := generation_eq_changes hfollows hlast
        have hnone : (Snapshot.opening request seed).generation = 0 := rfl
        rw [hnone, Nat.zero_add] at hcounts
        exact hcounts
  · have hsame : (published later snapshot).Pairwise fun a b =>
        b.generation = a.generation → b.cursor? = a.cursor? := hkeeps.imp fun h => h.same
    have hflip : (published later snapshot).Pairwise (flip fun a b =>
        b.generation = a.generation → b.cursor? = a.cursor?) :=
      hkeeps.imp fun h hgeneration => (h.same hgeneration.symm).symm
    intro a ha b hb
    exact hsame.forall_of_forall_of_flip (fun a _ _ => rfl) hflip ha hb

/-- The entry begins a session on a request from what has been seen of it. -/
structure Entry.Begins (e : Entry) (request : RequestId) (seed : Cursor) : Prop where
  told : e.happening = .told (.start request seed)
  other : e.poller.active? ≠ some request

/-- A session that goes on is about the same request. -/
theorem Onward.active? {happening : Happening} (h : Onward p s happening q)
    (hs : p.session? = some s) : q.active? = p.active? := by
  rw [Poller.active?, Poller.active?, hs]
  cases h with
  | calm _ session alike _ =>
      rw [session]
      exact congrArg some alike.request
  | sent _ session request _ _ _ _ =>
      rw [session]
      exact congrArg some request
  | succeeded now liveness _ => rfl
  | failed now failure _ => rfl

/-- Nothing but a start begins a session. -/
theorem Lives.session?_of_none (h : Lives now p [e] last q) (hgoes : e.GoesOn)
    (hnone : p.session? = none) : q.session? = none := by
  cases h with
  | told act tail =>
      cases tail
      cases act with
      | start request seed =>
          have hactive : p.active? = some request := by
            simpa [endedBy] using hgoes (.start request seed) rfl
          rw [Poller.active?, hnone] at hactive
          cases hactive
      | stop => exact session?_stop p
      | nudge =>
          show p.nudge.session? = none
          rw [nudge, hnone]
      | setVisible visible =>
          show (p.setVisible visible).session? = none
          unfold setVisible
          split
          · exact hnone
          · exact Option.map_eq_none_iff.mpr hnone
      | pass span => exact hnone
  | answered outcome hprobing tail =>
      rw [isProbing_of_none hnone] at hprobing
      cases hprobing
  | sent hturn tail =>
      rw [turn, hnone] at hturn
      cases hturn
  | waited hturn hlater hdue tail =>
      cases tail
      rw [turn, hnone] at hturn
      cases hturn
      exact hnone

/-- A request that is watched behind an entry after which the session goes on
was watched before. -/
theorem Lives.active?_of_goesOn (h : Lives now p [e] last q) (hgoes : e.GoesOn)
    (hactive : q.active? = some request) : p.active? = some request := by
  cases hs : p.session? with
  | none =>
      rw [Poller.active?, h.session?_of_none hgoes hs] at hactive
      cases hactive
  | some s => exact ((h.onward hs hgoes).active? hs).symm.trans hactive

/-- A request that is watched behind an entry that ends what was before has been
started by it. -/
theorem Lives.begins_of_not_goesOn (h : Lives now p [e] last q) (hends : ¬ e.GoesOn)
    (hactive : q.active? = some request) : ∃ seed, e.Begins request seed := by
  obtain ⟨act, hact, hended⟩ : ∃ act, e.happening = .told act ∧ e.poller.endedBy act = true := by
    simpa [Entry.GoesOn] using hends
  cases h with
  | told act' tail =>
      cases hact
      cases tail
      cases act with
      | start request' seed =>
          have hother : p.active? ≠ some request' := by simpa [endedBy] using hended
          have hstart : p.obey now (.start request' seed) = p.stop.attach now request' seed :=
            if_neg hother
          rw [hstart] at hactive
          obtain rfl : request' = request := Option.some.inj hactive
          exact ⟨seed, rfl, hother⟩
      | stop =>
          have hnone : (p.obey now .stop).session? = none := session?_stop p
          rw [Poller.active?, hnone] at hactive
          cases hactive
      | _ => cases hended
  | _ => cases hact

/-- A poller that watches a request is in a session that its diary tells of. -/
theorem Lives.exists_session {diary : List Entry} (h : Lives 0 (.new policy) diary last q)
    (hactive : q.active? = some request) :
    ∃ before started later seed, diary = before ++ started :: later ∧
      started.Begins request seed ∧ ∀ e ∈ later, e.GoesOn := by
  induction diary using List.reverseRecOn generalizing last q with
  | nil =>
      cases h
      cases hactive
  | append_singleton earlier e ih =>
      obtain ⟨hearlier, hlast⟩ := h.split
      by_cases hgoes : e.GoesOn
      · obtain ⟨before, started, later, seed, rfl, hbegins, hlater⟩ :=
          ih hearlier (hlast.active?_of_goesOn hgoes hactive)
        refine ⟨before, started, later ++ [e], seed, by simp, hbegins, ?_⟩
        exact List.forall_mem_append.mpr ⟨hlater, List.forall_mem_singleton.mpr hgoes⟩
      · obtain ⟨seed, hbegins⟩ := hlast.begins_of_not_goesOn hgoes hactive
        exact ⟨earlier, e, [], seed, rfl, hbegins, List.forall_mem_nil _⟩

/-- A session that a diary tells of is published as it tells. -/
theorem Lives.tells {before : List Entry} {started : Entry}
    (h : Lives 0 (.new policy) (before ++ started :: later) last q)
    (hbegins : started.Begins request seed) (hgoes : ∀ e ∈ later, e.GoesOn) :
    Tells policy request seed later q.snapshot := by
  obtain ⟨hbefore, hlater⟩ := h.split
  obtain ⟨time, found, happening⟩ := started
  obtain ⟨rfl, hother⟩ := hbegins
  cases hlater with
  | told act tail =>
      exact (Lives.tracks (hbefore.policy : found.policy = policy) hother tail hgoes).1.tells

/-- **Snapshots tell of their session.** Whatever is asked of a poller and however
its probes are answered: while it watches a request its diary ends with a session on
that request, and what it publishes tells of this session. The failures are those
in a row, as far as they are counted, and the connection counts as degraded exactly
when they are so many as the policy says and one at least. Who was typing is what
the last good answer told. A probe is outstanding exactly while one is in flight,
and each carries the cursor that was published when it was sent. The cursor, once
there, stays there and never becomes blank; it moves to something else only,
between stamps only forward; and the generation counts its moves, so that
snapshots of one generation show one cursor. Every poller at work has such a diary. -/
theorem snapshot_tells_session (policy : Backoff) :
    (∀ (diary : List Entry) (last : Nat) (p : Poller) (request : RequestId),
      Lives 0 (.new policy) diary last p → p.active? = some request →
      ∃ before started later seed, diary = before ++ started :: later ∧
        started.Begins request seed ∧ (∀ e ∈ later, e.GoesOn) ∧
        Tells policy request seed later p.snapshot) ∧
    ∀ (σ : Type) (answer : Prober σ) (server : σ) (acts : List Polling.Act),
      ∃ diary : List Entry,
        Lives 0 (.new policy) diary (Polling.done 0 acts)
          (Polling.run answer 0 acts (.new policy server)).poller ∧
        diary.filterMap Entry.told? = Polling.timed 0 acts ∧
        (Polling.run answer 0 acts (.new policy server)).log = diary.filterMap Entry.event? := by
  constructor
  · intro diary last p request hlives hactive
    obtain ⟨before, started, later, seed, rfl, hbegins, hgoes⟩ := hlives.exists_session hactive
    exact ⟨before, started, later, seed, rfl, hbegins, hgoes, hlives.tells hbegins hgoes⟩
  · intro σ answer server acts
    have hcomes : (Polling.new policy server).Comes 0 (Polling.timed 0 acts)
        (Polling.run answer 0 acts (.new policy server)) (Polling.done 0 acts) :=
      .run (Polling.sound_new policy server) 0 acts
    exact hcomes

/-- A good answer moves the cursor and tells who is typing, and a failure behind
it degrades the connection and leaves both. -/
theorem snapshot_tells_session_degraded :
    ∃ (diary : List Entry) (p : Poller), Lives 0 (.new ⟨10, 20, 100, 1⟩) diary 15 p ∧
      p.snapshot = ⟨some ⟨"R1"⟩, .degraded, some "m7", [⟨"Ann", none⟩], 1, 1, false⟩ ∧
      ∃ before started later seed, diary = before ++ started :: later ∧
        started.Begins ⟨"R1"⟩ seed ∧ (∀ e ∈ later, e.GoesOn) ∧
        Tells ⟨10, 20, 100, 1⟩ ⟨"R1"⟩ seed later p.snapshot := by
  have hlives : Lives 0 (.new ⟨10, 20, 100, 1⟩) _ 15 _ :=
    .told (.start ⟨"R1"⟩ .start) <| .sent rfl <|
    .waited rfl (by decide : 0 ≤ 3) (fun due hdue => by cases hdue) <|
    .answered (.ok ⟨some "m7", [⟨"Ann", none⟩]⟩) rfl <|
    .waited rfl (by decide : 3 ≤ 13) (fun due hdue => by cases hdue; decide) <|
    .sent rfl <|
    .waited rfl (by decide : 13 ≤ 15) (fun due hdue => by cases hdue) <|
    .answered (.error (.denied .clientMoves)) rfl .here
  exact ⟨_, _, hlives, rfl, (snapshot_tells_session ⟨10, 20, 100, 1⟩).1 _ _ _ _ hlives rfl⟩

end Docket.Poller
