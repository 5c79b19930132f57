import Docket.Http.Script
import Docket.Proofs.Timeline
import Docket.Proofs.Watch.Basic
import Docket.Watch.Run

/-!
# What a watch in time tells

Between polls, reloads and replies a watcher tells exactly what its watch has
to say to the events that happened, in their order. A message that the user
has not seen may stay untold: it was created before the last reply or before
some change that has been met, and loaded only afterwards.

* `follow_faithful` — all that is told comes from the events.
* `follow_tells_exactly_later` — of a reload it is what was created after
  every stamp met before.
-/

namespace Docket.Watching

open Http

variable {σ : Type} {serve : Server σ} {first : Watch} {w : Watching σ}

/-- The watcher is where the events have brought its watch, and has told what
the watch had to say to them. -/
structure Faithful (first : Watch) (w : Watching σ) : Prop where
  watch : w.watch = (first.run w.events).1
  told : w.told = (first.run w.events).2

namespace Faithful

/-- Telling an event is a step of the watch. -/
theorem tell (h : Faithful first w) (event : Watch.Event) : Faithful first (w.tell event) where
  watch := by
    show (w.watch.step event).1 = (first.run (w.events ++ [event])).1
    rw [Watch.run_append, ← h.watch, Watch.run_singleton]
  told := by
    show w.told ++ (w.watch.step event).2 = (first.run (w.events ++ [event])).2
    rw [Watch.run_append, ← h.watch, ← h.told, Watch.run_singleton]

theorem observe (h : Faithful first w) (now : Nat) : Faithful first (w.observe serve now) := by
  have htold := h.tell (.observed w.polling.poller.snapshot)
  unfold Watching.observe
  dsimp only
  split
  · exact ⟨htold.watch, htold.told⟩
  · exact htold

theorem read (h : Faithful first w) (now : Nat) (reading : Reading) :
    Faithful first (w.read serve now reading) := by
  unfold Watching.read
  split
  · split
    · exact ⟨h.watch, h.told⟩
    · exact h
  · exact ⟨h.watch, h.told⟩

theorem reloaded (h : Faithful first w) (outcome : Outcome Workspace) :
    Faithful first (w.reloaded outcome) := by
  have hidle : Faithful first { w with phase := .idle } := ⟨h.watch, h.told⟩
  cases outcome with
  | ok workspace => exact hidle.tell (.reloaded workspace)
  | error failure => exact hidle

theorem posted (h : Faithful first w) (outcome : Outcome Message) :
    Faithful first (w.posted outcome) := by
  have hidle : ∀ polling : Polling (Link σ), Faithful first { w with phase := .idle, polling } :=
    fun _ => ⟨h.watch, h.told⟩
  cases outcome with
  | ok reply => exact (hidle w.polling.nudge).tell (.posted reply)
  | error failure => exact hidle w.polling

/-- Whatever the watcher does next, it tells what its watch has to say. -/
theorem turn (h : Faithful first w) {now : Nat} {next : Watching σ}
    (hturn : w.turn? serve now = some next) : Faithful first next := by
  unfold Watching.turn? at hturn
  split at hturn
  · cases hturn
  split at hturn
  · cases hturn
    exact ⟨h.watch, h.told⟩
  split at hturn
  · split at hturn
    · cases hturn
      exact h.reloaded _
    · cases hturn
  · split at hturn
    · cases hturn
      exact h.posted _
    · cases hturn
  · split at hturn
    · cases hturn
      exact h.observe now
    split at hturn
    · split at hturn
      · cases hturn
        have hrest : ∀ rest, Faithful first { w with replies := rest } :=
          fun _ => ⟨h.watch, h.told⟩
        exact (hrest _).read now _
      · cases hturn
    · cases hturn

theorem actIn (h : Faithful first w) (now turns : Nat) :
    Faithful first (actIn serve now turns w) := by
  induction turns generalizing w with
  | zero => exact h
  | succ turns ih =>
      unfold Watching.actIn
      split
      · exact ih (h.turn ‹_›)
      · exact h

theorem settleIn (h : Faithful first w) (now rounds : Nat) :
    Faithful first (settleIn serve now rounds w) := by
  induction rounds generalizing w with
  | zero => exact h
  | succ rounds ih =>
      have hacted : Faithful first (w.act serve now) := h.actIn now _
      unfold Watching.settleIn
      dsimp only
      split
      · exact hacted
      · exact ih ⟨hacted.watch, hacted.told⟩

end Faithful

/-- **All that is told comes from the events.** -/
theorem follow_faithful (h : Faithful first w) (now : Nat) :
    Faithful first (w.follow serve now) :=
  Timeline.advance_keeps (fun now _ hw => hw.settleIn now rounds) h

/-- **A reload tells what was created after all that was met.** Whatever
happens to a watch, in whatever order, let all stamps be such that it meets up
to a reload. Then the reload tells exactly the messages and files that were
created after every one of those met before it: the stamps of creation and
change in the workspace that the watch began with and in earlier reloads, and
those of the replies. A watch in time tells what its watch has to say to the
events that happen. -/
theorem follow_tells_exactly_later (workspace : Workspace) :
    (∀ (snapshot : Snapshot) (before after : List Watch.Event) (reload : Workspace),
      (∀ s ∈ Watch.met workspace (before ++ [.reloaded reload]), Stamp.IsText s) →
      (∃ later, ((Watch.start workspace snapshot).run (before ++ .reloaded reload :: after)).2 =
        ((Watch.start workspace snapshot).run before).2 ++
          (Watch.start workspace snapshot).toldOf before (.reloaded reload) ++ later) ∧
      (∀ m ∈ reload.messages,
        .message m ∈ (Watch.start workspace snapshot).toldOf before (.reloaded reload) ↔
          ∀ s ∈ Watch.met workspace before, Stamp.Before s m.created) ∧
      (∀ a ∈ reload.attachments,
        .file a ∈ (Watch.start workspace snapshot).toldOf before (.reloaded reload) ↔
          ∀ s ∈ Watch.met workspace before, Stamp.Before s a.created)) ∧
    (∀ (serve : Server σ) (link : Link σ) (request : RequestId) (policy : Backoff)
      (hidden : Bool) (replies : List Typed) (finish now : Nat),
      ∃ snapshot,
        ((start link request workspace policy hidden replies finish).follow serve now).told =
          ((Watch.start workspace snapshot).run
            ((start link request workspace policy hidden replies finish).follow
              serve now).events).2) := by
  refine ⟨?_, ?_⟩
  · intro snapshot before after reload hstamps
    refine ⟨Watch.run_told _ before after _, fun m hm => ?_, fun a ha => ?_⟩
    · exact Watch.message_mem_reload_iff hstamps hm
    · exact Watch.file_mem_reload_iff hstamps ha
  · intro serve link request policy hidden replies finish now
    have hstart : Faithful (start link request workspace policy hidden replies finish).watch
        (start link request workspace policy hidden replies finish) := ⟨rfl, rfl⟩
    exact ⟨_, (follow_faithful hstart now).told⟩

/-- A request without a chat. -/
def bareRequest : Request :=
  ⟨⟨"r-1"⟩, "TRK-9", ⟨"DIVORCE"⟩, ⟨"NEW"⟩, none, none, [], none, none, none⟩

/-- The question is asked, and the user replies before it is loaded. -/
def lateQuestion : Script :=
  let question : Message :=
    ⟨⟨"m-8"⟩, ⟨"r-1"⟩, "Client", "question", "2026-03-01T10:10:00Z", none⟩
  let reply : Message := ⟨⟨"m-9"⟩, ⟨"r-1"⟩, "Me", "reply", "2026-03-01T10:20:00Z", none⟩
  [⟨"GET requests/r-1", [⟨0, .ok (Request.codec.write bareRequest)⟩]⟩,
    ⟨"GET requests/r-1/messages",
      [⟨0, .ok (.list [Message.codec.write question, Message.codec.write reply])⟩]⟩,
    ⟨"GET requests/r-1/attachments", [⟨0, .ok .null⟩]⟩,
    ⟨"GET requests/r-1/status-route", [⟨0, .ok (Route.codec.write ⟨[], ⟨"NEW"⟩, []⟩)⟩]⟩,
    ⟨"GET requests/r-1/status-history", [⟨0, .ok .null⟩]⟩,
    ⟨"GET requests/r-1/liveness",
      [⟨0, .ok .null⟩, ⟨0, .ok (Liveness.codec.write ⟨some "2026-03-01T10:20:00Z", []⟩)⟩]⟩,
    ⟨"POST requests/r-1/messages", [⟨0, .ok (Message.codec.write reply)⟩]⟩]

/-- The workspace before the question. -/
def bareWorkspace : Workspace :=
  ⟨bareRequest, [], [], ⟨[], ⟨"NEW"⟩, []⟩, []⟩

/-- The watcher begins with no messages and replies after a second. -/
def untoldQuestion : Watching Script :=
  (start (.start lateQuestion) ⟨"r-1"⟩ bareWorkspace .standard false
    [⟨Span.millis 1000, .line "reply"⟩] (Span.millis 2000)).follow Script.serve 0

/-- When the messages were created that an event loads, if it loads any. -/
def loads? : Watch.Event → Option (List String)
  | .reloaded w => some (w.messages.map Message.created)
  | _ => none

/-- The question is loaded after the reply, and is not told. -/
theorem follow_tells_exactly_later_than_reply :
    ∃ before reload snapshot,
      (∀ s ∈ Watch.met bareWorkspace (before ++ [.reloaded reload]), Stamp.IsText s) ∧
      untoldQuestion.events = before ++ [.reloaded reload] ∧
      untoldQuestion.told =
        ((Watch.start bareWorkspace snapshot).run untoldQuestion.events).2 ∧
      ∃ m ∈ reload.messages, m.created = "2026-03-01T10:10:00Z" ∧
        .message m ∉ (Watch.start bareWorkspace snapshot).toldOf before (.reloaded reload) := by
  have hstamps : untoldQuestion.events.map Watch.Event.stamps =
      [["2026-03-01T10:20:00Z"], [], ["2026-03-01T10:10:00Z", "2026-03-01T10:20:00Z"]] := by
    decide +kernel
  have hloads : untoldQuestion.events.map loads? =
      [none, none, some ["2026-03-01T10:10:00Z", "2026-03-01T10:20:00Z"]] := by
    decide +kernel
  obtain ⟨first, second, third, hevents⟩ : ∃ first second third,
      untoldQuestion.events = [first, second, third] :=
    List.length_eq_three.mp (by decide +kernel)
  rw [hevents] at hstamps hloads
  simp only [List.map_cons, List.map_nil, List.cons.injEq, and_true] at hstamps hloads
  obtain ⟨hfirst, hsecond, hthird⟩ := hstamps
  obtain ⟨reload, rfl⟩ : ∃ reload, third = .reloaded reload := by
    cases third with
    | reloaded reload => exact ⟨reload, rfl⟩
    | _ => cases hloads.2.2
  have hall : ∀ s ∈ Watch.met bareWorkspace ([first, second] ++ [.reloaded reload]),
      Stamp.IsText s := by
    simp only [Watch.met, List.cons_append, List.nil_append, List.flatMap_cons, List.flatMap_nil,
      hfirst, hsecond, hthird]
    decide
  obtain ⟨hreloads, hfollow⟩ := @follow_tells_exactly_later Script bareWorkspace
  obtain ⟨snapshot, htold⟩ := hfollow Script.serve (.start lateQuestion) ⟨"r-1"⟩ .standard false
    [⟨Span.millis 1000, .line "reply"⟩] (Span.millis 2000) 0
  obtain ⟨-, hmessages, -⟩ := hreloads snapshot [first, second] [] reload hall
  obtain ⟨m, rest, hmessage, hm, -⟩ := List.map_eq_cons_iff.mp (Option.some.inj hloads.2.2)
  have hmem : m ∈ reload.messages := by rw [hmessage]; exact List.mem_cons_self
  refine ⟨[first, second], reload, snapshot, hall, hevents, htold, m, hmem, hm, fun hin => ?_⟩
  have hbefore := (hmessages m hmem).mp hin "2026-03-01T10:20:00Z" (by simp [Watch.met, hfirst])
  rw [hm] at hbefore
  exact absurd ((Stamp.compareTexts_eq_gt_iff (by decide) (by decide)).mpr hbefore) (by decide)

end Docket.Watching
