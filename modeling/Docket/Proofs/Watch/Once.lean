import Docket.Proofs.Watch.Follow
import Mathlib.Data.List.Nodup

/-!
# What a watch tells once

An item of the chat is a message or a file, by its id. The mark of a watch is
never behind an item that it has met, so no reload tells an item of the first
workspace, of an earlier reload, or one that the user has posted. A reply is
told whenever the server confirms it: twice, if two posts are confirmed with
one message.

* `Orderly` — what a server keeps to.
* `run_tellings` — how often a watch tells an item, by induction on the events.
* `follow_tells_once` — once in reloads or once for each post, and so it is for
  a watch in time.
-/

namespace Docket

/-- What there is in a chat. -/
inductive Item where
  | message (id : MessageId)
  | file (id : AttachmentId)
  deriving DecidableEq

/-- The items of a workspace, each with the stamp of its creation. -/
def Workspace.items (w : Workspace) : List (Item × String) :=
  (w.messages.map fun m => (.message m.id, m.created))
    ++ w.attachments.map fun a => (.file a.id, a.created)

/-- The creation of an item counts among the stamps. -/
theorem Workspace.created_mem_stamps {w : Workspace} {item : Item × String} (h : item ∈ w.items) :
    item.2 ∈ w.stamps := by
  rcases List.mem_append.mp h with h | h
  · obtain ⟨m, hm, rfl⟩ := List.mem_map.mp h
    exact created_mem_stamps_of_message hm
  · obtain ⟨a, ha, rfl⟩ := List.mem_map.mp h
    exact created_mem_stamps_of_file ha

/-- The item of which a notice tells. -/
def Notice.item? : Notice → Option Item
  | .message m => some (.message m.id)
  | .file a => some (.file a.id)
  | _ => none

/-- How often an item is told. -/
def Notice.tellings (item : Item) (notices : List Notice) : Nat :=
  (notices.filterMap item?).count item

namespace Notice

theorem tellings_append (item : Item) (first more : List Notice) :
    tellings item (first ++ more) = tellings item first + tellings item more := by
  rw [tellings, List.filterMap_append, List.count_append]
  rfl

/-- Snapshots tell of no items. -/
theorem tellings_ofSnapshots (item : Item) (before after : Snapshot) :
    tellings item (ofSnapshots before after) = 0 := by
  have hhealth : (ofHealth before after).filterMap item? = [] := by
    unfold ofHealth
    split
    · rfl
    · split <;> rfl
  have htyping : (ofTyping before after).filterMap item? = [] := by
    unfold ofTyping
    split
    · rfl
    · split <;> rfl
  simp [tellings, ofSnapshots, hhealth, htyping]

/-- A reload tells the items that are new. -/
theorem filterMap_ofWorkspace (seen : Cursor) (w : Workspace) :
    (ofWorkspace seen w).filterMap item? =
      (w.items.filter fun item => isNew seen item.2).map Prod.fst := by
  simp [ofWorkspace, Workspace.items, List.filterMap_map, List.filter_map, item?,
    Function.comp_def]

variable {item : Item} {seen : Cursor} {w : Workspace}

theorem tellings_ofWorkspace_le (h : (w.items.map Prod.fst).Nodup) :
    tellings item (ofWorkspace seen w) ≤ 1 := by
  rw [tellings, filterMap_ofWorkspace]
  exact List.nodup_iff_count_le_one.mp (h.sublist (List.filter_sublist.map Prod.fst)) item

/-- An item that is not in a reload, or not new in it, is not told by it. -/
theorem tellings_ofWorkspace_eq_zero
    (h : ∀ entry ∈ w.items, entry.1 = item → isNew seen entry.2 = false) :
    tellings item (ofWorkspace seen w) = 0 := by
  rw [tellings, filterMap_ofWorkspace, List.count_eq_zero]
  intro hmem
  obtain ⟨entry, hentry, hitem⟩ := List.mem_map.mp hmem
  obtain ⟨hin, hnew⟩ := List.mem_filter.mp hentry
  rw [h entry hin hitem] at hnew
  cases hnew

end Notice

namespace Watch

open Notice

/-- The items that an event brings, each with the stamp of its creation. -/
def Event.items : Event → List (Item × String)
  | .observed _ => []
  | .reloaded w => w.items
  | .posted reply => [(.message reply.id, reply.created)]

/-- The event is a post of the item. -/
def Event.posts (item : Item) : Event → Bool
  | .posted reply => item = .message reply.id
  | _ => false

/-- A reply that is posted later is not in what was loaded. -/
def Event.Precedes : Event → Event → Prop
  | .reloaded w, .posted reply => .message reply.id ∉ w.items.map Prod.fst
  | _, _ => True

instance : DecidableRel Event.Precedes := fun earlier later =>
  match earlier, later with
  | .reloaded w, .posted reply =>
      inferInstanceAs (Decidable (.message reply.id ∉ w.items.map Prod.fst))
  | .observed _, _ => isTrue trivial
  | .posted _, _ => isTrue trivial
  | .reloaded _, .observed _ => isTrue trivial
  | .reloaded _, .reloaded _ => isTrue trivial

/-- How often an item is posted. -/
def posts (item : Item) (events : List Event) : Nat :=
  events.countP (Event.posts item)

/-- The items that a watch has met which began with a workspace. -/
def itemsMet (w : Workspace) (events : List Event) : List (Item × String) :=
  w.items ++ events.flatMap Event.items

/-- What a server keeps to. All stamps are stamps, a reload holds no item
twice, an item keeps the stamp of its creation, and a reply is in no reload
from before it was posted. -/
structure Orderly (w : Workspace) (events : List Event) : Prop where
  stamps : ∀ s ∈ met w events, Stamp.IsText s
  apart : ∀ event ∈ events, (event.items.map Prod.fst).Nodup
  keeps : ∀ a ∈ itemsMet w events, ∀ b ∈ itemsMet w events, a.1 = b.1 → a.2 = b.2
  replies : events.Pairwise Event.Precedes

instance (w : Workspace) (events : List Event) : Decidable (Orderly w events) :=
  decidable_of_iff
    ((∀ s ∈ met w events, Stamp.IsText s) ∧
      (∀ event ∈ events, (event.items.map Prod.fst).Nodup) ∧
      (∀ a ∈ itemsMet w events, ∀ b ∈ itemsMet w events, a.1 = b.1 → a.2 = b.2) ∧
      events.Pairwise Event.Precedes)
    ⟨fun ⟨stamps, apart, keeps, replies⟩ => ⟨stamps, apart, keeps, replies⟩,
      fun ⟨stamps, apart, keeps, replies⟩ => ⟨stamps, apart, keeps, replies⟩⟩

section

variable {watch : Watch} {stamps : List String} {item : Item} {created : String}

/-- What has been met is not new. -/
theorem isNew_of_met (h : watch.seen.Marks stamps) (hmet : created ∈ stamps)
    (hcreated : Stamp.IsText created) : isNew watch.seen created = false := by
  rw [Bool.eq_false_iff, ne_eq, isNew_iff h hcreated]
  intro hbefore
  obtain ⟨x, y, hx, hy, hlt⟩ := hbefore created hmet
  obtain rfl : x = y := Option.some.inj (hx.symm.trans hy)
  omega

/-- A post brings the stamp of the item that is posted. -/
theorem met_of_posts {event : Event} (h : event.posts item = true)
    (hcreated : ∀ entry ∈ event.items, entry.1 = item → entry.2 = created) :
    created ∈ event.stamps := by
  cases event with
  | posted reply =>
      obtain rfl : item = .message reply.id := of_decide_eq_true h
      rw [← hcreated _ (List.mem_singleton_self _) rfl]
      exact List.mem_singleton_self _
  | _ => cases h

/-- An event tells an item so often besides a post of it: at most once, only if
it is new, and only if it is not posted, neither now nor later. -/
structure Besides (stamps : List String) (item : Item) (created : String) (event : Event)
    (n : Nat) : Prop where
  le_one : n ≤ 1
  of_met : created ∈ stamps → n = 0
  of_posts : event.posts item = true → n = 0
  met : n ≠ 0 → created ∈ event.stamps
  not_posted : n ≠ 0 → ∀ later, event.Precedes later → later.posts item = false

theorem besides_zero {event : Event} : Besides stamps item created event 0 :=
  ⟨Nat.zero_le 1, fun _ => rfl, fun _ => rfl, fun h => absurd rfl h, fun h => absurd rfl h⟩

/-- An event tells an item once for a post of it, and perhaps once besides. -/
theorem step_tellings (hmarks : watch.seen.Marks stamps) {event : Event}
    (hstamps : ∀ s ∈ event.stamps, Stamp.IsText s) (hapart : (event.items.map Prod.fst).Nodup)
    (hcreated : ∀ entry ∈ event.items, entry.1 = item → entry.2 = created) :
    ∃ n, tellings item (watch.step event).2 = (if event.posts item then 1 else 0) + n ∧
      Besides stamps item created event n := by
  cases event with
  | observed snapshot => exact ⟨0, tellings_ofSnapshots item watch.last snapshot, besides_zero⟩
  | posted reply =>
      refine ⟨0, ?_, besides_zero⟩
      by_cases hitem : item = .message reply.id
      · simp [step, tellings, item?, Event.posts, hitem]
      · simp [step, tellings, item?, Event.posts, hitem, Ne.symm hitem]
  | reloaded w =>
      refine ⟨tellings item (ofWorkspace watch.seen w), by simp [step, Event.posts], ?_⟩
      have hin : tellings item (ofWorkspace watch.seen w) ≠ 0 → item ∈ w.items.map Prod.fst := by
        intro htold
        by_contra hout
        refine htold (tellings_ofWorkspace_eq_zero fun entry hentry hitem => ?_)
        exact absurd (List.mem_map.mpr ⟨entry, hentry, hitem⟩) hout
      have hload : Event.posts item (.reloaded w) ≠ true := Bool.false_ne_true
      refine ⟨tellings_ofWorkspace_le hapart, fun hmet => ?_, fun hpost => absurd hpost hload,
        fun htold => ?_, ?_⟩
      · refine tellings_ofWorkspace_eq_zero fun entry hentry hitem => ?_
        have hentered := hcreated entry hentry hitem
        rw [hentered]
        refine isNew_of_met hmarks hmet (hstamps created ?_)
        rw [← hentered]
        exact Workspace.created_mem_stamps hentry
      · obtain ⟨entry, hentry, hitem⟩ := List.mem_map.mp (hin htold)
        rw [← hcreated entry hentry hitem]
        exact Workspace.created_mem_stamps hentry
      · intro htold later hprecedes
        cases later with
        | posted reply =>
            refine decide_eq_false fun hitem => ?_
            have hout : .message reply.id ∉ w.items.map Prod.fst := hprecedes
            rw [← hitem] at hout
            exact hout (hin htold)
        | _ => rfl

/-- **How often a watch tells an item.** Once for each post of it, and besides
that at most once: not at all when it had been met before or is posted. -/
theorem run_tellings (hmarks : watch.seen.Marks stamps) {events : List Event}
    (hstamps : ∀ s ∈ events.flatMap Event.stamps, Stamp.IsText s)
    (hapart : ∀ event ∈ events, (event.items.map Prod.fst).Nodup)
    (hreplies : events.Pairwise Event.Precedes)
    (hcreated : ∀ entry ∈ events.flatMap Event.items, entry.1 = item → entry.2 = created) :
    ∃ n ≤ 1, tellings item (watch.run events).2 = posts item events + n ∧
      (created ∈ stamps ∨ 0 < posts item events → n = 0) := by
  induction events generalizing watch stamps with
  | nil => exact ⟨0, Nat.zero_le 1, rfl, fun _ => rfl⟩
  | cons event rest ih =>
      rw [List.flatMap_cons] at hstamps hcreated
      obtain ⟨hevent, hrest⟩ := List.forall_mem_append.mp hstamps
      obtain ⟨hentry, hentries⟩ := List.forall_mem_append.mp hcreated
      obtain ⟨hnodup, hnodups⟩ := List.forall_mem_cons.mp hapart
      obtain ⟨hprecedes, hlater⟩ := List.pairwise_cons.mp hreplies
      obtain ⟨k, hfirst, hbesides⟩ := step_tellings hmarks hevent hnodup hentry
      obtain ⟨n, hn, hmore, hnone⟩ := ih (step_marks hmarks hevent) hrest hnodups hlater hentries
      -- what has just been told is met, and is not told again
      have honce : k ≠ 0 → n = 0 :=
        fun hk => hnone (Or.inl (List.mem_append_right _ (hbesides.met hk)))
      have hsum : posts item (event :: rest) =
          posts item rest + if event.posts item then 1 else 0 := List.countP_cons
      refine ⟨k + n, ?_, ?_, ?_⟩
      · have hk := hbesides.le_one
        omega
      · have htold : tellings item (watch.run (event :: rest)).2 =
            tellings item (watch.step event).2 + tellings item ((watch.step event).1.run rest).2 :=
          tellings_append item _ _
        omega
      · rintro (hmet | hposted)
        · rw [hbesides.of_met hmet, hnone (Or.inl (List.mem_append_left _ hmet))]
        · by_cases hpost : event.posts item = true
          · have hmet := met_of_posts hpost hentry
            rw [hbesides.of_posts hpost, hnone (Or.inl (List.mem_append_right _ hmet))]
          · rw [hsum, if_neg hpost] at hposted
            have hk : k = 0 := by
              by_contra hk
              obtain ⟨later, hin, hposts⟩ := List.countP_pos_iff.mp hposted
              rw [hbesides.not_posted hk later (hprecedes later hin)] at hposts
              cases hposts
            rw [hk, hnone (Or.inr hposted)]

end

/-- Everything is told once: an item once for each post of it, and any other at
most once, not at all if it was in the first workspace. -/
def TellsOnce (w : Workspace) (events : List Event) (told : List Notice) : Prop :=
  ∀ item, ∃ n ≤ 1, tellings item told = posts item events + n ∧
    (item ∈ w.items.map Prod.fst ∨ 0 < posts item events → n = 0)

/-- As long as the server keeps to what it should, everything is told once. -/
theorem run_tellsOnce {w : Workspace} {events : List Event} (h : Orderly w events)
    (snapshot : Snapshot) : TellsOnce w events ((start w snapshot).run events).2 := by
  intro item
  -- the one stamp of the creation of the item, if it is met at all
  obtain ⟨created, hcreated⟩ : ∃ created, ∀ entry ∈ itemsMet w events, entry.1 = item →
      entry.2 = created := by
    by_cases hmet : ∃ entry ∈ itemsMet w events, entry.1 = item
    · obtain ⟨entry, hentry, hitem⟩ := hmet
      exact ⟨entry.2, fun other hother hsame =>
        h.keeps other hother entry hentry (hsame.trans hitem.symm)⟩
    · exact ⟨"", fun entry hentry hitem => absurd ⟨entry, hentry, hitem⟩ hmet⟩
  obtain ⟨hfirst, hlater⟩ := List.forall_mem_append.mp h.stamps
  obtain ⟨hold, hnew⟩ := List.forall_mem_append.mp hcreated
  have hmarks : (start w snapshot).seen.Marks w.stamps := markOf_marks hfirst
  obtain ⟨n, hn, htold, hnone⟩ := run_tellings hmarks hlater h.apart h.replies hnew
  refine ⟨n, hn, htold, fun hitem => hnone (hitem.imp_left fun hin => ?_)⟩
  obtain ⟨entry, hentry, hfst⟩ := List.mem_map.mp hin
  rw [← hold entry hentry hfst]
  exact Workspace.created_mem_stamps hentry

end Watch

namespace Watching

open Http

variable {σ : Type}

/-- **A watch tells everything once.** Whatever happens to a watch, in whatever
order, and so to a watch in time: if the server keeps to what it should, an item
is told once for each post that is confirmed with it, and by reloads at most
once; by no reload at all if it was in the workspace that the watch began with,
or is a reply. -/
theorem follow_tells_once (workspace : Workspace) :
    (∀ (snapshot : Snapshot) (events : List Watch.Event), Watch.Orderly workspace events →
      Watch.TellsOnce workspace events ((Watch.start workspace snapshot).run events).2) ∧
    (∀ (serve : Server σ) (link : Link σ) (request : RequestId) (policy : Backoff)
      (hidden : Bool) (replies : List Typed) (finish now : Nat),
      let watched := (start link request workspace policy hidden replies finish).follow serve now
      Watch.Orderly workspace watched.events →
        Watch.TellsOnce workspace watched.events watched.told) := by
  refine ⟨fun snapshot events h => Watch.run_tellsOnce h snapshot, ?_⟩
  intro serve link request policy hidden replies finish now watched h
  have hfaithful : Faithful (start link request workspace policy hidden replies finish).watch
      watched := follow_faithful ⟨rfl, rfl⟩ now
  rw [hfaithful.told]
  exact Watch.run_tellsOnce h _

/-- A server that holds these messages and files when they are loaded, gives
one pulse after another, and confirms every post with one reply. -/
def chat (messages : List Message) (files : List Attachment) (pulses : List Liveness)
    (reply : Message) : Script :=
  [⟨"GET requests/r-1", [⟨0, .ok (Request.codec.write bareRequest)⟩]⟩,
    ⟨"GET requests/r-1/messages", [⟨0, .ok (.list (messages.map Message.codec.write))⟩]⟩,
    ⟨"GET requests/r-1/attachments", [⟨0, .ok (.list (files.map Attachment.codec.write))⟩]⟩,
    ⟨"GET requests/r-1/status-route", [⟨0, .ok (Route.codec.write ⟨[], ⟨"NEW"⟩, []⟩)⟩]⟩,
    ⟨"GET requests/r-1/status-history", [⟨0, .ok .null⟩]⟩,
    ⟨"GET requests/r-1/liveness", pulses.map fun pulse => ⟨0, .ok (Liveness.codec.write pulse)⟩⟩,
    ⟨"POST requests/r-1/messages", [⟨0, .ok (Message.codec.write reply)⟩]⟩]

/-- A message of the request. -/
def line (id author created : String) : Message :=
  ⟨⟨id⟩, ⟨"r-1"⟩, author, "text", created, none⟩

/-- The workspace before the user replies to a question. -/
def askedWorkspace : Workspace :=
  ⟨bareRequest, [line "m-1" "Client" "2026-03-01T10:00:00Z"], [], ⟨[], ⟨"NEW"⟩, []⟩, []⟩

/-- The user replies after a second. What is loaded then holds the question, the
reply, and a message with a file that were made at one moment. -/
def askedAgain : Watching Script :=
  let reply := line "m-2" "Me" "2026-03-01T10:05:00Z"
  let messages := [line "m-1" "Client" "2026-03-01T10:00:00Z", reply,
    line "m-3" "Client" "2026-03-01T12:10:00+02:00"]
  let scan : Attachment := ⟨⟨"a-1"⟩, ⟨"r-1"⟩, some ⟨"m-3"⟩, "scan.pdf", "application/pdf", 1,
    "2026-03-01T10:10:00Z", none⟩
  let server := chat messages [scan] [⟨none, []⟩, ⟨some "2026-03-01T10:10:00Z", []⟩] reply
  (start (.start server) ⟨"r-1"⟩ askedWorkspace .standard false
    [⟨Span.millis 1000, .line "text"⟩] (Span.millis 2000)).follow Script.serve 0

/-- The question is not told, and all the rest is told once. -/
theorem follow_tells_once_asked_again :
    Watch.Orderly askedWorkspace askedAgain.events ∧
      Watch.TellsOnce askedWorkspace askedAgain.events askedAgain.told ∧
      [Item.message ⟨"m-1"⟩, .message ⟨"m-2"⟩, .message ⟨"m-3"⟩, .file ⟨"a-1"⟩].map
        (Notice.tellings · askedAgain.told) = [0, 1, 1, 1] := by
  have horderly : Watch.Orderly askedWorkspace askedAgain.events := by decide +kernel
  have htold := (follow_tells_once askedWorkspace).2 Script.serve _ ⟨"r-1"⟩ .standard false
    [⟨Span.millis 1000, .line "text"⟩] (Span.millis 2000) 0 horderly
  exact ⟨horderly, htold, by decide +kernel⟩

/-- The user replies twice, and both posts are confirmed with one message. -/
def echoedReplies : Watching Script :=
  let server := chat [] [] [⟨none, []⟩] (line "m-9" "Me" "2026-03-01T10:20:00Z")
  (start (.start server) ⟨"r-1"⟩ bareWorkspace .standard false
    [⟨Span.millis 1000, .line "text"⟩, ⟨Span.millis 1500, .line "text"⟩]
    (Span.millis 2000)).follow Script.serve 0

/-- A message that confirms two posts is told twice. -/
theorem follow_tells_echo_twice :
    Watch.Orderly bareWorkspace echoedReplies.events ∧
      Notice.tellings (.message ⟨"m-9"⟩) echoedReplies.told = 2 := by
  decide +kernel

end Watching
end Docket
