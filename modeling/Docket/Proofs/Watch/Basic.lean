import Docket.Proofs.Presence.Cursor
import Docket.Watch.Basic

/-!
# What a watch tells of a reload

The mark of a watch stands at the latest stamp that it has met: in the
workspace it began with, in every reload since, and on every reply of the
user. Stamps of changes count for the mark as well as those of creation. An
item of a reload is told when it was created after the mark, whether or not
it has been told before.

* `run_append` — a watch goes through events one after another.
* `run_marks` — its mark stands at the latest stamp met.
* `message_mem_reload_iff`, `file_mem_reload_iff` — a reload tells exactly the
  items that were created after every stamp met before.
-/

namespace Docket

/-- The stamps of all that is in a workspace. -/
def Workspace.stamps (w : Workspace) : List String :=
  (Cursor.stampsOf w.messages w.attachments).reduceOption

/-- The creation of a message counts among the stamps. -/
theorem Workspace.created_mem_stamps_of_message {w : Workspace} {m : Message}
    (h : m ∈ w.messages) : m.created ∈ w.stamps := by
  rw [stamps, List.reduceOption_mem_iff, Cursor.stampsOf, List.mem_append, List.mem_flatMap]
  exact Or.inl ⟨m, h, List.mem_cons_self⟩

/-- The creation of a file counts among the stamps. -/
theorem Workspace.created_mem_stamps_of_file {w : Workspace} {a : Attachment}
    (h : a ∈ w.attachments) : a.created ∈ w.stamps := by
  rw [stamps, List.reduceOption_mem_iff, Cursor.stampsOf, List.mem_append, List.mem_flatMap]
  refine Or.inr ?_
  exact List.mem_flatMap.mpr ⟨a, h, List.mem_cons_self⟩

namespace Watch

/-- A watch goes through events one after another. -/
theorem run_append (watch : Watch) (before after : List Event) :
    watch.run (before ++ after) =
      (((watch.run before).1.run after).1,
        (watch.run before).2 ++ ((watch.run before).1.run after).2) := by
  induction before generalizing watch with
  | nil => rfl
  | cons event rest ih =>
      simp only [List.cons_append, run, ih, List.append_assoc]

theorem run_singleton (watch : Watch) (event : Event) : watch.run [event] = watch.step event := by
  simp [run]

/-- The stamps that an event brings. -/
def Event.stamps : Event → List String
  | .observed _ => []
  | .reloaded w => w.stamps
  | .posted reply => [reply.created]

/-- The stamps that a watch has met which began with a workspace. -/
def met (w : Workspace) (events : List Event) : List String :=
  w.stamps ++ events.flatMap Event.stamps

/-- The mark of a workspace stands at its latest stamp. -/
theorem markOf_marks {w : Workspace} (h : ∀ s ∈ w.stamps, Stamp.IsText s) :
    (markOf w).Marks w.stamps := by
  have hmarks := Cursor.marks_start.advanceAll fun s hs =>
    h s (List.reduceOption_mem_iff.mpr hs)
  rwa [List.nil_append] at hmarks

/-- An event moves the mark to the latest stamp that it brings. -/
theorem step_marks {watch : Watch} {stamps : List String} (h : watch.seen.Marks stamps)
    {event : Event} (hevent : ∀ s ∈ event.stamps, Stamp.IsText s) :
    (watch.step event).1.seen.Marks (stamps ++ event.stamps) := by
  cases event with
  | observed snapshot =>
      rw [Event.stamps, List.append_nil]
      exact h
  | reloaded w => exact h.join (markOf_marks hevent)
  | posted reply => exact h.advance (hevent _ (List.mem_singleton_self _))

/-- **The mark of a watch stands at the latest stamp met.** -/
theorem run_marks {watch : Watch} {stamps : List String} (h : watch.seen.Marks stamps)
    {events : List Event} (hevents : ∀ s ∈ events.flatMap Event.stamps, Stamp.IsText s) :
    (watch.run events).1.seen.Marks (stamps ++ events.flatMap Event.stamps) := by
  induction events generalizing watch stamps with
  | nil => simpa [run] using h
  | cons event rest ih =>
      rw [List.flatMap_cons] at hevents ⊢
      have hhead := step_marks h fun s hs => hevents s (List.mem_append_left _ hs)
      have htail := ih hhead fun s hs => hevents s (List.mem_append_right _ hs)
      rw [List.append_assoc] at htail
      exact htail

/-- The mark of a watch that began with a workspace. -/
theorem run_start_marks {w : Workspace} {snapshot : Snapshot} {events : List Event}
    (h : ∀ s ∈ met w events, Stamp.IsText s) :
    ((start w snapshot).run events).1.seen.Marks (met w events) := by
  refine run_marks (markOf_marks fun s hs => ?_) fun s hs => ?_
  · exact h s (List.mem_append_left _ hs)
  · exact h s (List.mem_append_right _ hs)

/-- A stamp is new when it lies after every stamp met. -/
theorem isNew_iff {seen : Cursor} {stamps : List String} (h : seen.Marks stamps) {s : String}
    (hs : Stamp.IsText s) :
    Notice.isNew seen s = true ↔ ∀ t ∈ stamps, Stamp.Before t s := by
  cases hvalue : seen.value? with
  | none =>
      simp [Notice.isNew, hvalue, (Cursor.marks_of_none hvalue).mp h]
  | some mark =>
      have hm := h.isText_of_value? hvalue
      obtain ⟨hall, t, ht, hmark⟩ := (Cursor.marks_of_some hvalue).mp h
      simp only [Notice.isNew, hvalue, decide_eq_true_eq]
      rw [Stamp.compareTexts_eq_gt_iff hs hm]
      constructor
      · exact fun hbefore u hu => (hall u hu).trans_before hbefore
      · exact fun hbefore => hmark.trans_before (hbefore t ht)

/-- What a watch tells of an event that follows others. -/
def toldOf (watch : Watch) (before : List Event) (event : Event) : List Notice :=
  ((watch.run before).1.step event).2

/-- What is told of one event among others comes after what is told of those
before it. -/
theorem run_told (watch : Watch) (before after : List Event) (event : Event) :
    ∃ later, (watch.run (before ++ event :: after)).2 =
      (watch.run before).2 ++ watch.toldOf before event ++ later := by
  refine ⟨((watch.run (before ++ [event])).1.run after).2, ?_⟩
  rw [List.append_cons, run_append, run_append, run_singleton]
  rfl

section Reload

variable {w : Workspace} {snapshot : Snapshot} {before : List Event} {reload : Workspace}

/-- A stamp of a reload is new when it lies after every stamp met before. -/
theorem isNew_reload_iff (snapshot : Snapshot)
    (hstamps : ∀ s ∈ met w (before ++ [.reloaded reload]), Stamp.IsText s) {s : String}
    (hs : s ∈ reload.stamps) :
    Notice.isNew ((start w snapshot).run before).1.seen s = true ↔
      ∀ t ∈ met w before, Stamp.Before t s := by
  have hsplit : met w (before ++ [.reloaded reload]) = met w before ++ reload.stamps := by
    simp [met, Event.stamps]
  rw [hsplit] at hstamps
  have hmarks : ((start w snapshot).run before).1.seen.Marks (met w before) :=
    run_start_marks fun t ht => hstamps t (List.mem_append_left _ ht)
  exact isNew_iff hmarks (hstamps s (List.mem_append_right _ hs))

/-- A reload tells exactly the messages that were created after every stamp
met before. -/
theorem message_mem_reload_iff
    (hstamps : ∀ s ∈ met w (before ++ [.reloaded reload]), Stamp.IsText s) {m : Message}
    (hm : m ∈ reload.messages) :
    .message m ∈ (start w snapshot).toldOf before (.reloaded reload) ↔
      ∀ t ∈ met w before, Stamp.Before t m.created := by
  rw [← isNew_reload_iff snapshot hstamps (Workspace.created_mem_stamps_of_message hm)]
  simp [toldOf, step, Notice.ofWorkspace, hm]

/-- A reload tells exactly the files that were created after every stamp met
before. -/
theorem file_mem_reload_iff
    (hstamps : ∀ s ∈ met w (before ++ [.reloaded reload]), Stamp.IsText s) {a : Attachment}
    (ha : a ∈ reload.attachments) :
    .file a ∈ (start w snapshot).toldOf before (.reloaded reload) ↔
      ∀ t ∈ met w before, Stamp.Before t a.created := by
  rw [← isNew_reload_iff snapshot hstamps (Workspace.created_mem_stamps_of_file ha)]
  simp [toldOf, step, Notice.ofWorkspace, ha]

end Reload

end Watch
end Docket
