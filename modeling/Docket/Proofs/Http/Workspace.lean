import Docket.Proofs.Http.Gather

/-!
# A workspace in five parts

A workspace is loaded by five calls that are made at one instant. It is there
when all five answers are, each of them what was asked for, and then every part
of it is what its own answer holds, whichever came first. Else it is not there,
for the reason that came first. Lists come bare or under a key, or not at all.

* `Holds` — where an answer has its list.
* `acceptList_eq_ok_iff` — a list is read item by item, in order.
* `workspace_whole_or_first_failure` — what comes of a workspace.
-/

namespace Docket

open Wire Http

namespace Http

/-- An answer holds the items of a list: bare or under a key, or none if there
is nothing, or nothing under the key. -/
inductive Holds (key : String) : Json → List Json → Prop
  | bare (items : List Json) : Holds key (.list items) items
  | wrapped {members : List (String × Json)} {items : List Json}
      (inside : Json.get? members key = some (.list items)) : Holds key (.object members) items
  | nothing : Holds key .null []
  | absent {members : List (String × Json)} (none : Json.get? members key = none) :
      Holds key (.object members) []
  | nothingInside {members : List (String × Json)} (null : Json.get? members key = some .null) :
      Holds key (.object members) []

variable {α : Type} {c : Codec α} {key : String} {answer : Json} {as : List α}

/-- A list is read from its items, one by one and in order. -/
theorem accept_list_eq_ok_iff {what : String} :
    accept (.list c) what answer = .ok as ↔
      ∃ items, answer = .list items ∧
        List.Forall₂ (fun item a => c.read item = .ok a) items as := by
  rw [accept_eq_ok_iff]
  cases answer with
  | list items => simp [Codec.list, mapM_eq_ok_iff]
  | _ => simp [Codec.list]

/-- A list is taken from where the answer holds it. -/
theorem acceptList_eq_ok_iff :
    acceptList c key answer = .ok as ↔
      ∃ items, Holds key answer items ∧
        List.Forall₂ (fun item a => c.read item = .ok a) items as := by
  constructor
  · intro h
    cases answer with
    | null =>
        cases h
        exact ⟨[], .nothing, .nil⟩
    | list items =>
        obtain ⟨items', hitems, hread⟩ := accept_list_eq_ok_iff.mp h
        cases hitems
        exact ⟨items, .bare items, hread⟩
    | object members =>
        cases hinside : Json.get? members key with
        | none =>
            simp only [acceptList, hinside] at h
            cases h
            exact ⟨[], .absent hinside, .nil⟩
        | some inner =>
            by_cases hnull : inner = .null
            · rw [hnull] at hinside
              simp only [acceptList, hinside] at h
              cases h
              exact ⟨[], .nothingInside hinside, .nil⟩
            · have hread : accept (.list c) key inner = .ok as := by
                simpa only [acceptList, hinside] using h
              obtain ⟨items, hitems, hread⟩ := accept_list_eq_ok_iff.mp hread
              exact ⟨items, .wrapped (hitems ▸ hinside), hread⟩
    | _ => cases h
  · rintro ⟨items, hholds, hread⟩
    cases hholds with
    | bare => exact accept_list_eq_ok_iff.mpr ⟨items, rfl, hread⟩
    | wrapped inside =>
        have haccept : accept (.list c) key (.list items) = .ok as :=
          accept_list_eq_ok_iff.mpr ⟨items, rfl, hread⟩
        simpa only [acceptList, inside] using haccept
    | nothing =>
        cases hread
        rfl
    | absent none =>
        cases hread
        simp only [acceptList, none]
    | nothingInside null =>
        cases hread
        simp only [acceptList, null]

/-- The answer is a value of a codec. -/
def Shows (c : Codec α) (r : Docket.Reply Json) (a : α) : Prop :=
  ∃ answer, r.outcome = .ok answer ∧ c.read answer = .ok a

/-- The answer holds a list of values of a codec, item by item. -/
def Lists (c : Codec α) (key : String) (r : Docket.Reply Json) (as : List α) : Prop :=
  ∃ answer items, r.outcome = .ok answer ∧ Holds key answer items ∧
    List.Forall₂ (fun item a => c.read item = .ok a) items as

/-- Whether an answer brings its part, and when. -/
def brings (accept : Json → Outcome α) (r : Docket.Reply Json) : Docket.Reply Unit :=
  ⟨r.delay, (r.outcome.bind accept).map fun _ => ()⟩

theorem bind_eq_ok_iff {outcome : Outcome Json} {accept : Json → Outcome α} {a : α} :
    outcome.bind accept = .ok a ↔ ∃ answer, outcome = .ok answer ∧ accept answer = .ok a :=
  ok_bind_iff

theorem shows_iff (what : String) {r : Docket.Reply Json} {a : α} :
    Shows c r a ↔ r.outcome.bind (accept c what) = .ok a := by
  rw [bind_eq_ok_iff]
  exact exists_congr fun answer => and_congr_right fun _ => accept_eq_ok_iff.symm

theorem lists_iff {r : Docket.Reply Json} :
    Lists c key r as ↔ r.outcome.bind (acceptList c key) = .ok as := by
  rw [bind_eq_ok_iff]
  simp only [Lists, acceptList_eq_ok_iff, exists_and_left]

/-- How the five answers fare that make a workspace. -/
def workspaceParts (request messages attachments route history : Docket.Reply Json) :
    List (Docket.Reply Unit) :=
  [brings (accept Request.codec "request") request,
    brings (acceptList Message.codec "messages") messages,
    brings (acceptList Attachment.codec "attachments") attachments,
    brings (accept Route.codec "status route") route,
    brings (acceptList HistoryEntry.codec "history") history]

/-- A reply without its value. -/
def Replies.blank (r : Docket.Reply α) : Docket.Reply Unit :=
  ⟨r.delay, r.outcome.map fun _ => ()⟩

/-- Failures do not depend on the values. -/
theorem Replies.FailsFirst.blank {rs : List (Docket.Reply α)} {failure : Failure} {delay : Nat}
    (h : FailsFirst rs failure delay) : FailsFirst (rs.map blank) failure delay := by
  constructor
  · obtain ⟨r, hr, hdelay, hfailure⟩ := h.mem
    refine ⟨Replies.blank r, List.mem_map_of_mem hr, hdelay, ?_⟩
    rw [Replies.blank, hfailure]
    rfl
  · intro x hx other hother
    obtain ⟨r, hr, rfl⟩ := List.mem_map.mp hx
    refine h.least r hr other ?_
    cases houtcome : r.outcome with
    | error failure' =>
        rw [Replies.blank, houtcome] at hother
        have hsame : failure' = other := by simpa [Except.map] using hother
        rw [hsame]
    | ok a =>
        rw [Replies.blank, houtcome] at hother
        cases hother

/-- An answer is looked at by whether it can be accepted. -/
def Fetch.accepting (call : Call) (accept : Json → Outcome α) : Fetch :=
  ⟨call, fun answer => (accept answer).map fun _ => ()⟩

/-- A look at an answer tells whether it brings its part. -/
theorem blank_judge (call : Call) (accept : Json → Outcome α) (r : Docket.Reply Json) :
    Replies.blank ((Fetch.accepting call accept).judge r) = brings accept r := by
  unfold Replies.blank Fetch.judge Fetch.accepting brings
  cases r.outcome with
  | error failure => rfl
  | ok answer =>
      cases haccept : accept answer <;> simp [Except.bind, Except.map, haccept]

/-- An answer that stood the look is accepted. -/
theorem accepted_of_judge {call : Call} {accept : Json → Outcome α} {r : Docket.Reply Json}
    {answer : Json}
    (h : ((Fetch.accepting call accept).judge r).outcome = .ok answer) :
    ∃ a, accept answer = .ok a ∧ r.outcome.bind accept = .ok a := by
  unfold Fetch.judge Fetch.accepting at h
  cases houtcome : r.outcome with
  | error failure =>
      rw [houtcome] at h
      cases h
  | ok answer' =>
      cases haccept : accept answer' with
      | error failure => simp [houtcome, Except.bind, Except.map, haccept] at h
      | ok a =>
          have hsame : answer' = answer := by
            simpa [houtcome, Except.bind, Except.map, haccept] using h
          exact ⟨a, hsame ▸ haccept, haccept⟩

/-- Five answers of which each is accepted are put together. -/
theorem finish_workspacePlan {id : RequestId} {request messages attachments route history : Json}
    {w : Workspace} (hrequest : accept Request.codec "request" request = .ok w.request)
    (hmessages : acceptList Message.codec "messages" messages = .ok w.messages)
    (hattachments : acceptList Attachment.codec "attachments" attachments = .ok w.attachments)
    (hroute : accept Route.codec "status route" route = .ok w.route)
    (hhistory : acceptList HistoryEntry.codec "history" history = .ok w.history) :
    (Errand.workspacePlan id).finish [request, messages, attachments, route, history] = .ok w := by
  simp [Errand.workspacePlan, Plan.both, Plan.fetch, hrequest, hmessages, hattachments, hroute,
    hhistory, bind, Except.bind, pure, Except.pure]

/-- A workspace is whole if each of its parts is what its own answer holds. -/
structure Whole (request messages attachments route history : Docket.Reply Json) (w : Workspace) :
    Prop where
  request : Shows Request.codec request w.request
  messages : Lists Message.codec "messages" messages w.messages
  attachments : Lists Attachment.codec "attachments" attachments w.attachments
  route : Shows Route.codec route w.route
  history : Lists HistoryEntry.codec "history" history w.history

variable {σ : Type} (serve : Server σ) (link : Link σ) (r : RequestId)

variable {request messages attachments route history : Docket.Reply Json}

/-- The five answers, each looked at for its own part. -/
theorem judged_workspacePlan
    (h : link.answers serve (Errand.loadWorkspace r).calls =
      [request, messages, attachments, route, history]) :
    link.judged serve (Errand.workspacePlan r).fetches =
      List.zipWith Fetch.judge
        [.accepting (.get ["requests", r.text]) (accept Request.codec "request"),
          .accepting (.get (below r "messages")) (acceptList Message.codec "messages"),
          .accepting (.get (below r "attachments")) (acceptList Attachment.codec "attachments"),
          .accepting (.get (below r "status-route")) (accept Route.codec "status route"),
          .accepting (.get (below r "status-history")) (acceptList HistoryEntry.codec "history")]
        [request, messages, attachments, route, history] := by
  rw [← h]
  rfl

/-- What the looks at the five answers tell. -/
theorem blank_judged_workspacePlan
    (h : link.answers serve (Errand.loadWorkspace r).calls =
      [request, messages, attachments, route, history]) :
    (link.judged serve (Errand.workspacePlan r).fetches).map Replies.blank =
      workspaceParts request messages attachments route history := by
  rw [judged_workspacePlan serve link r h]
  simp only [List.zipWith, List.map, blank_judge, workspaceParts]

/-- Five answers that stood their looks make a whole workspace. -/
theorem exists_whole_of_judged {values : List Json}
    (h : link.answers serve (Errand.loadWorkspace r).calls =
      [request, messages, attachments, route, history])
    (hvalues : List.Forall₂ (fun (x : Docket.Reply Json) a => x.outcome = .ok a)
      (link.judged serve (Errand.workspacePlan r).fetches) values) :
    ∃ w, (Errand.workspacePlan r).finish values = .ok w ∧
      Whole request messages attachments route history w := by
  rw [judged_workspacePlan serve link r h] at hvalues
  simp only [List.zipWith, List.forall₂_cons_left_iff, List.forall₂_nil_left_iff] at hvalues
  obtain ⟨v₁, _, hv₁, ⟨v₂, _, hv₂, ⟨v₃, _, hv₃, ⟨v₄, _, hv₄, ⟨v₅, _, hv₅, rfl, rfl⟩, rfl⟩, rfl⟩,
    rfl⟩, rfl⟩ := hvalues
  obtain ⟨a₁, ha₁, hr₁⟩ := accepted_of_judge hv₁
  obtain ⟨a₂, ha₂, hr₂⟩ := accepted_of_judge hv₂
  obtain ⟨a₃, ha₃, hr₃⟩ := accepted_of_judge hv₃
  obtain ⟨a₄, ha₄, hr₄⟩ := accepted_of_judge hv₄
  obtain ⟨a₅, ha₅, hr₅⟩ := accepted_of_judge hv₅
  exact ⟨⟨a₁, a₂, a₃, a₄, a₅⟩, finish_workspacePlan ha₁ ha₂ ha₃ ha₄ ha₅,
    ⟨(shows_iff _).mpr hr₁, lists_iff.mpr hr₂, lists_iff.mpr hr₃, (shows_iff _).mpr hr₄,
      lists_iff.mpr hr₅⟩⟩

/-- There is one whole workspace at most. -/
theorem Whole.unique {w w' : Workspace} (h : Whole request messages attachments route history w)
    (h' : Whole request messages attachments route history w') : w = w' := by
  have hrequest := ((shows_iff "request").mp h.request).symm.trans
    ((shows_iff "request").mp h'.request)
  have hmessages := (lists_iff.mp h.messages).symm.trans (lists_iff.mp h'.messages)
  have hattachments := (lists_iff.mp h.attachments).symm.trans (lists_iff.mp h'.attachments)
  have hroute := ((shows_iff "status route").mp h.route).symm.trans
    ((shows_iff "status route").mp h'.route)
  have hhistory := (lists_iff.mp h.history).symm.trans (lists_iff.mp h'.history)
  obtain ⟨a₁, a₂, a₃, a₄, a₅⟩ := w
  simp only [Except.ok.injEq] at hrequest hmessages hattachments hroute hhistory
  rw [hrequest, hmessages, hattachments, hroute, hhistory]

/-- A workspace is whole only if every part is brought. -/
theorem Whole.not_failsFirst {w : Workspace}
    (h : Whole request messages attachments route history w) {failure : Failure} {delay : Nat} :
    ¬ Replies.FailsFirst (workspaceParts request messages attachments route history)
      failure delay := by
  intro hfirst
  obtain ⟨part, hpart, -, hfailure⟩ := hfirst.mem
  have hbrought : part.outcome = .ok () := by
    simp only [workspaceParts, List.mem_cons, List.not_mem_nil, or_false] at hpart
    rcases hpart with rfl | rfl | rfl | rfl | rfl
    · exact congrArg (Except.map _) ((shows_iff _).mp h.request)
    · exact congrArg (Except.map _) (lists_iff.mp h.messages)
    · exact congrArg (Except.map _) (lists_iff.mp h.attachments)
    · exact congrArg (Except.map _) ((shows_iff _).mp h.route)
    · exact congrArg (Except.map _) (lists_iff.mp h.history)
  cases hbrought.symm.trans hfailure

/-- The clock of a link stands still while calls are made. -/
theorem Link.now_issue (fetches : List Fetch) : (link.issue serve fetches).2.now = link.now := by
  induction fetches generalizing link with
  | nil => rfl
  | cons f rest ih =>
      simp only [issue]
      split
      · rfl
      · exact ih (link.call serve f.call).2

/-- **A workspace is whole, or fails with what failed first.** It is loaded by
five calls that only read, each made at most once. -/
theorem workspace_whole_or_first_failure :
    (Errand.loadWorkspace r).calls =
        [.get ["requests", r.text], .get (below r "messages"), .get (below r "attachments"),
          .get (below r "status-route"), .get (below r "status-history")] ∧
      (Errand.loadWorkspace r).calls.Nodup ∧
      (∃ made, made <+: (Errand.loadWorkspace r).calls ∧
        (link.send serve (.loadWorkspace r)).2.sent = link.sent ++ made.map (Sent.mk link.now)) ∧
      ∃ request messages attachments route history,
        link.answers serve (Errand.loadWorkspace r).calls =
          [request, messages, attachments, route, history] ∧
        (∀ w, (link.send serve (.loadWorkspace r)).1 = .ok w ↔
          Whole request messages attachments route history w) ∧
        ∀ failure, (link.send serve (.loadWorkspace r)).1 = .error failure →
          ∃ delay, Replies.FailsFirst
              (workspaceParts request messages attachments route history) failure delay ∧
            (link.send serve (.loadWorkspace r)).2.now = link.now + delay := by
  refine ⟨rfl, ?_, Link.exists_sent_issue serve link (Errand.workspacePlan r).fetches, ?_⟩
  · simp [Errand.calls_loadWorkspace, Call.get, below]
  obtain ⟨request, messages, attachments, route, history, hanswers⟩ :
      ∃ request messages attachments route history,
        link.answers serve (Errand.loadWorkspace r).calls =
          [request, messages, attachments, route, history] := ⟨_, _, _, _, _, rfl⟩
  refine ⟨request, messages, attachments, route, history, hanswers, ?_⟩
  have hnow : (link.send serve (.loadWorkspace r)).2.now =
      link.now + (link.launch serve (Errand.workspacePlan r)).1.delay :=
    congrArg (· + _) (Link.now_issue serve link (Errand.workspacePlan r).fetches)
  have hsend : (link.send serve (.loadWorkspace r)).1 =
      (link.launch serve (Errand.workspacePlan r)).1.outcome := rfl
  rw [hsend, hnow]
  rcases link.launch_cases serve (Errand.workspacePlan r) with
    ⟨values, hvalues, houtcome⟩ | ⟨failure, houtcome, hfirst⟩
  · obtain ⟨w, hfinish, hwhole⟩ := exists_whole_of_judged serve link r hanswers hvalues
    rw [houtcome, hfinish]
    refine ⟨fun w' => ⟨?_, fun h => congrArg Except.ok (hwhole.unique h)⟩, ?_⟩
    · intro h
      cases h
      exact hwhole
    · intro failure h
      cases h
  · have hparts := hfirst.blank
    rw [blank_judged_workspacePlan serve link r hanswers] at hparts
    rw [houtcome]
    refine ⟨fun w => ⟨?_, fun h => absurd hparts h.not_failsFirst⟩, ?_⟩
    · intro h
      cases h
    · intro failure' h
      cases h
      exact ⟨_, hparts, rfl⟩

end Http

end Docket
