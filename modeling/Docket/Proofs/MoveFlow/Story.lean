import Docket.MoveFlow
import Docket.Proofs.Destination

/-!
# The story of a move

A move holds only what it still needs. What it was asked to do, and the
request for which that was resolved, are forgotten on the way. The **story**
of a move remembers them: the begin that was accepted last, the request that
was resolved since, and the moves among which the user had to pick.

Every state that a move can reach is accounted for by its story. It works on
the request that it was last begun for; what it offers are the first moves of
each target into the column that was asked for; and what it applies was named,
or was the only such move, or was picked among those that were offered.

* `perform_of_not_applies` — a call that does not fit the state changes
  nothing.
* `Story.Sound.after` — every call keeps a move accounted for.
* `reached_by_its_story` — all that the story says of a move after any calls.
-/

namespace Docket.MoveFlow

/-- Where a resolved move stands. -/
def landing (r : Request) : Outcome Destination → MoveFlow
  | .ok .stay => .idle
  | .ok (.settled status) => .applying r.id status
  | .ok (.choice offers) => .choosing r.id offers
  | .error failure => .failed r.id failure

/-- A move that is resolved against the row it was begun for lands where its target leads. -/
theorem resolve_resolving (r : Request) (target : MoveTarget) :
    (resolving r.id target).resolve r = landing r (target.destination r) :=
  if_neg (not_not_intro rfl)

/-- What may be asked of a move. -/
inductive Call where
  | begin (request : RequestId) (target : MoveTarget)
  | resolve (r : Request)
  | choose (status : StatusCode)
  | finish (outcome : Outcome Unit)
  | cancel

/-- Does what is asked. -/
def perform (flow : MoveFlow) : Call → MoveFlow
  | .begin request target => flow.begin request target
  | .resolve r => flow.resolve r
  | .choose status => flow.choose status
  | .finish outcome => flow.finish outcome
  | .cancel => flow.cancel

/-- The state in which a call is of use. A move begins when none is under way
or the last one failed; giving up is always possible. -/
inductive Call.Applies : Call → MoveFlow → Prop where
  | begin (request : RequestId) (target : MoveTarget) : Applies (.begin request target) .idle
  | restart (request : RequestId) (target : MoveTarget) (before : RequestId) (failure : Failure) :
      Applies (.begin request target) (.failed before failure)
  | resolve (r : Request) (request : RequestId) (target : MoveTarget) :
      Applies (.resolve r) (.resolving request target)
  | choose (status : StatusCode) (request : RequestId) (offers : List Offer) :
      Applies (.choose status) (.choosing request offers)
  | finish (outcome : Outcome Unit) (request : RequestId) (status : StatusCode) :
      Applies (.finish outcome) (.applying request status)
  | cancel (flow : MoveFlow) : Applies .cancel flow

/-- A call that does not fit the state changes nothing. -/
theorem perform_of_not_applies {flow : MoveFlow} {call : Call} (h : ¬ call.Applies flow) :
    flow.perform call = flow := by
  cases call with
  | begin request target =>
      cases flow with
      | idle => exact absurd (.begin request target) h
      | failed before failure => exact absurd (.restart request target before failure) h
      | _ => rfl
  | resolve r =>
      cases flow with
      | resolving request target => exact absurd (.resolve r request target) h
      | _ => rfl
  | choose status =>
      cases flow with
      | choosing request offers => exact absurd (.choose status request offers) h
      | _ => rfl
  | finish outcome =>
      cases flow with
      | applying request status => exact absurd (.finish outcome request status) h
      | _ => rfl
  | cancel => exact absurd (.cancel flow) h

/-- The move after some calls, from the beginning. -/
def after (calls : List Call) : MoveFlow :=
  calls.foldl perform .idle

/-- The request on which a move works. -/
def request? : MoveFlow → Option RequestId
  | .idle => none
  | .resolving request _ => some request
  | .choosing request _ => some request
  | .applying request _ => some request
  | .failed request _ => some request

/-- A move with what it has come from. -/
structure Story where
  flow : MoveFlow
  /-- The begin that was accepted last. -/
  begun? : Option (RequestId × MoveTarget)
  /-- The request that was resolved since then. -/
  resolved? : Option Request
  /-- The moves among which the user had to pick since then. -/
  offered : List Offer

namespace Story

/-- Nothing has happened yet. -/
def start : Story :=
  ⟨.idle, none, none, []⟩

/-- How the story goes on. Only an accepted begin and a resolution of what was
begun are remembered. -/
def after (story : Story) (call : Call) : Story :=
  let flow := story.flow.perform call
  match call, story.flow with
  | .begin request target, .idle => ⟨flow, some (request, target), none, []⟩
  | .begin request target, .failed _ _ => ⟨flow, some (request, target), none, []⟩
  | .resolve r, .resolving _ _ => { story with flow, resolved? := some r, offered := flow.offers }
  | _, _ => { story with flow }

/-- The story of some calls, from the beginning. -/
def of (calls : List Call) : Story :=
  calls.foldl after start

@[simp] theorem flow_after (story : Story) (call : Call) :
    (story.after call).flow = story.flow.perform call := by
  unfold after
  split <;> rfl

/-- A story is about the move that the calls make. -/
theorem flow_of (calls : List Call) : (of calls).flow = MoveFlow.after calls := by
  have hfold : ∀ story : Story,
      (calls.foldl after story).flow = calls.foldl perform story.flow := by
    induction calls with
    | nil => exact fun _ => rfl
    | cons call rest ih =>
        intro story
        rw [List.foldl_cons, List.foldl_cons, ih, flow_after]
  exact hfold start

/-- A call that does not fit the state leaves no trace in the story. -/
theorem after_of_not_applies {story : Story} {call : Call} (h : ¬ call.Applies story.flow) :
    story.after call = story := by
  have hsame := perform_of_not_applies h
  unfold after
  split
  · rename_i request target hflow
    exact absurd (hflow ▸ .begin request target) h
  · rename_i request target before failure hflow
    exact absurd (hflow ▸ .restart request target before failure) h
  · rename_i r request target hflow
    exact absurd (hflow ▸ .resolve r request target) h
  · simp only [hsame]

/-- A move that is accounted for by what it has come from. -/
inductive Sound : Story → Prop where
  | idle (begun? : Option (RequestId × MoveTarget)) (resolved? : Option Request)
      (offered : List Offer) : Sound ⟨.idle, begun?, resolved?, offered⟩
  | resolving (request : RequestId) (target : MoveTarget) :
      Sound ⟨.resolving request target, some (request, target), none, []⟩
  | choosing {r : Request} {column : Column} (many : 2 ≤ (r.choicesInto column).length) :
      Sound ⟨.choosing r.id (r.choicesInto column), some (r.id, .into column), some r,
        r.choicesInto column⟩
  | named {r : Request} {status : StatusCode} (filled : status.isBlank = false)
      (leaves : status ≠ r.status) :
      Sound ⟨.applying r.id status, some (r.id, .named status), some r, []⟩
  | single {r : Request} {column : Column} {o : Offer} (only : r.choicesInto column = [o])
      (leaves : o.target ≠ r.status) :
      Sound ⟨.applying r.id o.target, some (r.id, .into column), some r, []⟩
  | picked {r : Request} {column : Column} {o : Offer}
      (many : 2 ≤ (r.choicesInto column).length) (offered : o ∈ r.choicesInto column) :
      Sound ⟨.applying r.id o.target, some (r.id, .into column), some r, r.choicesInto column⟩
  | failed (request : RequestId) (failure : Failure) (target : MoveTarget)
      (resolved? : Option Request) (offered : List Offer) :
      Sound ⟨.failed request failure, some (request, target), resolved?, offered⟩

namespace Sound

/-- What is resolved for the request that was begun is accounted for. -/
theorem resolve (r : Request) (target : MoveTarget) :
    Sound ⟨(MoveFlow.resolving r.id target).resolve r, some (r.id, target), some r,
      ((MoveFlow.resolving r.id target).resolve r).offers⟩ := by
  rw [resolve_resolving]
  cases target with
  | into column =>
      have hdestination : (MoveTarget.into column).destination r = r.destinationInto column := rfl
      rw [hdestination]
      rcases r.destinationInto_cases column with ⟨-, h⟩ | ⟨-, h⟩ | ⟨o, -, -, h⟩ |
        ⟨o, honly, hleaves, h⟩ | ⟨hmany, h⟩ <;> rw [h]
      · exact .idle _ _ _
      · exact .failed _ _ _ _ _
      · exact .idle _ _ _
      · exact .single (r.offersInto_eq column ▸ honly) hleaves
      · rw [r.offersInto_eq column] at hmany ⊢
        exact .choosing hmany
  | named status =>
      have hdestination : (MoveTarget.named status).destination r = r.destinationNamed status := rfl
      rw [hdestination]
      rcases r.destinationNamed_cases status with ⟨-, h⟩ | ⟨-, h⟩ | ⟨hfilled, hleaves, h⟩ <;> rw [h]
      · exact .failed _ _ _ _ _
      · exact .idle _ _ _
      · exact .named hfilled hleaves

/-- A pick among what was offered is accounted for. -/
theorem choose {r : Request} {column : Column} (hmany : 2 ≤ (r.choicesInto column).length)
    (status : StatusCode) :
    Sound ⟨(MoveFlow.choosing r.id (r.choicesInto column)).choose status,
      some (r.id, .into column), some r, r.choicesInto column⟩ := by
  have hchoose : (MoveFlow.choosing r.id (r.choicesInto column)).choose status =
      if (r.choicesInto column).any fun o => o.target = status then .applying r.id status
      else .failed r.id (.invalid (.notOffered status)) :=
    rfl
  rw [hchoose]
  split
  · rename_i hany
    obtain ⟨o, hoffer, htarget⟩ := List.any_eq_true.mp hany
    rw [← of_decide_eq_true htarget]
    exact .picked hmany hoffer
  · exact .failed _ _ _ _ _

/-- The end of a change is accounted for, whatever became of it. -/
theorem finish {request : RequestId} {status : StatusCode} {target : MoveTarget}
    {resolved? : Option Request} {offered : List Offer} (outcome : Outcome Unit) :
    Sound ⟨(MoveFlow.applying request status).finish outcome, some (request, target), resolved?,
      offered⟩ := by
  cases outcome with
  | ok _ => exact .idle _ _ _
  | error failure => exact .failed _ _ _ _ _

/-- **Every call keeps a move accounted for.** -/
theorem after {story : Story} (h : story.Sound) (call : Call) : (story.after call).Sound := by
  by_cases hunfit : ¬ call.Applies story.flow
  · rw [after_of_not_applies hunfit]
    exact h
  have happlies := Classical.not_not.mp hunfit
  cases call with
  | begin request target =>
      cases h with
      | idle => exact .resolving request target
      | failed => exact .resolving request target
      | _ => cases happlies
  | resolve r =>
      cases h with
      | resolving request target =>
          by_cases hid : r.id = request
          · subst hid
            exact .resolve r target
          · have hother : (MoveFlow.resolving request target).resolve r =
                .failed request (.invalid (.otherRequest r.id)) := if_pos hid
            show Sound ⟨(MoveFlow.resolving request target).resolve r, _, _,
              ((MoveFlow.resolving request target).resolve r).offers⟩
            rw [hother]
            exact .failed _ _ _ _ _
      | _ => cases happlies
  | choose status =>
      cases h with
      | choosing many => exact .choose many status
      | _ => cases happlies
  | finish outcome =>
      cases h with
      | named => exact .finish outcome
      | single => exact .finish outcome
      | picked => exact .finish outcome
      | _ => cases happlies
  | cancel => exact .idle _ _ _

end Sound

/-- Every move is accounted for, after any calls. -/
theorem sound_of (calls : List Call) : (of calls).Sound := by
  have hfold : ∀ story : Story, story.Sound → (calls.foldl Story.after story).Sound := by
    induction calls with
    | nil => exact fun _ h => h
    | cons call rest ih => exact fun story h => ih _ (h.after call)
  exact hfold start (.idle _ _ _)

end Story

/-- **A move is reached by its story.** Whatever is asked of a move, in any
order: while it is not idle it works on the request of the begin that was
accepted last. When the user has to pick, a column was asked for, and he picks
among the first moves of each target that the resolved request has into it, at
least two and no two alike. What is applied was asked for by name and is not
blank nor the status that the request has; or it is the only such move into
the column and leaves the status; or it was one of several that were offered.
And a call that does not fit the state leaves it as it is. -/
theorem reached_by_its_story (calls : List Call) :
    (∀ request, (after calls).request? = some request →
      ∃ target, (Story.of calls).begun? = some (request, target)) ∧
    (∀ request offers, after calls = .choosing request offers →
      ∃ r column, (Story.of calls).begun? = some (request, .into column) ∧
        (Story.of calls).resolved? = some r ∧ r.id = request ∧ offers = r.choicesInto column ∧
        2 ≤ offers.length ∧ (offers.map Offer.target).Nodup) ∧
    (∀ request status, after calls = .applying request status →
      ∃ r, (Story.of calls).resolved? = some r ∧ r.id = request ∧
        ((Story.of calls).begun? = some (request, .named status) ∧ status.isBlank = false ∧
            status ≠ r.status ∨
          ∃ column, (Story.of calls).begun? = some (request, .into column) ∧
            ((∃ o, r.choicesInto column = [o] ∧ o.target = status ∧ status ≠ r.status) ∨
              (Story.of calls).offered = r.choicesInto column ∧
                2 ≤ (r.choicesInto column).length ∧
                ∃ o ∈ (Story.of calls).offered, o.target = status))) ∧
    ∀ call : Call, ¬ call.Applies (after calls) → (after calls).perform call = after calls := by
  have hsound := Story.sound_of calls
  rw [← Story.flow_of calls]
  generalize Story.of calls = story at *
  refine ⟨?_, ?_, ?_, fun call => perform_of_not_applies⟩
  · intro request hrequest
    cases hsound with
    | idle => cases hrequest
    | resolving request target => cases hrequest; exact ⟨target, rfl⟩
    | choosing => cases hrequest; exact ⟨_, rfl⟩
    | named => cases hrequest; exact ⟨_, rfl⟩
    | single => cases hrequest; exact ⟨_, rfl⟩
    | picked => cases hrequest; exact ⟨_, rfl⟩
    | failed request failure target => cases hrequest; exact ⟨target, rfl⟩
  · intro request offers hflow
    cases hsound with
    | @choosing r column many =>
        cases hflow
        have hnodup := r.offersInto_targets_nodup column
        rw [r.offersInto_eq column] at hnodup
        exact ⟨r, column, rfl, rfl, rfl, rfl, many, hnodup⟩
    | _ => cases hflow
  · intro request status hflow
    cases hsound with
    | @named r status filled leaves =>
        cases hflow
        exact ⟨r, rfl, rfl, Or.inl ⟨rfl, filled, leaves⟩⟩
    | @single r column o only leaves =>
        cases hflow
        exact ⟨r, rfl, rfl, Or.inr ⟨column, rfl, Or.inl ⟨o, only, rfl, leaves⟩⟩⟩
    | @picked r column o many offered =>
        cases hflow
        exact ⟨r, rfl, rfl, Or.inr ⟨column, rfl, Or.inr ⟨rfl, many, o, offered, rfl⟩⟩⟩
    | _ => cases hflow

/-- A new request that can end in two ways, one of them listed twice. -/
def twoEnds : Request where
  id := ⟨"R7"⟩
  track := "T-7"
  topic := ⟨"DIVORCE"⟩
  status := ⟨"NEW"⟩
  statusName? := none
  assignee? := none
  offers := [⟨⟨"REJECTED"⟩, "Rejected", some .done⟩, ⟨⟨"WITHDRAWN"⟩, "Withdrawn", some .done⟩,
    ⟨⟨"REJECTED"⟩, "Refused", some .done⟩]
  column? := some .new
  importantDate? := none
  updated? := none

/-- A drop among the done requests that waits for a pick. -/
def droppedOnDone : List Call :=
  [.begin ⟨"R7"⟩ (.into .done), .resolve twoEnds]

/-- The user picks one of the two ends, and cannot begin another move before. -/
theorem reached_by_its_story_picked :
    (∃ offers, after droppedOnDone = .choosing ⟨"R7"⟩ offers ∧ offers.length = 2 ∧
      ∃ r column, (Story.of droppedOnDone).begun? = some (⟨"R7"⟩, .into column) ∧
        (Story.of droppedOnDone).resolved? = some r ∧ offers = r.choicesInto column) ∧
    (¬ (Call.begin ⟨"R8"⟩ (.into .new)).Applies (after droppedOnDone) ∧
      (after droppedOnDone).perform (.begin ⟨"R8"⟩ (.into .new)) = after droppedOnDone) ∧
    after (droppedOnDone ++ [.choose ⟨"WITHDRAWN"⟩]) = .applying ⟨"R7"⟩ ⟨"WITHDRAWN"⟩ ∧
    ∃ r target, (Story.of (droppedOnDone ++ [.choose ⟨"WITHDRAWN"⟩])).resolved? = some r ∧
      r.id = ⟨"R7"⟩ ∧
      (Story.of (droppedOnDone ++ [.choose ⟨"WITHDRAWN"⟩])).begun? = some (⟨"R7"⟩, target) := by
  obtain ⟨-, hchoosing, -, hunfit⟩ := reached_by_its_story droppedOnDone
  obtain ⟨hbegun, -, happlying, -⟩ :=
    reached_by_its_story (droppedOnDone ++ [.choose ⟨"WITHDRAWN"⟩])
  have hwaits : after droppedOnDone = .choosing ⟨"R7"⟩ (twoEnds.offers.take 2) := rfl
  have hpicked : after (droppedOnDone ++ [.choose ⟨"WITHDRAWN"⟩]) =
      .applying ⟨"R7"⟩ ⟨"WITHDRAWN"⟩ := rfl
  have hbusy : ¬ (Call.begin ⟨"R8"⟩ (.into .new)).Applies (after droppedOnDone) := by
    rw [hwaits]
    rintro ⟨⟩
  obtain ⟨r, column, hcolumn, hresolved, -, hoffers, -, -⟩ := hchoosing _ _ hwaits
  obtain ⟨r', hresolved', hid, -⟩ := happlying _ _ hpicked
  obtain ⟨target, htarget⟩ := hbegun _ (congrArg request? hpicked)
  exact ⟨⟨_, hwaits, rfl, r, column, hcolumn, hresolved, hoffers⟩, ⟨hbusy, hunfit _ hbusy⟩, hpicked, r',
    target, hresolved', hid, htarget⟩

end Docket.MoveFlow
