import Docket.Proofs.Desk.Change
import Docket.Proofs.MoveFlow.Story

/-!
# A move that is planned and a move in one go

A card is moved in two ways. The terminal plans the move, lets the user pick
where there is something to pick, and then changes the status. The board asks
the desk to move the card in one go, and asks once more with the status that
the user has picked. Both resolve the same target, and whatever the one does
is what the other does: for every row and target, every actor and every server
behind the desk.

What is refused before the server is asked leaves no trace but its reason. A
move whose target cannot be resolved may therefore look like a change that is
refused, and so do moves to two statuses that are refused for one reason. No
others look alike.

* `MoveFlow.plan?_eq_some_iff` — a plan holds what became of the target.
* `Desk.move_of_told`, `Desk.move_of_settled` — what a move in one go does with
  it.
* `Desk.move_eq_change_iff` — which changes a move looks like.
* `Desk.Agrees` — the two against each other, point by point.
* `plan_agrees_with_move` — for every row, target, actor and server.
* `refused_moves_look_alike` — two moves that look like a change which their
  plan does not apply.
-/

namespace Docket

namespace Dialogue

variable {Ask : Type} {Answer : Ask → Type} {α β σ : Type}

/-- The same run with another word for its result. -/
def Ran.map (f : α → β) (ran : Ran Ask σ α) : Ran Ask σ β where
  result := f ran.result
  asked := ran.asked
  state := ran.state

/-- A procedure that only says its result in another word asks the same. -/
theorem run_except_bind_pure {ε : Type} (respond : σ → (q : Ask) → Answer q × σ) (s : σ)
    (d : ExceptT ε (Dialogue Ask Answer) α) (f : α → β) :
    run respond s (d >>= fun a => pure (f a)).run = (run respond s d.run).map (Except.map f) := by
  have hpure : (d >>= fun a => pure (f a)).run = d.run.bind fun o => .done (o.map f) := by
    refine congrArg d.run.bind (funext fun o => ?_)
    cases o <;> rfl
  rw [hpure, run_bind]
  simp [run, Ran.map]

end Dialogue

namespace MoveFlow

theorem landing_eq_idle_iff {r : Request} {outcome : Outcome Destination} :
    landing r outcome = .idle ↔ outcome = .ok .stay := by
  rcases outcome with failure | (_ | status | offers) <;> simp [landing]

theorem landing_eq_failed_iff {r : Request} {outcome : Outcome Destination} {failure : Failure} :
    landing r outcome = .failed r.id failure ↔ outcome = .error failure := by
  rcases outcome with failure' | (_ | status | offers) <;> simp [landing]

theorem landing_eq_applying_iff {r : Request} {outcome : Outcome Destination}
    {status : StatusCode} :
    landing r outcome = .applying r.id status ↔ outcome = .ok (.settled status) := by
  rcases outcome with failure | (_ | status' | offers) <;> simp [landing]

theorem landing_eq_choosing_iff {r : Request} {outcome : Outcome Destination}
    {offers : List Offer} :
    landing r outcome = .choosing r.id offers ↔ outcome = .ok (.choice offers) := by
  rcases outcome with failure | (_ | status | offers') <;> simp [landing]

/-- What is picked is applied when it was offered. -/
theorem choose_eq_applying_iff {request : RequestId} {offers : List Offer}
    {picked status : StatusCode} :
    (choosing request offers).choose picked = .applying request status ↔
      picked = status ∧ picked ∈ offers.map Offer.target := by
  have hany : (offers.any fun o => o.target = picked) = true ↔
      picked ∈ offers.map Offer.target := by
    simp only [List.any_eq_true, List.mem_map, decide_eq_true_eq]
  have hchoose : (choosing request offers).choose picked =
      if offers.any fun o => o.target = picked then .applying request picked
      else .failed request (.invalid (.notOffered picked)) :=
    rfl
  rw [hchoose, ← hany]
  by_cases hoffered : (offers.any fun o => o.target = picked) = true
  · simp [hoffered]
  · simp [hoffered]

/-- A move is planned when there is a target, and the plan holds what became
of the target. -/
theorem plan?_eq_some_iff {r : Request} {column? : Option Column} {status? : Option StatusCode}
    {flow : MoveFlow} :
    plan? r status? column? = some flow ↔
      (column?.isSome ∨ status?.isSome) ∧ flow = landing r (r.destination column? status?) := by
  have hsome : ∀ target : MoveTarget, some ((idle.begin r.id target).resolve r) = some flow ↔
      flow = landing r (target.destination r) := by
    intro target
    rw [begin, resolve_resolving, Option.some.injEq, eq_comm]
  cases status? with
  | some status =>
      have hnamed : r.destination column? (some status) =
          (MoveTarget.named status).destination r := rfl
      simpa [plan?, hnamed] using hsome (.named status)
  | none =>
      cases column? with
      | none => simp [plan?]
      | some column =>
          have hinto : r.destination (some column) none = (MoveTarget.into column).destination r :=
            rfl
          simpa [plan?, hinto] using hsome (.into column)

end MoveFlow

namespace Desk

variable {σ : Type} {respond : σ → (e : Errand) → e.Reply × σ} {s : σ} {actor : Actor}
  {r : Request} {column? : Option Column} {status? : Option StatusCode} {details : Change}

/-- What a procedure of the desk comes to, with somebody who answers its errands. -/
def carryOut {α : Type} (respond : σ → (e : Errand) → e.Reply × σ) (s : σ) (d : Desk α) :
    Dialogue.Ran Errand σ (Outcome α) :=
  d.run.run respond s

/-- A change of the status to this one, told as a move. -/
def carryOutChange (respond : σ → (e : Errand) → e.Reply × σ) (s : σ) (actor : Actor)
    (r : Request) (details : Change) (status : StatusCode) :
    Dialogue.Ran Errand σ (Outcome Moved) :=
  (carryOut respond s (changeStatus actor r { details with status })).map
    (Except.map Moved.changed)

/-- What is told at once of a move whose target came to this. A settled one is
told when the status has been changed. -/
def told? : Outcome Destination → Option (Outcome Moved)
  | .error failure => some (.error failure)
  | .ok .stay => some (.ok .stayed)
  | .ok (.choice offers) => some (.ok (.needsChoice (offers.map Offer.target)))
  | .ok (.settled _) => none

theorem told?_eq_none_iff {outcome : Outcome Destination} :
    told? outcome = none ↔ ∃ status, outcome = .ok (.settled status) := by
  rcases outcome with failure | (_ | status | offers) <;> simp [told?]

/-- A move of which something is told at once asks nothing. -/
theorem move_of_told {outcome : Outcome Moved}
    (h : told? (r.destination column? status?) = some outcome) :
    carryOut respond s (move actor r column? status? details) = ⟨outcome, [], s⟩ := by
  unfold move
  rcases hplace : r.destination column? status? with failure | (_ | status | offers) <;>
    rw [hplace] at h <;> cases h <;> rfl

/-- A move that is settled is the change to its status. -/
theorem move_of_settled {status : StatusCode}
    (h : r.destination column? status? = .ok (.settled status)) :
    carryOut respond s (move actor r column? status? details) =
      carryOutChange respond s actor r details status := by
  unfold move
  rw [h]
  exact Dialogue.run_except_bind_pure respond s _ Moved.changed

/-- A change that is refused asks nothing. -/
theorem carryOutChange_of_refused {status : StatusCode} {failure : Failure}
    (hmay : mayChange actor r status = .error failure) :
    carryOutChange respond s actor r details status = ⟨.error failure, [], s⟩ := by
  unfold carryOutChange carryOut changeStatus
  rw [hmay]
  rfl

/-- A change that is allowed asks for its commit first. -/
theorem head?_asked_carryOutChange (respond : σ → (e : Errand) → e.Reply × σ) (s : σ)
    (details : Change) {status : StatusCode} (hmay : mayChange actor r status = .ok ()) :
    (carryOutChange respond s actor r details status).asked.head? =
      some (Change.commit { details with status } r) := by
  obtain ⟨next, hrun⟩ := exists_run_changeStatus (c := { details with status }) hmay
  unfold carryOutChange carryOut
  rw [hrun]
  rfl

/-- What is told at once looks like a change only where both are refused for
one reason. -/
theorem told_eq_change_iff {outcome : Outcome Moved} {status : StatusCode} :
    ⟨outcome, [], s⟩ = carryOutChange respond s actor r details status ↔
      ∃ failure, outcome = .error failure ∧ mayChange actor r status = .error failure := by
  cases hmay : mayChange actor r status with
  | ok u =>
      constructor
      · intro h
        have hfirst := head?_asked_carryOutChange respond s details hmay
        rw [← h] at hfirst
        cases hfirst
      · intro ⟨failure, _, hrefused⟩
        cases hrefused
  | error failure =>
      rw [carryOutChange_of_refused hmay]
      constructor
      · intro h
        cases h
        exact ⟨failure, rfl, rfl⟩
      · intro ⟨failure', houtcome, hrefused⟩
        cases hrefused
        rw [houtcome]

/-- Changes look alike when they are to one status, or both are refused for one
reason. -/
theorem change_eq_change_iff {status status' : StatusCode} :
    carryOutChange respond s actor r details status' =
        carryOutChange respond s actor r details status ↔
      status' = status ∨ ∃ failure, mayChange actor r status' = .error failure ∧
        mayChange actor r status = .error failure := by
  cases hmay' : mayChange actor r status' with
  | error failure' =>
      rw [carryOutChange_of_refused hmay', told_eq_change_iff]
      constructor
      · intro ⟨failure, hsame, hmay⟩
        cases hsame
        exact .inr ⟨_, rfl, hmay⟩
      · rintro (rfl | ⟨failure, hsame, hmay⟩)
        · exact ⟨_, rfl, hmay'⟩
        · cases hsame
          exact ⟨_, rfl, hmay⟩
  | ok u' =>
      have hfirst' := head?_asked_carryOutChange respond s details hmay'
      constructor
      · intro h
        rw [h] at hfirst'
        cases hmay : mayChange actor r status with
        | error failure =>
            rw [carryOutChange_of_refused hmay] at hfirst'
            cases hfirst'
        | ok u =>
            rw [head?_asked_carryOutChange respond s details hmay] at hfirst'
            obtain ⟨-, hsubmission⟩ := Errand.submit.inj (Option.some.inj hfirst')
            exact .inl (congrArg Submission.status hsubmission).symm
      · rintro (rfl | ⟨failure, hrefused, -⟩)
        · rfl
        · cases hrefused

/-- **Which changes a move looks like.** The one to which it is settled, and
those that are refused for the reason for which the move is refused, too: its
target cannot be resolved, or it is settled to a change that is refused. -/
theorem move_eq_change_iff {status : StatusCode} :
    carryOut respond s (move actor r column? status? details) =
        carryOutChange respond s actor r details status ↔
      r.destination column? status? = .ok (.settled status) ∨
      ∃ failure, mayChange actor r status = .error failure ∧
        (r.destination column? status? = .error failure ∨
          ∃ status', r.destination column? status? = .ok (.settled status') ∧
            mayChange actor r status' = .error failure) := by
  cases htold : told? (r.destination column? status?) with
  | none =>
      obtain ⟨status', hplace⟩ := told?_eq_none_iff.mp htold
      rw [move_of_settled hplace, change_eq_change_iff, hplace]
      simp [and_comm]
  | some outcome =>
      rw [move_of_told htold, told_eq_change_iff]
      rcases hplace : r.destination column? status? with failure | (_ | status' | offers) <;>
        rw [hplace] at htold <;> cases htold <;> simp [and_comm]

/-- The plan of a move and the move in one go come to the same, with one actor
and one who answers the desk. -/
structure Agrees (respond : σ → (e : Errand) → e.Reply × σ) (s : σ) (actor : Actor) (r : Request)
    (column? : Option Column) (status? : Option StatusCode) (details : Change) (flow : MoveFlow) :
    Prop where
  /-- The plan is over at once exactly when the card stays. -/
  stays : flow = .idle ↔
    (carryOut respond s (move actor r column? status? details)).result = .ok .stayed
  /-- The plan fails exactly when the target cannot be resolved, for the same reason. -/
  fails : ∀ failure, flow = .failed r.id failure ↔
    r.destination column? status? = .error failure
  /-- A move whose plan fails fails alike and asks nothing. -/
  refuses : ∀ failure, flow = .failed r.id failure →
    carryOut respond s (move actor r column? status? details) = ⟨.error failure, [], s⟩
  /-- The plan waits for a pick exactly when the move needs one, among the same
  statuses in the same order. -/
  chooses : ∀ codes, (∃ offers, flow = .choosing r.id offers ∧ offers.map Offer.target = codes) ↔
    (carryOut respond s (move actor r column? status? details)).result = .ok (.needsChoice codes)
  /-- The plan applies a status exactly when the target is settled to it. -/
  settles : ∀ status, flow = .applying r.id status ↔
    r.destination column? status? = .ok (.settled status)
  /-- A move whose plan applies a status is the change to that status. -/
  changes : ∀ status, flow = .applying r.id status →
    carryOut respond s (move actor r column? status? details) =
      carryOutChange respond s actor r details status
  /-- A move is like the change to a status exactly when its plan applies that
  status, or when the change is refused and the move is, too, for the same
  reason: because its plan has failed, or because the status that it applies
  is refused. -/
  applies : ∀ status,
    carryOut respond s (move actor r column? status? details) =
        carryOutChange respond s actor r details status ↔
      flow = .applying r.id status ∨
      ∃ failure, mayChange actor r status = .error failure ∧
        (flow = .failed r.id failure ∨
          ∃ status', flow = .applying r.id status' ∧
            mayChange actor r status' = .error failure)
  /-- Nothing is asked of the server unless a status is applied. -/
  quiet : (∀ status, flow ≠ .applying r.id status) →
    (carryOut respond s (move actor r column? status? details)).asked = [] ∧
      (carryOut respond s (move actor r column? status? details)).state = s
  /-- A pick settles the plan to the status that a second move by name changes to. -/
  picks : ∀ offers status, flow = .choosing r.id offers → status ∈ offers.map Offer.target →
    status.isBlank = false → status ≠ r.status →
      flow.settle (some status) = .applying r.id status ∧
        ∀ column?, carryOut respond s (move actor r column? (some status) details) =
          carryOutChange respond s actor r details status

/-- What a change of status comes to is told as a change. -/
theorem result_carryOutChange_ne {status : StatusCode} {moved : Moved}
    (hmoved : ∀ changed, moved ≠ .changed changed) :
    (carryOutChange respond s actor r details status).result ≠ .ok moved := by
  unfold carryOutChange Dialogue.Ran.map
  cases (carryOut respond s (changeStatus actor r { details with status })).result with
  | error failure => simp [Except.map]
  | ok changed => simpa [Except.map, eq_comm] using hmoved changed

/-- What is told of a move without a change was told at once. -/
theorem result_move_eq_iff {moved : Moved} (hmoved : ∀ changed, moved ≠ .changed changed) :
    (carryOut respond s (move actor r column? status? details)).result = .ok moved ↔
      told? (r.destination column? status?) = some (.ok moved) := by
  cases htold : told? (r.destination column? status?) with
  | some outcome => simp [move_of_told htold]
  | none =>
      obtain ⟨status, hplace⟩ := told?_eq_none_iff.mp htold
      rw [move_of_settled hplace]
      simpa using result_carryOutChange_ne hmoved

/-- A status that was offered is picked, and the move by name is settled to it. -/
theorem picked {offers : List Offer} {status : StatusCode}
    (hoffer : status ∈ offers.map Offer.target) (hfilled : status.isBlank = false)
    (hleaves : status ≠ r.status) :
    (MoveFlow.choosing r.id offers).settle (some status) = .applying r.id status ∧
      ∀ column?, carryOut respond s (move actor r column? (some status) details) =
        carryOutChange respond s actor r details status := by
  constructor
  · exact MoveFlow.choose_eq_applying_iff.mpr ⟨rfl, hoffer⟩
  · intro column?
    refine move_of_settled ?_
    have hfilled' : ¬ status.isBlank = true := Bool.eq_false_iff.mp hfilled
    exact (if_neg hfilled').trans (if_neg hleaves)

/-- The two agree, whatever became of the target. -/
theorem Agrees.of_landing :
    Agrees respond s actor r column? status? details
      (MoveFlow.landing r (r.destination column? status?)) where
  stays := by
    rw [MoveFlow.landing_eq_idle_iff, result_move_eq_iff (by simp)]
    rcases r.destination column? status? with failure | (_ | status | offers) <;> simp [told?]
  fails failure := MoveFlow.landing_eq_failed_iff
  refuses failure hflow := by
    rw [MoveFlow.landing_eq_failed_iff] at hflow
    exact move_of_told (congrArg told? hflow)
  chooses codes := by
    simp only [MoveFlow.landing_eq_choosing_iff]
    rw [result_move_eq_iff (by simp)]
    rcases r.destination column? status? with failure | (_ | status | offers) <;> simp [told?]
  settles status := MoveFlow.landing_eq_applying_iff
  changes status hflow := move_of_settled (MoveFlow.landing_eq_applying_iff.mp hflow)
  applies status := by
    simp only [MoveFlow.landing_eq_applying_iff, MoveFlow.landing_eq_failed_iff]
    exact move_eq_change_iff
  quiet hflow := by
    cases htold : told? (r.destination column? status?) with
    | some outcome =>
        rw [move_of_told htold]
        exact ⟨rfl, rfl⟩
    | none =>
        obtain ⟨status, hplace⟩ := told?_eq_none_iff.mp htold
        exact absurd (congrArg (MoveFlow.landing r) hplace) (hflow status)
  picks offers status hflow hoffer hfilled hleaves := by
    rw [hflow]
    exact picked hoffer hfilled hleaves

end Desk

/-- **The two ways of moving a card agree.** Without a target nothing is planned.
With a column, a status or both, the plan stays, fails, or waits for a pick
exactly when the move in one go stays, cannot be resolved, or needs a choice,
with the same failure and the same statuses in the same order. It applies a
status exactly when the move is settled to it, and then the move is the change
to that status, with the same errands and the same result. The move is like no
other change, but for those that are refused as it is refused itself. After a
pick among the offers that is a new status, the change that was planned is the
move asked for by name. -/
theorem plan_agrees_with_move (r : Request) (column? : Option Column)
    (status? : Option StatusCode) :
    (MoveFlow.plan? r status? column? = none ↔ column? = none ∧ status? = none) ∧
    ∀ flow, MoveFlow.plan? r status? column? = some flow →
      ∀ (actor : Actor) (details : Change) {σ : Type}
        (respond : σ → (e : Errand) → e.Reply × σ) (s : σ),
        Desk.Agrees respond s actor r column? status? details flow := by
  constructor
  · cases status? <;> cases column? <;> simp [MoveFlow.plan?]
  · intro flow hplan actor details σ respond s
    rw [(MoveFlow.plan?_eq_some_iff.mp hplan).2]
    exact Desk.Agrees.of_landing

/-- A server that is down, and counts what it was asked. -/
def downServer (n : Nat) (e : Errand) : e.Reply × Nat :=
  (.error (.network (.reported "down")), n + 1)

/-- Somebody moves the request with two ends while the server is down. -/
def moveTwoEnds (role : Role) (column? : Option Column) (status? : Option StatusCode) :
    Dialogue.Ran Errand Nat (Outcome Moved) :=
  Desk.carryOut downServer 0
    (Desk.move ⟨⟨"A"⟩, role⟩ MoveFlow.twoEnds column? status? ⟨⟨""⟩, none, none, []⟩)

/-- He changes its status instead. -/
def changeTwoEnds (role : Role) (status : StatusCode) :
    Dialogue.Ran Errand Nat (Outcome Moved) :=
  Desk.carryOutChange downServer 0 ⟨⟨"A"⟩, role⟩ MoveFlow.twoEnds ⟨⟨""⟩, none, none, []⟩ status

/-- An administrator drops it among the done ones and picks one of the two; the change that
was planned is sent, and fails. It is like no change to the other one. -/
theorem plan_agrees_with_move_picked :
    ∃ flow, MoveFlow.plan? MoveFlow.twoEnds none (some .done) = some flow ∧
      (moveTwoEnds .admin (some .done) none).result =
        .ok (.needsChoice [⟨"REJECTED"⟩, ⟨"WITHDRAWN"⟩]) ∧
      flow.settle (some ⟨"WITHDRAWN"⟩) = .applying ⟨"R7"⟩ ⟨"WITHDRAWN"⟩ ∧
      moveTwoEnds .admin none (some ⟨"WITHDRAWN"⟩) =
        ⟨.error (.network (.reported "down")), [.submit ⟨"R7"⟩ ⟨⟨"WITHDRAWN"⟩, none, none⟩], 1⟩ ∧
      MoveFlow.plan? MoveFlow.twoEnds (some ⟨"WITHDRAWN"⟩) none =
        some (.applying ⟨"R7"⟩ ⟨"WITHDRAWN"⟩) ∧
      moveTwoEnds .admin none (some ⟨"WITHDRAWN"⟩) ≠ changeTwoEnds .admin ⟨"REJECTED"⟩ := by
  have hplan : MoveFlow.plan? MoveFlow.twoEnds none (some .done) =
      some (.choosing ⟨"R7"⟩ (MoveFlow.twoEnds.offers.take 2)) := rfl
  have hagree := (plan_agrees_with_move MoveFlow.twoEnds (some .done) none).2 _ hplan
    ⟨⟨"A"⟩, .admin⟩ ⟨⟨""⟩, none, none, []⟩ downServer 0
  obtain ⟨hpicked, hmove⟩ := hagree.picks _ ⟨"WITHDRAWN"⟩ rfl (by decide) (by decide) (by decide)
  have hnamed : MoveFlow.plan? MoveFlow.twoEnds (some ⟨"WITHDRAWN"⟩) none =
      some (.applying ⟨"R7"⟩ ⟨"WITHDRAWN"⟩) := rfl
  have happlies := ((plan_agrees_with_move MoveFlow.twoEnds none (some ⟨"WITHDRAWN"⟩)).2 _ hnamed
    ⟨⟨"A"⟩, .admin⟩ ⟨⟨""⟩, none, none, []⟩ downServer 0).applies ⟨"REJECTED"⟩
  refine ⟨_, hplan, (hagree.chooses _).mp ⟨_, rfl, rfl⟩, hpicked, (hmove none).trans rfl, hnamed, ?_⟩
  intro hlike
  -- the administrator may make the change, so it is not refused
  rcases happlies.mp hlike with happlied | ⟨failure, hrefused, -⟩
  · exact absurd (MoveFlow.applying.inj happlied).2 (by decide)
  · have hmay : Desk.mayChange ⟨⟨"A"⟩, .admin⟩ MoveFlow.twoEnds ⟨"REJECTED"⟩ = .ok () := rfl
    rw [hmay] at hrefused
    cases hrefused

/-- **Refused moves look alike.** A client who moves the request to one end is
refused as if he changed it to the other, which his plan does not apply. And
whoever moves it to a blank status is refused as if he changed it to that, but
his plan has failed before. -/
theorem refused_moves_look_alike :
    (MoveFlow.plan? MoveFlow.twoEnds (some ⟨"REJECTED"⟩) none =
        some (.applying ⟨"R7"⟩ ⟨"REJECTED"⟩) ∧
      ¬ (MoveFlow.applying ⟨"R7"⟩ ⟨"REJECTED"⟩ = .applying ⟨"R7"⟩ ⟨"WITHDRAWN"⟩ ↔
        moveTwoEnds .client none (some ⟨"REJECTED"⟩) = changeTwoEnds .client ⟨"WITHDRAWN"⟩)) ∧
    (MoveFlow.plan? MoveFlow.twoEnds (some ⟨" "⟩) none =
        some (.failed ⟨"R7"⟩ (.invalid .noDestination)) ∧
      ¬ (MoveFlow.failed ⟨"R7"⟩ (.invalid .noDestination) = .applying ⟨"R7"⟩ ⟨" "⟩ ↔
        moveTwoEnds .admin none (some ⟨" "⟩) = changeTwoEnds .admin ⟨" "⟩)) := by
  have hclient : moveTwoEnds .client none (some ⟨"REJECTED"⟩) =
      changeTwoEnds .client ⟨"WITHDRAWN"⟩ := rfl
  have hblank : moveTwoEnds .admin none (some ⟨" "⟩) = changeTwoEnds .admin ⟨" "⟩ := rfl
  refine ⟨⟨rfl, ?_⟩, rfl, ?_⟩
  · intro h
    exact absurd (MoveFlow.applying.inj (h.mpr hclient)).2 (by decide)
  · intro h
    cases h.mpr hblank

end Docket
