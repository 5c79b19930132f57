import Docket.Proofs.Http.Link
import Mathlib.Data.List.Forall2

/-!
# Calls that are made together

The calls of a plan are made at one instant, and their answers arrive in any
order. What comes of them is settled by the answers alone: if none is bad they
are put together in the order of the calls, and else the plan fails with a bad
answer before which no other one arrives. A bad answer that takes no time keeps
the calls behind it from being made. Nothing is lost by that: whatever these
would have brought, it would not have arrived earlier.

* `Replies.gather_of_ok`, `Replies.gather_of_failure` — what comes of replies.
* `Link.answers` — what a server has to say to calls, made or not.
* `Link.issue_hears` — how many of its answers are heard.
* `Link.launch_cases` — what comes of a plan.
-/

namespace Docket

/-- What is read item by item succeeds when every item does. -/
theorem mapM_eq_ok_iff {ε α β : Type} {f : α → Except ε β} {as : List α} {bs : List β} :
    as.mapM f = .ok bs ↔ List.Forall₂ (fun a b => f a = .ok b) as bs := by
  induction as generalizing bs with
  | nil => cases bs <;> simp [pure, Except.pure]
  | cons a as ih =>
      rw [List.mapM_cons]
      cases ha : f a with
      | error failure => cases bs <;> simp [bind, Except.bind, ha]
      | ok b =>
          cases has : as.mapM f with
          | error failure => cases bs <;> simp [bind, Except.bind, ha, ← ih, has]
          | ok rest => cases bs <;> simp [bind, Except.bind, pure, Except.pure, ha, ← ih, has]

namespace Http

namespace Replies

variable {α : Type} {rs : List (Docket.Reply α)} {delay : Nat}

/-- Among these replies one fails in this way after this delay, and none fails
earlier. -/
structure FailsFirst (rs : List (Docket.Reply α)) (failure : Failure) (delay : Nat) : Prop where
  mem : ∃ r ∈ rs, r.delay = delay ∧ r.outcome = .error failure
  least : ∀ r ∈ rs, ∀ other, r.outcome = .error other → delay ≤ r.delay

theorem failure?_eq_some_iff {r : Docket.Reply α} {failure : Failure} :
    r.failure? = some failure ↔ r.outcome = .error failure := by
  unfold Reply.failure?
  cases r.outcome with
  | error other => simp
  | ok a => simp

theorem isSome_failure?_iff {r : Docket.Reply α} :
    r.failure?.isSome = true ↔ ∃ failure, r.outcome = .error failure := by
  rw [Option.isSome_iff_exists]
  exact exists_congr fun failure => failure?_eq_some_iff

/-- The turn changes the order of the replies and nothing else. -/
theorem mem_rotateLeft {r : Docket.Reply α} (n : Nat) : r ∈ rs.rotateLeft n ↔ r ∈ rs := by
  unfold List.rotateLeft
  dsimp only
  split
  · exact Iff.rfl
  · rw [List.mem_append, or_comm, ← List.mem_append, List.take_append_drop]

/-- Replies that all succeed make one that does, with their values in order. -/
theorem gather_of_ok (h : ∀ r ∈ rs, ∃ a, r.outcome = .ok a) :
    ∃ values, List.Forall₂ (fun (r : Docket.Reply α) a => r.outcome = .ok a) rs values ∧
      (gather rs).outcome = .ok values := by
  have hnone : rs.filter (fun r => r.failure?.isSome) = [] := by
    rw [List.filter_eq_nil_iff]
    intro r hr hfails
    obtain ⟨a, hok⟩ := h r hr
    obtain ⟨failure, hfailure⟩ := isSome_failure?_iff.mp hfails
    cases hok.symm.trans hfailure
  obtain ⟨values, hvalues⟩ : ∃ values, List.Forall₂
      (fun (r : Docket.Reply α) a => r.outcome = .ok a) rs values := by
    clear hnone
    induction rs with
    | nil => exact ⟨[], .nil⟩
    | cons r rest ih =>
        obtain ⟨a, ha⟩ := h r List.mem_cons_self
        obtain ⟨values, hvalues⟩ := ih fun r' hr' => h r' (List.mem_cons_of_mem r hr')
        exact ⟨a :: values, .cons ha hvalues⟩
  refine ⟨values, hvalues, ?_⟩
  rw [gather, hnone]
  exact mapM_eq_ok_iff.mpr hvalues

/-- Replies of which some fail make one that fails first. -/
theorem gather_of_failure (h : ∃ r ∈ rs, ∃ failure, r.outcome = .error failure) :
    ∃ failure, (gather rs).outcome = .error failure ∧
      FailsFirst rs failure (gather rs).delay := by
  have hsome : ∃ delay,
      ((rs.filter fun r => r.failure?.isSome).map Reply.delay).min? = some delay := by
    obtain ⟨r, hr, hfails⟩ := h
    rw [← Option.isSome_iff_exists, List.isSome_min?_iff]
    intro hnil
    have hmem : r ∈ rs.filter fun r => r.failure?.isSome :=
      List.mem_filter.mpr ⟨hr, isSome_failure?_iff.mpr hfails⟩
    rw [List.map_eq_nil_iff.mp hnil] at hmem
    exact List.not_mem_nil hmem
  obtain ⟨delay, hdelay⟩ := hsome
  obtain ⟨hmem, hleast⟩ := List.min?_eq_some_iff.mp hdelay
  have hearliest : ∀ r ∈ rs, ∀ other, r.outcome = .error other → delay ≤ r.delay := by
    intro r hr other hother
    refine hleast r.delay (List.mem_map.mpr ⟨r, List.mem_filter.mpr ⟨hr, ?_⟩, rfl⟩)
    exact isSome_failure?_iff.mpr ⟨other, hother⟩
  -- the turn holds the earliest failure, so one of its delay is found there
  have hfound : ∃ failure, failureAt? delay (rs.rotateLeft (arrivals delay rs)) = some failure := by
    obtain ⟨r, hr, rfl⟩ := List.mem_map.mp hmem
    obtain ⟨hr, hfails⟩ := List.mem_filter.mp hr
    rw [← Option.isSome_iff_exists, failureAt?, List.findSome?_isSome_iff]
    exact ⟨r, (mem_rotateLeft _).mpr hr, by rw [if_pos rfl]; exact hfails⟩
  obtain ⟨failure, hfailure⟩ := hfound
  have hgather : gather rs = ⟨delay, .error failure⟩ := by
    rw [gather, hdelay]
    simp only [hfailure]
  rw [hgather]
  refine ⟨failure, rfl, ?_, hearliest⟩
  obtain ⟨r, hr, hfirst⟩ := List.exists_of_findSome?_eq_some hfailure
  split at hfirst
  next hsame =>
    exact ⟨r, (mem_rotateLeft _).mp hr, hsame, failure?_eq_some_iff.mp hfirst⟩
  next => cases hfirst

theorem failsAtOnce_iff {r : Docket.Reply α} :
    r.failsAtOnce = true ↔ r.delay = 0 ∧ ∃ failure, r.outcome = .error failure := by
  simp only [Reply.failsAtOnce, Bool.decide_and, Bool.and_eq_true, decide_eq_true_eq,
    isSome_failure?_iff]

/-- A failure that takes no time is first, whatever else arrives. -/
theorem FailsFirst.append {failure : Failure} (h : FailsFirst rs failure delay)
    (hatOnce : ∃ r ∈ rs, r.failsAtOnce = true) (others : List (Docket.Reply α)) :
    FailsFirst (rs ++ others) failure delay := by
  have hzero : delay = 0 := by
    obtain ⟨r, hr, hfails⟩ := hatOnce
    obtain ⟨hnone, other, hother⟩ := failsAtOnce_iff.mp hfails
    have hle := h.least r hr other hother
    omega
  obtain ⟨r, hr, hfirst⟩ := h.mem
  exact ⟨⟨r, List.mem_append_left others hr, hfirst⟩, fun _ _ _ _ => hzero ▸ Nat.zero_le _⟩

end Replies

/-- An answer that has been looked at: it is bad when it does not pass the check
of its call. -/
def Fetch.judge (f : Fetch) (r : Docket.Reply Json) : Docket.Reply Json :=
  { r with outcome := r.outcome.bind fun answer => (f.check answer).map fun _ => answer }

namespace Link

variable {σ α : Type} (serve : Server σ)

/-- What a server answers to calls that are made one after another at one
instant. -/
def answers : Link σ → List Call → List (Docket.Reply Json)
  | _, [] => []
  | link, c :: rest => (link.call serve c).1 :: answers (link.call serve c).2 rest

/-- The answers to the calls of a plan, looked at. -/
def judged (link : Link σ) (fetches : List Fetch) : List (Docket.Reply Json) :=
  List.zipWith Fetch.judge fetches (link.answers serve (fetches.map Fetch.call))

/-- The answers are heard in order, all of them or up to one that is bad at
once. -/
theorem issue_hears (link : Link σ) (fetches : List Fetch) :
    ∃ unheard, link.judged serve fetches = (link.issue serve fetches).1 ++ unheard ∧
      (unheard = [] ∨ ∃ r ∈ (link.issue serve fetches).1, r.failsAtOnce = true) := by
  induction fetches generalizing link with
  | nil => exact ⟨[], rfl, Or.inl rfl⟩
  | cons f rest ih =>
      have hjudged : link.judged serve (f :: rest) =
          f.judge (link.call serve f.call).1 :: (link.call serve f.call).2.judged serve rest := rfl
      by_cases hatOnce : (f.judge (link.call serve f.call).1).failsAtOnce = true
      · have hissue : (link.issue serve (f :: rest)).1 = [f.judge (link.call serve f.call).1] := by
          simp only [issue]
          exact congrArg Prod.fst (if_pos hatOnce)
        rw [hissue, hjudged]
        exact ⟨_, rfl, Or.inr ⟨_, List.mem_singleton_self _, hatOnce⟩⟩
      · have hissue : (link.issue serve (f :: rest)).1 =
            f.judge (link.call serve f.call).1 ::
              ((link.call serve f.call).2.issue serve rest).1 := by
          simp only [issue]
          exact congrArg Prod.fst (if_neg hatOnce)
        obtain ⟨unheard, hheard, hnone⟩ := ih (link.call serve f.call).2
        rw [hissue, hjudged, hheard]
        refine ⟨unheard, rfl, hnone.imp_right ?_⟩
        rintro ⟨r, hr, hfails⟩
        exact ⟨r, List.mem_cons_of_mem _ hr, hfails⟩

/-- **A plan takes all answers, or fails with the first bad one.** -/
theorem launch_cases (link : Link σ) (p : Plan α) :
    (∃ values, List.Forall₂ (fun (r : Docket.Reply Json) a => r.outcome = .ok a)
        (link.judged serve p.fetches) values ∧
      (link.launch serve p).1.outcome = p.finish values) ∨
    ∃ failure, (link.launch serve p).1.outcome = .error failure ∧
      Replies.FailsFirst (link.judged serve p.fetches) failure (link.launch serve p).1.delay := by
  obtain ⟨unheard, hheard, hnone⟩ := issue_hears serve link p.fetches
  have hlaunch : (link.launch serve p).1 =
      ⟨(Replies.gather (link.issue serve p.fetches).1).delay,
        (Replies.gather (link.issue serve p.fetches).1).outcome.bind p.finish⟩ := rfl
  rw [hlaunch, hheard]
  by_cases hfails : ∃ r ∈ (link.issue serve p.fetches).1, ∃ failure, r.outcome = .error failure
  · obtain ⟨failure, hfailure, hfirst⟩ := Replies.gather_of_failure hfails
    refine Or.inr ⟨failure, by rw [hfailure]; rfl, ?_⟩
    rcases hnone with hall | hatOnce
    · rw [hall, List.append_nil]
      exact hfirst
    · exact hfirst.append hatOnce unheard
  · have hok : ∀ r ∈ (link.issue serve p.fetches).1, ∃ a, r.outcome = .ok a := by
      intro r hr
      cases houtcome : r.outcome with
      | ok a => exact ⟨a, rfl⟩
      | error failure => exact absurd ⟨r, hr, failure, houtcome⟩ hfails
    have hall : unheard = [] := by
      rcases hnone with hall | ⟨r, hr, hatOnce⟩
      · exact hall
      · obtain ⟨-, hfailure⟩ := Replies.failsAtOnce_iff.mp hatOnce
        exact absurd ⟨r, hr, hfailure⟩ hfails
    obtain ⟨values, hvalues, hgather⟩ := Replies.gather_of_ok hok
    rw [hall, List.append_nil, hgather]
    exact Or.inl ⟨values, hvalues, rfl⟩

end Link

end Http

end Docket
