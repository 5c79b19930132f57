import Docket.Timeline

/-!
# What lasts while time passes

Time passes from one instant with something to do to the next, and nothing
happens in between. What settling keeps is therefore kept, and two ways of
settling that agree lead to the same end.

* `advance_eq` — the passage of time settles first and then goes onward.
* `advance_keeps_until`, `advance_keeps` — what every settling keeps, the
  passage of time keeps.
* `advance_arrives` — what lasts from one instant with something to do to the
  next.
* `advance_congr` — as long as two ways of settling agree, time brings the same.
* `advance_map` — what settles alike in another form, time brings in that form.
-/

namespace Docket.Timeline

variable {τ : Type} {settle settle' : Nat → τ → τ} {next? : τ → Option Nat} {P : τ → Prop}

/-- What becomes of something that has settled at an instant. -/
def onward (settle : Nat → τ → τ) (next? : τ → Option Nat) (target now : Nat) (s : τ) : τ :=
  match next? s with
  | none => s
  | some t => if now < t ∧ t < target then advance settle next? target t s else s

/-- The passage of time settles first and then goes onward. -/
theorem advance_eq (target now : Nat) (s : τ) :
    advance settle next? target now s = onward settle next? target now (settle now s) := by
  rw [advance]
  rfl

/-- What settling keeps at the instants that time comes to, the passage of time
keeps. -/
theorem advance_keeps_until {target now : Nat} {s : τ}
    (hsettle : ∀ t s, t = now ∨ now < t ∧ t < target → P s → P (settle t s)) (h : P s) :
    P (advance settle next? target now s) := by
  induction now, s using advance.induct settle next? target with
  | case1 now s settled hnext =>
      rw [advance, hnext]
      exact hsettle now s (Or.inl rfl) h
  | case2 now s settled t hnext hlt ih =>
      rw [advance, hnext]
      simp only [if_pos hlt]
      have hlater : ∀ t' s, t' = t ∨ t < t' ∧ t' < target → P s → P (settle t' s) := by
        intro t' s ht'
        apply hsettle
        omega
      exact ih hlater (hsettle now s (Or.inl rfl) h)
  | case3 now s settled t hnext hlt =>
      rw [advance, hnext]
      simp only [if_neg hlt]
      exact hsettle now s (Or.inl rfl) h

/-- What every settling keeps, the passage of time keeps. -/
theorem advance_keeps (hsettle : ∀ now s, P s → P (settle now s)) {target now : Nat} {s : τ}
    (h : P s) : P (advance settle next? target now s) :=
  advance_keeps_until (fun t s _ => hsettle t s) h

theorem onward_keeps (hsettle : ∀ now s, P s → P (settle now s)) {target now : Nat} {s : τ}
    (h : P s) : P (onward settle next? target now s) := by
  unfold onward
  split
  · exact h
  · split
    · exact advance_keeps hsettle h
    · exact h

/-- What settling brings about, and what lasts until there is something to do
again, is there when the time has passed. -/
theorem advance_arrives {P Q : Nat → τ → Prop} (hsettle : ∀ t s, P t s → Q t (settle t s))
    (hwait : ∀ t s u, Q t s → t ≤ u → (∀ n, next? s = some n → ¬ (t < n ∧ n < u)) → P u s)
    {target now : Nat} {s : τ} (hle : now ≤ target) (h : P now s) :
    P target (advance settle next? target now s) := by
  induction now, s using advance.induct settle next? target with
  | case1 now s settled hnext =>
      rw [advance, hnext]
      refine hwait now settled target (hsettle now s h) hle ?_
      intro n hn
      cases hnext.symm.trans hn
  | case2 now s settled t hnext hlt ih =>
      rw [advance, hnext]
      simp only [if_pos hlt]
      refine ih (Nat.le_of_lt hlt.2) (hwait now settled t (hsettle now s h) ?_ ?_)
      · exact Nat.le_of_lt hlt.1
      · intro n hn hbetween
        cases hnext.symm.trans hn
        omega
  | case3 now s settled t hnext hlt =>
      rw [advance, hnext]
      simp only [if_neg hlt]
      refine hwait now settled target (hsettle now s h) hle ?_
      intro n hn
      cases hnext.symm.trans hn
      exact hlt

/-- As long as two ways of settling agree, time brings the same. -/
theorem advance_congr (hsettle : ∀ now s, P s → P (settle now s))
    (hagree : ∀ now s, P s → settle' now s = settle now s) {target now : Nat} {s : τ}
    (h : P s) : advance settle' next? target now s = advance settle next? target now s := by
  induction now, s using advance.induct settle next? target with
  | case1 now s settled hnext =>
      rw [advance, advance, hagree now s h, hnext]
  | case2 now s settled t hnext hlt ih =>
      rw [advance, advance, hagree now s h, hnext]
      simp only [if_pos hlt]
      exact ih (hsettle now s h)
  | case3 now s settled t hnext hlt =>
      rw [advance, advance, hagree now s h, hnext]
      simp only [if_neg hlt]

/-- Something that settles as its image under a map does, and is due when it is,
goes through time as the image. -/
theorem advance_map {υ : Type} {f : τ → υ} {settleImage : Nat → υ → υ} {nextImage? : υ → Option Nat}
    (hsettle : ∀ now s, settleImage now (f s) = f (settle now s))
    (hnext : ∀ s, nextImage? (f s) = next? s) (target now : Nat) (s : τ) :
    advance settleImage nextImage? target now (f s) = f (advance settle next? target now s) := by
  induction now, s using advance.induct settle next? target with
  | case1 now s settled hnone =>
      rw [advance, advance, hsettle, hnext, hnone]
  | case2 now s settled t hsome hlt ih =>
      rw [advance, advance, hsettle, hnext, hsome]
      simp only [if_pos hlt]
      exact ih
  | case3 now s settled t hsome hlt =>
      rw [advance, advance, hsettle, hnext, hsome]
      simp only [if_neg hlt]

/-- Nothing happens to what is settled and has nothing to do. -/
theorem advance_of_settled {target now : Nat} {s : τ} (hsettled : settle now s = s)
    (hnext : next? s = none) : advance settle next? target now s = s := by
  rw [advance, hsettled, hnext]

end Docket.Timeline
