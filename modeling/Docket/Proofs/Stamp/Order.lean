import Docket.Proofs.Text.Blank
import Docket.Stamp.Basic
import Mathlib.Data.Set.Defs
import Mathlib.Data.String.Basic
import Mathlib.Order.Compare

/-!
# The order of stamp texts

Two stamp texts are compared as moments, any other two as text. Each of the
two ways puts texts in an order; together they do so only as long as no text
that is no stamp lies between two stamps which the two ways put in different
orders.

* `compareTexts_eq_gt_iff`, `compareTexts_eq_lt_iff` — stamp texts are compared
  as moments.
* `compareTexts_swap` — whichever way is taken, it is the same from both sides.
* `compareTexts_orders_iff_untangled` — texts are put in an order exactly when
  none of them is tangled in two others.
-/

namespace Docket

/-- The text is a stamp. -/
def Stamp.IsText (s : String) : Prop :=
  (Stamp.parse? s).isSome = true

instance (s : String) : Decidable (Stamp.IsText s) :=
  inferInstanceAs (Decidable (_ = true))

/-- One stamp text names an earlier moment than another. -/
def Stamp.Before (a b : String) : Prop :=
  ∃ x y, Stamp.parse? a = some x ∧ Stamp.parse? b = some y ∧ x.instant < y.instant

/-- One stamp text names no later moment than another. -/
def Stamp.NotAfter (a b : String) : Prop :=
  ∃ x y, Stamp.parse? a = some x ∧ Stamp.parse? b = some y ∧ x.instant ≤ y.instant

namespace Stamp

variable {a b c : String} {x : Stamp}

/-- White space around a stamp text does not count. -/
theorem parse?_trim (s : String) : parse? (Text.trim s) = parse? s := by
  rw [parse?, parse?, Text.trim_trim]

theorem trim_ne_of_parse? (h : parse? a = some x) : Text.trim a ≠ "" := by
  intro htrim
  have hnone : (parseChars? "".toList).isNone = true := by decide
  rw [parse?, htrim] at h
  rw [h] at hnone
  cases hnone

theorem Before.notAfter (h : Before a b) : NotAfter a b := by
  obtain ⟨x, y, hx, hy, hlt⟩ := h
  exact ⟨x, y, hx, hy, Int.le_of_lt hlt⟩

theorem NotAfter.trans (hab : NotAfter a b) (hbc : NotAfter b c) : NotAfter a c := by
  obtain ⟨x, y, hx, hy, hxy⟩ := hab
  obtain ⟨y', z, hy', hz, hyz⟩ := hbc
  obtain rfl : y = y' := Option.some.inj (hy.symm.trans hy')
  exact ⟨x, z, hx, hz, Int.le_trans hxy hyz⟩

theorem NotAfter.trans_before (hab : NotAfter a b) (hbc : Before b c) : Before a c := by
  obtain ⟨x, y, hx, hy, hxy⟩ := hab
  obtain ⟨y', z, hy', hz, hyz⟩ := hbc
  obtain rfl : y = y' := Option.some.inj (hy.symm.trans hy')
  exact ⟨x, z, hx, hz, Int.lt_of_le_of_lt hxy hyz⟩

/-- Of two stamp texts one is earlier than the other or not after it. -/
theorem IsText.not_before_iff (ha : IsText a) (hb : IsText b) : ¬ Before a b ↔ NotAfter b a := by
  obtain ⟨x, hx⟩ := Option.isSome_iff_exists.mp ha
  obtain ⟨y, hy⟩ := Option.isSome_iff_exists.mp hb
  constructor
  · intro h
    exact ⟨y, x, hy, hx, Int.not_lt.mp fun hlt => h ⟨x, y, hx, hy, hlt⟩⟩
  · rintro ⟨y', x', hy', hx', hle⟩ ⟨x'', y'', hx'', hy'', hlt⟩
    obtain rfl : x' = x'' := Option.some.inj (hx'.symm.trans hx'')
    obtain rfl : y' = y'' := Option.some.inj (hy'.symm.trans hy'')
    omega

theorem notAfter_trim (h : IsText a) : NotAfter a (Text.trim a) ∧ NotAfter (Text.trim a) a := by
  obtain ⟨x, hx⟩ := Option.isSome_iff_exists.mp h
  have htrim := (parse?_trim a).trans hx
  exact ⟨⟨x, x, hx, htrim, Int.le_refl _⟩, ⟨x, x, htrim, hx, Int.le_refl _⟩⟩

/-- Stamp texts are compared as moments. -/
theorem compareTexts_eq_gt_iff (ha : IsText a) (hb : IsText b) :
    compareTexts a b = .gt ↔ Before b a := by
  obtain ⟨x, hx⟩ := Option.isSome_iff_exists.mp ha
  obtain ⟨y, hy⟩ := Option.isSome_iff_exists.mp hb
  rw [compareTexts, hx, hy]
  simp only [Int.compare_eq_gt]
  constructor
  · exact fun h => ⟨y, x, hy, hx, h⟩
  · rintro ⟨y', x', hy', hx', hlt⟩
    obtain rfl : y = y' := Option.some.inj (hy.symm.trans hy')
    obtain rfl : x = x' := Option.some.inj (hx.symm.trans hx')
    exact hlt

/-- Only stamp texts are so compared. -/
theorem NotAfter.isText (h : NotAfter a b) : IsText a ∧ IsText b := by
  obtain ⟨x, y, hx, hy, -⟩ := h
  exact ⟨Option.isSome_of_eq_some hx, Option.isSome_of_eq_some hy⟩

/-- Of two stamp texts one is not after the other. -/
theorem IsText.notAfter_or (ha : IsText a) (hb : IsText b) : NotAfter a b ∨ NotAfter b a := by
  by_cases h : Before a b
  · exact Or.inl h.notAfter
  · exact Or.inr ((ha.not_before_iff hb).mp h)

/-- What is trimmed alike is read alike. -/
theorem trim_ne_of_isText (ha : IsText a) (hb : ¬ IsText b) : Text.trim a ≠ Text.trim b := by
  intro htrim
  have hread : parse? a = parse? b := by
    rw [← parse?_trim a, htrim, parse?_trim]
  apply hb
  rw [IsText, ← hread]
  exact ha

/-- Texts that are not both stamps are compared as text. -/
theorem compareTexts_of_not (h : ¬ (IsText a ∧ IsText b)) :
    compareTexts a b = compare (Text.trim a) (Text.trim b) := by
  unfold compareTexts
  split
  · rename_i hx hy
    exact absurd ⟨Option.isSome_of_eq_some hx, Option.isSome_of_eq_some hy⟩ h
  · rfl

/-- Whichever way two texts are compared, it is the same from both sides. -/
theorem compareTexts_swap (a b : String) : compareTexts a b = (compareTexts b a).swap := by
  by_cases h : IsText a ∧ IsText b
  · obtain ⟨x, hx⟩ := Option.isSome_iff_exists.mp h.1
    obtain ⟨y, hy⟩ := Option.isSome_iff_exists.mp h.2
    simp only [compareTexts, hx, hy]
    exact Std.OrientedCmp.eq_swap
  · rw [compareTexts_of_not h, compareTexts_of_not (mt And.symm h)]
    exact Std.OrientedCmp.eq_swap

/-- One stamp text is compared as earlier than another when it names an earlier
moment. -/
theorem compareTexts_eq_lt_iff (ha : IsText a) (hb : IsText b) :
    compareTexts a b = .lt ↔ Before a b := by
  rw [compareTexts_swap, Ordering.swap_eq_lt, compareTexts_eq_gt_iff hb ha]

theorem compareTexts_ne_gt_iff_of_isText (ha : IsText a) (hb : IsText b) :
    compareTexts a b ≠ .gt ↔ NotAfter a b := by
  rw [ne_eq, compareTexts_eq_gt_iff ha hb, hb.not_before_iff ha]

theorem compareTexts_ne_gt_iff_of_not (h : ¬ (IsText a ∧ IsText b)) :
    compareTexts a b ≠ .gt ↔ Text.trim a ≤ Text.trim b := by
  rw [compareTexts_of_not h, compare_le_iff_le]

/-- A text `z` that is no stamp lies between two stamps, and their texts stand
the other way round than their moments do: `x` is not after `y`, but its text
is. -/
structure Tangled (x y z : String) : Prop where
  moments : NotAfter x y
  noStamp : ¬ IsText z
  after : Text.trim y < Text.trim z
  before : Text.trim z < Text.trim x

/-- Of three texts each of which is not after the next the first is not after
the last, unless one of them is tangled in the two others. -/
theorem compareTexts_ne_gt_trans (hab : compareTexts a b ≠ .gt) (hbc : compareTexts b c ≠ .gt) :
    compareTexts a c ≠ .gt ∨ Tangled a b c ∨ Tangled b c a ∨ Tangled c a b := by
  by_cases hb : IsText b
  · by_cases ha : IsText a
    · have hmoments := (compareTexts_ne_gt_iff_of_isText ha hb).mp hab
      by_cases hc : IsText c
      · have hlater := (compareTexts_ne_gt_iff_of_isText hb hc).mp hbc
        exact Or.inl ((compareTexts_ne_gt_iff_of_isText ha hc).mpr (hmoments.trans hlater))
      · rw [compareTexts_ne_gt_iff_of_not fun h => hc h.2] at hbc ⊢
        have hafter := lt_of_le_of_ne hbc (trim_ne_of_isText hb hc)
        -- `c` alone is no stamp, so only `c` can lie between the two others
        rcases le_or_gt (Text.trim a) (Text.trim c) with hle | hbefore
        · exact Or.inl hle
        · exact Or.inr (Or.inl ⟨hmoments, hc, hafter, hbefore⟩)
    · rw [compareTexts_ne_gt_iff_of_not fun h => ha h.1] at hab ⊢
      rcases le_or_gt (Text.trim a) (Text.trim c) with hle | hafter
      · exact Or.inl hle
      · have hbefore := lt_of_le_of_ne hab (trim_ne_of_isText hb ha).symm
        -- without `a` the two others are stamps, or all were compared as text
        have hc : IsText c := by
          by_contra hc
          rw [compareTexts_ne_gt_iff_of_not fun h => hc h.2] at hbc
          exact absurd (hab.trans hbc) (not_le_of_gt hafter)
        have hmoments := (compareTexts_ne_gt_iff_of_isText hb hc).mp hbc
        exact Or.inr (Or.inr (Or.inl ⟨hmoments, ha, hafter, hbefore⟩))
  · rw [compareTexts_ne_gt_iff_of_not fun h => hb h.2] at hab
    rw [compareTexts_ne_gt_iff_of_not fun h => hb h.1] at hbc
    by_cases h : IsText a ∧ IsText c
    · obtain ⟨ha, hc⟩ := h
      have hafter := lt_of_le_of_ne hab (trim_ne_of_isText ha hb)
      have hbefore := lt_of_le_of_ne hbc (trim_ne_of_isText hc hb).symm
      rw [compareTexts_ne_gt_iff_of_isText ha hc]
      rcases ha.notAfter_or hc with hle | hmoments
      · exact Or.inl hle
      · exact Or.inr (Or.inr (Or.inr ⟨hmoments, hb, hafter, hbefore⟩))
    · exact Or.inl ((compareTexts_ne_gt_iff_of_not h).mpr (hab.trans hbc))

/-- A tangled text goes round in a circle with the two others. -/
theorem Tangled.goes_round (h : Tangled a b c) :
    compareTexts a b ≠ .gt ∧ compareTexts b c ≠ .gt ∧ compareTexts a c = .gt := by
  obtain ⟨ha, hb⟩ := h.moments.isText
  have hbc : compareTexts b c ≠ .gt :=
    (compareTexts_ne_gt_iff_of_not fun h' => h.noStamp h'.2).mpr (le_of_lt h.after)
  have hac : ¬ compareTexts a c ≠ .gt := by
    rw [compareTexts_ne_gt_iff_of_not fun h' => h.noStamp h'.2]
    exact not_le_of_gt h.before
  exact ⟨(compareTexts_ne_gt_iff_of_isText ha hb).mpr h.moments, hbc, not_not.mp hac⟩

/-- **Texts are put in an order exactly when none is tangled.** What one text is
to another is the reverse of what the other is to it. Among given texts, a text
that is not after one which is not after a third is not after the third either,
exactly when none of them is tangled in two others; so it is among stamps, and
among texts of which none is a stamp. -/
theorem compareTexts_orders_iff_untangled (texts : Set String) :
    (∀ a b, compareTexts a b = (compareTexts b a).swap) ∧
      ((∀ a ∈ texts, ∀ b ∈ texts, ∀ c ∈ texts,
          compareTexts a b ≠ .gt → compareTexts b c ≠ .gt → compareTexts a c ≠ .gt) ↔
        ∀ x ∈ texts, ∀ y ∈ texts, ∀ z ∈ texts, ¬ Tangled x y z) := by
  refine ⟨compareTexts_swap, ?_, ?_⟩
  · intro htrans x hx y hy z hz h
    obtain ⟨hxy, hyz, hxz⟩ := h.goes_round
    exact htrans x hx y hy z hz hxy hyz hxz
  · intro hnone a ha b hb c hc hab hbc
    rcases compareTexts_ne_gt_trans hab hbc with hac | h | h | h
    · exact hac
    · exact absurd h (hnone a ha b hb c hc)
    · exact absurd h (hnone b hb c hc a ha)
    · exact absurd h (hnone c hc a ha b hb)

/-- Ten o'clock two hours east of Greenwich is before half past nine there, and
its text is the later one: a quarter to ten without seconds, which is no stamp,
comes after the second and before the first. -/
theorem compareTexts_goes_round :
    compareTexts "2026-03-01T10:00:00+02:00" "2026-03-01T09:30:00Z" = .lt ∧
    compareTexts "2026-03-01T09:30:00Z" "2026-03-01T09:45" = .lt ∧
    compareTexts "2026-03-01T10:00:00+02:00" "2026-03-01T09:45" = .gt := by
  decide

end Stamp
end Docket
