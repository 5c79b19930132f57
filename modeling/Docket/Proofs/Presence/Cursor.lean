import Docket.Presence.Cursor
import Docket.Proofs.Stamp.Order
import Mathlib.Data.List.ReduceOption

/-!
# Cursors over stamps

A cursor that is given nothing but stamps stands at the latest of them, in
whatever order they come.

* `Cursor.Marks` — the cursor stands at the latest of some stamps.
* `Cursor.Marks.advance`, `Cursor.Marks.advanceAll` — and goes on to do so
  with every further stamp.
* `Cursor.Marks.join` — it may also be given the mark of another cursor.
* `Cursor.advance_cases` — a cursor over any values stays, or moves to something
  else, and between stamps only forward.
-/

namespace Docket

namespace Cursor

/-- The cursor stands at the latest of these stamps, and nowhere if there are
none. -/
def Marks (c : Cursor) (stamps : List String) : Prop :=
  match c.value? with
  | none => stamps = []
  | some mark => (∀ s ∈ stamps, Stamp.NotAfter s mark) ∧ ∃ s ∈ stamps, Stamp.NotAfter mark s

theorem marks_start : start.Marks [] :=
  rfl

theorem marks_of_none {c : Cursor} (h : c.value? = none) {stamps : List String} :
    c.Marks stamps ↔ stamps = [] := by
  rw [Marks, h]

theorem marks_of_some {c : Cursor} {mark : String} (h : c.value? = some mark)
    {stamps : List String} :
    c.Marks stamps ↔
      (∀ s ∈ stamps, Stamp.NotAfter s mark) ∧ ∃ s ∈ stamps, Stamp.NotAfter mark s := by
  rw [Marks, h]

/-- A cursor at a stamp moves to the later ones. -/
theorem movesTo_iff {c : Cursor} {mark s : String} (hmark : c.value? = some mark)
    (hm : Stamp.IsText mark) (hs : Stamp.IsText s) :
    c.movesTo s = true ↔ Stamp.Before mark s := by
  obtain ⟨x, hx⟩ := Option.isSome_iff_exists.mp hm
  obtain ⟨y, hy⟩ := Option.isSome_iff_exists.mp hs
  simp only [movesTo, hmark, hx, hy, decide_eq_true_eq]
  constructor
  · exact fun h => ⟨x, y, hx, hy, h⟩
  · rintro ⟨x', y', hx', hy', hlt⟩
    obtain rfl : x = x' := Option.some.inj (hx.symm.trans hx')
    obtain rfl : y = y' := Option.some.inj (hy.symm.trans hy')
    exact hlt

/-- What becomes of a cursor that is given a stamp. -/
theorem advance_stamp (c : Cursor) {s : String} (hs : Stamp.IsText s) :
    (c.advance (some s)).2 = if c.movesTo (Text.trim s) then ⟨some (Text.trim s)⟩ else c := by
  obtain ⟨x, hx⟩ := Option.isSome_iff_exists.mp hs
  have hfilled := Text.filled?_of_trim_ne (Stamp.trim_ne_of_parse? hx)
  simp only [advance, Option.bind_some, hfilled]
  split <;> rfl

namespace Marks

variable {c : Cursor} {stamps : List String} {s : String}

theorem isText_of_value? (h : c.Marks stamps) {mark : String} (hmark : c.value? = some mark) :
    Stamp.IsText mark := by
  obtain ⟨-, t, -, x, y, hx, -⟩ := (marks_of_some hmark).mp h
  exact Option.isSome_iff_exists.mpr ⟨x, hx⟩

/-- A cursor that is given a stamp stands at the latest of all. -/
theorem advance (h : c.Marks stamps) (hs : Stamp.IsText s) :
    (c.advance (some s)).2.Marks (stamps ++ [s]) := by
  obtain ⟨hto, hfrom⟩ := Stamp.notAfter_trim hs
  have htrim : Stamp.IsText (Text.trim s) := by
    rw [Stamp.IsText, Stamp.parse?_trim]
    exact hs
  rw [advance_stamp c hs]
  cases hvalue : c.value? with
  | none =>
      have hmoves : c.movesTo (Text.trim s) = true := by rw [movesTo, hvalue]
      rw [if_pos hmoves]
      obtain rfl := (marks_of_none hvalue).mp h
      refine ⟨fun t ht => ?_, s, List.mem_singleton_self s, hfrom⟩
      rw [List.mem_singleton.mp ht]
      exact hto
  | some mark =>
      have hm := h.isText_of_value? hvalue
      obtain ⟨hall, t, ht, hmark⟩ := (marks_of_some hvalue).mp h
      by_cases hmoves : c.movesTo (Text.trim s) = true
      · have hlater := ((movesTo_iff hvalue hm htrim).mp hmoves).notAfter
        rw [if_pos hmoves]
        refine ⟨fun u hu => ?_, s, List.mem_append_right _ (List.mem_singleton_self s), hfrom⟩
        rcases List.mem_append.mp hu with hu | hu
        · exact (hall u hu).trans hlater
        · rw [List.mem_singleton.mp hu]
          exact hto
      · have hbefore := mt (movesTo_iff hvalue hm htrim).mpr hmoves
        have hstays := hto.trans ((hm.not_before_iff htrim).mp hbefore)
        rw [if_neg hmoves, marks_of_some hvalue]
        refine ⟨fun u hu => ?_, t, List.mem_append_left _ ht, hmark⟩
        rcases List.mem_append.mp hu with hu | hu
        · exact hall u hu
        · rw [List.mem_singleton.mp hu]
          exact hstays

/-- A cursor that is given many stamps stands at the latest of all. -/
theorem advanceAll (h : c.Marks stamps) {candidates : List (Option String)}
    (hall : ∀ s, some s ∈ candidates → Stamp.IsText s) :
    (c.advanceAll candidates).Marks (stamps ++ candidates.reduceOption) := by
  induction candidates generalizing c stamps with
  | nil => simpa [Cursor.advanceAll] using h
  | cons candidate? rest ih =>
      have hrest : ∀ s, some s ∈ rest → Stamp.IsText s :=
        fun s hs => hall s (List.mem_cons_of_mem _ hs)
      cases candidate? with
      | none => exact ih h hrest
      | some s =>
          have hs := hall s List.mem_cons_self
          have hnext := ih (h.advance hs) hrest
          rw [List.append_assoc] at hnext
          exact hnext

/-- A cursor that is given the mark of another one stands at the latest of
what either was given. -/
theorem join (h : c.Marks stamps) {d : Cursor} {stamps' : List String} (hd : d.Marks stamps') :
    (c.advance d.value?).2.Marks (stamps ++ stamps') := by
  cases hvalue : d.value? with
  | none =>
      rw [(marks_of_none hvalue).mp hd, List.append_nil]
      exact h
  | some mark =>
      have hnext := h.advance (hd.isText_of_value? hvalue)
      obtain ⟨hall, t, ht, hmark⟩ := (marks_of_some hvalue).mp hd
      generalize (c.advance (some mark)).2 = e at hnext
      cases he : e.value? with
      | none => simp [marks_of_none he] at hnext
      | some last =>
          obtain ⟨hlast, u, hu, hfrom⟩ := (marks_of_some he).mp hnext
          refine (marks_of_some he).mpr ⟨fun v hv => ?_, ?_⟩
          · rcases List.mem_append.mp hv with hv | hv
            · exact hlast v (List.mem_append_left _ hv)
            · exact (hall v hv).trans
                (hlast mark (List.mem_append_right _ (List.mem_singleton_self mark)))
          · rcases List.mem_append.mp hu with hu | hu
            · exact ⟨u, List.mem_append_left _ hu, hfrom⟩
            · rw [List.mem_singleton.mp hu] at hfrom
              exact ⟨t, List.mem_append_right _ ht, hfrom.trans hmark⟩

end Marks

/-- A cursor moves from what it showed to something else that is not blank; from
one stamp to another it moves forward. -/
structure Moves (old new : Option String) : Prop where
  filled : ∃ mark, new = some mark ∧ Text.isBlank mark = false
  differs : new ≠ old
  forward : ∀ x y, old = some x → new = some y → Stamp.IsText x → Stamp.IsText y →
    Stamp.Before x y

/-- A candidate that moves a cursor is something else, and of two stamps the
later one. -/
theorem moves_of_movesTo {c : Cursor} {mark : String} (hfilled : Text.isBlank mark = false)
    (hmoves : c.movesTo mark = true) : Moves c.value? (some mark) := by
  cases hvalue : c.value? with
  | none =>
      refine ⟨⟨mark, rfl, hfilled⟩, Option.some_ne_none mark, ?_⟩
      intro x y hx
      cases hx
  | some current =>
      have hforward : Stamp.IsText current → Stamp.IsText mark → Stamp.Before current mark :=
        fun hcurrent hmark => (movesTo_iff hvalue hcurrent hmark).mp hmoves
      refine ⟨⟨mark, rfl, hfilled⟩, ?_, ?_⟩
      · intro hsame
        obtain rfl : mark = current := Option.some.inj hsame
        rw [movesTo, hvalue] at hmoves
        -- a text that is no stamp is compared as it is, and a stamp with itself
        cases hparse : Stamp.parse? mark with
        | none => simp [hparse] at hmoves
        | some stamp => simp [hparse] at hmoves
      · intro x y hx hy hxText hyText
        obtain rfl : current = x := Option.some.inj hx
        obtain rfl : mark = y := Option.some.inj hy
        exact hforward hxText hyText

/-- A cursor that is given a candidate stays, or moves to something else. -/
theorem advance_cases (c : Cursor) (candidate? : Option String) :
    c.advance candidate? = (false, c) ∨
      ∃ mark, c.advance candidate? = (true, ⟨some mark⟩) ∧ Moves c.value? (some mark) := by
  unfold Cursor.advance
  cases hfilled : candidate?.bind Text.filled? with
  | none => exact Or.inl rfl
  | some mark =>
      dsimp only
      split
      · rename_i hmoves
        obtain ⟨text, -, htext⟩ := Option.bind_eq_some_iff.mp hfilled
        exact Or.inr ⟨mark, rfl, moves_of_movesTo (Text.isBlank_of_filled? htext) hmoves⟩
      · exact Or.inl rfl

end Cursor
end Docket
