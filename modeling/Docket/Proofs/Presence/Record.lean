import Docket.Proofs.Presence.Cursor
import Mathlib

/-!
# Records of a cursor

A cursor that is given stamps, and beside them only what is blank, moves
whenever a stamp is later than all before. So it stands at the latest of them.
One moment can be written in many ways, with other offsets, fractions and
white space around it; of several texts for the latest moment the cursor shows
the one that came first, trimmed.

What it shows is one thing and the moment that it names another: the first
depends on the order of the stamps, the second does not.

* `Cursor.tidy_of_made` — what a cursor shows is trimmed.
* `Cursor.StandsAt.advance`, `Cursor.StandsAt.advanceAll` — what one candidate
  does, and what many do.
* `Cursor.Marks.moment?_eq` — the moment does not depend on the order.
* `Cursor.notAfter_seededFrom`, `Cursor.moment?_seededFrom` — a cursor that
  begins with messages and attachments.
* `Cursor.stands_at_first_latest` — all of this.
-/

namespace Docket.Cursor

/-- A stamp with the text in which it was read, trimmed. -/
structure Reading where
  text : String
  stamp : Stamp

namespace Reading

/-- The moment that was read. -/
def moment (r : Reading) : Int :=
  r.stamp.instant

/-- What is read of a candidate, if it is a stamp. -/
def of? (candidate? : Option String) : Option Reading :=
  candidate?.bind fun s => (Stamp.parse? s).map fun stamp => ⟨Text.trim s, stamp⟩

end Reading

/-- The stamps among some candidates, in their order. -/
def readings (candidates : List (Option String)) : List Reading :=
  candidates.filterMap Reading.of?

/-- A candidate is missing, blank or a stamp. -/
def IsPlain : Option String → Prop
  | none => True
  | some s => Text.isBlank s = true ∨ Stamp.IsText s

instance (candidate? : Option String) : Decidable (IsPlain candidate?) :=
  match candidate? with
  | none => inferInstanceAs (Decidable True)
  | some _ => inferInstanceAs (Decidable (_ ∨ _))

/-- A plain candidate counts for nothing, or it counts for what is read of it. -/
theorem IsPlain.cases {candidate? : Option String} (h : IsPlain candidate?) :
    candidate?.bind Text.filled? = none ∧ Reading.of? candidate? = none ∨
      ∃ r, candidate?.bind Text.filled? = some r.text ∧ Reading.of? candidate? = some r ∧
        Stamp.parse? r.text = some r.stamp := by
  cases candidate? with
  | none => exact Or.inl ⟨rfl, rfl⟩
  | some s =>
      rw [Reading.of?, Option.bind_some, Option.bind_some]
      rcases h with hblank | hstamp
      · have hparse : Stamp.parse? s = none := by
          rw [Option.eq_none_iff_forall_ne_some]
          intro x hx
          exact Stamp.trim_ne_of_parse? hx ((Text.isBlank_iff_trim s).mp hblank)
        rw [hparse]
        exact Or.inl ⟨if_pos hblank, rfl⟩
      · obtain ⟨x, hx⟩ := Option.isSome_iff_exists.mp hstamp
        have hfilled := Text.filled?_of_trim_ne (Stamp.trim_ne_of_parse? hx)
        rw [hx]
        exact Or.inr ⟨⟨Text.trim s, x⟩, hfilled, rfl, (Stamp.parse?_trim s).trans hx⟩

/-- A candidate is a stamp later than all that were read before. -/
def IsRecord (read : List Reading) (candidate? : Option String) : Prop :=
  ∃ r ∈ Reading.of? candidate?, ∀ q ∈ read, q.moment < r.moment

instance (read : List Reading) (candidate? : Option String) :
    Decidable (IsRecord read candidate?) :=
  inferInstanceAs (Decidable (∃ _ ∈ _, _))

/-- A cursor has come about by candidates of any kind. -/
def Made (c : Cursor) : Prop :=
  ∃ given, c = start.advanceAll given

/-- The moment at which a cursor stands, if it shows a stamp. -/
def moment? (c : Cursor) : Option Int :=
  (Reading.of? c.value?).map Reading.moment

/-- The text stands as a stamp on one of these messages or attachments. -/
def Stamped (messages : List Message) (attachments : List Attachment) (s : String) : Prop :=
  (∃ m ∈ messages, m.created = s ∨ m.updated? = some s) ∨
    ∃ a ∈ attachments, a.created = s ∨ a.updated? = some s

theorem readings_cons (candidate? : Option String) (rest : List (Option String)) :
    readings (candidate? :: rest) = (Reading.of? candidate?).toList ++ readings rest := by
  rw [readings, List.filterMap_cons]
  cases Reading.of? candidate? with
  | none => rfl
  | some r => rfl

variable {c : Cursor} {read : List Reading} {candidate? : Option String}

/-- A candidate that a cursor takes has been trimmed. -/
theorem tidy_advance (h : ∀ mark, c.value? = some mark → Text.Tidy mark)
    (candidate? : Option String) :
    ∀ mark, (c.advance candidate?).2.value? = some mark → Text.Tidy mark := by
  intro mark hmark
  unfold advance at hmark
  cases hfilled : candidate?.bind Text.filled? with
  | none =>
      rw [hfilled] at hmark
      exact h mark hmark
  | some new =>
      rw [hfilled] at hmark
      dsimp only at hmark
      split at hmark
      · cases hmark
        obtain ⟨s, -, hs⟩ := Option.bind_eq_some_iff.mp hfilled
        exact Text.tidy_of_filled? hs
      · exact h mark hmark

/-- What a cursor shows is trimmed, however it came about. -/
theorem tidy_of_made (hmade : c.Made) : ∀ mark, c.value? = some mark → Text.Tidy mark := by
  obtain ⟨given, rfl⟩ := hmade
  have hrun : ∀ d : Cursor, (∀ mark, d.value? = some mark → Text.Tidy mark) →
      ∀ mark, (d.advanceAll given).value? = some mark → Text.Tidy mark := by
    induction given with
    | nil => exact fun _ h => h
    | cons candidate? rest ih => exact fun d h => ih _ (tidy_advance h candidate?)
  apply hrun
  intro mark hmark
  cases hmark

/-- The latest moment is before another exactly when all of them are. -/
theorem latest_lt_iff {m : Reading} (hlatest : read.argmax Reading.moment = some m) {moment : Int} :
    m.moment < moment ↔ ∀ q ∈ read, q.moment < moment := by
  constructor
  · intro hlater q hq
    exact lt_of_le_of_lt (List.le_of_mem_argmax hq hlatest) hlater
  · intro hall
    exact hall m (List.argmax_mem hlatest)

/-- What is later than all before is the latest. -/
theorem argmax_concat_of_later {r : Reading} (h : ∀ q ∈ read, q.moment < r.moment) :
    (read ++ [r]).argmax Reading.moment = some r := by
  rw [List.argmax_concat]
  cases hlatest : read.argmax Reading.moment with
  | none => rfl
  | some m => exact if_pos ((latest_lt_iff hlatest).mpr h)

/-- What is not later than all before leaves the latest as it is, also when both
are at one moment. -/
theorem argmax_concat_of_not_later {r : Reading} (h : ¬ ∀ q ∈ read, q.moment < r.moment) :
    (read ++ [r]).argmax Reading.moment = read.argmax Reading.moment := by
  rw [List.argmax_concat]
  cases hlatest : read.argmax Reading.moment with
  | none =>
      have hnone : read = [] := List.argmax_eq_none.mp hlatest
      rw [hnone] at h
      exact absurd (fun q hq => absurd hq List.not_mem_nil) h
  | some m => exact if_neg (mt (latest_lt_iff hlatest).mp h)

/-- A cursor shows, of what has been read, the first at the latest moment. -/
structure StandsAt (c : Cursor) (read : List Reading) : Prop where
  /-- Every text that was read is read as its stamp again. -/
  faithful : ∀ r ∈ read, Stamp.parse? r.text = some r.stamp
  shows : c.value? = (read.argmax Reading.moment).map Reading.text

namespace StandsAt

/-- A cursor that shows a trimmed stamp stands at it, and one that shows nothing
has read nothing. -/
theorem of_held (htidy : ∀ mark, c.value? = some mark → Text.Tidy mark)
    (hheld : ∀ mark, c.value? = some mark → Stamp.IsText mark) :
    c.StandsAt (readings [c.value?]) := by
  cases hvalue : c.value? with
  | none => exact ⟨fun r hr => absurd hr List.not_mem_nil, hvalue⟩
  | some mark =>
      obtain ⟨x, hx⟩ := Option.isSome_iff_exists.mp (hheld mark hvalue)
      have hread : readings [some mark] = [⟨mark, x⟩] := by
        rw [readings_cons, Reading.of?, Option.bind_some, hx, Option.map_some,
          (htidy mark hvalue).2]
        rfl
      rw [hread]
      refine ⟨?_, hvalue⟩
      intro r hr
      rw [List.mem_singleton.mp hr]
      exact hx

/-- A stamp moves a cursor exactly when it is later than all before. -/
theorem movesTo_iff (h : c.StandsAt read) {s : String} {x : Stamp} (hx : Stamp.parse? s = some x) :
    c.movesTo s = true ↔ ∀ q ∈ read, q.moment < x.instant := by
  have hshows := h.shows
  cases hlatest : read.argmax Reading.moment with
  | none =>
      rw [hlatest] at hshows
      have hvalue : c.value? = none := hshows
      have hnone : read = [] := List.argmax_eq_none.mp hlatest
      rw [movesTo, hvalue, hnone]
      exact ⟨fun _ q hq => absurd hq List.not_mem_nil, fun _ => rfl⟩
  | some m =>
      rw [hlatest] at hshows
      have hvalue : c.value? = some m.text := hshows
      rw [← latest_lt_iff hlatest, movesTo, hvalue]
      simp only [hx, h.faithful m (List.argmax_mem hlatest), decide_eq_true_eq]
      rfl

/-- **One candidate.** It moves the cursor exactly when it is a stamp later than
all before, and the cursor goes on to show the first of the latest. -/
theorem advance (h : c.StandsAt read) (hplain : IsPlain candidate?) :
    ((c.advance candidate?).1 = true ↔ IsRecord read candidate?) ∧
    (c.advance candidate?).2.StandsAt (read ++ (Reading.of? candidate?).toList) := by
  rcases hplain.cases with ⟨hfilled, hread⟩ | ⟨r, hfilled, hread, hfaithful⟩
  · have hskips : c.advance candidate? = (false, c) := by
      rw [Cursor.advance, hfilled]
    rw [hskips, IsRecord, hread, Option.toList_none, List.append_nil]
    refine ⟨?_, h⟩
    constructor
    · intro hmoved
      cases hmoved
    · intro hrecord
      obtain ⟨r, hr, -⟩ := hrecord
      cases hr
  · have hadvance : c.advance candidate? =
        if c.movesTo r.text then (true, ⟨some r.text⟩) else (false, c) := by
      rw [Cursor.advance, hfilled]
    have hfaithful' : ∀ q ∈ read ++ [r], Stamp.parse? q.text = some q.stamp := by
      intro q hq
      rcases List.mem_append.mp hq with hq | hq
      · exact h.faithful q hq
      · rw [List.mem_singleton.mp hq]
        exact hfaithful
    have hmoves := h.movesTo_iff hfaithful
    rw [hadvance, IsRecord, hread, Option.toList_some]
    by_cases hlater : ∀ q ∈ read, q.moment < r.moment
    · rw [if_pos (hmoves.mpr hlater)]
      refine ⟨⟨fun _ => ⟨r, rfl, hlater⟩, fun _ => rfl⟩, hfaithful', ?_⟩
      rw [argmax_concat_of_later hlater]
      rfl
    · rw [if_neg (mt hmoves.mp hlater)]
      refine ⟨⟨?_, ?_⟩, hfaithful', ?_⟩
      · intro hmoved
        cases hmoved
      · intro hrecord
        obtain ⟨q, hq, hall⟩ := hrecord
        cases hq
        exact absurd hall hlater
      · rw [argmax_concat_of_not_later hlater]
        exact h.shows

/-- **Many candidates.** -/
theorem advanceAll (h : c.StandsAt read) {candidates : List (Option String)}
    (hplain : ∀ candidate? ∈ candidates, IsPlain candidate?) :
    (c.advanceAll candidates).StandsAt (read ++ readings candidates) := by
  induction candidates generalizing c read with
  | nil =>
      rw [readings, List.filterMap_nil, List.append_nil]
      exact h
  | cons candidate? rest ih =>
      have hstep := (h.advance (hplain candidate? List.mem_cons_self)).2
      have hrest : ∀ later? ∈ rest, IsPlain later? :=
        fun later? hlater => hplain later? (List.mem_cons_of_mem _ hlater)
      rw [readings_cons, ← List.append_assoc]
      exact ih hstep hrest

end StandsAt

/-- A cursor that shows a stamp stands at its moment. -/
theorem moment?_of_parse {mark : String} {x : Stamp} (hmark : c.value? = some mark)
    (hx : Stamp.parse? mark = some x) : c.moment? = some x.instant := by
  rw [moment?, hmark, Reading.of?, Option.bind_some, hx]
  rfl

namespace Marks

variable {d : Cursor} {stamps stamps' : List String}

theorem value?_eq_none_iff (h : c.Marks stamps) : c.value? = none ↔ stamps = [] := by
  constructor
  · intro hvalue
    exact (marks_of_none hvalue).mp h
  · intro hnone
    cases hvalue : c.value? with
    | none => rfl
    | some mark =>
        obtain ⟨-, s, hs, -⟩ := (marks_of_some hvalue).mp h
        rw [hnone] at hs
        exact absurd hs List.not_mem_nil

/-- A cursor that was given no stamp that another was not given is not after it. -/
theorem notAfter (hc : c.Marks stamps) (hd : d.Marks stamps') (hsub : stamps ⊆ stamps')
    {mark mark' : String} (hmark : c.value? = some mark) (hmark' : d.value? = some mark') :
    Stamp.NotAfter mark mark' := by
  obtain ⟨-, s, hs, hfrom⟩ := (marks_of_some hmark).mp hc
  obtain ⟨hall, -⟩ := (marks_of_some hmark').mp hd
  exact hfrom.trans (hall s (hsub hs))

/-- Cursors at the latest of the same stamps stand at one moment, in whatever
order the stamps came. -/
theorem moment?_eq (hc : c.Marks stamps) (hd : d.Marks stamps') (hsame : stamps'.Perm stamps) :
    d.moment? = c.moment? := by
  cases hmark : c.value? with
  | none =>
      have hnone : stamps = [] := hc.value?_eq_none_iff.mp hmark
      have hmark' : d.value? = none := by
        rw [hd.value?_eq_none_iff]
        exact (hnone ▸ hsame).eq_nil
      rw [moment?, moment?, hmark, hmark']
  | some mark =>
      have hsome : d.value? ≠ none := by
        intro hmark'
        have hnone : stamps' = [] := hd.value?_eq_none_iff.mp hmark'
        have hvalue : c.value? = none := hc.value?_eq_none_iff.mpr (hnone ▸ hsame).nil_eq.symm
        rw [hmark] at hvalue
        cases hvalue
      obtain ⟨mark', hmark'⟩ := Option.ne_none_iff_exists'.mp hsome
      obtain ⟨x, y, hx, hy, hxy⟩ := hc.notAfter hd hsame.symm.subset hmark hmark'
      obtain ⟨y', x', hy', hx', hyx⟩ := hd.notAfter hc hsame.subset hmark' hmark
      obtain rfl : x = x' := Option.some.inj (hx.symm.trans hx')
      obtain rfl : y = y' := Option.some.inj (hy.symm.trans hy')
      rw [moment?_of_parse hmark hx, moment?_of_parse hmark' hy, Int.le_antisymm hxy hyx]

end Marks

theorem mem_stampsOf {messages : List Message} {attachments : List Attachment} {s : String} :
    some s ∈ stampsOf messages attachments ↔ Stamped messages attachments s := by
  simp [stampsOf, Stamped, eq_comm]

/-- A cursor that begins with messages and attachments stands at the latest of
their stamps. -/
theorem seededFrom_marks {messages : List Message} {attachments : List Attachment}
    (hstamps : ∀ s, Stamped messages attachments s → Stamp.IsText s) :
    (seededFrom messages attachments).Marks (stampsOf messages attachments).reduceOption :=
  marks_start.advanceAll fun s hs => hstamps s (mem_stampsOf.mp hs)

/-- The same messages and attachments in another order have the same stamps in
another order. -/
theorem stampsOf_perm {messages messages' : List Message} {attachments attachments' : List Attachment}
    (hmessages : messages'.Perm messages) (hattachments : attachments'.Perm attachments) :
    (stampsOf messages' attachments').reduceOption.Perm
      (stampsOf messages attachments).reduceOption :=
  ((hmessages.flatMap_right _).append (hattachments.flatMap_right _)).filterMap _

/-- It is not before any of them. -/
theorem notAfter_seededFrom {messages : List Message} {attachments : List Attachment}
    (hstamps : ∀ s, Stamped messages attachments s → Stamp.IsText s) {s : String}
    (hs : Stamped messages attachments s) :
    ∃ mark, (seededFrom messages attachments).value? = some mark ∧ Stamp.NotAfter s mark := by
  have hmarks := seededFrom_marks hstamps
  have hthere : s ∈ (stampsOf messages attachments).reduceOption :=
    List.reduceOption_mem_iff.mpr (mem_stampsOf.mpr hs)
  have hsome : (seededFrom messages attachments).value? ≠ none := by
    rw [ne_eq, hmarks.value?_eq_none_iff]
    exact List.ne_nil_of_mem hthere
  obtain ⟨mark, hmark⟩ := Option.ne_none_iff_exists'.mp hsome
  exact ⟨mark, hmark, ((marks_of_some hmark).mp hmarks).1 s hthere⟩

/-- In another order they lead to the same moment. -/
theorem moment?_seededFrom {messages messages' : List Message}
    {attachments attachments' : List Attachment}
    (hstamps : ∀ s, Stamped messages attachments s → Stamp.IsText s)
    (hmessages : messages'.Perm messages) (hattachments : attachments'.Perm attachments) :
    (seededFrom messages' attachments').moment? = (seededFrom messages attachments).moment? := by
  have hperm := stampsOf_perm hmessages hattachments
  have hstamps' : ∀ s, Stamped messages' attachments' s → Stamp.IsText s := by
    intro s hs
    have hthere := List.reduceOption_mem_iff.mpr (mem_stampsOf.mpr hs)
    exact hstamps s (mem_stampsOf.mp (List.reduceOption_mem_iff.mp (hperm.mem_iff.mp hthere)))
  exact (seededFrom_marks hstamps).moment?_eq (seededFrom_marks hstamps') hperm

/-- **A cursor stands at the first of the latest.** Take a cursor, however it
came about, that shows nothing or a stamp, and give it candidates of which each
is missing, blank or a stamp. Of the stamps among what it showed and what it was
given, it then shows the first at the latest moment, trimmed, and nothing if
there were none. It moved at a candidate exactly when that was a stamp later
than all before.

A cursor that begins with messages and attachments whose stamps can all be read
is not before any of them, and the moment at which it stands does not depend on
their order. -/
theorem stands_at_first_latest (hmade : c.Made)
    (hheld : ∀ mark, c.value? = some mark → Stamp.IsText mark)
    {candidates : List (Option String)}
    (hplain : ∀ candidate? ∈ candidates, IsPlain candidate?) :
    (c.advanceAll candidates).value? =
      ((readings (c.value? :: candidates)).argmax Reading.moment).map Reading.text ∧
    (∀ front candidate? back, candidates = front ++ candidate? :: back →
      (((c.advanceAll front).advance candidate?).1 = true ↔
        IsRecord (readings (c.value? :: front)) candidate?)) ∧
    ∀ (messages : List Message) (attachments : List Attachment),
      (∀ s, Stamped messages attachments s → Stamp.IsText s) →
      (∀ s, Stamped messages attachments s →
        ∃ mark, (seededFrom messages attachments).value? = some mark ∧ Stamp.NotAfter s mark) ∧
      ∀ messages' attachments', messages'.Perm messages → attachments'.Perm attachments →
        (seededFrom messages' attachments').moment? =
          (seededFrom messages attachments).moment? := by
  have hbegins : c.StandsAt (readings [c.value?]) := .of_held (tidy_of_made hmade) hheld
  have hruns : ∀ given : List (Option String), (∀ candidate? ∈ given, IsPlain candidate?) →
      (c.advanceAll given).StandsAt (readings (c.value? :: given)) := by
    intro given hgiven
    have hrun := hbegins.advanceAll hgiven
    rwa [readings, readings, ← List.filterMap_append] at hrun
  refine ⟨(hruns candidates hplain).shows, ?_, ?_⟩
  · intro front candidate? back hsplit
    subst hsplit
    have hfront : ∀ earlier? ∈ front, IsPlain earlier? :=
      fun earlier? hearlier => hplain earlier? (List.mem_append_left _ hearlier)
    have hnext := hplain candidate? (List.mem_append_right _ List.mem_cons_self)
    exact ((hruns front hfront).advance hnext).1
  · intro messages attachments hstamps
    constructor
    · intro s hs
      exact notAfter_seededFrom hstamps hs
    · intro messages' attachments' hmessages hattachments
      exact moment?_seededFrom hstamps hmessages hattachments

/-- Ten o'clock. -/
def atTen : Cursor :=
  start.advanceAll [some " 2026-03-01T10:00:00Z"]

/-- Nothing, a blank, ten o'clock again, eleven o'clock in two ways, and nine
o'clock. -/
def aroundEleven : List (Option String) :=
  [none, some " ", some "2026-03-01T11:00:00+01:00", some "2026-03-01T12:00:00+01:00 ",
    some "2026-03-01T11:00:00.0Z", some "2026-03-01T09:00:00Z"]

/-- A question, and a reply that was changed at the same moment. -/
def exchange : List Message :=
  [⟨⟨"M1"⟩, ⟨"R7"⟩, "Client", "When?", "2026-03-01T12:00:00+01:00", none⟩,
    ⟨⟨"M2"⟩, ⟨"R7"⟩, "Me", "Now.", "2026-03-01T10:00:00Z", some "2026-03-01T11:00:00Z"⟩]

/-- Of the two ways to write eleven o'clock the first is shown; the cursor moves
there and not at the second. The two messages show different texts in different
orders, and the same moment. -/
theorem stands_at_first_latest_of_ties :
    atTen.Made ∧ (∀ mark, atTen.value? = some mark → Stamp.IsText mark) ∧
    (∀ candidate? ∈ aroundEleven, IsPlain candidate?) ∧
    (atTen.advanceAll aroundEleven).value? = some "2026-03-01T12:00:00+01:00" ∧
    ((atTen.advanceAll (aroundEleven.take 3)).advance (some "2026-03-01T12:00:00+01:00 ")).1 =
      true ∧
    ((atTen.advanceAll (aroundEleven.take 4)).advance (some "2026-03-01T11:00:00.0Z")).1 ≠ true ∧
    (∀ s, Stamped exchange [] s → Stamp.IsText s) ∧
    (seededFrom exchange []).value? = some "2026-03-01T12:00:00+01:00" ∧
    (seededFrom exchange.reverse []).value? = some "2026-03-01T11:00:00Z" ∧
    (seededFrom exchange.reverse []).moment? = (seededFrom exchange []).moment? := by
  have hmade : atTen.Made := ⟨_, rfl⟩
  have hvalue : atTen.value? = some "2026-03-01T10:00:00Z" := by decide
  have hheld : ∀ mark, atTen.value? = some mark → Stamp.IsText mark := by
    intro mark hmark
    rw [hvalue] at hmark
    cases hmark
    decide
  have hplain : ∀ candidate? ∈ aroundEleven, IsPlain candidate? := by decide
  have hall : ∀ s ∈ (stampsOf exchange []).reduceOption, Stamp.IsText s := by decide
  have hstamps : ∀ s, Stamped exchange [] s → Stamp.IsText s :=
    fun s hs => hall s (List.reduceOption_mem_iff.mpr (mem_stampsOf.mpr hs))
  obtain ⟨hshows, hmoves, hseeds⟩ := stands_at_first_latest hmade hheld hplain
  have hmoment := (hseeds exchange [] hstamps).2 exchange.reverse [] (List.reverse_perm _) .rfl
  have hfirst : IsRecord (readings (atTen.value? :: aroundEleven.take 3))
      (some "2026-03-01T12:00:00+01:00 ") := by decide +kernel
  have hsecond : ¬ IsRecord (readings (atTen.value? :: aroundEleven.take 4))
      (some "2026-03-01T11:00:00.0Z") := by decide +kernel
  refine ⟨hmade, hheld, hplain, ?_, ?_, ?_, hstamps, by decide +kernel, by decide +kernel, hmoment⟩
  · rw [hshows]
    decide +kernel
  · exact (hmoves _ _ (aroundEleven.drop 4) rfl).mpr hfirst
  · exact mt (hmoves _ _ (aroundEleven.drop 5) rfl).mp hsecond

end Docket.Cursor
