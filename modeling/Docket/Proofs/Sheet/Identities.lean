import Docket.Proofs.Sheet.Locks
import Docket.Proofs.Text.Blank

/-!
# Identities stay unique

Two rows with one identity ask for the same field, so a sheet holds every
identity once. Rows come from the catalog, from templates, from hand and from
the other party, and what comes at once may hold an identity twice; all of it
is added by the same merge, which adds the first of each new identity. Nothing
but a removal takes an identity away.

* `Row.nodup_identities_fresh`, `Row.mem_identities_fresh` — what a merge takes
  of the rows that come.
* `Unique.act` — one act on a sheet keeps its identities apart, adds those of
  the rows that come and takes that of the row which is removed.
* `identities_stay_unique` — what any acts do, and when a row by hand is new.
-/

namespace Docket

/-- The new ones of some rows have the identities that are not there yet. -/
theorem Row.mem_identities_fresh {seen : List String} {rows : List Row} {key : String} :
    key ∈ (Row.fresh seen rows).map Row.identity ↔ key ∈ rows.map Row.identity ∧ key ∉ seen := by
  rw [Row.fresh_eq_firstOfEach]
  exact mem_keys_firstOfEach

/-- Each of them has its own. -/
theorem Row.nodup_identities_fresh (seen : List String) (rows : List Row) :
    ((Row.fresh seen rows).map Row.identity).Nodup := by
  rw [Row.fresh_eq_firstOfEach]
  exact nodup_keys_firstOfEach Row.identity seen rows

/-- A merge of rows has the identities of both. -/
theorem Row.mem_identities_merge {base incoming : List Row} {key : String} :
    key ∈ (Row.merge base incoming).map Row.identity ↔
      key ∈ base.map Row.identity ∨ key ∈ incoming.map Row.identity := by
  rw [Row.merge, List.map_append, List.mem_append, Row.mem_identities_fresh]
  by_cases hkey : key ∈ base.map Row.identity
  · simp only [hkey, true_or]
  · simp only [hkey, false_or, not_false_eq_true, and_true]

namespace Sheet

variable {s t : Sheet} {key : String}

/-- The identities of the rows. -/
def identities (s : Sheet) : List String :=
  s.rows.map Row.identity

theorem identities_merge (s : Sheet) (incoming : List Row) :
    (s.merge incoming).identities =
      s.identities ++ (Row.fresh s.identities incoming).map Row.identity :=
  List.map_append

/-- A merge adds the identities that come. -/
theorem mem_identities_merge {incoming : List Row} :
    key ∈ (s.merge incoming).identities ↔
      key ∈ s.identities ∨ key ∈ incoming.map Row.identity :=
  Row.mem_identities_merge

/-- A merge keeps the identities apart. -/
theorem nodup_identities_merge (hs : s.identities.Nodup) (incoming : List Row) :
    (s.merge incoming).identities.Nodup := by
  rw [identities_merge, List.nodup_append]
  refine ⟨hs, Row.nodup_identities_fresh _ _, ?_⟩
  intro old hold new hnew heq
  exact (Row.mem_identities_fresh.mp hnew).2 (heq ▸ hold)

/-- A row by hand is known by its label, trimmed and in lower case. -/
theorem identity_of_manualRow {label : String} {kind : FieldKind} {document? : Option String}
    {row : Row} (h : manualRow label kind document? = .ok row) :
    row.identity = Text.lowercase (Text.trim label) := by
  unfold manualRow at h
  cases hlabel : Text.filled? label with
  | none =>
      rw [hlabel] at h
      cases h
  | some trimmed =>
      rw [hlabel] at h
      dsimp only at h
      have htrimmed : trimmed = Text.trim label := by
        unfold Text.filled? at hlabel
        split at hlabel
        · cases hlabel
        · exact (Option.some.inj hlabel).symm
      split at h
      · cases h
      · cases h
        show Text.lowercase (Text.trim trimmed) = _
        rw [htrimmed, Text.trim_trim]

/-- A row by hand is new exactly when its identity is. -/
theorem addManual_isNew_iff {label : String} {kind : FieldKind} {document? : Option String}
    {isNew : Bool} (h : s.addManual label kind document? = .ok (isNew, t)) :
    isNew = true ↔ Text.lowercase (Text.trim label) ∉ s.identities := by
  obtain ⟨row, hrow, rfl, rfl⟩ := addManual_eq_ok_iff.mp h
  have hidentity := identity_of_manualRow hrow
  have hrows : (s.merge [row]).rows = s.rows ++ Row.fresh s.identities [row] := rfl
  rw [decide_eq_true_iff, hrows, List.length_append, ← hidentity]
  by_cases hseen : row.identity ∈ s.identities
  · have hfresh : Row.fresh s.identities [row] = [] := if_pos hseen
    simp [hfresh, hseen]
  · have hfresh : Row.fresh s.identities [row] = [row] := if_neg hseen
    simp [hfresh, hseen]

/-- What happens to a sheet: somebody edits it, or another side looks at it. -/
inductive Act where
  | edit (e : Edit)
  | view (viewer : Side)

/-- The rows that an act asks to add. -/
def Act.incoming : Act → List Row
  | .edit e => e.incoming
  | .view _ => []

/-- The sheet after an act that may have failed. -/
def act (s : Sheet) : Act → Sheet
  | .edit e => s.edited e
  | .view viewer => { s with viewer }

/-- The rows that an act has taken out: the one that a removal brings back. -/
def lost (s : Sheet) : Act → List Row
  | .edit e => s.taken e
  | .view _ => []

/-- The sheet after some acts. -/
def through (s : Sheet) (acts : List Act) : Sheet :=
  acts.foldl act s

/-- One sheet keeps the identities of another apart, with those of some rows
and without those of others. -/
structure Unique (s : Sheet) (incoming lost : List Row) (t : Sheet) : Prop where
  nodup : t.identities.Nodup
  mem_iff : ∀ key, key ∈ t.identities ↔
    (key ∈ s.identities ∨ key ∈ incoming.map Row.identity) ∧ key ∉ lost.map Row.identity

namespace Unique

theorem of_merge (hs : s.identities.Nodup) (incoming : List Row) :
    Unique s incoming [] (s.merge incoming) where
  nodup := nodup_identities_merge hs incoming
  mem_iff key := by
    rw [mem_identities_merge]
    simp

/-- Rows that are only rearranged and taken out leave the others apart. -/
theorem of_perm {lost : List Row} (hs : s.identities.Nodup)
    (hrows : s.rows.Perm (t.rows ++ lost)) : Unique s [] lost t := by
  have hperm : s.identities.Perm (t.identities ++ lost.map Row.identity) := by
    have hmap := hrows.map Row.identity
    rwa [List.map_append] at hmap
  have happend : (t.identities ++ lost.map Row.identity).Nodup := hperm.nodup_iff.mp hs
  obtain ⟨hkept, -, hapart⟩ := List.nodup_append.mp happend
  refine ⟨hkept, fun key => ?_⟩
  rw [hperm.mem_iff, List.mem_append, List.map_nil]
  constructor
  · intro hkey
    exact ⟨Or.inl (Or.inl hkey), fun hlost => hapart key hkey key hlost rfl⟩
  · intro ⟨hkey, hlost⟩
    have hthere := hkey.resolve_right List.not_mem_nil
    exact hthere.resolve_right hlost

/-- An edit that asks for no rows rearranges those that are there, apart from
the one that it takes out. -/
theorem of_none {e : Edit} (hs : s.identities.Nodup) (hincoming : e.incoming = []) :
    Unique s e.incoming (s.taken e) (s.edited e) := by
  obtain ⟨added, hadded, hperm⟩ := (s.step e).balance
  rw [hincoming, List.sublist_nil] at hadded
  rw [hadded, List.append_nil] at hperm
  rw [hincoming]
  exact of_perm hs hperm

/-- An edit keeps the identities apart, adds those of the rows that come and
takes that of the row which is removed. -/
theorem edited (hs : s.identities.Nodup) (e : Edit) :
    Unique s e.incoming (s.taken e) (s.edited e) := by
  cases e with
  | merge incoming => exact of_merge hs incoming
  | addCatalog fields => exact of_merge hs _
  | applyTemplate t => exact of_merge hs t.rows
  | addManual label kind document? =>
      cases hrow : manualRow label kind document? with
      | error failure =>
          refine of_none hs ?_
          rw [Edit.incoming, hrow]
          rfl
      | ok row =>
          have hincoming : (Edit.addManual label kind document?).incoming = [row] := by
            rw [Edit.incoming, hrow]
            rfl
          have hedited : s.edited (.addManual label kind document?) = s.merge [row] := by
            rw [Sheet.edited, perform, addManual, hrow]
            rfl
          rw [hincoming, hedited]
          exact of_merge hs [row]
  | moveRow source target => exact of_none hs rfl
  | removeRow index => exact of_none hs rfl

/-- **One act keeps the identities apart**, adds those of the rows that come
and takes that of the row which is removed. -/
theorem act (hs : s.identities.Nodup) (a : Act) :
    Unique s a.incoming (s.lost a) (s.act a) := by
  cases a with
  | edit e => exact edited hs e
  | view viewer => exact of_perm hs (by simp [Sheet.act, lost])

end Unique

/-- Identities that are apart stay so, whatever is done. -/
theorem nodup_identities_through (hs : s.identities.Nodup) (acts : List Act) :
    (s.through acts).identities.Nodup := by
  induction acts generalizing s with
  | nil => exact hs
  | cons a rest ih =>
      have hacted : (s.act a).identities.Nodup := (Unique.act hs a).nodup
      exact ih hacted

/-- **Identities stay unique.** Begin with a sheet on which every identity
stands once. Whatever is done with it, by whichever side, every identity
stands there once. Of whatever is done then: an identity is there afterwards
if and only if it was there or is that of a row which is added, and is not
that of the row which was removed. And a row by hand that is not refused is
new exactly when no row had its label, trimmed and in lower case, for
identity. -/
theorem identities_stay_unique (s : Sheet) (hs : s.identities.Nodup) (acts : List Act) :
    (s.through acts).identities.Nodup ∧
    (∀ (a : Act) (key : String), key ∈ ((s.through acts).act a).identities ↔
      (key ∈ (s.through acts).identities ∨ key ∈ a.incoming.map Row.identity) ∧
        key ∉ ((s.through acts).lost a).map Row.identity) ∧
    ∀ (label : String) (kind : FieldKind) (document? : Option String) (isNew : Bool) (t : Sheet),
      (s.through acts).addManual label kind document? = .ok (isNew, t) →
      (isNew = true ↔ Text.lowercase (Text.trim label) ∉ (s.through acts).identities) := by
  have hnodup : (s.through acts).identities.Nodup := nodup_identities_through hs acts
  refine ⟨hnodup, ?_, ?_⟩
  · intro a key
    exact (Unique.act hnodup a).mem_iff key
  · intro label kind document? isNew t hadd
    exact addManual_isNew_iff hadd

/-- Two rows with one identity come as one. The client takes out the row that
he had filled, and then the staff takes out the one that nobody had. -/
def reshuffle : List Act :=
  [.edit (.merge [Row.blank "Address" .text none, Row.blank " ADDRESS " .text none]),
    .view .client, .edit (.removeRow 0), .view .staff, .edit (.removeRow 0)]

/-- What was removed by the side that had filled it can come again by hand. -/
theorem identities_stay_unique_after_removal :
    halfFilled.identities.Nodup ∧
    (halfFilled.through reshuffle).identities = ["address"] ∧
    (halfFilled.through reshuffle).identities.Nodup ∧
    ∃ t, (halfFilled.through reshuffle).addManual " INCOME " .number none = .ok (true, t) ∧
      Text.lowercase (Text.trim " INCOME ") ∉ (halfFilled.through reshuffle).identities := by
  have hnodup : halfFilled.identities.Nodup := by decide +kernel
  obtain ⟨hunique, -, hmanual⟩ := identities_stay_unique halfFilled hnodup reshuffle
  have hidentities : (halfFilled.through reshuffle).identities = ["address"] := by
    decide +kernel
  obtain ⟨t, hadd⟩ : ∃ t, (halfFilled.through reshuffle).addManual " INCOME " .number none =
      .ok (true, t) := ⟨_, rfl⟩
  exact ⟨hnodup, hidentities, hunique, t, hadd, (hmanual _ _ _ _ _ hadd).mp rfl⟩

end Sheet
end Docket
