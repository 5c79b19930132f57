import Docket.Proofs.Sheet.Identities
import Docket.Proofs.Wire.Names

/-!
# Where the values of a sheet go

The values of a sheet are written in one batch. A row that the server knows is
addressed by its id, any other row by its identity, so the targets of a batch
are of two sorts. In a sheet whose rows differ in their identities and in the
ids that the server gave, no target is that of two rows, and none addresses
another row than its own. That is still so when the batch has gone over the
wire: the server gets for every row the value that stands there, once, and
nothing else.

* `Row.target`, `Row.update?_eq` — the target of a row.
* `ValueTarget.Addresses`, `ValueUpdate.arrivals` — the values that arrive at a row.
* `Row.Apart` — rows of which none has the target of the other.
* `Sheet.values_reach_own_rows` — what arrives of a sheet.
-/

namespace Docket

namespace Row

variable {row other : Row}

/-- The id by which the server knows a row. -/
def serverId? (row : Row) : Option String :=
  row.id?.bind Text.filled?

/-- The target to which the value of a row is written. -/
def target (row : Row) : ValueTarget :=
  match row.serverId? with
  | some id => .row id
  | none => .field row.identity

theorem update?_eq (row : Row) :
    row.update? = row.value?.map fun value => ⟨row.target, value⟩ := by
  unfold update? target serverId?
  cases row.id?.bind Text.filled? <;> rfl

end Row

/-- The target is one of a row: its id, or its identity. -/
def ValueTarget.Addresses (target : ValueTarget) (row : Row) : Prop :=
  match target with
  | .row id => row.serverId? = some id
  | .field key => row.identity = key

instance (target : ValueTarget) (row : Row) : Decidable (target.Addresses row) := by
  unfold ValueTarget.Addresses
  split <;> infer_instance

/-- The values that some updates write to a row. -/
def ValueUpdate.arrivals (updates : List ValueUpdate) (row : Row) : List FieldValue :=
  (updates.filter fun update => update.target.Addresses row).map ValueUpdate.value

namespace Row

variable {row other : Row}

/-- A row is addressed by its target. -/
theorem target_addresses (row : Row) : row.target.Addresses row := by
  unfold target
  cases hid : row.serverId? with
  | some id => exact hid
  | none => rfl

/-- The rows differ in their identities and in the ids that the server gave. -/
structure Apart (row other : Row) : Prop where
  identity : row.identity ≠ other.identity
  serverId : ∀ id, row.serverId? = some id → other.serverId? ≠ some id

theorem Apart.symm (h : row.Apart other) : other.Apart row :=
  ⟨h.identity.symm, fun id hother hrow => h.serverId id hrow hother⟩

/-- Rows that stand apart are not addressed by the target of each other. -/
theorem Apart.not_addresses (h : row.Apart other) : ¬ row.target.Addresses other := by
  unfold target
  cases hid : row.serverId? with
  | some id => exact h.serverId id hid
  | none => exact h.identity.symm

theorem Apart.target_ne (h : row.Apart other) : row.target ≠ other.target := by
  intro hsame
  exact h.not_addresses (hsame ▸ other.target_addresses)

/-- Rows stand apart when no two share an identity and no two share an id. -/
theorem pairwise_apart {rows : List Row} (hidentity : (rows.map identity).Nodup)
    (hid : (rows.filterMap serverId?).Nodup) : rows.Pairwise Apart := by
  have hidentity' := List.pairwise_map.mp hidentity
  have hid' := List.pairwise_filterMap.mp hid
  refine (hidentity'.and hid').imp ?_
  rintro row other ⟨hidentity, hid⟩
  exact ⟨hidentity, fun id hrow hother => hid id hrow id hother rfl⟩

/-- The value of the first of some rows arrives where its target says. -/
theorem arrivals_cons (first : Row) (rest : List Row) (row : Row) :
    ValueUpdate.arrivals ((first :: rest).filterMap update?) row =
      (if first.target.Addresses row then first.value?.toList else []) ++
        ValueUpdate.arrivals (rest.filterMap update?) row := by
  rw [List.filterMap_cons, update?_eq]
  cases first.value? with
  | none => simp
  | some value =>
      simp only [Option.map_some, ValueUpdate.arrivals, Option.toList_some]
      by_cases haddressed : first.target.Addresses row
      · simp [haddressed]
      · simp [haddressed]

/-- Nothing arrives at a row that stands apart from all whose values are written. -/
theorem arrivals_eq_nil {rows : List Row} (h : ∀ other ∈ rows, other.Apart row) :
    ValueUpdate.arrivals (rows.filterMap update?) row = [] := by
  induction rows with
  | nil => rfl
  | cons first rest ih =>
      obtain ⟨hfirst, hrest⟩ := List.forall_mem_cons.mp h
      rw [arrivals_cons, if_neg hfirst.not_addresses, ih hrest, List.append_nil]

/-- At a row arrives what stands there. -/
theorem arrivals_eq {rows : List Row} (hapart : rows.Pairwise Apart) (hrow : row ∈ rows) :
    ValueUpdate.arrivals (rows.filterMap update?) row = row.value?.toList := by
  induction rows with
  | nil => cases hrow
  | cons first rest ih =>
      obtain ⟨hfirst, hrest⟩ := List.pairwise_cons.mp hapart
      rw [arrivals_cons]
      rcases List.mem_cons.mp hrow with rfl | hlater
      · have hnothing := arrivals_eq_nil fun other hother => (hfirst other hother).symm
        rw [if_pos row.target_addresses, hnothing, List.append_nil]
      · rw [if_neg (hfirst row hlater).not_addresses, List.nil_append, ih hrest hlater]

/-- The update of a row with a value: its target and its value. -/
structure WrittenBy (row : Row) (update : ValueUpdate) : Prop where
  target : update.target = row.target
  value : row.value? = some update.value

/-- There is one update for each row with a value, in the order of the rows. -/
theorem forall₂_writtenBy (rows : List Row) :
    List.Forall₂ WrittenBy (rows.filter fun row => row.value?.isSome)
      (rows.filterMap update?) := by
  induction rows with
  | nil => exact .nil
  | cons first rest ih =>
      rw [List.filterMap_cons, update?_eq]
      cases hvalue : first.value? with
      | none =>
          rw [List.filter_cons_of_neg (by simp [hvalue])]
          exact ih
      | some value =>
          rw [List.filter_cons_of_pos (by simp [hvalue])]
          exact .cons ⟨rfl, hvalue⟩ ih

/-- The targets of rows that stand apart are apart. -/
theorem nodup_targets {rows : List Row} (hapart : rows.Pairwise Apart) :
    ((rows.filterMap update?).map ValueUpdate.target).Nodup := by
  refine List.pairwise_map.mpr (List.pairwise_filterMap.mpr (hapart.imp ?_))
  intro row other hrows update hupdate update' hupdate'
  rw [update?_eq, Option.map_eq_some_iff] at hupdate hupdate'
  obtain ⟨value, -, rfl⟩ := hupdate
  obtain ⟨value', -, rfl⟩ := hupdate'
  exact hrows.target_ne

end Row

namespace Sheet

/-- **The values of a sheet reach their own rows.** Let the rows of a sheet have
different identities, and different ids where they have any. Then its updates
are one for each row with a value, in the order of the rows, each with the
target and the value of the row, and no two have the same target. They come back
from the JSON that they are written as, however that is spelled. And each row of
the sheet gets the value that stands there, once, and nothing if there is none. -/
theorem values_reach_own_rows {s : Sheet} (hidentity : s.identities.Nodup)
    (hid : (s.rows.filterMap Row.serverId?).Nodup) :
    List.Forall₂ Row.WrittenBy (s.rows.filter fun row => row.value?.isSome) s.valueUpdates ∧
    (s.valueUpdates.map ValueUpdate.target).Nodup ∧
    (∀ spell, Json.Respelling spell →
      (Wire.Codec.list ValueUpdate.codec).read
        (spell ((Wire.Codec.list ValueUpdate.codec).write s.valueUpdates)) =
          .ok s.valueUpdates) ∧
    ∀ row ∈ s.rows, ValueUpdate.arrivals s.valueUpdates row = row.value?.toList := by
  have hapart := Row.pairwise_apart hidentity hid
  refine ⟨Row.forall₂_writtenBy s.rows, Row.nodup_targets hapart, ?_, ?_⟩
  · intro spell hspell
    exact Wire.Codec.readsBack_list hspell fun update _ => update.readsBack hspell
  · exact fun row => Row.arrivals_eq hapart

/-- A sheet of three rows: one that the server knows, one from the catalog whose
key is the id of the first, and one that is not filled. -/
def incomeSheet : Sheet :=
  ⟨[{ Row.blank "Income" .string none with
        id? := some " row-3 ", value? := some (.text "4200") },
      { Row.blank "Employer" .string none with
        catalogKey? := some "Row-3", value? := some (.attachment ⟨"file-1"⟩) },
      Row.blank "Address" .string none], .client⟩

/-- Id and key are the same text, but the rows do not get each other's value. -/
theorem income_values_reach_own_rows :
    incomeSheet.identities.Nodup ∧ (incomeSheet.rows.filterMap Row.serverId?).Nodup ∧
      incomeSheet.valueUpdates =
        [⟨.row "row-3", .text "4200"⟩, ⟨.field "row-3", .attachment ⟨"file-1"⟩⟩] ∧
      (Wire.Codec.list ValueUpdate.codec).read
        ((Wire.Codec.list ValueUpdate.codec).write incomeSheet.valueUpdates).arranged =
          .ok incomeSheet.valueUpdates ∧
      ∀ row ∈ incomeSheet.rows,
        ValueUpdate.arrivals incomeSheet.valueUpdates row = row.value?.toList := by
  have hidentity : incomeSheet.identities.Nodup := by decide +kernel
  have hid : (incomeSheet.rows.filterMap Row.serverId?).Nodup := by decide +kernel
  obtain ⟨-, -, hback, harrive⟩ := values_reach_own_rows hidentity hid
  exact ⟨hidentity, hid, by decide +kernel, hback _ Json.respelling_arranged, harrive⟩

end Sheet

end Docket
