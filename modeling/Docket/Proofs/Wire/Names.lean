import Docket.Proofs.Wire.Record
import Docket.Wire.Board
import Docket.Wire.Sheet
import Mathlib.Tactic.FinCases

/-!
# Names and unions read back

The parts of a record that are no records themselves: identifiers, the members
of an enumeration, columns that may be declared, and the objects by which a
fill, a value and its target are told. A value is told by the member that it
has, so the object that carries a target and a value is read by both of them,
and neither takes the other's member for its own.
-/

namespace Docket

open Wire Wire.Codec
open Json (Respelling)

variable {spell : Json → Json}

theorem Ident.readsBack (hspell : Respelling spell) {kind : Ident.Kind} (id : Ident kind) :
    Ident.codec.ReadsBack spell id :=
  readsBack_via (readsBack_text hspell id.text) rfl

theorem Column.readsBack (hspell : Respelling spell) (c : Column) :
    Column.codec.ReadsBack spell c :=
  readsBack_named hspell (by cases c <;> decide)

theorem Column.readsBack_declared (hspell : Respelling spell) (c? : Option Column) :
    Column.declared.ReadsBack spell c? := by
  unfold ReadsBack
  cases c? with
  | none =>
      rw [show Column.declared.write none = .null from rfl, hspell.null]
      rfl
  | some c =>
      have hread : Codec.text.nullable.read (.text c.key) = .ok (some c.key) := rfl
      rw [show Column.declared.write (some c) = .text c.key from rfl, hspell.text]
      simp only [Column.declared, hread, Except.map, Option.bind_some, Column.ofKey?_key]

theorem Side.readsBack (hspell : Respelling spell) (side : Side) :
    Side.codec.ReadsBack spell side :=
  readsBack_named hspell (by cases side <;> decide)

theorem SortOrder.readsBack (hspell : Respelling spell) (order : SortOrder) :
    SortOrder.codec.ReadsBack spell order :=
  readsBack_named hspell (by cases order <;> decide)

theorem FieldKind.readsBack (hspell : Respelling spell) (kind : FieldKind) :
    FieldKind.codec.ReadsBack spell kind :=
  readsBack_named hspell (by cases kind <;> decide)

theorem Fill.readsBack (hspell : Respelling spell) (fill : Fill) :
    Fill.codec.ReadsBack spell fill := by
  unfold ReadsBack
  cases fill with
  | pending =>
      obtain ⟨members, heq, hget, -⟩ := hspell.object [("state", .text "pending")]
      rw [show Fill.codec.write .pending = .object [("state", .text "pending")] from rfl, heq]
      show Fill.readMembers members = _
      have hstate : Json.get? members "state" = some (.text "pending") := by
        rw [hget]
        exact congrArg some (hspell.text _)
      rw [Fill.readMembers, hstate]
      rfl
  | filled side =>
      obtain ⟨members, heq, hget, -⟩ :=
        hspell.object [("state", .text "filled"), ("by", .text side.key)]
      rw [show Fill.codec.write (.filled side) =
        .object [("state", .text "filled"), ("by", .text side.key)] from rfl, heq]
      show Fill.readMembers members = _
      have hstate : Json.get? members "state" = some (.text "filled") := by
        rw [hget]
        exact congrArg some (hspell.text _)
      have hby : Json.get? members "by" = some (.text side.key) := by
        rw [hget]
        exact congrArg some (hspell.text _)
      rw [Fill.readMembers, hstate]
      dsimp only
      rw [hby]
      cases side <;> rfl

/-- What an object tells of two names of which it holds one, as a text. -/
theorem Json.textAt?_eq {members : List (String × Json)} {name s : String}
    (h : Json.get? members name = some (.text s)) : Json.textAt? members name = some s := by
  rw [Json.textAt?, h]

theorem Json.textAt?_eq_none {members : List (String × Json)} {name : String}
    (h : Json.get? members name = none) : Json.textAt? members name = none := by
  rw [Json.textAt?, h]

/-- The members of an object are those of a value, spelled anew, as far as
some names go. -/
def Json.Shows (spell : Json → Json) (members written : List (String × Json))
    (names : List String) : Prop :=
  ∀ name ∈ names, Json.get? members name = (Json.get? written name).map spell

/-- A value is read from an object that shows it. -/
theorem FieldValue.readMembers_of_shows (hspell : Respelling spell) (value : FieldValue)
    {members : List (String × Json)}
    (h : Json.Shows spell members value.members ["value_text", "attachment_id"]) :
    FieldValue.readMembers members = .ok value := by
  have htext := h "value_text" (by decide)
  have hattachment := h "attachment_id" (by decide)
  unfold FieldValue.readMembers
  cases value with
  | text s =>
      have hfound : Json.textAt? members "value_text" = some s :=
        Json.textAt?_eq (htext.trans (congrArg some (hspell.text s)))
      rw [hfound]
  | attachment id =>
      have hnone : Json.textAt? members "value_text" = none := Json.textAt?_eq_none htext
      have hfound : Json.textAt? members "attachment_id" = some id.text :=
        Json.textAt?_eq (hattachment.trans (congrArg some (hspell.text id.text)))
      rw [hnone, hfound]

/-- A target is read from an object that shows it. -/
theorem ValueTarget.readMembers_of_shows (hspell : Respelling spell) (target : ValueTarget)
    {members : List (String × Json)}
    (h : Json.Shows spell members target.members ["id", "key"]) :
    ValueTarget.readMembers members = .ok target := by
  have hid := h "id" (by decide)
  have hkey := h "key" (by decide)
  unfold ValueTarget.readMembers
  cases target with
  | row id =>
      have hfound : Json.textAt? members "id" = some id :=
        Json.textAt?_eq (hid.trans (congrArg some (hspell.text id)))
      rw [hfound]
  | field key =>
      have hnone : Json.textAt? members "id" = none := Json.textAt?_eq_none hid
      have hfound : Json.textAt? members "key" = some key :=
        Json.textAt?_eq (hkey.trans (congrArg some (hspell.text key)))
      rw [hnone, hfound]

theorem FieldValue.readsBack (hspell : Respelling spell) (value : FieldValue) :
    FieldValue.codec.ReadsBack spell value := by
  unfold ReadsBack
  obtain ⟨members, heq, hget, -⟩ := hspell.object value.members
  rw [show FieldValue.codec.write value = .object value.members from rfl, heq]
  exact value.readMembers_of_shows hspell fun name _ => hget name

/-- **Target and value come back from the one object that carries both.** -/
theorem ValueUpdate.readsBack (hspell : Respelling spell) (update : ValueUpdate) :
    ValueUpdate.codec.ReadsBack spell update := by
  obtain ⟨target, value⟩ := update
  unfold ReadsBack
  obtain ⟨members, heq, hget, -⟩ := hspell.object (target.members ++ value.members)
  rw [show ValueUpdate.codec.write ⟨target, value⟩ =
    .object (target.members ++ value.members) from rfl, heq]
  -- neither part has a member of a name that the other looks up
  have htarget : Json.Shows spell members target.members ["id", "key"] := by
    intro name hname
    rw [hget]
    fin_cases hname <;> cases target <;> cases value <;> rfl
  have hvalue : Json.Shows spell members value.members ["value_text", "attachment_id"] := by
    intro name hname
    rw [hget]
    fin_cases hname <;> cases target <;> cases value <;> rfl
  show (do
    let target ← ValueTarget.readMembers members
    return (⟨target, ← FieldValue.readMembers members⟩ : ValueUpdate)) = _
  rw [target.readMembers_of_shows hspell htarget, value.readMembers_of_shows hspell hvalue]
  rfl

end Docket
