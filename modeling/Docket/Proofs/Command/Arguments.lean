import Docket.Command.Arguments
import Docket.Proofs.Text.Blank

/-!
# Flags and words

A command line is made of pieces: a flag with its value, or a word. Read from
the left, the arguments of pieces are taken piece by piece, and what is taken
as a value is tidy whatever the arguments are. What the pieces of a command
line say is which words there are and which values each flag is given; in which
order words and different flags stand does not show in that.

* `takePieces_write` — pieces that are written are taken one after another.
* `takePieces_keeps` — what every piece keeps, a whole command line keeps.
* `given`, `wordsOf` — what pieces say.
-/

namespace Docket

/-- Two steps of reading succeed when the first one does, and the second with
what it yields. -/
theorem Usage.bind_eq_ok_iff {α β : Type} {x : Usage α} {f : α → Usage β} {b : β} :
    x >>= f = .ok b ↔ ∃ a, x = .ok a ∧ f a = .ok b := by
  cases x with
  | error fault => exact ⟨nofun, fun ⟨_, h, _⟩ => nomatch h⟩
  | ok a => exact ⟨fun h => ⟨a, rfl, h⟩, fun ⟨_, ha, h⟩ => by cases ha; exact h⟩

namespace Arguments

variable {φ α : Type} {flag? : String → Option φ} {take : α → Piece φ → Usage α} {a a' : α}

/-- The arguments of a piece. -/
def Piece.write (name : φ → String) : Piece φ → List String
  | .option flag value => [name flag, value]
  | .word text => [text]

/-- The piece can stand on a command line: its value is tidy, its word no flag. -/
def Piece.Fits (flag? : String → Option φ) : Piece φ → Prop
  | .option _ value => Text.Tidy value
  | .word text => flag? text = none

theorem valueOf_eq_ok_iff {flag text value : String} :
    valueOf flag text = .ok value ↔ Text.filled? text = some value := by
  unfold valueOf
  split <;> simp_all

theorem takePieces_word {text : String} (h : flag? text = none) (rest : List String) :
    takePieces flag? take a (text :: rest) =
      take a (.word text) >>= fun a => takePieces flag? take a rest := by
  cases rest with
  | nil =>
      rw [takePieces, h]
      cases take a (.word text) <;> rfl
  | cons next rest => rw [takePieces, h]

theorem takePieces_option {argument value : String} {flag : φ} (h : flag? argument = some flag)
    (hvalue : Text.Tidy value) (rest : List String) :
    takePieces flag? take a (argument :: value :: rest) =
      take a (.option flag value) >>= fun a => takePieces flag? take a rest := by
  rw [takePieces, h]
  dsimp only
  rw [valueOf_eq_ok_iff.mpr hvalue.filled?]
  rfl

/-- Pieces that are written are taken one after another. -/
theorem takePieces_write {name : φ → String} (hname : ∀ flag, flag? (name flag) = some flag)
    {pieces : List (Piece φ)} (h : ∀ piece ∈ pieces, piece.Fits flag?) :
    takePieces flag? take a (pieces.flatMap (Piece.write name)) = pieces.foldlM take a := by
  induction pieces generalizing a with
  | nil => rfl
  | cons piece rest ih =>
      obtain ⟨hpiece, hrest⟩ := List.forall_mem_cons.mp h
      rw [List.flatMap_cons, List.foldlM_cons]
      have hnext : (fun a => takePieces flag? take a (rest.flatMap (Piece.write name))) =
          fun a => rest.foldlM take a := funext fun _ => ih hrest
      cases piece with
      | option flag value =>
          rw [← hnext]
          exact takePieces_option (hname flag) hpiece _
      | word text =>
          rw [← hnext]
          exact takePieces_word hpiece _

theorem takePieces_option_alone {argument value : String} {flag : φ}
    (h : flag? argument = some flag) (hvalue : Text.Tidy value) :
    takePieces flag? take a [argument, value] = take a (.option flag value) := by
  rw [takePieces_option h hvalue]
  cases take a (.option flag value) <;> rfl

/-- A flag with its value is taken after all that stands before it. -/
theorem takePieces_append_option {name value : String} {flag : φ} {arguments : List String}
    (hname : flag? name = some flag) (hvalue : Text.Tidy value)
    (h : takePieces flag? take a arguments = .ok a') :
    takePieces flag? take a (arguments ++ [name, value]) = take a' (.option flag value) := by
  induction a, arguments using takePieces.induct flag? with
  | case1 a =>
      cases h
      exact takePieces_option_alone hname hvalue
  | case2 a argument flag' hflag =>
      rw [takePieces, hflag] at h
      cases h
  | case3 a argument hflag =>
      rw [takePieces, hflag] at h
      have hword : take a (.word argument) = .ok a' := h
      rw [List.singleton_append, takePieces_word hflag, hword]
      exact takePieces_option_alone hname hvalue
  | case4 a argument text rest flag' hflag ih =>
      rw [takePieces, hflag] at h
      obtain ⟨text', htext, h⟩ := Usage.bind_eq_ok_iff.mp h
      obtain ⟨next, hnext, h⟩ := Usage.bind_eq_ok_iff.mp h
      rw [List.cons_append, List.cons_append, takePieces, hflag]
      dsimp only
      rw [htext]
      show (take a (.option flag' text') >>= fun a => takePieces flag? take a _) = _
      rw [hnext]
      exact ih next h
  | case5 a argument text rest hflag ih =>
      rw [takePieces_word hflag] at h
      obtain ⟨next, hnext, h⟩ := Usage.bind_eq_ok_iff.mp h
      rw [List.cons_append, takePieces_word hflag, hnext]
      exact ih next h

/-- What every piece keeps, a whole command line keeps. -/
theorem takePieces_keeps {P : α → Prop}
    (hoption : ∀ {a flag value a'}, P a → Text.Tidy value →
      take a (.option flag value) = .ok a' → P a')
    (hword : ∀ {a text a'}, P a → take a (.word text) = .ok a' → P a')
    {arguments : List String} (ha : P a) (h : takePieces flag? take a arguments = .ok a') :
    P a' := by
  induction a, arguments using takePieces.induct flag? with
  | case1 a =>
      cases h
      exact ha
  | case2 a argument flag hflag =>
      rw [takePieces, hflag] at h
      cases h
  | case3 a argument hflag =>
      rw [takePieces, hflag] at h
      exact hword ha h
  | case4 a argument text rest flag hflag ih =>
      rw [takePieces, hflag] at h
      obtain ⟨value, hvalue, h⟩ := Usage.bind_eq_ok_iff.mp h
      obtain ⟨next, hnext, h⟩ := Usage.bind_eq_ok_iff.mp h
      have htidy := Text.tidy_of_filled? (valueOf_eq_ok_iff.mp hvalue)
      exact ih next (hoption ha htidy hnext) h
  | case5 a argument text rest hflag ih =>
      rw [takePieces, hflag] at h
      obtain ⟨next, hnext, h⟩ := Usage.bind_eq_ok_iff.mp h
      exact ih next (hword ha hnext) h

/-- What every argument keeps, all of them keep. -/
theorem foldlM_keeps {β : Type} {step : α → β → Usage α} {P : α → Prop}
    (hstep : ∀ {a b a'}, P a → step a b = .ok a' → P a') {arguments : List β} (ha : P a)
    (h : arguments.foldlM step a = .ok a') : P a' := by
  induction arguments generalizing a with
  | nil =>
      cases h
      exact ha
  | cons b rest ih =>
      rw [List.foldlM_cons] at h
      obtain ⟨next, hnext, h⟩ := Usage.bind_eq_ok_iff.mp h
      exact ih (hstep ha hnext) h

/-- The values that pieces give to a flag, in their order. -/
def given [DecidableEq φ] (flag : φ) (pieces : List (Piece φ)) : List String :=
  pieces.filterMap fun
    | .option other value => if other = flag then some value else none
    | .word _ => none

/-- The words among pieces, in their order. -/
def wordsOf (pieces : List (Piece φ)) : List String :=
  pieces.filterMap fun
    | .option _ _ => none
    | .word text => some text

theorem mem_given [DecidableEq φ] {flag : φ} {value : String} {pieces : List (Piece φ)}
    (h : .option flag value ∈ pieces) : value ∈ given flag pieces :=
  List.mem_filterMap.mpr ⟨_, h, if_pos rfl⟩

theorem mem_wordsOf {text : String} {pieces : List (Piece φ)} (h : .word text ∈ pieces) :
    text ∈ wordsOf pieces :=
  List.mem_filterMap.mpr ⟨_, h, rfl⟩

/-- Where there is at most one thing to say, what is said is that thing, and
nothing is said after it. -/
theorem cons_eq_toList {value : String} {rest : List String} {text? : Option String}
    (h : value :: rest = text?.toList) : text? = some value ∧ rest = [] := by
  cases text? with
  | none => cases h
  | some text =>
      obtain ⟨rfl, hrest⟩ := List.cons.inj h
      exact ⟨rfl, hrest⟩

/-- The same where what is said stands for something. -/
theorem cons_eq_toList_map {β : Type} {value : String} {rest : List String} {b? : Option β}
    {text : β → String} (h : value :: rest = b?.toList.map text) :
    ∃ b, b? = some b ∧ value = text b ∧ rest = [] := by
  rw [← Option.toList_map] at h
  obtain ⟨hvalue, hrest⟩ := cons_eq_toList h
  obtain ⟨b, hb, rfl⟩ := Option.map_eq_some_iff.mp hvalue
  exact ⟨b, hb, rfl, hrest⟩

/-- Nothing said stands for nothing. -/
theorem eq_none_of_toList_map {β : Type} {b? : Option β} {text : β → String}
    (h : b?.toList.map text = []) : b? = none := by
  rw [List.map_eq_nil_iff] at h
  exact Option.toList_eq_nil_iff.mp h

end Arguments
end Docket
