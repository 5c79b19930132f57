import Docket.Proofs.Command.Arguments
import Docket.Proofs.Stamp.Order
import Docket.Proofs.Text.Number

/-!
# What is read of a command line

A command that is read from the command line is well formed: its ids and texts
are trimmed and not empty, the date of a move is a stamp, the move has somewhere
to go, and the board shows something. It holds of what is known of the command
so far, and each piece keeps it.

* `Command.WellFormed` — well-formed commands.
* `wellFormed_of_arguments` — nothing else is read.
-/

namespace Docket

open Arguments

/-- What a move says is tidy, and its date is a stamp. -/
structure MoveDetails.Tidy (d : MoveDetails) : Prop where
  status : ∀ status ∈ d.status?, Text.Tidy status.text
  comment : ∀ comment ∈ d.comment?, Text.Tidy comment
  date : ∀ date ∈ d.importantDate?, Text.Tidy date ∧ Stamp.IsText date
  files : ∀ file ∈ d.files, Text.Tidy file

namespace Command

/-- Every id and text of the command is tidy, a move has somewhere to go and no
date but a stamp, and the board shows something. -/
def WellFormed : Command → Prop
  | .board limit? _ => ∀ limit ∈ limit?, 1 ≤ limit
  | .move request details =>
      Text.Tidy request.text ∧ details.Tidy ∧ ¬ (details.column? = none ∧ details.status? = none)
  | .claim request => Text.Tidy request.text
  | .reassign request lawyer => Text.Tidy request.text ∧ Text.Tidy lawyer.text
  | .watch request _ => Text.Tidy request.text
  | .send request body? => Text.Tidy request.text ∧ ∀ body ∈ body?, Text.Tidy body
  | .templates query =>
      (∀ topic ∈ query.topic?, Text.Tidy topic.text) ∧ ∀ search ∈ query.search?, Text.Tidy search
  | .template id => Text.Tidy id.text
  | .help => True

/-- The ids that stand as words on the command line. -/
def ids : Command → List String
  | .move request _ | .claim request | .watch request _ | .send request _ => [request.text]
  | .reassign request lawyer => [request.text, lawyer.text]
  | .template id => [id.text]
  | .board _ _ | .templates _ | .help => []

end Command

namespace Arguments

theorem takeBoard_keeps {view view' : BoardView} {piece : Piece BoardFlag}
    (hview : ∀ limit ∈ view.limit?, 1 ≤ limit) (h : takeBoard view piece = .ok view') :
    ∀ limit ∈ view'.limit?, 1 ≤ limit := by
  unfold takeBoard at h
  split at h
  · split at h
    · rename_i n hnumber
      cases h
      rintro limit ⟨⟩
      have hlt := Text.lt_of_number? hnumber
      rw [UInt32.le_iff_toNat_le, UInt32.toNat_ofNat_of_lt' hlt]
      exact Nat.le_add_left 1 n
    · cases h
  · split at h
    · cases h
      exact hview
    · cases h
  · cases h

theorem wellFormed_board {rest : List String} {command : Command} (h : board rest = .ok command) :
    command.WellFormed := by
  obtain ⟨view, hview, hcommand⟩ := Usage.bind_eq_ok_iff.mp h
  cases hcommand
  refine takePieces_keeps (P := fun view => ∀ limit ∈ view.limit?, 1 ≤ limit)
    (fun hkeeps _ => takeBoard_keeps hkeeps) takeBoard_keeps nofun hview

theorem takeRequest_eq_ok_iff {request? : Option RequestId} {argument : String}
    {request : RequestId} :
    takeRequest request? argument = .ok request ↔
      isFlag argument = false ∧ request? = none ∧ Text.filled? argument = some request.text := by
  obtain ⟨id⟩ := request
  unfold takeRequest
  cases hflag : isFlag argument <;> cases request? <;> cases hfilled : Text.filled? argument <;>
    simp

theorem needRequest_eq_ok_iff {command : String} {request? : Option RequestId}
    {request : RequestId} :
    needRequest command request? = .ok request ↔ request? = some request := by
  cases request? <;> simp [needRequest]

theorem tidy_setDetail {details details' : MoveDetails} {value : String} {flag : MoveFlag}
    (hdetails : details.Tidy) (hvalue : Text.Tidy value)
    (h : setDetail details value flag = .ok details') : details'.Tidy := by
  cases flag with
  | column =>
      simp only [setDetail] at h
      split at h
      · cases h
        exact ⟨hdetails.status, hdetails.comment, hdetails.date, hdetails.files⟩
      · cases h
  | status =>
      cases h
      exact ⟨by rintro status ⟨⟩; exact hvalue, hdetails.comment, hdetails.date, hdetails.files⟩
  | comment =>
      cases h
      exact ⟨hdetails.status, by rintro comment ⟨⟩; exact hvalue, hdetails.date, hdetails.files⟩
  | importantDate =>
      simp only [setDetail] at h
      split at h
      · rename_i hdate
        cases h
        refine ⟨hdetails.status, hdetails.comment, ?_, hdetails.files⟩
        rintro date ⟨⟩
        exact ⟨hvalue, hdate⟩
      · cases h
  | file =>
      cases h
      refine ⟨hdetails.status, hdetails.comment, hdetails.date, ?_⟩
      exact List.forall_mem_append.mpr ⟨hdetails.files, List.forall_mem_singleton.mpr hvalue⟩

/-- What is known of a move so far is tidy. -/
structure MoveDraft.Tidy (draft : MoveDraft) : Prop where
  request : ∀ request ∈ draft.request?, Text.Tidy request.text
  details : draft.details.Tidy

theorem wellFormed_move {rest : List String} {command : Command} (h : move rest = .ok command) :
    command.WellFormed := by
  obtain ⟨draft, hdraft, h⟩ := Usage.bind_eq_ok_iff.mp h
  obtain ⟨request, hrequest, h⟩ := Usage.bind_eq_ok_iff.mp h
  have htidy : draft.Tidy := by
    refine takePieces_keeps (P := MoveDraft.Tidy) ?_ ?_ ?_ hdraft
    · intro draft flag value draft' hkeeps hvalue htake
      obtain ⟨details, hdetails, htake⟩ := Usage.bind_eq_ok_iff.mp htake
      cases htake
      exact ⟨hkeeps.request, tidy_setDetail hkeeps.details hvalue hdetails⟩
    · intro draft text draft' hkeeps htake
      obtain ⟨request, hrequest, htake⟩ := Usage.bind_eq_ok_iff.mp htake
      cases htake
      refine ⟨?_, hkeeps.details⟩
      rintro request ⟨⟩
      exact Text.tidy_of_filled? (takeRequest_eq_ok_iff.mp hrequest).2.2
    · exact ⟨nofun, nofun, nofun, nofun, nofun⟩
  rw [needRequest_eq_ok_iff] at hrequest
  split at h
  · cases h
  · rename_i hgoes
    cases h
    refine ⟨htidy.request request hrequest, htidy.details, ?_⟩
    rintro ⟨hcolumn, hstatus⟩
    simp [hcolumn, hstatus] at hgoes

theorem wellFormed_watch {rest : List String} {command : Command} (h : watch rest = .ok command) :
    command.WellFormed := by
  obtain ⟨draft, hdraft, h⟩ := Usage.bind_eq_ok_iff.mp h
  obtain ⟨request, hrequest, h⟩ := Usage.bind_eq_ok_iff.mp h
  cases h
  have htidy : ∀ request ∈ draft.request?, Text.Tidy request.text := by
    refine foldlM_keeps (P := fun draft => ∀ request ∈ draft.request?, Text.Tidy request.text)
      ?_ nofun hdraft
    intro draft argument draft' hkeeps htake
    unfold takeWatch at htake
    split at htake
    · cases htake
      exact hkeeps
    · obtain ⟨request, hrequest, htake⟩ := Usage.bind_eq_ok_iff.mp htake
      cases htake
      rintro request ⟨⟩
      exact Text.tidy_of_filled? (takeRequest_eq_ok_iff.mp hrequest).2.2
  exact htidy request (needRequest_eq_ok_iff.mp hrequest)

theorem wellFormed_send {rest : List String} {command : Command} (h : send rest = .ok command) :
    command.WellFormed := by
  unfold send at h
  split at h
  · cases h
  · split at h
    · rename_i id hid
      cases h
      refine ⟨Text.tidy_of_filled? (Option.filter_eq_some_iff.mp hid).1, ?_⟩
      exact fun body hbody => Text.tidy_of_filled? hbody
    · cases h

theorem wellFormed_templates {rest : List String} {command : Command}
    (h : templates rest = .ok command) : command.WellFormed := by
  obtain ⟨query, hquery, h⟩ := Usage.bind_eq_ok_iff.mp h
  cases h
  refine takePieces_keeps (P := fun query => (Command.templates query).WellFormed)
    ?_ ?_ ⟨by rintro _ ⟨⟩, by rintro _ ⟨⟩⟩ hquery
  · intro query flag value query' hkeeps hvalue htake
    cases flag with
    | topic =>
        cases htake
        exact ⟨by rintro topic ⟨⟩; exact hvalue, hkeeps.2⟩
    | search =>
        cases htake
        exact ⟨hkeeps.1, by rintro search ⟨⟩; exact hvalue⟩
  · intro query text query' _ htake
    cases htake

theorem plain_eq_ok_iff {command : String} {rest values : List String} :
    plain command rest = .ok values ↔
      (∀ argument ∈ rest, isFlag argument = false) ∧
        (∀ argument ∈ rest, Text.isBlank argument = false) ∧ values = rest.map Text.trim := by
  unfold plain
  split
  · rename_i flag hflag
    have hmem := List.mem_of_find?_eq_some hflag
    have hlooks := List.find?_some hflag
    refine ⟨nofun, fun h => ?_⟩
    rw [h.1 flag hmem] at hlooks
    cases hlooks
  · rename_i hnone
    rw [List.find?_eq_none] at hnone
    split
    · rename_i hblank
      obtain ⟨argument, hmem, hargument⟩ := List.any_eq_true.mp hblank
      refine ⟨nofun, fun h => ?_⟩
      rw [h.2.1 argument hmem] at hargument
      cases hargument
    · rename_i hblank
      simp only [Bool.not_eq_true, List.any_eq_false] at hnone hblank
      constructor
      · rintro ⟨⟩
        exact ⟨hnone, hblank, rfl⟩
      · rintro ⟨-, -, rfl⟩
        rfl

/-- The arguments of a command without flags are tidy when they are read. -/
theorem tidy_of_plain {command : String} {rest values : List String}
    (h : plain command rest = .ok values) : ∀ value ∈ values, Text.Tidy value := by
  obtain ⟨-, hblank, rfl⟩ := plain_eq_ok_iff.mp h
  intro value hvalue
  obtain ⟨argument, hargument, rfl⟩ := List.mem_map.mp hvalue
  exact Text.tidy_of_filled? (if_neg (by simp [hblank argument hargument]))

theorem one_eq_ok_iff {name : String} {make : String → Command} {rest : List String}
    {command : Command} :
    one name make rest = .ok command ↔ ∃ a, plain name rest = .ok [a] ∧ make a = command := by
  unfold one
  rw [Usage.bind_eq_ok_iff]
  constructor
  · rintro ⟨values, hvalues, h⟩
    split at h
    · rename_i a
      cases h
      exact ⟨a, hvalues, rfl⟩
    · cases h
  · rintro ⟨a, ha, rfl⟩
    exact ⟨[a], ha, rfl⟩

theorem two_eq_ok_iff {name : String} {make : String → String → Command} {rest : List String}
    {command : Command} :
    two name make rest = .ok command ↔
      ∃ a b, plain name rest = .ok [a, b] ∧ make a b = command := by
  unfold two
  rw [Usage.bind_eq_ok_iff]
  constructor
  · rintro ⟨values, hvalues, h⟩
    split at h
    · rename_i a b
      cases h
      exact ⟨a, b, hvalues, rfl⟩
    · cases h
  · rintro ⟨a, b, hab, rfl⟩
    exact ⟨[a, b], hab, rfl⟩

end Arguments

/-- **What is read of a command line is well formed.** -/
theorem Command.wellFormed_of_arguments {arguments : List String} {command : Command}
    (h : ofArguments arguments = .ok command) : command.WellFormed := by
  unfold ofArguments at h
  split at h
  · cases h
    trivial
  · split at h
    · exact wellFormed_board h
    · exact wellFormed_move h
    · obtain ⟨request, hplain, rfl⟩ := one_eq_ok_iff.mp h
      exact tidy_of_plain hplain request (List.mem_singleton_self request)
    · obtain ⟨request, lawyer, hplain, rfl⟩ := two_eq_ok_iff.mp h
      have htidy := tidy_of_plain hplain
      exact ⟨htidy request List.mem_cons_self,
        htidy lawyer (List.mem_cons_of_mem request (List.mem_singleton_self lawyer))⟩
    · exact wellFormed_watch h
    · exact wellFormed_send h
    · exact wellFormed_templates h
    · obtain ⟨id, hplain, rfl⟩ := one_eq_ok_iff.mp h
      exact tidy_of_plain hplain id (List.mem_singleton_self id)
    · cases h
      trivial
    · cases h
      trivial
    · cases h
      trivial
    · cases h

end Docket
