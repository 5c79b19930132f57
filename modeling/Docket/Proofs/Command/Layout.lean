import Docket.Proofs.Command.Said

/-!
# Layouts of a command

A well-formed command is read from every way of laying it out as arguments:
flags with their values and the request stand in any order, files in theirs,
and a message may be broken at any of its spaces.

* `Command.Layout` — the ways of laying a command out.
* `Command.ofArguments_of_layout` — each of them is read as the command.
* `arguments_match_grammar` — well-formed commands are what is read, and every
  layout of them is read.
-/

namespace Docket

open Arguments

/-- The ways of laying a command out as arguments. -/
inductive Command.Layout : Command → List String → Prop where
  | board {view : BoardView} {pieces : List (Piece BoardFlag)} (h : view.SaidBy pieces) :
      Layout (.board view.limit? view.order?)
        ("board" :: pieces.flatMap (Piece.write BoardFlag.name))
  | move {request : RequestId} {details : MoveDetails} {pieces : List (Piece MoveFlag)}
      (h : MoveDraft.SaidBy ⟨some request, details⟩ pieces) :
      Layout (.move request details) ("move" :: pieces.flatMap (Piece.write MoveFlag.name))
  | claim (request : RequestId) : Layout (.claim request) ["claim", request.text]
  | reassign (request : RequestId) (lawyer : ActorId) :
      Layout (.reassign request lawyer) ["reassign", request.text, lawyer.text]
  /-- The flag of a watch stands on either side of the request. -/
  | watch {request : RequestId} {hidden : Bool} {before after : List String}
      (h : before ++ after = if hidden then ["--hidden"] else []) :
      Layout (.watch request hidden) ("watch" :: before ++ request.text :: after)
  | compose (request : RequestId) : Layout (.send request none) ["send", request.text]
  /-- A message is broken into words at some of its spaces. -/
  | send {request : RequestId} {body : String} {words : List String}
      (h : String.intercalate " " words = body) :
      Layout (.send request (some body)) ("send" :: request.text :: words)
  | templates {query : TemplateQuery} {pieces : List (Piece TemplatesFlag)}
      (h : query.SaidBy pieces) :
      Layout (.templates query) ("templates" :: pieces.flatMap (Piece.write TemplatesFlag.name))
  | template (id : TemplateId) : Layout (.template id) ["template", id.text]
  | nothing : Layout .help []
  | help {name : String} (h : name ∈ ["help", "--help", "-h"]) : Layout .help [name]

namespace Arguments

/-- The board is read from every layout. -/
theorem board_of_saidBy {view : BoardView} {pieces : List (Piece BoardFlag)}
    (h : view.SaidBy pieces) (hlimit : ∀ limit ∈ view.limit?, 1 ≤ limit) :
    board (pieces.flatMap (Piece.write BoardFlag.name)) = .ok (.board view.limit? view.order?) := by
  unfold board
  rw [takePieces_write BoardFlag.ofName?_name h.fits, foldlM_takeBoard h hlimit,
    BoardView.over_none]
  rfl

/-- A move is read from every layout. -/
theorem move_of_saidBy {request : RequestId} {details : MoveDetails}
    {pieces : List (Piece MoveFlag)} (h : MoveDraft.SaidBy ⟨some request, details⟩ pieces)
    (hwell : (Command.move request details).WellFormed) (hflag : isFlag request.text = false) :
    move (pieces.flatMap (Piece.write MoveFlag.name)) = .ok (.move request details) := by
  obtain ⟨htidy, hdetails, hgoes⟩ := hwell
  have hfits := h.fits hdetails (by rintro _ ⟨⟩; exact hflag)
  have htaken : pieces.foldlM takeMove ⟨none, .none⟩ = .ok ⟨some request, details⟩ := by
    rw [foldlM_takeMove h (by rintro _ ⟨⟩; exact ⟨hflag, htidy⟩)
      (fun date hdate => (hdetails.date date hdate).2) (.inr rfl), MoveDraft.over_none]
  have htarget : (details.column?.isNone && details.status?.isNone) = false := by
    rw [Bool.eq_false_iff, ne_eq, Bool.and_eq_true, Option.isNone_iff_eq_none,
      Option.isNone_iff_eq_none]
    exact hgoes
  unfold move
  rw [takePieces_write MoveFlag.ofName?_name hfits, htaken]
  exact if_neg (by rw [htarget]; exact Bool.false_ne_true)

/-- The list of templates is read from every layout. -/
theorem templates_of_saidBy {query : TemplateQuery} {pieces : List (Piece TemplatesFlag)}
    (h : query.SaidBy pieces) (hwell : (Command.templates query).WellFormed) :
    templates (pieces.flatMap (Piece.write TemplatesFlag.name)) = .ok (.templates query) := by
  unfold templates
  rw [takePieces_write TemplatesFlag.ofName?_name (h.fits hwell), foldlM_takeTemplates h,
    TemplateQuery.over_none]
  rfl

theorem takeWatch_request {request : RequestId} (hidden : Bool) (htidy : Text.Tidy request.text)
    (hflag : isFlag request.text = false) :
    takeWatch ⟨none, hidden⟩ request.text = .ok ⟨some request, hidden⟩ := by
  have hother : request.text ≠ "--hidden" := by
    intro heq
    rw [heq] at hflag
    exact absurd hflag (by decide)
  have htake : takeRequest none request.text = .ok request :=
    takeRequest_eq_ok_iff.mpr ⟨hflag, rfl, htidy.filled?⟩
  unfold takeWatch
  rw [if_neg hother, htake]
  rfl

/-- A watch is read with its flag on either side of the request. -/
theorem watch_of_layout {request : RequestId} {hidden : Bool} {before after : List String}
    (h : before ++ after = if hidden then ["--hidden"] else []) (htidy : Text.Tidy request.text)
    (hflag : isFlag request.text = false) :
    watch (before ++ request.text :: after) = .ok (.watch request hidden) := by
  have htake := fun hidden => takeWatch_request hidden htidy hflag
  unfold watch
  cases hidden with
  | false =>
      obtain ⟨rfl, rfl⟩ := List.append_eq_nil_iff.mp h
      rw [List.nil_append, List.foldlM_cons, htake]
      rfl
  | true =>
      obtain ⟨rfl, rfl⟩ | ⟨rfl, rfl⟩ := List.append_eq_singleton_iff.mp h
      · rw [List.nil_append, List.foldlM_cons, htake]
        rfl
      · have hflagged : takeWatch ⟨none, false⟩ "--hidden" = .ok ⟨none, true⟩ := if_pos rfl
        rw [List.singleton_append, List.foldlM_cons, hflagged]
        show [request.text].foldlM takeWatch ⟨none, true⟩ >>= _ = _
        rw [List.foldlM_cons, htake]
        rfl

/-- A message is read from its words; without any there is none. -/
theorem send_of_words {request : RequestId} (htidy : Text.Tidy request.text)
    (hflag : isFlag request.text = false) (words : List String) :
    send (request.text :: words) =
      .ok (.send request (Text.filled? (String.intercalate " " words))) := by
  have hid : (Text.filled? request.text).filter (fun id => !isFlag id) = some request.text := by
    rw [htidy.filled?, Option.filter_some, hflag]
    rfl
  simp only [send, hid]

/-- Tidy arguments that are no flags are taken as they are. -/
theorem plain_of_tidy {command : String} {rest : List String}
    (h : ∀ argument ∈ rest, isFlag argument = false ∧ Text.Tidy argument) :
    plain command rest = .ok rest := by
  have hblank : ∀ argument ∈ rest, Text.isBlank argument = false :=
    fun argument hmem => Text.isBlank_of_filled? (h argument hmem).2.filled?
  have htrim : rest.map Text.trim = rest :=
    (List.map_congr_left fun argument hmem => (h argument hmem).2.2).trans (List.map_id' rest)
  exact plain_eq_ok_iff.mpr ⟨fun argument hmem => (h argument hmem).1, hblank, htrim.symm⟩

theorem one_of_tidy {name argument : String} (make : String → Command)
    (h : isFlag argument = false ∧ Text.Tidy argument) :
    one name make [argument] = .ok (make argument) :=
  one_eq_ok_iff.mpr ⟨argument, plain_of_tidy (List.forall_mem_singleton.mpr h), rfl⟩

theorem two_of_tidy {name first second : String} (make : String → String → Command)
    (hfirst : isFlag first = false ∧ Text.Tidy first)
    (hsecond : isFlag second = false ∧ Text.Tidy second) :
    two name make [first, second] = .ok (make first second) := by
  have hall : ∀ argument ∈ [first, second], isFlag argument = false ∧ Text.Tidy argument :=
    List.forall_mem_cons.mpr ⟨hfirst, List.forall_mem_singleton.mpr hsecond⟩
  exact two_eq_ok_iff.mpr ⟨first, second, plain_of_tidy hall, rfl⟩

end Arguments

/-- **Every layout of a well-formed command is read as that command**, as long
as its ids do not look like flags. -/
theorem Command.ofArguments_of_layout {command : Command} {arguments : List String}
    (hwell : command.WellFormed) (hids : ∀ id ∈ command.ids, isFlag id = false)
    (h : command.Layout arguments) : ofArguments arguments = .ok command := by
  cases h with
  | board h => exact board_of_saidBy h hwell
  | move h => exact move_of_saidBy h hwell (hids _ (List.mem_singleton_self _))
  | claim request => exact one_of_tidy _ ⟨hids _ (List.mem_singleton_self _), hwell⟩
  | reassign request lawyer =>
      have hrequest := hids _ List.mem_cons_self
      have hlawyer := hids _ (List.mem_cons_of_mem _ (List.mem_singleton_self _))
      exact two_of_tidy _ ⟨hrequest, hwell.1⟩ ⟨hlawyer, hwell.2⟩
  | watch h => exact watch_of_layout h hwell (hids _ (List.mem_singleton_self _))
  | compose request => exact send_of_words hwell.1 (hids _ (List.mem_singleton_self _)) []
  | @send request body words hwords =>
      have hbody : Text.filled? (String.intercalate " " words) = some body := by
        rw [hwords, (hwell.2 body rfl).filled?]
      rw [← hbody]
      exact send_of_words hwell.1 (hids _ (List.mem_singleton_self _)) words
  | templates h => exact templates_of_saidBy h hwell
  | template id => exact one_of_tidy _ ⟨hids _ (List.mem_singleton_self _), hwell⟩
  | nothing => rfl
  | help h =>
      simp only [List.mem_cons, List.not_mem_nil, or_false] at h
      obtain rfl | rfl | rfl := h <;> rfl

/-- **The command line has a grammar.** What is read of it is well formed, and
a well-formed command whose ids do not look like flags is read from each of its
layouts. -/
theorem arguments_match_grammar :
    (∀ (arguments : List String) (command : Command),
        Command.ofArguments arguments = .ok command → command.WellFormed) ∧
      ∀ (command : Command) (arguments : List String), command.WellFormed →
        (∀ id ∈ command.ids, isFlag id = false) → command.Layout arguments →
          Command.ofArguments arguments = .ok command :=
  ⟨fun _ _ => Command.wellFormed_of_arguments, fun _ _ => Command.ofArguments_of_layout⟩

/-- An id is read without the spaces around it. A move is read with its request
between the flags, and a comment may look like a flag. -/
theorem arguments_match_grammar_of_move :
    (Command.watch ⟨"r-1"⟩ false).WellFormed ∧
      Command.ofArguments
          ["move", "--file", "b.pdf", "--comment", "--file", "r-1", "--column", "DONE",
            "--file", "a.pdf", "--important-date", "2026-03-01T10:00:00Z"] =
        .ok (.move ⟨"r-1"⟩ ⟨some .done, none, some "--file", some "2026-03-01T10:00:00Z",
          ["b.pdf", "a.pdf"]⟩) := by
  constructor
  · exact arguments_match_grammar.1 ["watch", " r-1 "] _ rfl
  · have hdetails : MoveDetails.Tidy ⟨some .done, none, some "--file",
        some "2026-03-01T10:00:00Z", ["b.pdf", "a.pdf"]⟩ :=
      ⟨by decide, by decide, by decide, by decide⟩
    refine arguments_match_grammar.2 _ _ ⟨by decide, hdetails, by decide⟩ (by decide) ?_
    have hsaid : MoveDraft.SaidBy
        ⟨some ⟨"r-1"⟩, some .done, none, some "--file", some "2026-03-01T10:00:00Z",
          ["b.pdf", "a.pdf"]⟩
        [.option .file "b.pdf", .option .comment "--file", .word "r-1", .option .column "DONE",
          .option .file "a.pdf", .option .importantDate "2026-03-01T10:00:00Z"] :=
      ⟨rfl, rfl, rfl, rfl, rfl, rfl⟩
    exact .move hsaid

end Docket
