import Docket.Proofs.Command.Reading

/-!
# What pieces say

Pieces that say the same may differ in their order, so what is taken of them
is told by what they say and not by how they stand. Each piece takes away one
thing that is still to be said, and puts it over what was known: in that form
the induction over the pieces needs no order.

* `BoardView.SaidBy`, `MoveDraft.SaidBy`, `TemplateQuery.SaidBy` — what pieces say.
* `foldlM_takeBoard`, `foldlM_takeMove`, `foldlM_takeTemplates` — pieces are
  taken for what they say.
-/

namespace Docket

open Arguments

theorem Column.tidy_key (column : Column) : Text.Tidy column.key := by
  cases column <;> decide

theorem SortOrder.tidy_key (order : SortOrder) : Text.Tidy order.key := by
  cases order <;> decide

namespace Arguments

deriving instance DecidableEq for BoardFlag, MoveFlag, TemplatesFlag

/-- The name of a flag of the board. -/
def BoardFlag.name : BoardFlag → String
  | .limit => "--limit"
  | .order => "--sort"

/-- The name of a flag of a move. -/
def MoveFlag.name : MoveFlag → String
  | .column => "--column"
  | .status => "--status"
  | .comment => "--comment"
  | .importantDate => "--important-date"
  | .file => "--file"

/-- The name of a flag of the list of templates. -/
def TemplatesFlag.name : TemplatesFlag → String
  | .topic => "--topic"
  | .search => "--search"

@[simp] theorem BoardFlag.ofName?_name (flag : BoardFlag) :
    BoardFlag.ofName? flag.name = some flag := by
  cases flag <;> rfl

@[simp] theorem MoveFlag.ofName?_name (flag : MoveFlag) :
    MoveFlag.ofName? flag.name = some flag := by
  cases flag <;> rfl

@[simp] theorem TemplatesFlag.ofName?_name (flag : TemplatesFlag) :
    TemplatesFlag.ofName? flag.name = some flag := by
  cases flag <;> rfl

/-- What does not look like a flag is not the name of one. -/
theorem MoveFlag.ofName?_of_isFlag {text : String} (h : isFlag text = false) :
    MoveFlag.ofName? text = none := by
  unfold MoveFlag.ofName?
  split
  case h_6 => rfl
  all_goals exact absurd h (by decide)

/-- Pieces that say how the board is to be shown. -/
structure BoardView.SaidBy (view : BoardView) (pieces : List (Piece BoardFlag)) : Prop where
  words : wordsOf pieces = []
  limit : given .limit pieces = view.limit?.toList.map fun limit => toString limit.toNat
  order : given .order pieces = view.order?.toList.map SortOrder.key

/-- What is said goes over what was known. -/
def BoardView.over (said view : BoardView) : BoardView :=
  ⟨said.limit?.or view.limit?, said.order?.or view.order?⟩

theorem BoardView.over_none (view : BoardView) : view.over ⟨none, none⟩ = view := by
  simp only [BoardView.over, Option.or_none]

theorem takeBoard_limit (view : BoardView) {limit : UInt32} (h : 1 ≤ limit) :
    takeBoard view (.option .limit (toString limit.toNat)) =
      .ok { view with limit? := some limit } := by
  have hpos : 1 ≤ limit.toNat := UInt32.le_iff_toNat_le.mp h
  obtain ⟨n, hn⟩ : ∃ n, limit.toNat = n + 1 := ⟨limit.toNat - 1, by omega⟩
  have hread : Text.number? UInt32.size (toString limit.toNat) = some (n + 1) := by
    rw [Text.number?_toString limit.toNat_lt, hn]
  have hlimit : UInt32.ofNat (n + 1) = limit := by
    rw [← hn, UInt32.ofNat_toNat]
  simp only [takeBoard, hread, hlimit]

theorem takeBoard_order (view : BoardView) (order : SortOrder) :
    takeBoard view (.option .order order.key) = .ok { view with order? := some order } := by
  simp only [takeBoard, SortOrder.ofKey?_key]

/-- Pieces are taken for what they say of the board. -/
theorem foldlM_takeBoard {pieces : List (Piece BoardFlag)} {said : BoardView}
    (h : said.SaidBy pieces) (hlimit : ∀ limit ∈ said.limit?, 1 ≤ limit) (view : BoardView) :
    pieces.foldlM takeBoard view = .ok (said.over view) := by
  induction pieces generalizing said view with
  | nil =>
      obtain ⟨limit?, order?⟩ := said
      obtain rfl : limit? = none := eq_none_of_toList_map h.limit.symm
      obtain rfl : order? = none := eq_none_of_toList_map h.order.symm
      rfl
  | cons piece rest ih =>
      obtain ⟨limit?, order?⟩ := said
      rw [List.foldlM_cons]
      cases piece with
      | word text => cases h.words
      | option flag value =>
          cases flag with
          | limit =>
              obtain ⟨limit, rfl, rfl, hrest⟩ := cons_eq_toList_map h.limit
              rw [takeBoard_limit view (hlimit limit rfl)]
              have hsaid : BoardView.SaidBy ⟨none, order?⟩ rest := ⟨h.words, hrest, h.order⟩
              exact ih hsaid nofun _
          | order =>
              obtain ⟨order, rfl, rfl, hrest⟩ := cons_eq_toList_map h.order
              rw [takeBoard_order]
              have hsaid : BoardView.SaidBy ⟨limit?, none⟩ rest := ⟨h.words, h.limit, hrest⟩
              exact ih hsaid hlimit _

/-- What is said of the board can stand on a command line. -/
theorem BoardView.SaidBy.fits {view : BoardView} {pieces : List (Piece BoardFlag)}
    (h : view.SaidBy pieces) : ∀ piece ∈ pieces, piece.Fits BoardFlag.ofName? := by
  rintro (⟨flag, value⟩ | text) hpiece
  · have hvalue := mem_given hpiece
    cases flag with
    | limit =>
        rw [h.limit] at hvalue
        obtain ⟨limit, -, rfl⟩ := List.mem_map.mp hvalue
        exact Text.tidy_toString limit.toNat
    | order =>
        rw [h.order] at hvalue
        obtain ⟨order, -, rfl⟩ := List.mem_map.mp hvalue
        exact order.tidy_key
  · have hword := mem_wordsOf hpiece
    rw [h.words] at hword
    cases hword

/-- Pieces that say what a move is to do: the request is the only word, and every
flag has its value, files in their order. -/
structure MoveDraft.SaidBy (draft : MoveDraft) (pieces : List (Piece MoveFlag)) : Prop where
  words : wordsOf pieces = draft.request?.toList.map Ident.text
  column : given .column pieces = draft.details.column?.toList.map Column.key
  status : given .status pieces = draft.details.status?.toList.map Ident.text
  comment : given .comment pieces = draft.details.comment?.toList
  date : given .importantDate pieces = draft.details.importantDate?.toList
  files : given .file pieces = draft.details.files

/-- What is said goes over what was known, and files are added to those known. -/
def MoveDraft.over (said draft : MoveDraft) : MoveDraft where
  request? := said.request?.or draft.request?
  details :=
    { column? := said.details.column?.or draft.details.column?
      status? := said.details.status?.or draft.details.status?
      comment? := said.details.comment?.or draft.details.comment?
      importantDate? := said.details.importantDate?.or draft.details.importantDate?
      files := draft.details.files ++ said.details.files }

theorem MoveDraft.over_none (draft : MoveDraft) : draft.over ⟨none, .none⟩ = draft := by
  simp only [MoveDraft.over, MoveDetails.none, Option.or_none, List.nil_append]

/-- The draft with one more file. -/
def MoveDraft.withFile (draft : MoveDraft) (file : String) : MoveDraft :=
  { draft with details := { draft.details with files := draft.details.files ++ [file] } }

/-- A file that was known comes before all that are said. -/
theorem MoveDraft.over_withFile (said draft : MoveDraft) (file : String) :
    said.over (draft.withFile file) =
      MoveDraft.over
        { said with details := { said.details with files := file :: said.details.files } }
        draft := by
  simp only [MoveDraft.over, MoveDraft.withFile, List.append_assoc, List.singleton_append]

theorem takeMove_word {draft : MoveDraft} {text : String} {request : RequestId}
    (h : takeRequest draft.request? text = .ok request) :
    takeMove draft (.word text) = .ok { draft with request? := some request } :=
  Usage.bind_eq_ok_iff.mpr ⟨request, h, rfl⟩

theorem takeMove_option {draft : MoveDraft} {flag : MoveFlag} {value : String}
    {details : MoveDetails} (h : setDetail draft.details value flag = .ok details) :
    takeMove draft (.option flag value) = .ok { draft with details } :=
  Usage.bind_eq_ok_iff.mpr ⟨details, h, rfl⟩

theorem setDetail_column (details : MoveDetails) (column : Column) :
    setDetail details column.key .column = .ok { details with column? := some column } := by
  simp only [setDetail, Column.ofKey?_key]

theorem setDetail_date (details : MoveDetails) {date : String} (h : Stamp.IsText date) :
    setDetail details date .importantDate = .ok { details with importantDate? := some date } := by
  rw [setDetail]
  exact if_pos h

/-- Pieces are taken for what they say of a move. The request is a word that
no flag takes, and it is said once. -/
theorem foldlM_takeMove {pieces : List (Piece MoveFlag)} {said : MoveDraft}
    (h : said.SaidBy pieces)
    (hrequest : ∀ request ∈ said.request?, isFlag request.text = false ∧ Text.Tidy request.text)
    (hdate : ∀ date ∈ said.details.importantDate?, Stamp.IsText date) {draft : MoveDraft}
    (honce : said.request? = none ∨ draft.request? = none) :
    pieces.foldlM takeMove draft = .ok (said.over draft) := by
  induction pieces generalizing said draft with
  | nil =>
      obtain ⟨request?, column?, status?, comment?, date?, files⟩ := said
      obtain rfl : request? = none := eq_none_of_toList_map h.words.symm
      obtain rfl : column? = none := eq_none_of_toList_map h.column.symm
      obtain rfl : status? = none := eq_none_of_toList_map h.status.symm
      obtain rfl : comment? = none := Option.toList_eq_nil_iff.mp h.comment.symm
      obtain rfl : date? = none := Option.toList_eq_nil_iff.mp h.date.symm
      obtain rfl : files = [] := h.files.symm
      simp only [MoveDraft.over, Option.none_or, List.append_nil]
      rfl
  | cons piece rest ih =>
      obtain ⟨request?, column?, status?, comment?, date?, files⟩ := said
      rw [List.foldlM_cons]
      cases piece with
      | word text =>
          obtain ⟨request, rfl, rfl, hrest⟩ := cons_eq_toList_map h.words
          obtain ⟨hflag, htidy⟩ := hrequest request rfl
          -- no request is known yet, or the second one would be a stray argument
          have hnone : draft.request? = none := honce.resolve_left nofun
          rw [takeMove_word (takeRequest_eq_ok_iff.mpr ⟨hflag, hnone, htidy.filled?⟩)]
          have hsaid : MoveDraft.SaidBy ⟨none, column?, status?, comment?, date?, files⟩ rest :=
            ⟨hrest, h.column, h.status, h.comment, h.date, h.files⟩
          exact ih hsaid nofun hdate (.inl rfl)
      | option flag value =>
          cases flag with
          | column =>
              obtain ⟨column, rfl, rfl, hrest⟩ := cons_eq_toList_map h.column
              rw [takeMove_option (setDetail_column draft.details column)]
              have hsaid : MoveDraft.SaidBy ⟨request?, none, status?, comment?, date?, files⟩
                  rest := ⟨h.words, hrest, h.status, h.comment, h.date, h.files⟩
              exact ih hsaid hrequest hdate honce
          | status =>
              obtain ⟨status, rfl, rfl, hrest⟩ := cons_eq_toList_map h.status
              -- a status is taken as it stands, and so is a comment
              have hsaid : MoveDraft.SaidBy ⟨request?, column?, none, comment?, date?, files⟩
                  rest := ⟨h.words, h.column, hrest, h.comment, h.date, h.files⟩
              exact ih hsaid hrequest hdate honce
          | comment =>
              obtain ⟨rfl, hrest⟩ := cons_eq_toList h.comment
              have hsaid : MoveDraft.SaidBy ⟨request?, column?, status?, none, date?, files⟩
                  rest := ⟨h.words, h.column, h.status, hrest, h.date, h.files⟩
              exact ih hsaid hrequest hdate honce
          | importantDate =>
              obtain ⟨rfl, hrest⟩ := cons_eq_toList h.date
              rw [takeMove_option (setDetail_date draft.details (hdate value rfl))]
              have hsaid : MoveDraft.SaidBy ⟨request?, column?, status?, comment?, none, files⟩
                  rest := ⟨h.words, h.column, h.status, h.comment, hrest, h.files⟩
              exact ih hsaid hrequest nofun honce
          | file =>
              obtain rfl : value :: given .file rest = files := h.files
              have hsaid : MoveDraft.SaidBy
                  ⟨request?, column?, status?, comment?, date?, given .file rest⟩ rest :=
                ⟨h.words, h.column, h.status, h.comment, h.date, rfl⟩
              have htaken : rest.foldlM takeMove (draft.withFile value) = _ :=
                ih hsaid hrequest hdate honce
              rw [MoveDraft.over_withFile] at htaken
              exact htaken

/-- What is said of a move can stand on a command line. -/
theorem MoveDraft.SaidBy.fits {draft : MoveDraft} {pieces : List (Piece MoveFlag)}
    (h : draft.SaidBy pieces) (htidy : draft.details.Tidy)
    (hflag : ∀ request ∈ draft.request?, isFlag request.text = false) :
    ∀ piece ∈ pieces, piece.Fits MoveFlag.ofName? := by
  rintro (⟨flag, value⟩ | text) hpiece
  · have hvalue := mem_given hpiece
    cases flag with
    | column =>
        rw [h.column] at hvalue
        obtain ⟨column, -, rfl⟩ := List.mem_map.mp hvalue
        exact column.tidy_key
    | status =>
        rw [h.status] at hvalue
        obtain ⟨status, hstatus, rfl⟩ := List.mem_map.mp hvalue
        exact htidy.status status (Option.mem_toList.mp hstatus)
    | comment =>
        rw [h.comment] at hvalue
        exact htidy.comment value (Option.mem_toList.mp hvalue)
    | importantDate =>
        rw [h.date] at hvalue
        exact (htidy.date value (Option.mem_toList.mp hvalue)).1
    | file =>
        rw [h.files] at hvalue
        exact htidy.files value hvalue
  · have hword := mem_wordsOf hpiece
    rw [h.words] at hword
    obtain ⟨request, hrequest, rfl⟩ := List.mem_map.mp hword
    exact MoveFlag.ofName?_of_isFlag (hflag request (Option.mem_toList.mp hrequest))

end Arguments

/-- Pieces that say which templates to list. -/
structure TemplateQuery.SaidBy (query : TemplateQuery) (pieces : List (Piece TemplatesFlag)) :
    Prop where
  words : wordsOf pieces = []
  topic : given .topic pieces = query.topic?.toList.map Ident.text
  search : given .search pieces = query.search?.toList

/-- What is said goes over what was known. -/
def TemplateQuery.over (said query : TemplateQuery) : TemplateQuery :=
  ⟨said.topic?.or query.topic?, said.search?.or query.search?⟩

theorem TemplateQuery.over_none (query : TemplateQuery) : query.over ⟨none, none⟩ = query := by
  simp only [TemplateQuery.over, Option.or_none]

/-- What is said of the templates can stand on a command line. -/
theorem TemplateQuery.SaidBy.fits {query : TemplateQuery} {pieces : List (Piece TemplatesFlag)}
    (h : query.SaidBy pieces) (hwell : (Command.templates query).WellFormed) :
    ∀ piece ∈ pieces, piece.Fits TemplatesFlag.ofName? := by
  obtain ⟨htopic, hsearch⟩ := hwell
  rintro (⟨flag, value⟩ | text) hpiece
  · have hvalue := mem_given hpiece
    cases flag with
    | topic =>
        rw [h.topic] at hvalue
        obtain ⟨topic, hmem, rfl⟩ := List.mem_map.mp hvalue
        exact htopic topic (Option.mem_toList.mp hmem)
    | search =>
        rw [h.search] at hvalue
        exact hsearch value (Option.mem_toList.mp hvalue)
  · have hword := mem_wordsOf hpiece
    rw [h.words] at hword
    cases hword

namespace Arguments

/-- Pieces are taken for what they say of the templates. -/
theorem foldlM_takeTemplates {pieces : List (Piece TemplatesFlag)} {said : TemplateQuery}
    (h : said.SaidBy pieces) (query : TemplateQuery) :
    pieces.foldlM takeTemplates query = .ok (said.over query) := by
  induction pieces generalizing said query with
  | nil =>
      obtain ⟨topic?, search?⟩ := said
      obtain rfl : topic? = none := eq_none_of_toList_map h.topic.symm
      obtain rfl : search? = none := Option.toList_eq_nil_iff.mp h.search.symm
      rfl
  | cons piece rest ih =>
      obtain ⟨topic?, search?⟩ := said
      rw [List.foldlM_cons]
      cases piece with
      | word text => cases h.words
      | option flag value =>
          cases flag with
          | topic =>
              obtain ⟨topic, rfl, rfl, hrest⟩ := cons_eq_toList_map h.topic
              have hsaid : TemplateQuery.SaidBy ⟨none, search?⟩ rest :=
                ⟨h.words, hrest, h.search⟩
              exact ih hsaid _
          | search =>
              obtain ⟨rfl, hrest⟩ := cons_eq_toList h.search
              have hsaid : TemplateQuery.SaidBy ⟨topic?, none⟩ rest := ⟨h.words, h.topic, hrest⟩
              exact ih hsaid _

end Arguments
end Docket
