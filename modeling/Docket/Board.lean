import Docket.Json.Basic
import Docket.Request

/-!
# The board

The board shows requests in lanes, one for each column that the server sends,
or one for each of the four columns when it sends none. A request goes into
the first lane of the column in which it stands, and nowhere when there is no
such lane.
-/

namespace Docket

/-- The order in which the server lists requests. -/
inductive SortOrder where
  | updatedDesc
  | createdAsc
  | importantDate
  deriving DecidableEq

namespace SortOrder

/-- The orders in which they are listed. -/
def all : List SortOrder :=
  [.updatedDesc, .createdAsc, .importantDate]

/-- The key that names an order. -/
def key : SortOrder → String
  | .updatedDesc => "updated_desc"
  | .createdAsc => "created_asc"
  | .importantDate => "important_date"

/-- The order that a key names, in any case and with white space around it. -/
def ofKey? (s : String) : Option SortOrder :=
  let k := Text.asciiLower (Text.trim s)
  all.find? fun order => order.key = k

/-- An order is read from its key. -/
@[simp] theorem ofKey?_key (order : SortOrder) : ofKey? order.key = some order := by
  cases order <;> decide

end SortOrder

/-- A condition on the requests that the board shows. -/
structure BoardFilter where
  field : String
  op : String
  value : Json

/-- Which requests the board is to show. -/
structure BoardQuery where
  limit : UInt32
  order : SortOrder
  filters : List BoardFilter

/-- A column as the server heads it. -/
structure BoardColumn where
  column : Column
  label : String

/-- The requests of the board and its columns. -/
structure Board where
  rows : List Request
  columns : List BoardColumn
  total : UInt64
  /-- The server holds more requests than it sent. -/
  truncated : Bool

/-- A column of the board with the requests that it shows. -/
structure Lane where
  head : BoardColumn
  rows : List Request

namespace Board

/-- The columns that the board shows. -/
def heads (b : Board) : List BoardColumn :=
  if b.columns.isEmpty then Column.all.map fun c => ⟨c, c.heading⟩ else b.columns

/-- Lanes under these columns; `taken` holds the columns that already have a
lane. -/
def lanesUnder (rows : List Request) (taken : List Column) : List BoardColumn → List Lane
  | [] => []
  | head :: rest =>
      ⟨head, if head.column ∈ taken then [] else rows.filter fun r => r.column = head.column⟩
        :: lanesUnder rows (head.column :: taken) rest

/-- The lanes of the board. -/
def lanes (b : Board) : List Lane :=
  lanesUnder b.rows [] b.heads

end Board

end Docket
