import Docket.Wire.Workspace

/-!
# The board on the wire

What is asked for a board and what the server sends. A filter may carry any
JSON value. The column of a lane is named exactly.
-/

namespace Docket

open Wire

/-- A condition on requests. -/
def BoardFilter.codec : Codec BoardFilter :=
  (Record.start BoardFilter.mk
    |>.needs "field" BoardFilter.field .text
    |>.needs "op" BoardFilter.op .text
    |>.needs "value" BoardFilter.value .json).codec "BoardFilter"

/-- Which requests the board is to show. -/
def BoardQuery.codec : Codec BoardQuery :=
  (Record.start BoardQuery.mk
    |>.needs "limit" BoardQuery.limit .uint32
    |>.defaults "sort_mode" BoardQuery.order SortOrder.codec .updatedDesc
    |>.defaults "filters" BoardQuery.filters (.list BoardFilter.codec) []).codec "BoardQuery"

/-- A column as the server heads it. -/
def BoardColumn.codec : Codec BoardColumn :=
  (Record.start BoardColumn.mk
    |>.needs "group" BoardColumn.column Column.codec
    |>.defaults "label" BoardColumn.label .text "").codec "KanbanColumn"

/-- The requests of the board and its columns. -/
def Board.codec : Codec Board :=
  (Record.start Board.mk
    |>.defaults "rows" Board.rows (.list Request.codec) []
    |>.defaults "columns" Board.columns (.list BoardColumn.codec) []
    |>.defaults "total" Board.total .uint64 0
    |>.defaults "truncated" Board.truncated .bool false).codec "KanbanBoard"

end Docket
