import Docket.Text.Ascii
import Docket.Text.Blank

/-!
# Columns of the board

Every status shows in one of four columns. The server names the column of a
status by a key; where it names none, or one that nobody knows, the column is
guessed from the status code.
-/

namespace Docket

/-- A column of the board. -/
inductive Column where
  | new
  | inProgress
  | waiting
  | done
  deriving DecidableEq

namespace Column

/-- The columns in board order. -/
def all : List Column :=
  [.new, .inProgress, .waiting, .done]

/-- The key that names a column. -/
def key : Column → String
  | .new => "NEW"
  | .inProgress => "IN_PROGRESS"
  | .waiting => "WAITING"
  | .done => "DONE"

/-- The heading of a column to which the server gave none. -/
def heading : Column → String
  | .new => "New"
  | .inProgress => "In progress"
  | .waiting => "Waiting"
  | .done => "Done"

/-- A key without its loose spelling: trimmed, in capitals, with underscores
for dashes and spaces. -/
def plainKey (s : String) : String :=
  Text.asciiUpper <| String.ofList <|
    (Text.trim s).toList.map fun c => if c = '-' ∨ c = ' ' then '_' else c

/-- The column that a key names, loose spelling allowed. -/
def ofKey? (s : String) : Option Column :=
  let k := plainKey s
  if k = "NEW" then some .new
  else if k = "IN_PROGRESS" ∨ k = "INPROGRESS" then some .inProgress
  else if k = "WAITING" then some .waiting
  else if k = "DONE" then some .done
  else none

/-- There is nothing loose in the key of a column. -/
theorem plainKey_key (c : Column) : plainKey c.key = c.key := by
  cases c <;> decide +kernel

/-- A column is read from its key. -/
theorem ofKey?_key (c : Column) : ofKey? c.key = some c := by
  unfold ofKey?
  rw [plainKey_key]
  cases c <;> decide

/-- The column guessed from a status code: `NEW` at the front counts first,
then the words of waiting, then those of an end; all else is in progress. -/
def guess (code : String) : Column :=
  let code := Text.asciiUpper (Text.trim code)
  if Text.startsWith code "NEW" then .new
  else if ["WAIT", "PEND", "HOLD"].any (Text.mentions code) then .waiting
  else if ["CLOSE", "RESOLV", "REJECT", "DONE", "PAID"].any (Text.mentions code) then .done
  else .inProgress

end Column

end Docket
