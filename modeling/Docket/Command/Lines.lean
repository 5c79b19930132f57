import Docket.Errand
import Docket.Watch.Notice

/-!
# What commands print

The lines in which the desk shows requests, boards, routes and templates, and
the help text.
-/

namespace Docket

/-- Who is assigned, or the word for nobody. -/
def Request.assigneeText (r : Request) : String :=
  match r.assignee?.filter fun lawyer => !lawyer.isBlank with
  | some lawyer => lawyer.text
  | none => "unassigned"

/-- The request as one line. -/
def Request.line (r : Request) : String :=
  String.intercalate "  " [r.label, r.topic.text, r.statusName?.getD r.status.text, r.assigneeText]

/-- A lane with its requests. -/
def Lane.lines (lane : Lane) : List String :=
  ("== " ++ lane.head.label ++ " (" ++ toString lane.rows.length ++ ") ==")
    :: lane.rows.map fun r => "  " ++ r.line

/-- All lanes of the board. -/
def Board.lines (b : Board) : List String :=
  b.lanes.flatMap Lane.lines

/-- The remark that the server holds more than the board shows. -/
def Board.remarkLines (b : Board) : List String :=
  if b.truncated then
    ["showing " ++ toString b.rows.length ++ " of " ++ toString b.total
      ++ " requests; raise --limit to see more"]
  else []

/-- One step of a route, with the whole hours that were spent there. -/
def RouteStep.line (step : RouteStep) : String :=
  "  " ++ step.status.text
    ++ match step.spent? with
      | some seconds => " (" ++ toString (seconds / 3600) ++ "h)"
      | none => ""

/-- The statuses to which a route may go on. -/
def Route.nextLines (route : Route) : List String :=
  if route.next.isEmpty then []
  else ["  next: " ++ String.intercalate ", " (route.next.map fun o => o.target.text)]

/-- A route step by step, and where it may go on. -/
def Route.lines (route : Route) : List String :=
  route.steps.map RouteStep.line ++ route.nextLines

/-- A change of status with what followed. -/
def Receipt.line (receipt : Receipt) (r : Request) : String :=
  r.label ++ ": " ++ receipt.source.text ++ " -> " ++ receipt.target.text

/-- A template as it is listed. -/
def TemplateSummary.line (t : TemplateSummary) : String :=
  t.id.text ++ "  " ++ t.name ++ "  ("
    ++ (match t.topic? with | some topic => topic.text | none => "any topic") ++ ")"

/-- The templates that were found. -/
def templateLines (found : List TemplateSummary) : List String :=
  if found.isEmpty then ["no templates found"] else found.map TemplateSummary.line

/-- What is asked for in a row: the kind of value, or the document. -/
def Row.kindText (row : Row) : String :=
  match row.kind, row.document? with
  | .file, some document => "file: " ++ document
  | kind, _ => kind.name

/-- A number at the right of three places. -/
def placed (n : Nat) : String :=
  let digits := (toString n).toList
  String.ofList (List.replicate (3 - digits.length) ' ' ++ digits)

/-- A template with its rows, numbered from one. -/
def Template.lines (t : Template) : List String :=
  t.name :: t.rows.mapIdx fun i row =>
    placed (i + 1) ++ ". " ++ row.label ++ " [" ++ row.kindText ++ "]"

/-- The help text. -/
def usageLines : List String :=
  ["Usage: caseflow <command> [options]",
   "",
   "  board [--limit N] [--sort updated_desc|created_asc|important_date]",
   "  move <request-id> (--column NEW|IN_PROGRESS|WAITING|DONE | --status CODE)",
   "       [--comment TEXT] [--important-date RFC3339] [--file PATH]...",
   "       (asks which status to use when several fit the column)",
   "  claim <request-id>",
   "  reassign <request-id> <lawyer-id>",
   "  watch <request-id> [--hidden]   (lines typed on stdin are posted as replies)",
   "  send <request-id> [message...]   (reads the message from stdin when omitted)",
   "  templates [--topic CODE] [--search TEXT]",
   "  template <template-id>",
   "",
   "Configuration is read from CASEFLOW_CONFIG (default ~/.config/caseflow/config.toml).",
   "The API token is read from CASEFLOW_API_TOKEN."]

end Docket
