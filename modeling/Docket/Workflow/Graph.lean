import Docket.Failure
import Docket.Text.Lowercase

/-!
# The graph of a workflow

A workflow whose edges all belong to its topic, name both their ends and, as
far as they are enabled, are told apart by their ends. Edges are kept in
order of position and then of target. Disabled edges stay in the graph and no
question about moves sees them. A terminal status offers no moves.
-/

namespace Docket

/-- The checked workflow of a topic. -/
structure Graph where
  topic : TopicCode
  statuses : List Status
  edges : List Edge

namespace Graph

/-- What is wrong with the edges of a topic, met from front to back; `taken`
holds the ends of the enabled edges that came before. -/
def checkEdges (topic : TopicCode) :
    (taken : List (StatusCode × StatusCode)) → List Edge → Outcome Unit
  | _, [] => .ok ()
  | taken, e :: rest =>
      if e.topic ≠ topic then .error (.invalid (.foreignEdge e.source e.target e.topic topic))
      else if e.source.isBlank ∨ e.target.isBlank then .error (.invalid (.blankEdge topic))
      else if e.enabled then
        if (e.source, e.target) ∈ taken then
          .error (.invalid (.repeatedEdge topic e.source e.target))
        else checkEdges topic ((e.source, e.target) :: taken) rest
      else checkEdges topic taken rest

/-- The order of edges: by position, then by target. -/
def edgeBefore (a b : Edge) : Bool :=
  a.position < b.position || (a.position == b.position && a.target.text ≤ b.target.text)

/-- The graph of a topic with these statuses and edges. -/
def build (topic : TopicCode) (statuses : List Status) (edges : List Edge) : Outcome Graph :=
  if topic.isBlank then .error (.invalid .noTopic)
  else (checkEdges topic [] edges).map fun _ => ⟨topic, statuses, edges.mergeSort edgeBefore⟩

/-- The graph of a workflow on record. -/
def ofWorkflow (w : Workflow) : Outcome Graph :=
  build w.topic.code w.statuses w.edges

/-- The record of a status; of several the last counts. -/
def status? (g : Graph) (code : StatusCode) : Option Status :=
  g.statuses.reverse.find? fun s => s.code = code

/-- The name of a status, or its code when it is not on record. -/
def statusName (g : Graph) (code : StatusCode) : String :=
  ((g.status? code).map Status.name).getD code.text

/-- The column of a status, guessed from its code when it is not on record. -/
def column (g : Graph) (code : StatusCode) : Column :=
  ((g.status? code).map Status.column).getD (.guess code.text)

/-- No request leaves the status. -/
def isTerminal (g : Graph) (code : StatusCode) : Bool :=
  ((g.status? code).map Status.terminal).getD false

/-- The enabled edge between two statuses. -/
def edge? (g : Graph) (source target : StatusCode) : Option Edge :=
  g.edges.find? fun e => e.enabled && e.source == source && e.target == target

/-- The enabled edges that leave a status, in order. -/
def outgoing (g : Graph) (source : StatusCode) : List Edge :=
  if g.isTerminal source then []
  else g.edges.filter fun e => e.enabled && e.source == source

/-- The moves that are open from a status. -/
def offers (g : Graph) (source : StatusCode) : List Offer :=
  (g.outgoing source).map fun e => ⟨e.target, g.statusName e.target, some (g.column e.target)⟩

/-- A data key without its case and the white space around it. -/
def plainKey (key : String) : String :=
  Text.lowercase (Text.trim key)

/-- A file type meets a pattern. `*` and `*/*` are met by any, `kind/*` by all
types of that kind, and any other pattern by itself; case does not count. -/
def typeMeets (pattern type : String) : Bool :=
  let pattern := (Text.asciiLower (Text.trim pattern)).toList
  let type := (Text.asciiLower (Text.trim type)).toList
  if pattern = ['*'] ∨ pattern = ['*', '/', '*'] then true
  else
    match pattern.reverse with
    | '*' :: '/' :: kind => type.contains '/' && type.takeWhile (· ≠ '/') == kind.reverse
    | _ => pattern == type

/-- The keys that an edge asks for and that are not filled, trimmed. -/
def missingKeys (e : Edge) (filled : List String) : List String :=
  (e.requiredKeys.filter fun key =>
    !Text.isBlank key && !(filled.map plainKey).contains (plainKey key)).map Text.trim

/-- The patterns that an edge asks for and no file meets, trimmed. -/
def unmetTypes (e : Edge) (types : List String) : List String :=
  (e.requiredTypes.filter fun pattern =>
    !Text.isBlank pattern && !types.any (typeMeets pattern)).map Text.trim

/-- The edge may be taken with these keys filled and files of these types. -/
def checkRequirements (g : Graph) (source target : StatusCode) (filled types : List String) :
    Outcome Unit :=
  match g.edge? source target with
  | none => .error (.invalid (.noEdge source target g.topic))
  | some e =>
      let keys := missingKeys e filled
      let patterns := unmetTypes e types
      if keys.isEmpty && patterns.isEmpty then .ok ()
      else .error (.invalid (.unmet source target keys patterns))

end Graph

end Docket
