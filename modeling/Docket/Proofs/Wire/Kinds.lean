import Docket.Proofs.Wire.Names
import Docket.Wire.Liveness

/-!
# All that crosses the wire reads back

Every kind of value that crosses the wire, from a topic to a whole workspace,
comes back from the JSON that it is written as, in whatever order the members
of its objects arrive. What is read and written again is therefore in a normal
form, which stands for the same value and is written as it was read.

All of this is about JSON values. On its way such a value is text, and text is
another matter: a number with a fraction may be read with other last digits
than it was written with, and what is nested too deeply is not read at all.

A filter of the board carries JSON of its own, which is taken as it stands. It
comes back from an arranged object if it was arranged itself, as everything in
a payload is.

* `Kind` — the kinds of values, with their codecs.
* `Kind.readsBack` — every kind reads back what it writes.
* `wire_reads_back` — so what is read and written again is in a normal form.
-/

namespace Docket

open Wire Wire.Codec
open Json (Respelling)

variable {spell : Json → Json}

theorem Wire.Codec.readsBack_text? (hspell : Respelling spell) (s? : Option String) :
    text.nullable.ReadsBack spell s? :=
  readsBack_nullable hspell (fun _ h => by cases h) fun s _ => readsBack_text hspell s

theorem Wire.Codec.readsBack_uint32? (hspell : Respelling spell) (n? : Option UInt32) :
    uint32.nullable.ReadsBack spell n? :=
  readsBack_nullable hspell (fun _ h => by cases h) fun n _ => readsBack_uint32 hspell n

theorem Wire.Codec.readsBack_int64? (hspell : Respelling spell) (n? : Option Int64) :
    int64.nullable.ReadsBack spell n? :=
  readsBack_nullable hspell (fun _ h => by cases h) fun n _ => readsBack_int64 hspell n

theorem Ident.readsBack? (hspell : Respelling spell) {kind : Ident.Kind}
    (id? : Option (Ident kind)) : Ident.codec.nullable.ReadsBack spell id? :=
  readsBack_nullable hspell (fun _ h => by cases h) fun id _ => id.readsBack hspell

theorem FieldValue.readsBack? (hspell : Respelling spell) (value? : Option FieldValue) :
    FieldValue.codec.nullable.ReadsBack spell value? :=
  readsBack_nullable hspell (fun _ h => by cases h) fun value _ => value.readsBack hspell

theorem Wire.Codec.readsBack_texts (hspell : Respelling spell) (texts : List String) :
    (Codec.list .text).ReadsBack spell texts :=
  readsBack_list hspell fun s _ => readsBack_text hspell s

theorem Topic.readsBack (hspell : Respelling spell) (t : Topic) :
    Topic.codec.ReadsBack spell t := by
  refine Record.readsBack_codec hspell (by decide) ?_ _
  exact (Spells.start t Topic.mk).needs (t.code.readsBack hspell)
    |>.needs (readsBack_text hspell t.name)

theorem Status.readsBack (hspell : Respelling spell) (s : Status) :
    Status.codec.ReadsBack spell s := by
  refine Record.readsBack_codec hspell (by decide) ?_ _
  exact (Spells.start s Status.mk).needs (s.code.readsBack hspell)
    |>.needs (readsBack_text hspell s.name)
    |>.defaults (Column.readsBack_declared hspell s.column?)
    |>.defaults (readsBack_bool hspell s.terminal)
    |>.defaults (readsBack_int32 hspell s.position)

theorem Edge.readsBack (hspell : Respelling spell) (e : Edge) :
    Edge.codec.ReadsBack spell e := by
  refine Record.readsBack_codec hspell (by decide) ?_ _
  exact (Spells.start e Edge.mk).needs (e.topic.readsBack hspell)
    |>.needs (e.source.readsBack hspell)
    |>.needs (e.target.readsBack hspell)
    |>.optional (readsBack_uint32? hspell e.slaHours?)
    |>.defaults (readsBack_texts hspell e.requiredKeys)
    |>.defaults (readsBack_texts hspell e.requiredTypes)
    |>.defaults (readsBack_bool hspell e.enabled)
    |>.defaults (readsBack_int32 hspell e.position)

theorem Workflow.readsBack (hspell : Respelling spell) (w : Workflow) :
    Workflow.codec.ReadsBack spell w := by
  refine Record.readsBack_codec hspell (by decide) ?_ _
  exact (Spells.start w Workflow.mk).needs (w.topic.readsBack hspell)
    |>.defaults (readsBack_list hspell fun s _ => s.readsBack hspell)
    |>.defaults (readsBack_list hspell fun e _ => e.readsBack hspell)

theorem Offer.readsBack (hspell : Respelling spell) (o : Offer) :
    Offer.codec.ReadsBack spell o := by
  refine Record.readsBack_codec hspell (by decide) ?_ _
  exact (Spells.start o Offer.mk).needs (o.target.readsBack hspell)
    |>.defaults (readsBack_text hspell o.name)
    |>.defaults (Column.readsBack_declared hspell o.column?)

theorem Request.readsBack (hspell : Respelling spell) (r : Request) :
    Request.codec.ReadsBack spell r := by
  refine Record.readsBack_codec hspell (by decide) ?_ _
  exact (Spells.start r Request.mk).needs (r.id.readsBack hspell)
    |>.defaults (readsBack_text hspell r.track)
    |>.needs (r.topic.readsBack hspell)
    |>.needs (r.status.readsBack hspell)
    |>.optional (readsBack_text? hspell r.statusName?)
    |>.nullable (Ident.readsBack? hspell r.assignee?)
    |>.defaults (readsBack_list hspell fun o _ => o.readsBack hspell)
    |>.defaults (Column.readsBack_declared hspell r.column?)
    |>.optional (readsBack_text? hspell r.importantDate?)
    |>.optional (readsBack_text? hspell r.updated?)

theorem Message.readsBack (hspell : Respelling spell) (m : Message) :
    Message.codec.ReadsBack spell m := by
  refine Record.readsBack_codec hspell (by decide) ?_ _
  exact (Spells.start m Message.mk).needs (m.id.readsBack hspell)
    |>.needs (m.request.readsBack hspell)
    |>.defaults (readsBack_text hspell m.author)
    |>.defaults (readsBack_text hspell m.body)
    |>.needs (readsBack_text hspell m.created)
    |>.optional (readsBack_text? hspell m.updated?)

theorem NewMessage.readsBack (hspell : Respelling spell) (m : NewMessage) :
    NewMessage.codec.ReadsBack spell m := by
  refine Record.readsBack_codec hspell (by decide) ?_ _
  exact (Spells.start m NewMessage.mk).needs (readsBack_text hspell m.body)

theorem Attachment.readsBack (hspell : Respelling spell) (a : Attachment) :
    Attachment.codec.ReadsBack spell a := by
  refine Record.readsBack_codec hspell (by decide) ?_ _
  exact (Spells.start a Attachment.mk).needs (a.id.readsBack hspell)
    |>.needs (a.request.readsBack hspell)
    |>.optional (Ident.readsBack? hspell a.message?)
    |>.needs (readsBack_text hspell a.fileName)
    |>.defaults (readsBack_text hspell a.mimeType)
    |>.defaults (readsBack_uint64 hspell a.size)
    |>.needs (readsBack_text hspell a.created)
    |>.optional (readsBack_text? hspell a.updated?)

theorem HistoryEntry.readsBack (hspell : Respelling spell) (e : HistoryEntry) :
    HistoryEntry.codec.ReadsBack spell e := by
  refine Record.readsBack_codec hspell (by decide) ?_ _
  exact (Spells.start e HistoryEntry.mk).needs (e.request.readsBack hspell)
    |>.nullable (Ident.readsBack? hspell e.source?)
    |>.needs (e.target.readsBack hspell)
    |>.needs (readsBack_text hspell e.changed)
    |>.optional (readsBack_text? hspell e.importantDate?)
    |>.optional (readsBack_text? hspell e.comment?)
    |>.optional (readsBack_int64? hspell e.duration?)

theorem Submission.readsBack (hspell : Respelling spell) (s : Submission) :
    Submission.codec.ReadsBack spell s := by
  refine Record.readsBack_codec hspell (by decide) ?_ _
  exact (Spells.start s Submission.mk).needs (s.status.readsBack hspell)
    |>.nullableInObject (readsBack_text? hspell s.importantDate?)
    |>.nullableInObject (readsBack_text? hspell s.comment?)

theorem Receipt.readsBack (hspell : Respelling spell) (r : Receipt) :
    Receipt.codec.ReadsBack spell r := by
  refine Record.readsBack_codec hspell (by decide) ?_ _
  exact (Spells.start r Receipt.mk).needs (r.source.readsBack hspell)
    |>.needs (r.target.readsBack hspell)

theorem RouteStep.readsBack (hspell : Respelling spell) (s : RouteStep) :
    RouteStep.codec.ReadsBack spell s := by
  refine Record.readsBack_codec hspell (by decide) ?_ _
  exact (Spells.start s RouteStep.mk).needs (s.status.readsBack hspell)
    |>.optional (readsBack_text? hspell s.entered?)
    |>.optional (readsBack_text? hspell s.importantDate?)
    |>.optional (readsBack_int64? hspell s.spent?)

theorem Route.readsBack (hspell : Respelling spell) (r : Route) :
    Route.codec.ReadsBack spell r := by
  refine Record.readsBack_codec hspell (by decide) ?_ _
  exact (Spells.start r Route.mk).defaults (readsBack_list hspell fun s _ => s.readsBack hspell)
    |>.needs (r.current.readsBack hspell)
    |>.defaults (readsBack_list hspell fun o _ => o.readsBack hspell)

theorem Workspace.readsBack (hspell : Respelling spell) (w : Workspace) :
    Workspace.codec.ReadsBack spell w := by
  refine Record.readsBack_codec hspell (by decide) ?_ _
  exact (Spells.start w Workspace.mk).needs (w.request.readsBack hspell)
    |>.defaults (readsBack_list hspell fun m _ => m.readsBack hspell)
    |>.defaults (readsBack_list hspell fun a _ => a.readsBack hspell)
    |>.needs (w.route.readsBack hspell)
    |>.defaults (readsBack_list hspell fun e _ => e.readsBack hspell)

/-- A filter comes back when the value that it carries stays as it stands. -/
theorem BoardFilter.readsBack (hspell : Respelling spell) {f : BoardFilter}
    (hvalue : spell f.value = f.value) : BoardFilter.codec.ReadsBack spell f := by
  refine Record.readsBack_codec hspell (by decide) ?_ _
  exact (Spells.start f BoardFilter.mk).needs (readsBack_text hspell f.field)
    |>.needs (readsBack_text hspell f.op)
    |>.needs (congrArg Except.ok hvalue)

theorem BoardQuery.readsBack (hspell : Respelling spell) {q : BoardQuery}
    (hvalues : ∀ f ∈ q.filters, spell f.value = f.value) :
    BoardQuery.codec.ReadsBack spell q := by
  refine Record.readsBack_codec hspell (by decide) ?_ _
  exact (Spells.start q BoardQuery.mk).needs (readsBack_uint32 hspell q.limit)
    |>.defaults (q.order.readsBack hspell)
    |>.defaults (readsBack_list hspell fun f hf => BoardFilter.readsBack hspell (hvalues f hf))

theorem BoardColumn.readsBack (hspell : Respelling spell) (c : BoardColumn) :
    BoardColumn.codec.ReadsBack spell c := by
  refine Record.readsBack_codec hspell (by decide) ?_ _
  exact (Spells.start c BoardColumn.mk).needs (c.column.readsBack hspell)
    |>.defaults (readsBack_text hspell c.label)

theorem Board.readsBack (hspell : Respelling spell) (b : Board) :
    Board.codec.ReadsBack spell b := by
  refine Record.readsBack_codec hspell (by decide) ?_ _
  exact (Spells.start b Board.mk).defaults (readsBack_list hspell fun r _ => r.readsBack hspell)
    |>.defaults (readsBack_list hspell fun c _ => c.readsBack hspell)
    |>.defaults (readsBack_uint64 hspell b.total)
    |>.defaults (readsBack_bool hspell b.truncated)

theorem Row.readsBack (hspell : Respelling spell) (r : Row) : Row.codec.ReadsBack spell r := by
  refine Record.readsBack_codec hspell (by decide) ?_ _
  exact (Spells.start r Row.mk).optional (readsBack_text? hspell r.id?)
    |>.optional (readsBack_text? hspell r.catalogKey?)
    |>.optional (readsBack_text? hspell r.templateItem?)
    |>.needs (readsBack_text hspell r.label)
    |>.defaults (r.kind.readsBack hspell)
    |>.optional (readsBack_text? hspell r.document?)
    |>.defaults (r.fill.readsBack hspell)
    |>.optional (FieldValue.readsBack? hspell r.value?)

theorem CatalogField.readsBack (hspell : Respelling spell) (f : CatalogField) :
    CatalogField.codec.ReadsBack spell f := by
  refine Record.readsBack_codec hspell (by decide) ?_ _
  exact (Spells.start f CatalogField.mk).needs (readsBack_text hspell f.key)
    |>.needs (readsBack_text hspell f.label)
    |>.defaults (f.kind.readsBack hspell)
    |>.optional (readsBack_text? hspell f.document?)

theorem TemplateItem.readsBack (hspell : Respelling spell) (i : TemplateItem) :
    TemplateItem.codec.ReadsBack spell i := by
  refine Record.readsBack_codec hspell (by decide) ?_ _
  exact (Spells.start i TemplateItem.mk).optional (readsBack_text? hspell i.id?)
    |>.optional (readsBack_text? hspell i.key?)
    |>.needs (readsBack_text hspell i.label)
    |>.defaults (i.kind.readsBack hspell)
    |>.optional (readsBack_text? hspell i.document?)

theorem Template.readsBack (hspell : Respelling spell) (t : Template) :
    Template.codec.ReadsBack spell t := by
  refine Record.readsBack_codec hspell (by decide) ?_ _
  exact (Spells.start t Template.mk).optional (Ident.readsBack? hspell t.id?)
    |>.needs (readsBack_text hspell t.name)
    |>.optional (Ident.readsBack? hspell t.topic?)
    |>.defaults (readsBack_list hspell fun i _ => i.readsBack hspell)

theorem TemplateSummary.readsBack (hspell : Respelling spell) (t : TemplateSummary) :
    TemplateSummary.codec.ReadsBack spell t := by
  refine Record.readsBack_codec hspell (by decide) ?_ _
  exact (Spells.start t TemplateSummary.mk).needs (t.id.readsBack hspell)
    |>.needs (readsBack_text hspell t.name)
    |>.optional (Ident.readsBack? hspell t.topic?)

theorem TemplateQuery.readsBack (hspell : Respelling spell) (q : TemplateQuery) :
    TemplateQuery.codec.ReadsBack spell q := by
  refine Record.readsBack_codec hspell (by decide) ?_ _
  exact (Spells.start q TemplateQuery.mk).nullableInObject (Ident.readsBack? hspell q.topic?)
    |>.nullableInObject (readsBack_text? hspell q.search?)

theorem Peer.readsBack (hspell : Respelling spell) (p : Peer) :
    Peer.codec.ReadsBack spell p := by
  refine Record.readsBack_codec hspell (by decide) ?_ _
  exact (Spells.start p Peer.mk).needs (readsBack_text hspell p.label)
    |>.optional (readsBack_text? hspell p.role?)

theorem Liveness.readsBack (hspell : Respelling spell) (l : Liveness) :
    Liveness.codec.ReadsBack spell l := by
  refine Record.readsBack_codec hspell (by decide) ?_ _
  exact (Spells.start l Liveness.mk).nullable (readsBack_text? hspell l.cursor?)
    |>.defaults (readsBack_list hspell fun p _ => p.readsBack hspell)

/-- The kinds of values that cross the wire on their own. -/
inductive Wire.Kind where
  | topic | status | edge | workflow | offer
  | request | message | newMessage | attachment | historyEntry
  | submission | receipt | route | workspace
  | boardQuery | board
  | row | catalogField | templateSummary | template | templateQuery | valueUpdate
  | liveness

namespace Wire.Kind

/-- The values of a kind. -/
def Value : Kind → Type
  | .topic => Topic
  | .status => Status
  | .edge => Edge
  | .workflow => Workflow
  | .offer => Offer
  | .request => Request
  | .message => Message
  | .newMessage => NewMessage
  | .attachment => Attachment
  | .historyEntry => HistoryEntry
  | .submission => Submission
  | .receipt => Receipt
  | .route => Route
  | .workspace => Workspace
  | .boardQuery => BoardQuery
  | .board => Board
  | .row => Row
  | .catalogField => CatalogField
  | .templateSummary => TemplateSummary
  | .template => Template
  | .templateQuery => TemplateQuery
  | .valueUpdate => ValueUpdate
  | .liveness => Liveness

/-- How they are read and written. -/
def codec : (k : Kind) → Codec k.Value
  | .topic => Topic.codec
  | .status => Status.codec
  | .edge => Edge.codec
  | .workflow => Workflow.codec
  | .offer => Offer.codec
  | .request => Request.codec
  | .message => Message.codec
  | .newMessage => NewMessage.codec
  | .attachment => Attachment.codec
  | .historyEntry => HistoryEntry.codec
  | .submission => Submission.codec
  | .receipt => Receipt.codec
  | .route => Route.codec
  | .workspace => Workspace.codec
  | .boardQuery => BoardQuery.codec
  | .board => Board.codec
  | .row => Row.codec
  | .catalogField => CatalogField.codec
  | .templateSummary => TemplateSummary.codec
  | .template => Template.codec
  | .templateQuery => TemplateQuery.codec
  | .valueUpdate => ValueUpdate.codec
  | .liveness => Liveness.codec

/-- JSON that a value carries as it stands keeps its spelling. Only a board
query carries any, in its filters. -/
def Keeps (spell : Json → Json) : (k : Kind) → k.Value → Prop
  | .boardQuery, (q : BoardQuery) => ∀ f ∈ q.filters, spell f.value = f.value
  | _, _ => True

/-- **Every kind reads back what it writes.** -/
theorem readsBack (hspell : Respelling spell) (k : Kind) (v : k.Value) (h : k.Keeps spell v) :
    k.codec.ReadsBack spell v := by
  cases k with
  | topic => exact Topic.readsBack hspell v
  | status => exact Status.readsBack hspell v
  | edge => exact Edge.readsBack hspell v
  | workflow => exact Workflow.readsBack hspell v
  | offer => exact Offer.readsBack hspell v
  | request => exact Request.readsBack hspell v
  | message => exact Message.readsBack hspell v
  | newMessage => exact NewMessage.readsBack hspell v
  | attachment => exact Attachment.readsBack hspell v
  | historyEntry => exact HistoryEntry.readsBack hspell v
  | submission => exact Submission.readsBack hspell v
  | receipt => exact Receipt.readsBack hspell v
  | route => exact Route.readsBack hspell v
  | workspace => exact Workspace.readsBack hspell v
  | boardQuery => exact BoardQuery.readsBack hspell h
  | board => exact Board.readsBack hspell v
  | row => exact Row.readsBack hspell v
  | catalogField => exact CatalogField.readsBack hspell v
  | templateSummary => exact TemplateSummary.readsBack hspell v
  | template => exact Template.readsBack hspell v
  | templateQuery => exact TemplateQuery.readsBack hspell v
  | valueUpdate => exact ValueUpdate.readsBack hspell v
  | liveness => exact Liveness.readsBack hspell v

/-- As it is written, every value comes back, since all keeps its spelling. -/
theorem lawful (k : Kind) : k.codec.Lawful := by
  intro v
  have hkeeps : k.Keeps id v := by
    cases k with
    | boardQuery => exact fun _ _ => rfl
    | _ => trivial
  exact k.readsBack Json.respelling_id v hkeeps

end Wire.Kind

/-- Reads a value and writes it again. -/
def Wire.Codec.rewrite {α : Type} (c : Codec α) (json : Json) : Decoded Json :=
  (c.read json).map c.write

/-- **All that crosses the wire reads back.** Of whatever kind it is, a value
comes back from the JSON that it is written as. It comes back from an object
in ascending order, too, if the JSON that it carries itself is arranged. So
whatever is read and written again is in a normal form: it is read as the same
value, and is written again as it stands. The JSON is the value and not its
text, of which `Json.render` and `Json.parse?` make no such promise. -/
theorem wire_reads_back (k : Wire.Kind) :
    (∀ v, k.codec.read (k.codec.write v) = .ok v) ∧
    (∀ v, k.Keeps Json.arranged v → k.codec.read (k.codec.write v).arranged = .ok v) ∧
    ∀ json normal, k.codec.rewrite json = .ok normal →
      k.codec.read normal = k.codec.read json ∧ k.codec.rewrite normal = .ok normal := by
  refine ⟨k.lawful, fun v hkeeps => k.readsBack Json.respelling_arranged v hkeeps, ?_⟩
  intro json normal hrewrite
  unfold rewrite at hrewrite ⊢
  cases hread : k.codec.read json with
  | error e =>
      rw [hread] at hrewrite
      cases hrewrite
  | ok v =>
      rw [hread] at hrewrite
      cases hrewrite
      have hback : k.codec.read (k.codec.write v) = .ok v := k.lawful v
      rw [hback]
      exact ⟨rfl, rfl⟩

/-- A query whose filter carries an object in ascending order. -/
def overdueQuery : BoardQuery :=
  ⟨50, .importantDate, [⟨"due", "between", .object [("from", .text "2026-03-01"), ("to", .null)]⟩]⟩

/-- The members of a query are written in another order than they arrive, and
it comes back all the same. -/
theorem wire_reads_back_overdue :
    Wire.Kind.Keeps Json.arranged .boardQuery overdueQuery ∧
    (∃ filters limit order, (BoardQuery.codec.write overdueQuery).arranged =
      .object [("filters", filters), ("limit", limit), ("sort_mode", order)]) ∧
    BoardQuery.codec.read (BoardQuery.codec.write overdueQuery).arranged = .ok overdueQuery := by
  have hkeeps : Wire.Kind.Keeps Json.arranged .boardQuery overdueQuery := by
    intro f hf
    cases List.mem_singleton.mp hf
    rfl
  exact ⟨hkeeps, ⟨_, _, _, rfl⟩, (wire_reads_back .boardQuery).2.1 overdueQuery hkeeps⟩

end Docket
