import Docket.Actor
import Docket.Text.Lowercase

/-!
# Rows of requested data

A sheet asks the other party for data, one row a field. A row may come from
the catalog, from a saved template or from hand, and two rows count as the
same field when they have the same identity: the catalog key without its
case, else the template item, else the label without its case.
-/

namespace Docket

/-- What kind of data a field holds. -/
inductive FieldKind where
  | string
  | text
  | date
  | number
  | file
  deriving DecidableEq

namespace FieldKind

/-- The kinds in the order in which they are listed. -/
def all : List FieldKind :=
  [.string, .text, .date, .number, .file]

/-- The name of a kind. -/
def name : FieldKind → String
  | .string => "string"
  | .text => "text"
  | .date => "date"
  | .number => "number"
  | .file => "file"

end FieldKind

/-- Whether a row has been filled, and by whom. -/
inductive Fill where
  | pending
  | filled (side : Side)
  deriving DecidableEq

/-- What a row was filled with. -/
inductive FieldValue where
  | text (value : String)
  | attachment (id : AttachmentId)
  deriving DecidableEq

/-- One requested field. -/
structure Row where
  id? : Option String
  catalogKey? : Option String
  templateItem? : Option String
  label : String
  kind : FieldKind
  document? : Option String
  fill : Fill
  value? : Option FieldValue
  deriving DecidableEq

/-- A field of the catalog. -/
structure CatalogField where
  key : String
  label : String
  kind : FieldKind
  document? : Option String

/-- A saved template as it is listed. -/
structure TemplateSummary where
  id : TemplateId
  name : String
  topic? : Option TopicCode

/-- One field of a saved template. -/
structure TemplateItem where
  id? : Option String
  key? : Option String
  label : String
  kind : FieldKind
  document? : Option String
  deriving DecidableEq

/-- A saved set of fields, in the order in which they are asked. -/
structure Template where
  id? : Option TemplateId
  name : String
  topic? : Option TopicCode
  items : List TemplateItem

/-- Which templates are to be listed. -/
structure TemplateQuery where
  topic? : Option TopicCode
  search? : Option String

/-- To which field a value is written: to the row that the server knows by an
id, or to the field of an identity. -/
inductive ValueTarget where
  | row (id : String)
  | field (key : String)
  deriving DecidableEq

/-- One value to be written. -/
structure ValueUpdate where
  target : ValueTarget
  value : FieldValue
  deriving DecidableEq

namespace Row

/-- What makes two rows the same field. -/
def identity (row : Row) : String :=
  match row.catalogKey?.bind Text.filled?, row.templateItem?.bind Text.filled? with
  | some key, _ => Text.lowercase key
  | none, some item => item
  | none, none => Text.lowercase (Text.trim row.label)

/-- The row was filled by the other side, so this one may neither move nor
remove it. -/
def isLockedFor (row : Row) (viewer : Side) : Bool :=
  match row.fill with
  | .filled side => side ≠ viewer
  | .pending => false

/-- An empty row. -/
def blank (label : String) (kind : FieldKind) (document? : Option String) : Row :=
  ⟨none, none, none, label, kind, document?, .pending, none⟩

/-- The row that asks for a field of the catalog. -/
def ofCatalog (field : CatalogField) : Row :=
  { blank field.label field.kind field.document? with
    catalogKey? := some (Text.trim field.key) }

/-- The row that asks for an item of a template. -/
def ofItem (item : TemplateItem) : Row :=
  { blank item.label item.kind item.document? with
    catalogKey? := item.key?.bind Text.filled?
    templateItem? := item.id?.bind Text.filled? }

/-- The template item that asks for the same field as a row. -/
def toItem (row : Row) : TemplateItem where
  id? := row.templateItem?.bind Text.filled?
  key? := row.catalogKey?.bind Text.filled?
  label := row.label
  kind := row.kind
  document? := row.document?

/-- The value of a row with the field to which it is written. -/
def update? (row : Row) : Option ValueUpdate :=
  row.value?.map fun value =>
    match row.id?.bind Text.filled? with
    | some id => ⟨.row id, value⟩
    | none => ⟨.field row.identity, value⟩

end Row

/-- The rows of a template. -/
def Template.rows (t : Template) : List Row :=
  t.items.map Row.ofItem

end Docket
