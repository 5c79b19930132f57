import Docket.Wire.Names
import Docket.Wire.Record

/-!
# Sheets on the wire

Rows, templates and values of requested data. Whether a row is filled is an
object with a tag. A value is told by the member that it has, and so is the
field to which it is written; an update is one flat object that carries both.
-/

namespace Docket

open Wire

namespace Fill

/-- The tags that say whether a row is filled. -/
def tags : List String :=
  ["pending", "filled"]

/-- The side behind a tag. Unlike other names it may also be the only key of an
object with an empty object behind it. -/
def readSide : Json → Decoded Side
  | .object [(name, .object [])] => Side.codec.read (.text name)
  | value => Side.codec.read value

/-- The tag of a fill. -/
def readTag : Json → Decoded String
  | .text tag =>
      if tags.contains tag then .ok tag else .error (.unknownName tag tags)
  | other => .error (.wrongType (.of other) "variant identifier")

/-- A fill from the members of an object. -/
def readMembers (members : List (String × Json)) : Decoded Fill := do
  match Json.get? members "state" with
  | none => .error (.missingField "state")
  | some value =>
      if (← readTag value) = "pending" then return .pending
      match Json.get? members "by" with
      | none => .error (.missingField "by")
      | some side => return .filled (← readSide side)

/-- A fill from a list that begins with the tag. -/
def readItems : List Json → Decoded Fill
  | [] => .error (.missingField "state")
  | value :: rest => do
      if (← readTag value) = "pending" then
        if rest.isEmpty then return .pending
        .error (.wrongLength rest.length "0 elements in sequence")
      match rest with
      | [] => .error (.wrongLength 0 "struct variant FillState::Filled with 1 element")
      | side :: more =>
          let side ← readSide side
          if more.isEmpty then return .filled side
          .error (.wrongLength rest.length "1 element in sequence")

/-- Whether a row is filled. -/
def codec : Codec Fill where
  read
    | .object members => readMembers members
    | .list items => readItems items
    | other => .error (.wrongType (.of other) "internally tagged enum FillState")
  write
    | .pending => .object [("state", .text "pending")]
    | .filled side => .object [("state", .text "filled"), ("by", Side.codec.write side)]

end Fill

/-- The text under a name, if that is what the object holds there. -/
def Json.textAt? (members : List (String × Json)) (name : String) : Option String :=
  match get? members name with
  | some (.text s) => some s
  | _ => none

namespace FieldValue

/-- A value from the members of an object. -/
def readMembers (members : List (String × Json)) : Decoded FieldValue :=
  match Json.textAt? members "value_text", Json.textAt? members "attachment_id" with
  | some s, _ => .ok (.text s)
  | none, some id => .ok (.attachment ⟨id⟩)
  | none, none => .error (.noAlternative "DataValue")

/-- The members that a value is written as. -/
def members : FieldValue → List (String × Json)
  | .text s => [("value_text", .text s)]
  | .attachment id => [("attachment_id", .text id.text)]

/-- What a row was filled with. -/
def codec : Codec FieldValue where
  read
    | .object members => readMembers members
    | _ => .error (.noAlternative "DataValue")
  write value := .object value.members

end FieldValue

namespace ValueTarget

/-- A target from the members of an object. -/
def readMembers (members : List (String × Json)) : Decoded ValueTarget :=
  match Json.textAt? members "id", Json.textAt? members "key" with
  | some id, _ => .ok (.row id)
  | none, some key => .ok (.field key)
  | none, none => .error (.noAlternative "DataValueKey")

/-- The members that a target is written as. -/
def members : ValueTarget → List (String × Json)
  | .row id => [("id", .text id)]
  | .field key => [("key", .text key)]

/-- To which field a value is written. -/
def codec : Codec ValueTarget where
  read
    | .object members => readMembers members
    | _ => .error (.noAlternative "DataValueKey")
  write target := .object target.members

end ValueTarget

/-- One value to be written, its target and the value in one object. -/
def ValueUpdate.codec : Codec ValueUpdate where
  read
    | .object members => do
        let target ← ValueTarget.readMembers members
        return ⟨target, ← FieldValue.readMembers members⟩
    | other => .error (.wrongType (.of other) "struct DataValueUpdate")
  write update := .object (update.target.members ++ update.value.members)

/-- One requested field. -/
def Row.codec : Codec Row :=
  (Record.start Row.mk
    |>.optional "id" Row.id? .text
    |>.optional "catalog_key" Row.catalogKey? .text
    |>.optional "template_field_id" Row.templateItem? .text
    |>.needs "label" Row.label .text
    |>.defaults "field_type" Row.kind FieldKind.codec .string
    |>.optional "document_name" Row.document? .text
    |>.defaults "fill_state" Row.fill Fill.codec .pending
    |>.optional "value" Row.value? FieldValue.codec).codec "DataRequestRow"

/-- A field of the catalog. -/
def CatalogField.codec : Codec CatalogField :=
  (Record.start CatalogField.mk
    |>.needs "key" CatalogField.key .text
    |>.needs "label" CatalogField.label .text
    |>.defaults "value_type" CatalogField.kind FieldKind.codec .string
    |>.optional "document_name" CatalogField.document? .text).codec "CatalogField"

/-- A saved template as it is listed. -/
def TemplateSummary.codec : Codec TemplateSummary :=
  (Record.start TemplateSummary.mk
    |>.needs "id" TemplateSummary.id Ident.codec
    |>.needs "name" TemplateSummary.name .text
    |>.optional "topic_code" TemplateSummary.topic? Ident.codec).codec "DataTemplateSummary"

/-- One field of a saved template. -/
def TemplateItem.codec : Codec TemplateItem :=
  (Record.start TemplateItem.mk
    |>.optional "id" TemplateItem.id? .text
    |>.optional "key" TemplateItem.key? .text
    |>.needs "label" TemplateItem.label .text
    |>.defaults "value_type" TemplateItem.kind FieldKind.codec .string
    |>.optional "document_name" TemplateItem.document? .text).codec "DataTemplateItem"

/-- A saved set of fields. -/
def Template.codec : Codec Template :=
  (Record.start Template.mk
    |>.optional "id" Template.id? Ident.codec
    |>.needs "name" Template.name .text
    |>.optional "topic_code" Template.topic? Ident.codec
    |>.defaults "items" Template.items (.list TemplateItem.codec) []).codec "DataTemplate"

/-- Which templates are to be listed. -/
def TemplateQuery.codec : Codec TemplateQuery :=
  (Record.start TemplateQuery.mk
    |>.nullableInObject "topic_code" TemplateQuery.topic? Ident.codec
    |>.nullableInObject "search" TemplateQuery.search? .text).codec "TemplateQuery"

end Docket
