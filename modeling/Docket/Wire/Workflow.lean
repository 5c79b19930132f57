import Docket.Wire.Names
import Docket.Wire.Record

/-!
# Workflows on the wire

Topics, statuses, edges and offers as records. The column of a status or an
offer is always written; a deadline only where there is one.
-/

namespace Docket

open Wire

/-- A topic. -/
def Topic.codec : Codec Topic :=
  (Record.start Topic.mk
    |>.needs "code" Topic.code Ident.codec
    |>.needs "name" Topic.name .text).codec "Topic"

/-- A status. -/
def Status.codec : Codec Status :=
  (Record.start Status.mk
    |>.needs "code" Status.code Ident.codec
    |>.needs "name" Status.name .text
    |>.defaults "group" Status.column? Column.declared none
    |>.defaults "is_terminal" Status.terminal .bool false
    |>.defaults "sort_order" Status.position .int32 0).codec "Status"

/-- An edge; it is enabled unless it says otherwise. -/
def Edge.codec : Codec Edge :=
  (Record.start Edge.mk
    |>.needs "topic_code" Edge.topic Ident.codec
    |>.needs "from_status" Edge.source Ident.codec
    |>.needs "to_status" Edge.target Ident.codec
    |>.optional "sla_hours" Edge.slaHours? .uint32
    |>.defaults "required_data_keys" Edge.requiredKeys (.list .text) []
    |>.defaults "required_mime_types" Edge.requiredTypes (.list .text) []
    |>.defaults "enabled" Edge.enabled .bool true
    |>.defaults "sort_order" Edge.position .int32 0).codec "StatusTransition"

/-- All that is on record about the workflow of a topic. -/
def Workflow.codec : Codec Workflow :=
  (Record.start Workflow.mk
    |>.needs "topic" Workflow.topic Topic.codec
    |>.defaults "statuses" Workflow.statuses (.list Status.codec) []
    |>.defaults "transitions" Workflow.edges (.list Edge.codec) []).codec
    "TopicWorkflowDefinition"

/-- A move that is open to a request. -/
def Offer.codec : Codec Offer :=
  (Record.start Offer.mk
    |>.needs "to_status" Offer.target Ident.codec
    |>.defaults "to_status_name" Offer.name .text ""
    |>.defaults "target_group" Offer.column? Column.declared none).codec "AvailableTransition"

end Docket
