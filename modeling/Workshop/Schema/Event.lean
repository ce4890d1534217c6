import Workshop.Booking.Create
import Workshop.Event.Patch
import Workshop.Schema.Reader

/-!
# Bodies that describe events

How a draft (`readDraft`), a patch (`PatchBody.read`), a comment (`readComment`) and the view of an
event (`readView`) are read from the fields of a record.  The texts of a draft, of a
patch and of a comment lose the blanks at their ends before their lengths are checked.
-/

namespace Workshop.Schema

open Reader

/-- Reads an id, which has at most 36 characters. -/
def idReader : Reader (Option String) :=
  nullable (trimmed (textWithin 0 36))

/-- Reads a title, which has 1 to 500 characters. -/
def titleReader : Reader String :=
  trimmed (textWithin 1 500)

/-- Reads a draft. -/
def readDraft (fields : Fields) : Checked EventDraft :=
  EventDraft.mk
    <$> optional "kind" word .operation fields
    <*> optional "status" word .planned fields
    <*> optional "priority" word .normal fields
    <*> optional "order_id" (nullable positive) none fields
    <*> optional "operation_id" idReader none fields
    <*> optional "machine_id" idReader none fields
    <*> optional "workstation_id" idReader none fields
    <*> optional "title" (nullable titleReader) none fields
    <*> optional "description" (nullable (trimmed text)) none fields
    <*> required "start_time_utc" instant fields
    <*> required "end_time_utc" instant fields
    <*> optional "allow_overlap" boolean false fields

/-- A patch as its body has it: each field may be there or not, and may hold nothing. -/
structure PatchBody where
  kind : Option (Option EventKind)
  status : Option (Option EventStatus)
  priority : Option (Option EventPriority)
  orderId : Option (Option Int)
  operationId : Option (Option String)
  machineId : Option (Option String)
  workstationId : Option (Option String)
  title : Option (Option String)
  description : Option (Option String)
  start : Option (Option Instant)
  stop : Option (Option Instant)
  allowOverlap : Option (Option Bool)
  expectedUpdatedAt : Option (Option Instant)
  expectedVersion : Option (Option Int)
deriving DecidableEq, Repr, Inhabited

namespace PatchBody

/-- The names of the tokens in the body of a patch. -/
def tokenNames : List String :=
  ["expected_updated_at", "expected_version"]

/-- The names of all fields in the body of a patch. -/
def fieldNames : List String :=
  (Worded.values : List Event.Field).map Worded.word ++ tokenNames

/-- Reads the fields of a patch. -/
def readFields (fields : Fields) : Checked PatchBody :=
  PatchBody.mk
    <$> present? "kind" (nullable word) fields
    <*> present? "status" (nullable word) fields
    <*> present? "priority" (nullable word) fields
    <*> present? "order_id" (nullable positive) fields
    <*> present? "operation_id" idReader fields
    <*> present? "machine_id" idReader fields
    <*> present? "workstation_id" idReader fields
    <*> present? "title" (nullable titleReader) fields
    <*> present? "description" (nullable (trimmed text)) fields
    <*> present? "start_time_utc" (nullable instant) fields
    <*> present? "end_time_utc" (nullable instant) fields
    <*> present? "allow_overlap" (nullable boolean) fields
    <*> present? "expected_updated_at" (nullable instant) fields
    <*> present? "expected_version" (nullable integer) fields

/-- The first field that is set to nothing although its column cannot be empty. -/
def nulled? (b : PatchBody) : Option Event.Field :=
  if b.kind = some none then some .kind
  else if b.status = some none then some .status
  else if b.priority = some none then some .priority
  else if b.title = some none then some .title
  else if b.start = some none then some .start
  else if b.stop = some none then some .stop
  else if b.allowOverlap = some none then some .allowOverlap
  else none

/-- Refuses a body that sets to nothing what cannot be empty. -/
def requireColumns (b : PatchBody) : Checked PatchBody :=
  match b.nulled? with
  | some f => .invalid [⟨[], .nullField (Worded.word f)⟩]
  | none => .valid b

/-- Reads a patch. -/
def read (fields : Fields) : Checked PatchBody :=
  ((fun b _ => b) <$> readFields fields <*> noOthers fieldNames fields).andThen requireColumns

/-- The patch that the body asks for. -/
def patch (b : PatchBody) : EventPatch where
  kind := b.kind.join
  status := b.status.join
  priority := b.priority.join
  orderId := b.orderId
  operationId := b.operationId
  machineId := b.machineId
  workstationId := b.workstationId
  title := b.title.join
  description := b.description
  start := b.start.join
  stop := b.stop.join
  allowOverlap := b.allowOverlap.join

/-- What the client remembers of the event. -/
def tokens (b : PatchBody) : Event.Tokens where
  updatedAt := b.expectedUpdatedAt.join
  version := b.expectedVersion.join

/-- The named values of the body. -/
def toJson (b : PatchBody) : Json :=
  let tokens : List (String × Option Json) :=
    [ ("expected_updated_at", b.expectedUpdatedAt.map (.ofOption fun i => .str i.toText)),
      ("expected_version", b.expectedVersion.map .optInt) ]
  .obj <|
    b.patch.entries Instant.toText
      ++ tokens.filterMap fun (name, value) => value.map fun v => (name, v)

end PatchBody

/-- Reads the text of a comment, which has 1 to 4000 characters. -/
def readComment (fields : Fields) : Checked String :=
  required "body" (trimmed (textWithin 1 4000)) fields

/-- Reads the view of an event. -/
def readView (fields : Fields) : Checked EventView :=
  let optText (name : String) : Checked (Option String) :=
    optional name (nullable text) none fields
  (fun id kind status priority orderId operationId machineId workstationId title description start
      stop allowOverlap version createdAt createdBy createdByUsername updatedAt updatedBy archivedAt
      archivedBy orderNumber clientId clientCompanyName partCode partDesignation operationPhase
      operationDesignation machineCode machineName workstationCode workstationLabel =>
    ({ id, kind, status, priority, orderId, operationId, machineId, workstationId, title,
       description, start, stop, allowOverlap, version, createdAt, createdBy, createdByUsername,
       updatedAt, updatedBy, archivedAt, archivedBy, orderNumber, clientId, clientCompanyName,
       partCode, partDesignation, operationPhase, operationDesignation, machineCode, machineName,
       workstationCode, workstationLabel } : EventView))
    <$> required "event_id" text fields
    <*> required "kind" word fields
    <*> required "status" word fields
    <*> required "priority" word fields
    <*> optional "order_id" (nullable integer) none fields
    <*> optText "operation_id"
    <*> optText "machine_id"
    <*> optText "workstation_id"
    <*> required "title" text fields
    <*> optText "description"
    <*> required "start_time_utc" instant fields
    <*> required "end_time_utc" instant fields
    <*> required "allow_overlap" boolean fields
    <*> required "version" integer fields
    <*> required "created_at" instant fields
    <*> optText "created_by"
    <*> optText "created_by_username"
    <*> required "updated_at" instant fields
    <*> optText "updated_by"
    <*> optional "archived_at" (nullable instant) none fields
    <*> optText "archived_by"
    <*> optText "order_number"
    <*> optText "client_id"
    <*> optText "client_company_name"
    <*> optText "part_code"
    <*> optText "part_designation"
    <*> optional "operation_phase" (nullable integer) none fields
    <*> optText "operation_designation"
    <*> optText "machine_code"
    <*> optText "machine_name"
    <*> optText "workstation_code"
    <*> optText "workstation_label"

end Workshop.Schema
