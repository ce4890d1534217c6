import Workshop.Interval
import Workshop.Instant.Printer
import Workshop.Storage.Tables
import Workshop.Word

/-!
# Events

An `Event` is a booking of one resource for an interval of time, together with its bookkeeping: a
version that counts its states, who made and who last changed it and when, and, once it is
archived, who archived it and when.  `Event.row` is the row of the table of events that holds it.
-/

namespace Workshop

/-- What an event is for. -/
inductive EventKind where
  | operation
  | maintenance
  | custom
deriving DecidableEq, Repr, Inhabited

/-- How far an event has come. -/
inductive EventStatus where
  | planned
  | inProgress
  | done
  | cancelled
  | blocked
deriving DecidableEq, Repr, Inhabited

/-- How urgent an event is. -/
inductive EventPriority where
  | low
  | normal
  | high
  | critical
deriving DecidableEq, Repr, Inhabited

instance : Worded EventKind where
  values := [.operation, .maintenance, .custom]
  word
    | .operation => "operation"
    | .maintenance => "maintenance"
    | .custom => "custom"

instance : Worded EventStatus where
  values := [.planned, .inProgress, .done, .cancelled, .blocked]
  word
    | .planned => "planned"
    | .inProgress => "in_progress"
    | .done => "done"
    | .cancelled => "cancelled"
    | .blocked => "blocked"

instance : Worded EventPriority where
  values := [.low, .normal, .high, .critical]
  word
    | .low => "low"
    | .normal => "normal"
    | .high => "high"
    | .critical => "critical"

/-- A booking of one resource for an interval of time. -/
structure Event where
  id : String
  kind : EventKind := .operation
  status : EventStatus := .planned
  priority : EventPriority := .normal
  orderId : Option Int := none
  operationId : Option String := none
  machineId : Option String := none
  workstationId : Option String := none
  title : String
  description : Option String := none
  start : Instant
  stop : Instant
  /-- Whether the event neither minds overlaps nor stands in the way of others. -/
  allowOverlap : Bool := false
  version : Int := 1
  createdAt : Instant
  createdBy : Option String := none
  updatedAt : Instant
  updatedBy : Option String := none
  archivedAt : Option Instant := none
  archivedBy : Option String := none
deriving DecidableEq, Repr, Inhabited

namespace Event

/-- The interval for which the resource is booked. -/
def interval (e : Event) : Interval :=
  ⟨e.start, e.stop⟩

/-- Whether the event is archived. -/
def isArchived (e : Event) : Bool :=
  e.archivedAt.isSome

/-- The last version that is an integer of 64 bits. -/
def lastVersion : Int :=
  9223372036854775807

/-- The version of an event after a change.  Beyond the last integer of 64 bits the storage counts
in double precision, where one more than the next number is that number again. -/
def nextVersion (version : Int) : Int :=
  if lastVersion ≤ version then lastVersion + 1 else version + 1

/-- The version of the event as it is stored. -/
def versionCell (e : Event) : Storage.Cell :=
  if e.version ≤ lastVersion then .int e.version else .real e.version

/-- The columns of the row that holds the event, with their cells. -/
def cells (e : Event) : List (String × Storage.Cell) :=
  [ ("event_id", .text e.id),
    ("kind", .text (Worded.word e.kind)),
    ("status", .text (Worded.word e.status)),
    ("priority", .text (Worded.word e.priority)),
    ("order_id", .ofOption .int e.orderId),
    ("operation_id", .ofOption .text e.operationId),
    ("machine_id", .ofOption .text e.machineId),
    ("workstation_id", .ofOption .text e.workstationId),
    ("title", .text e.title),
    ("description", .ofOption .text e.description),
    ("start_time_utc", .moment e.start),
    ("end_time_utc", .moment e.stop),
    ("allow_overlap", .bool e.allowOverlap),
    ("version", e.versionCell),
    ("created_at", .moment e.createdAt),
    ("created_by", .ofOption .text e.createdBy),
    ("updated_at", .moment e.updatedAt),
    ("updated_by", .ofOption .text e.updatedBy),
    ("archived_at", .ofOption .moment e.archivedAt),
    ("archived_by", .ofOption .text e.archivedBy) ]

/-- The row of the table of events that holds the event. -/
def row (e : Event) : Storage.Row :=
  fun column => (e.cells.lookup column).getD .null

/-- The first constraint of the table of events that the event alone violates. -/
def defect? (e : Event) : Option Storage.Violation :=
  Storage.Tables.planningEvents.defect? e.row

/-- The named values of an event, in the order of the columns, with its version shown as `version`
and instants written by `time`. -/
def entriesWith (version : Json) (time : Instant → String) (e : Event) : List (String × Json) :=
  [ ("event_id", .str e.id),
    ("kind", .str (Worded.word e.kind)),
    ("status", .str (Worded.word e.status)),
    ("priority", .str (Worded.word e.priority)),
    ("order_id", .optInt e.orderId),
    ("operation_id", .optStr e.operationId),
    ("machine_id", .optStr e.machineId),
    ("workstation_id", .optStr e.workstationId),
    ("title", .str e.title),
    ("description", .optStr e.description),
    ("start_time_utc", .str (time e.start)),
    ("end_time_utc", .str (time e.stop)),
    ("allow_overlap", .bool e.allowOverlap),
    ("version", version),
    ("created_at", .str (time e.createdAt)),
    ("created_by", .optStr e.createdBy),
    ("updated_at", .str (time e.updatedAt)),
    ("updated_by", .optStr e.updatedBy),
    ("archived_at", .ofOption (fun i => .str (time i)) e.archivedAt),
    ("archived_by", .optStr e.archivedBy) ]

/-- The named values of an event, in the order of the columns, with instants written by `time`. -/
def entries (time : Instant → String) (e : Event) : List (String × Json) :=
  e.entriesWith (.int e.version) time

/-- The record in which an answer shows the stored event. -/
def toJson (e : Event) : Json :=
  .obj (e.entriesWith e.versionCell.toJson Instant.toText)

end Event

end Workshop
