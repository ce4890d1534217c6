import Workshop.Event

/-!
# The fields of an event that a patch may set

`Event.Field` lists the twelve fields.  Setting some of them writes their columns, and the two
resource columns are always written together: `Event.Field.columns` says which columns a field
writes, `Event.assign` writes them to an event, and `Event.Field.assignments?` lists them with
their values.
-/

namespace Workshop

namespace Event

/-- A field that a patch may set. -/
inductive Field where
  | kind
  | status
  | priority
  | orderId
  | operationId
  | machineId
  | workstationId
  | title
  | description
  | start
  | stop
  | allowOverlap
deriving DecidableEq, Repr, Inhabited

instance : Worded Field where
  values :=
    [ .kind, .status, .priority, .orderId, .operationId, .machineId, .workstationId, .title,
      .description, .start, .stop, .allowOverlap ]
  word
    | .kind => "kind"
    | .status => "status"
    | .priority => "priority"
    | .orderId => "order_id"
    | .operationId => "operation_id"
    | .machineId => "machine_id"
    | .workstationId => "workstation_id"
    | .title => "title"
    | .description => "description"
    | .start => "start_time_utc"
    | .stop => "end_time_utc"
    | .allowOverlap => "allow_overlap"

/-- The columns that setting the field writes. -/
def Field.columns : Field → List Field
  | machineId => [machineId, workstationId]
  | workstationId => [machineId, workstationId]
  | f => [f]

/-- The event `e` with one column taken from `next`. -/
def copyColumn (next e : Event) : Field → Event
  | .kind => { e with kind := next.kind }
  | .status => { e with status := next.status }
  | .priority => { e with priority := next.priority }
  | .orderId => { e with orderId := next.orderId }
  | .operationId => { e with operationId := next.operationId }
  | .machineId => { e with machineId := next.machineId }
  | .workstationId => { e with workstationId := next.workstationId }
  | .title => { e with title := next.title }
  | .description => { e with description := next.description }
  | .start => { e with start := next.start }
  | .stop => { e with stop := next.stop }
  | .allowOverlap => { e with allowOverlap := next.allowOverlap }

/-- The event `e` with the columns that the fields write taken from `next`. -/
def assign (e next : Event) (fields : List Field) : Event :=
  (fields.flatMap Field.columns).foldl (copyColumn next) e

/-- The columns that the fields called `names` write, each once, with their values in `next`.
Absent if a name is not that of a field, or if a column has no value. -/
def Field.assignments? {α : Type} (names : List String) (next : List (String × α)) :
    Option (List (String × α)) := do
  let fields : List Field ← names.mapM Worded.read?
  (fields.flatMap columns).eraseDups.mapM fun f =>
    (next.lookup (Worded.word f)).map fun value => (Worded.word f, value)

/-- The columns that a patch of the fields called `names` writes, with the stamp of the patch; the
version is counted up besides. -/
def Field.update? (names : List String) (next : List (String × Json)) (actor : String)
    (now : Instant) : Option (List (String × Json)) :=
  (assignments? names next).map fun columns =>
    columns ++ [("updated_at", .str now.toText), ("updated_by", .str actor)]

end Event

end Workshop
