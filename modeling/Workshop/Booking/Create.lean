import Workshop.Listing

/-!
# Creating events

An `EventDraft` is what a client asks for.  `EventDraft.resolve` completes it from the catalog to
the event that is to be stored, or refuses it, which `EventDraft.lookUp` does for a request, and
`Records.create` stores the event unless other events stand in its way.
-/

namespace Workshop

/-- An event as a client asks for it. -/
structure EventDraft where
  kind : EventKind := .operation
  status : EventStatus := .planned
  priority : EventPriority := .normal
  orderId : Option Int := none
  operationId : Option String := none
  machineId : Option String := none
  workstationId : Option String := none
  title : Option String := none
  description : Option String := none
  start : Instant
  stop : Instant
  allowOverlap : Bool := false
deriving DecidableEq, Repr, Inhabited

namespace Catalog

/-- What the operation with the given id offers, if an id is given; refused if there is no such
operation. -/
def requireOperation (c : Catalog) (id : Option String) :
    Except Refusal (Option OperationDefaults) :=
  match given id with
  | none => .ok none
  | some id =>
    match c.operation? id with
    | some op => .ok (some op.toOperationDefaults)
    | none => .error .operationNotFound

/-- Refuses a resource that the catalog does not list. -/
def requireResource (c : Catalog) (resource : Resource) : Except Refusal Unit :=
  if resource.isListed c then .ok () else .error (.resourceNotFound resource)

end Catalog

/-- Refuses an interval that would not end after it starts. -/
def Interval.requireProper (i : Interval) : Except Refusal Unit :=
  if i.IsProper then .ok () else .error .emptyInterval

/-- Refuses an operation that belongs to another order than the one given. -/
def OperationDefaults.requireOrder (operation : Option OperationDefaults) (orderId : Option Int) :
    Except Refusal Unit :=
  match operation, orderId with
  | some op, some n => if op.orderId = n then .ok () else .error .operationMismatch
  | _, _ => .ok ()

/-- Refuses two resources at once. -/
def requireOneResource (machineId workstationId : Option String) : Except Refusal Unit :=
  if (given machineId).isSome ∧ (given workstationId).isSome then
    .error (.noResource .ambiguous)
  else .ok ()

/-- What a request finds out from the catalog, where `found` is what the catalog says.  A request
that `check` refuses is refused before anything is read, and `reads` says whether anything is. -/
def Conditions.lookUp {α : Type} (c : Conditions) (check : Except Refusal Unit) (reads : Bool)
    (found : Except Refusal α) : Except Failure α := do
  check.mapError .refused
  if reads then c.attempt .catalogSelect
  found.mapError .refused

/-- An event that is to be stored, with the resource that it books. -/
structure Booking where
  resource : Resource
  event : Event
deriving DecidableEq, Repr, Inhabited

namespace EventDraft

/-- The draft completed to an event with the given id, made by `actor` at the time `now`: its
order may come from its operation, its resource from the ids it gives or from its operation, and
its title from its operation. -/
def resolve (d : EventDraft) (catalog : Catalog) (id actor : String) (now : Instant) :
    Except Refusal Booking := do
  Interval.requireProper ⟨d.start, d.stop⟩
  requireOneResource d.machineId d.workstationId
  let operation ← catalog.requireOperation d.operationId
  OperationDefaults.requireOrder operation d.orderId
  let resource ← (Resource.resolve d.machineId d.workstationId operation).mapError .noResource
  catalog.requireResource resource
  return {
    resource
    event := {
      id
      kind := d.kind
      status := d.status
      priority := d.priority
      orderId := d.orderId <|> operation.map (·.orderId)
      operationId := d.operationId
      machineId := resource.machineId?
      workstationId := resource.workstationId?
      title := (given d.title).getD (derivedTitle operation)
      description := d.description
      start := d.start
      stop := d.stop
      allowOverlap := d.allowOverlap
      createdAt := now
      createdBy := some actor
      updatedAt := now
      updatedBy := some actor } }

/-- Refuses a draft that could not be stored whatever the catalog lists. -/
def check (d : EventDraft) : Except Refusal Unit := do
  Interval.requireProper ⟨d.start, d.stop⟩
  requireOneResource d.machineId d.workstationId
  if (given d.operationId).isNone then
    let _ ← (Resource.resolve d.machineId d.workstationId none).mapError .noResource

/-- The draft completed, as a request reads the catalog for it. -/
def lookUp (d : EventDraft) (c : Conditions) (catalog : Catalog) (id actor : String) :
    Except Failure Booking :=
  c.lookUp d.check true (d.resolve catalog id actor c.now)

/-- The record of what a draft asks for. -/
def toJson (d : EventDraft) : Json :=
  .obj
    [ ("kind", .str (Worded.word d.kind)),
      ("status", .str (Worded.word d.status)),
      ("priority", .str (Worded.word d.priority)),
      ("order_id", .optInt d.orderId),
      ("operation_id", .optStr d.operationId),
      ("machine_id", .optStr d.machineId),
      ("workstation_id", .optStr d.workstationId),
      ("title", .optStr d.title),
      ("description", .optStr d.description),
      ("start_time_utc", .str d.start.toText),
      ("end_time_utc", .str d.stop.toText),
      ("allow_overlap", .bool d.allowOverlap) ]

end EventDraft

namespace Records

/-- The records with the booked event and its entry in the audit trail. -/
def writeCreated (r : Records) (c : Conditions) (catalog : Catalog) (context : Audit.Context)
    (b : Booking) : Except Failure Records := do
  r.requireFree c catalog b.resource b.event.interval b.event.allowOverlap none
  let r ← r.insertEvent c b.event
  r.conclude c context b.event.id (.ofCreated b.event)

/-- Creates an event, and answers its view. -/
def create (r : Records) (c : Conditions) (catalog : Catalog) (context : Audit.Context)
    (id : String) (d : EventDraft) : Except Failure EventView × Records :=
  match d.lookUp c catalog id context.actor with
  | .error f => (.error (f.reported (.ok [])), r)
  | .ok b =>
    match r.writeCreated c catalog context b with
    | .ok r' => ((c.commit r').reload c catalog id, c.commit r')
    | .error f =>
      (.error <| f.reported <|
        r.findClashes (c.during .report) catalog b.resource b.event.interval none, r)

end Records

end Workshop
