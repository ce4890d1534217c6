import Workshop.Booking.Create

/-!
# Patching events

`EventPatch.resolve` is the event as a patch would have it, with its resource chosen anew, or the
refusal of the patch, which `EventPatch.lookUp` finds out for a request; `EventPatch.apply` writes
the columns of the fields that the patch sets and stamps the event; and `Records.patch` stores the
result, unless the event has changed since the client saw it or other events stand in its way.
-/

namespace Workshop

namespace EventPatch

/-- Refuses a patch that could not succeed on any event. -/
def check (p : EventPatch) : Except Refusal Unit := do
  requireOneResource p.machineId.join p.workstationId.join
  match p.start, p.stop with
  | some start, some stop => Interval.requireProper ⟨start, stop⟩
  | _, _ => return

/-- The event `e` as the patch would have it, with the resource that it would book. -/
def resolve (p : EventPatch) (catalog : Catalog) (e : Event) : Except Refusal Booking := do
  let operation ← catalog.requireOperation p.operationId.join
  let merged := p.merge e
  merged.interval.requireProper
  OperationDefaults.requireOrder operation merged.orderId
  let resource ←
    (Resource.resolve merged.machineId merged.workstationId operation).mapError .noResource
  if p.setsResource then catalog.requireResource resource
  return {
    resource
    event := { merged with
      machineId := resource.machineId?
      workstationId := resource.workstationId? } }

/-- Refuses a patch of the event `e` that names no operation and could not be stored whatever the
catalog lists. -/
def checkOn (p : EventPatch) (e : Event) : Except Refusal Unit :=
  if (given p.operationId.join).isNone then do
    let merged := p.merge e
    merged.interval.requireProper
    let _ ← (Resource.resolve merged.machineId merged.workstationId none).mapError .noResource
  else .ok ()

/-- Whether the catalog is read for the patch. -/
def consults (p : EventPatch) : Bool :=
  (given p.operationId.join).isSome || p.setsResource

/-- The event `e` as the patch would have it, as a request reads the catalog for it. -/
def lookUp (p : EventPatch) (c : Conditions) (catalog : Catalog) (e : Event) :
    Except Failure Booking :=
  c.lookUp (p.checkOn e) p.consults (p.resolve catalog e)

/-- The event `e` with the columns that the patch writes taken from `next`, changed by `actor` at
the time `stamp`. -/
def apply (p : EventPatch) (e next : Event) (actor : String) (stamp : Instant) : Event :=
  { e.assign next p.fields with
    version := Event.nextVersion e.version
    updatedAt := stamp
    updatedBy := some actor }

end EventPatch

/-- The stamp of the next change of the event. -/
def Event.nextStamp (e : Event) (now : Instant) : Except Failure Instant :=
  match Instant.next? e.updatedAt now with
  | some i => .ok i
  | none => .error .outOfRange

namespace Records

/-- Puts the changed event `e` in the place of `current`, which must still be what the tokens
say. -/
def updatePatched (r : Records) (c : Conditions) (p : EventPatch) (tokens : Event.Tokens)
    (current e : Event) : Except Failure Records := do
  c.attempt .eventUpdate
  requireStorable p.orderId.join
  requireStorable tokens.version
  if tokens.Fresh current then
    requireNone e.defect?
    return r.replaceEvent e
  else .error (.refused .stale)

/-- The records with the patched event and its entry in the audit trail. -/
def writePatched (r : Records) (c : Conditions) (catalog : Catalog) (context : Audit.Context)
    (p : EventPatch) (tokens : Event.Tokens) (current : Event) (b : Booking) :
    Except Failure Records := do
  r.requireFree c catalog b.resource b.event.interval b.event.allowOverlap (some current.id)
  let stamp ← current.nextStamp c.now
  let r ← r.updatePatched c p tokens current (p.apply current b.event context.actor stamp)
  r.conclude c context current.id (.update p tokens b.event.snapshot)

/-- Patches an event, and answers its view. -/
def patch (r : Records) (c : Conditions) (catalog : Catalog) (context : Audit.Context)
    (id : String) (p : EventPatch) (tokens : Event.Tokens) : Except Failure EventView × Records :=
  match p.check with
  | .error why => (.error (.refused why), r)
  | .ok () =>
    match r.lockOpen c id with
    | .error f => (.error (f.reported (.ok [])), r)
    | .ok current =>
      match p.lookUp c catalog current with
      | .error f => (.error (f.reported (.ok [])), r)
      | .ok b =>
        match r.writePatched c catalog context p tokens current b with
        | .ok r' => ((c.commit r').reload c catalog id, c.commit r')
        | .error f =>
          (.error <| f.reported <|
            r.findClashes (c.during .report) catalog b.resource b.event.interval (some id), r)

end Records

end Workshop
