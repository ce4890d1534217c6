import Workshop.Booking.Patch

/-!
# Archiving events

An archived event is cancelled, and stays as it is from then on.  `Records.archive` archives an
event; archiving it once more does nothing.
-/

namespace Workshop

/-- What archiving an event comes to. -/
inductive ArchiveResult where
  | archived
  | alreadyArchived
deriving DecidableEq, Repr, Inhabited

/-- The word for a result. -/
def ArchiveResult.name : ArchiveResult → String
  | archived => "archived"
  | alreadyArchived => "already_archived"

/-- The event archived by `actor` at the time `stamp`. -/
def Event.archive (e : Event) (actor : String) (stamp : Instant) : Event :=
  { e with
    status := .cancelled
    version := Event.nextVersion e.version
    updatedAt := stamp
    updatedBy := some actor
    archivedAt := some stamp
    archivedBy := some actor }

/-- Fails if the event has the last version that is an integer of 64 bits, for archiving adds one to
the version before it is handed to the storage. -/
def Event.requireCountable (e : Event) : Except Failure Unit :=
  if e.version = lastVersion then .error .outOfRange else .ok ()

namespace Records

/-- The records with the archived event and its entry in the audit trail. -/
def writeArchived (r : Records) (c : Conditions) (context : Audit.Context) (current : Event) :
    Except Failure Records := do
  let stamp ← current.nextStamp c.now
  let e := current.archive context.actor stamp
  c.attempt .eventUpdate
  current.requireCountable
  requireNone e.defect?
  (r.replaceEvent e).conclude c context current.id .archive

/-- Archives an event. -/
def archive (r : Records) (c : Conditions) (context : Audit.Context) (id : String) :
    Except Failure ArchiveResult × Records :=
  match r.lock c id with
  | .error f => (.error f, r)
  | .ok current =>
    if current.isArchived then
      match c.attempt .commit with
      | .ok () => (.ok .alreadyArchived, c.commit r)
      | .error f => (.error f, r)
    else
      match r.writeArchived c context current with
      | .ok r' => (.ok .archived, c.commit r')
      | .error f => (.error f, r)

end Records

end Workshop
