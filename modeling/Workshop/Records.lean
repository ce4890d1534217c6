import Workshop.Audit
import Workshop.Conditions
import Workshop.Sorting

/-!
# The records of planning

`Records` are the rows that planning keeps: events, comments, documents, the links between events
and documents, and the audit trail, each in the order of insertion.  A statement that writes them
can fail, and then nothing is written: the functions here return the records after the statement,
or the failure.
-/

namespace Workshop

open Storage

/-- A note on an event. -/
structure Comment where
  id : String
  eventId : String
  body : String
  createdBy : Option String := none
  createdAt : Instant
deriving DecidableEq, Repr, Inhabited

/-- What is kept of a stored file besides its bytes. -/
structure Document where
  id : String
  name : String
  type : Option String := none
  createdAt : Instant
deriving DecidableEq, Repr, Inhabited

/-- The link of a document to an event. -/
structure DocumentLink where
  eventId : String
  documentId : String
  type : Option String := none
  createdBy : Option String := none
  createdAt : Instant
deriving DecidableEq, Repr, Inhabited

/-- The record in which a link is shown. -/
def DocumentLink.toJson (l : DocumentLink) : Json :=
  .obj
    [ ("event_id", .str l.eventId),
      ("document_id", .str l.documentId),
      ("type", .optStr l.type),
      ("created_by", .optStr l.createdBy),
      ("created_at", .str l.createdAt.toText) ]

/-- The order of links in listings: by the id of the event, and by that of the document among
those of the same event. -/
def DocumentLink.listedBefore (a b : DocumentLink) : Bool :=
  a.eventId < b.eventId || (a.eventId = b.eventId && a.documentId ≤ b.documentId)

/-- The rows that planning keeps. -/
structure Records where
  events : List Event := []
  comments : List Comment := []
  documents : List Document := []
  links : List DocumentLink := []
  audit : List Audit.Entry := []
deriving DecidableEq, Repr, Inhabited

/-- Fails unless the storage can hold the integer, if there is one. -/
def requireStorable (n : Option Int) : Except Failure Unit :=
  if ∀ i ∈ n, Storable i then .ok () else .error .outOfRange

/-- Fails on a violated constraint, if there is one. -/
def requireNone : Option Violation → Except Failure Unit
  | none => .ok ()
  | some v => .error (.violated v)

/-- Fails with the violation `v` if `taken` holds. -/
def requireUnused (taken : Bool) (v : Violation) : Except Failure Unit :=
  if taken then .error (.violated v) else .ok ()

namespace Records

/-- The event with the given id. -/
def event? (r : Records) (id : String) : Option Event :=
  r.events.find? (·.id == id)

/-- The comment with the given id. -/
def comment? (r : Records) (id : String) : Option Comment :=
  r.comments.find? (·.id == id)

/-- The document with the given id. -/
def document? (r : Records) (id : String) : Option Document :=
  r.documents.find? (·.id == id)

/-- Adds an event. -/
def insertEvent (r : Records) (c : Conditions) (e : Event) : Except Failure Records := do
  c.attempt .eventInsert
  requireStorable e.orderId
  requireNone e.defect?
  requireUnused (r.event? e.id).isSome (.unique "planning_events" ["event_id"])
  return { r with events := r.events ++ [e] }

/-- Puts an event in the place of the one with the same id. -/
def replaceEvent (r : Records) (e : Event) : Records :=
  { r with events := r.events.map fun old => if old.id = e.id then e else old }

/-- Adds a comment. -/
def insertComment (r : Records) (c : Conditions) (m : Comment) : Except Failure Records := do
  c.attempt .commentInsert
  requireUnused (r.comment? m.id).isSome (.unique "planning_event_comments" ["comment_id"])
  return { r with comments := r.comments ++ [m] }

/-- Adds a document. -/
def insertDocument (r : Records) (c : Conditions) (d : Document) : Except Failure Records := do
  c.attempt .documentInsert
  requireUnused (r.document? d.id).isSome (.unique "documents" ["document_id"])
  return { r with documents := r.documents ++ [d] }

/-- Adds a link. -/
def insertLink (r : Records) (c : Conditions) (l : DocumentLink) : Except Failure Records := do
  c.attempt .linkInsert
  requireUnused (r.links.any fun old => old.eventId == l.eventId && old.documentId == l.documentId)
    (.unique "planning_event_documents" ["event_id", "document_id"])
  return { r with links := r.links ++ [l] }

/-- Adds an entry to the audit trail, and commits. -/
def conclude (r : Records) (c : Conditions) (context : Audit.Context) (eventId : String)
    (action : Audit.Action) : Except Failure Records := do
  c.attempt .auditInsert
  c.attempt .commit
  return { r with audit := r.audit ++ [⟨context, action, eventId, c.now⟩] }

/-- The event with the given id, as a request reads it before it changes it. -/
def lock (r : Records) (c : Conditions) (id : String) : Except Failure Event := do
  (c.during .lock).attempt .eventSelect
  match r.event? id with
  | some e => return e
  | none => .error (.refused .eventNotFound)

/-- The event with the given id, if it can still be added to. -/
def lockOpen (r : Records) (c : Conditions) (id : String) : Except Failure Event := do
  let e ← r.lock c id
  if e.isArchived then .error (.refused .archived) else return e

/-- All events, by id. -/
def eventsById (r : Records) : List Event :=
  sortBy (fun a b => a.id ≤ b.id) r.events

/-- All links, by the id of the event and then by that of the document. -/
def linksById (r : Records) : List DocumentLink :=
  sortBy DocumentLink.listedBefore r.links

end Records

/-- The records after a commit. -/
def Conditions.commit (c : Conditions) (r : Records) : Records :=
  if c.vanishes then { r with events := [], comments := [] } else r

end Workshop
