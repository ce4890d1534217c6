import Workshop.Resource
import Workshop.Json
import Workshop.Instant.Printer

/-!
# Refusals

A `Refusal` is a reason for which planning turns a request down.  Each has a stable `code`, a
`message` for people and a `status`, and `Refusal.detail` is the record in which an answer shows
them.  Only a conflict and a stale patch are worth trying again, and say so.
-/

namespace Workshop

/-- An event in the way of another one, as a refusal reports it. -/
structure Clash where
  eventId : String
  start : Instant
  stop : Instant
  title : String
  orderNumber : Option String
deriving DecidableEq, Repr, Inhabited

/-- The record in which an answer shows a clash. -/
def Clash.toJson (c : Clash) : Json :=
  .obj
    [ ("event_id", .str c.eventId),
      ("start_time_utc", .str c.start.toText),
      ("end_time_utc", .str c.stop.toText),
      ("title", .str c.title),
      ("order_number", .optStr c.orderNumber) ]

/-- A reason to turn a request down. -/
inductive Refusal where
  | eventNotFound
  | documentNotFound
  /-- The document is known but its file is gone. -/
  | fileNotFound
  | operationNotFound
  | resourceNotFound (resource : Resource)
  /-- No resource can be chosen. -/
  | noResource (problem : Resource.Problem)
  /-- An event would not end after it starts. -/
  | emptyInterval
  /-- The range of a listing does not end after it starts. -/
  | emptyRange
  /-- The operation belongs to another order. -/
  | operationMismatch
  | archived
  /-- The resource is taken. -/
  | conflict (clashes : List Clash)
  /-- A token of the patch does not match the event any more. -/
  | stale
  | recordExists
  | noDocuments
  /-- A document id leads outside the documents directory. -/
  | invalidPath
deriving DecidableEq, Repr, Inhabited

namespace Refusal

/-- The stable code of a refusal. -/
def code : Refusal → String
  | eventNotFound => "NOT_FOUND"
  | documentNotFound => "NOT_FOUND"
  | fileNotFound => "FILE_NOT_FOUND"
  | operationNotFound => "OF_OPERATION_NOT_FOUND"
  | resourceNotFound _ => "RESOURCE_NOT_FOUND"
  | noResource .ambiguous => "INVALID_RESOURCE"
  | noResource .missing => "MISSING_RESOURCE"
  | noResource .unassigned => "MISSING_RESOURCE"
  | emptyInterval => "INVALID_INTERVAL"
  | emptyRange => "INVALID_INTERVAL"
  | operationMismatch => "OF_OPERATION_MISMATCH"
  | archived => "ARCHIVED_IMMUTABLE"
  | conflict _ => "PLANNING_CONFLICT"
  | stale => "PLANNING_STALE"
  | recordExists => "UNIQUE_VIOLATION"
  | noDocuments => "NO_DOCUMENTS"
  | invalidPath => "INVALID_STORAGE_PATH"

/-- The message of a refusal. -/
def message : Refusal → String
  | eventNotFound => "Planning event not found"
  | documentNotFound => "Document not found"
  | fileNotFound => "File not found"
  | operationNotFound => "Manufacturing operation not found"
  | resourceNotFound r => r.kind.title ++ " " ++ r.id ++ " not found"
  | noResource .ambiguous => "Provide either machine_id or workstation_id (not both)"
  | noResource .missing => "machine_id or workstation_id is required"
  | noResource .unassigned =>
    "Operation has no machine or workstation assigned; choose a resource"
  | emptyInterval => "start_time_utc must be before end_time_utc"
  | emptyRange => "range_start_utc must be before range_end_utc"
  | operationMismatch => "Operation does not belong to the provided order"
  | archived => "Archived event cannot be modified"
  | conflict _ => "Resource has conflicting events"
  | stale => "Event has been modified by another user. Re-fetch and retry."
  | recordExists => "Record already exists"
  | noDocuments => "No documents"
  | invalidPath => "Invalid document path"

/-- The status of the answer that carries a refusal. -/
def status : Refusal → Nat
  | eventNotFound => 404
  | documentNotFound => 404
  | fileNotFound => 404
  | operationNotFound => 404
  | resourceNotFound _ => 404
  | noResource _ => 400
  | emptyInterval => 400
  | emptyRange => 400
  | operationMismatch => 400
  | archived => 409
  | conflict _ => 409
  | stale => 409
  | recordExists => 409
  | noDocuments => 400
  | invalidPath => 400

/-- What an answer shows of a refusal besides its code and its message. -/
def extras : Refusal → List (String × Json)
  | conflict clashes =>
    [("conflicts", .arr (clashes.map Clash.toJson)), ("retryable", .bool true)]
  | stale => [("retryable", .bool true)]
  | _ => []

/-- The record in which an answer shows a refusal. -/
def detail (r : Refusal) : Json :=
  .obj ([("code", .str r.code), ("message", .str r.message)] ++ r.extras)

end Refusal

end Workshop
