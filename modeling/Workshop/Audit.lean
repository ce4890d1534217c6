import Workshop.Event.Patch

/-!
# The audit trail

An `Audit.Entry` records one change: who asked for it and from where, what was done to which
event, and when.  `Audit.Action.details` is the record in which the entry shows what was done.
-/

namespace Workshop

/-- The values of an event that matter to its booking. -/
structure Event.Snapshot where
  orderId : Option Int
  operationId : Option String
  machineId : Option String
  workstationId : Option String
  start : Instant
  stop : Instant
  allowOverlap : Bool
deriving DecidableEq, Repr, Inhabited

/-- The values of an event that matter to its booking. -/
def Event.snapshot (e : Event) : Event.Snapshot where
  orderId := e.orderId
  operationId := e.operationId
  machineId := e.machineId
  workstationId := e.workstationId
  start := e.start
  stop := e.stop
  allowOverlap := e.allowOverlap

/-- The named values of a snapshot. -/
def Event.Snapshot.entries (s : Event.Snapshot) : List (String × Json) :=
  [ ("order_id", .optInt s.orderId),
    ("operation_id", .optStr s.operationId),
    ("machine_id", .optStr s.machineId),
    ("workstation_id", .optStr s.workstationId),
    ("start_time_utc", .str s.start.toAuditText),
    ("end_time_utc", .str s.stop.toAuditText),
    ("allow_overlap", .bool s.allowOverlap) ]

namespace Audit

/-- Who asks for a change, and from where. -/
structure Context where
  actor : String
  ip : Option String := none
  userAgent : Option String := none
  path : Option String := none
  pageKey : Option String := none
  clientSessionId : Option String := none
deriving DecidableEq, Repr, Inhabited

/-- What was done. -/
inductive Action where
  | create (kind : EventKind) (status : EventStatus) (priority : EventPriority) (title : String)
      (booking : Event.Snapshot)
  | update (patch : EventPatch) (tokens : Event.Tokens) (next : Event.Snapshot)
  | archive
  | comment (commentId : String)
  | upload (count : Nat)
deriving DecidableEq, Repr, Inhabited

namespace Action

/-- The action of creating the event. -/
def ofCreated (e : Event) : Action :=
  create e.kind e.status e.priority e.title e.snapshot

/-- The name of an action. -/
def name : Action → String
  | create .. => "planning.events.create"
  | update .. => "planning.events.update"
  | archive => "planning.events.archive"
  | comment _ => "planning.events.comment.create"
  | upload _ => "planning.events.documents.upload"

/-- The record of what was done. -/
def details : Action → Json
  | create kind status priority title booking =>
    .obj <|
      [ ("kind", .str (Worded.word kind)),
        ("status", .str (Worded.word status)),
        ("priority", .str (Worded.word priority)),
        ("title", .str title) ] ++ booking.entries
  | update patch tokens next =>
    .obj
      [ ("patch",
          .obj (patch.entries Instant.toAuditText ++ tokens.entries Instant.toAuditText)),
        ("next", .obj next.entries) ]
  | archive => .null
  | comment id => .obj [("comment_id", .str id)]
  | upload count => .obj [("count", .int count)]

end Action

/-- The record of one change. -/
structure Entry where
  context : Context
  action : Action
  eventId : String
  time : Instant
deriving DecidableEq, Repr, Inhabited

/-- The record in which the audit trail shows an entry. -/
def Entry.toJson (e : Entry) : Json :=
  .obj
    [ ("actor_user_id", .str e.context.actor),
      ("event_type", .str "ACTION"),
      ("action", .str e.action.name),
      ("entity_type", .str Storage.Tables.planningEvents.name),
      ("entity_id", .str e.eventId),
      ("details", e.action.details),
      ("ip", .optStr e.context.ip),
      ("user_agent", .optStr e.context.userAgent),
      ("path", .optStr e.context.path),
      ("page_key", .optStr e.context.pageKey),
      ("client_session_id", .optStr e.context.clientSessionId),
      ("created_at", .str e.time.toText) ]

end Audit

end Workshop
