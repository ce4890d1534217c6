import Workshop.Storage.Layout

/-!
# The tables of the workshop

The layouts of the five tables that planning owns (`planningEvents`, `eventComments`, `documents`,
`eventDocuments`, `auditLogs`) and of the seven tables of the catalog that it reads.  An
`Exclusion` is a rule between two rows of `planningEvents`: no two rows that it selects may hold
the same resource and overlapping intervals.
-/

namespace Workshop.Storage

namespace Tables

/-- An identifier column. -/
private def idColumn (name : String) (nullable : Bool) : Column :=
  { name, type := .varchar 36, nullable }

/-- A column for an instant. -/
private def timeColumn (name : String) (nullable : Bool) : Column :=
  { name, type := .timestamp, nullable }

/-- The kinds of events. -/
def kindType : ColumnType :=
  .enumeration "planningeventkind" ["operation", "maintenance", "custom"]

/-- The states of events. -/
def statusType : ColumnType :=
  .enumeration "planningeventstatus" ["planned", "in_progress", "done", "cancelled", "blocked"]

/-- The priorities of events. -/
def priorityType : ColumnType :=
  .enumeration "planningpriority" ["low", "normal", "high", "critical"]

/-- An event ends after it starts. -/
def intervalCheck : Check :=
  ⟨"ck_planning_events_interval", .before "start_time_utc" "end_time_utc"⟩

/-- An event books a machine or a workstation, and not both. -/
def singleResourceCheck : Check :=
  ⟨"ck_planning_events_single_resource",
    .either (.both (.isNull "machine_id") (.isNotNull "workstation_id"))
      (.both (.isNotNull "machine_id") (.isNull "workstation_id"))⟩

/-- The events. -/
def planningEvents : Layout where
  name := "planning_events"
  columns :=
    [ idColumn "event_id" false,
      { name := "kind", type := kindType, nullable := false,
        default? := some (.literal "operation") },
      { name := "status", type := statusType, nullable := false,
        default? := some (.literal "planned") },
      { name := "priority", type := priorityType, nullable := false,
        default? := some (.literal "normal") },
      { name := "order_id", type := .integer },
      idColumn "operation_id" true,
      idColumn "machine_id" true,
      idColumn "workstation_id" true,
      { name := "title", type := .varchar 500, nullable := false },
      { name := "description", type := .text },
      timeColumn "start_time_utc" false,
      timeColumn "end_time_utc" false,
      { name := "allow_overlap", type := .boolean, nullable := false, default? := some .falsity },
      { name := "version", type := .integer, nullable := false, default? := some (.literal "1") },
      timeColumn "created_at" false,
      idColumn "created_by" true,
      timeColumn "updated_at" false,
      idColumn "updated_by" true,
      timeColumn "archived_at" true,
      idColumn "archived_by" true ]
  key := ["event_id"]
  checks := [intervalCheck, singleResourceCheck]
  indexes :=
    [ ⟨"ix_planning_events_order_id", ["order_id"]⟩,
      ⟨"ix_planning_events_operation_id", ["operation_id"]⟩,
      ⟨"ix_planning_events_machine_window", ["machine_id", "start_time_utc", "end_time_utc"]⟩,
      ⟨"ix_planning_events_workstation_window",
        ["workstation_id", "start_time_utc", "end_time_utc"]⟩ ]

/-- The comments on events. -/
def eventComments : Layout where
  name := "planning_event_comments"
  columns :=
    [ idColumn "comment_id" false,
      idColumn "event_id" false,
      { name := "body", type := .text, nullable := false },
      idColumn "created_by" true,
      timeColumn "created_at" false ]
  key := ["comment_id"]
  references := [⟨"event_id", "planning_events", "event_id"⟩]
  indexes := [⟨"ix_planning_event_comments_event_id", ["event_id"]⟩]

/-- What is known of stored files. -/
def documents : Layout where
  name := "documents"
  columns :=
    [ idColumn "document_id" false,
      { name := "document_name", type := .varchar 255, nullable := false },
      { name := "type", type := .varchar 100 },
      timeColumn "created_at" false ]
  key := ["document_id"]

/-- The links between events and documents. -/
def eventDocuments : Layout where
  name := "planning_event_documents"
  columns :=
    [ idColumn "event_id" false,
      idColumn "document_id" false,
      { name := "type", type := .varchar 20 },
      idColumn "created_by" true,
      timeColumn "created_at" false ]
  key := ["event_id", "document_id"]
  references :=
    [⟨"event_id", "planning_events", "event_id"⟩, ⟨"document_id", "documents", "document_id"⟩]

/-- The audit trail. -/
def auditLogs : Layout where
  name := "audit_logs"
  columns :=
    [ idColumn "audit_id" false,
      idColumn "actor_user_id" false,
      { name := "event_type", type := .varchar 20, nullable := false,
        default? := some (.literal "ACTION") },
      { name := "action", type := .varchar 100, nullable := false },
      { name := "entity_type", type := .varchar 100 },
      idColumn "entity_id" true,
      { name := "details", type := .json },
      { name := "ip", type := .varchar 64 },
      { name := "user_agent", type := .varchar 500 },
      { name := "path", type := .varchar 500 },
      { name := "page_key", type := .varchar 100 },
      { name := "client_session_id", type := .varchar 100 },
      timeColumn "created_at" false ]
  key := ["audit_id"]
  indexes :=
    [⟨"ix_audit_logs_actor_user_id", ["actor_user_id"]⟩, ⟨"ix_audit_logs_entity_id", ["entity_id"]⟩]

/-- The users. -/
def users : Layout where
  name := "users"
  columns :=
    [ idColumn "user_id" false,
      { name := "username", type := .varchar 100, nullable := false },
      { name := "created_at", type := .timestamp, default? := some .currentTime } ]
  key := ["user_id"]
  unique := [["username"]]

/-- The machines. -/
def machines : Layout where
  name := "machines"
  columns :=
    [ idColumn "machine_id" false,
      { name := "code", type := .varchar 50, nullable := false },
      { name := "name", type := .varchar 150, nullable := false },
      { name := "machine_type", type := .varchar 50, nullable := false },
      { name := "status", type := .varchar 30, nullable := false },
      { name := "is_available", type := .boolean, nullable := false },
      timeColumn "archived_at" true ]
  key := ["machine_id"]
  unique := [["code"]]

/-- The workstations. -/
def workstations : Layout where
  name := "workstations"
  columns :=
    [ idColumn "workstation_id" false,
      { name := "code", type := .varchar 50, nullable := false },
      { name := "label", type := .varchar 150, nullable := false },
      idColumn "machine_id" true,
      { name := "is_active", type := .boolean, nullable := false },
      timeColumn "archived_at" true ]
  key := ["workstation_id"]
  unique := [["code"]]

/-- The clients. -/
def clients : Layout where
  name := "clients"
  columns :=
    [ idColumn "client_id" false,
      { name := "company_name", type := .varchar 255, nullable := false } ]
  key := ["client_id"]

/-- The parts. -/
def parts : Layout where
  name := "parts"
  columns :=
    [ idColumn "part_id" false,
      { name := "code", type := .varchar 100, nullable := false },
      { name := "designation", type := .varchar 255 } ]
  key := ["part_id"]

/-- The manufacturing orders. -/
def manufacturingOrders : Layout where
  name := "manufacturing_orders"
  columns :=
    [ { name := "order_id", type := .integer, nullable := false },
      { name := "order_number", type := .varchar 50, nullable := false },
      idColumn "client_id" true,
      idColumn "part_id" true,
      { name := "planned_end_date", type := .date } ]
  key := ["order_id"]
  unique := [["order_number"]]

/-- The operations of manufacturing orders. -/
def manufacturingOperations : Layout where
  name := "manufacturing_operations"
  columns :=
    [ idColumn "operation_id" false,
      { name := "order_id", type := .integer, nullable := false },
      { name := "phase", type := .integer, nullable := false },
      { name := "designation", type := .varchar 255, nullable := false },
      idColumn "machine_id" true,
      idColumn "workstation_id" true ]
  key := ["operation_id"]
  indexes := [⟨"ix_manufacturing_operations_order_id", ["order_id"]⟩]

/-- The tables that planning owns, each after those it refers to. -/
def owned : List Layout :=
  [planningEvents, eventComments, documents, eventDocuments, auditLogs]

/-- The tables of the catalog. -/
def catalog : List Layout :=
  [users, machines, workstations, clients, parts, manufacturingOrders, manufacturingOperations]

/-- All tables as the application itself lays them out: its own tables without defaults, since it
gives every column a value. -/
def all : List Layout :=
  owned.map Layout.withoutDefaults ++ catalog

end Tables

/-- The rule that no two selected rows with the same value in `column` have overlapping intervals
from `start_time_utc` up to but not including `end_time_utc`. -/
structure Exclusion where
  name : String
  column : String
deriving DecidableEq, Repr, Inhabited

namespace Exclusion

/-- The rows that the rule selects: those with a resource in its column that are not archived and
do not allow overlaps. -/
def guard (x : Exclusion) : Condition :=
  .both (.both (.isNotNull x.column) (.isNull "archived_at")) (.isNotTrue "allow_overlap")

/-- Two rows break the rule if it selects both, they hold the same value in its column, and each
starts before the other ends. -/
def Forbids (x : Exclusion) (row other : Row) : Prop :=
  x.guard.Selects row ∧ x.guard.Selects other
    ∧ row x.column ≠ .null ∧ row x.column = other x.column
    ∧ (row "start_time_utc").before? (other "end_time_utc") = some true
    ∧ (other "start_time_utc").before? (row "end_time_utc") = some true

instance (x : Exclusion) (row other : Row) : Decidable (x.Forbids row other) :=
  inferInstanceAs (Decidable (_ ∧ _ ∧ _ ∧ _ ∧ _ ∧ _))

/-- The rule for the resource column `column`. -/
def ofColumn (column : String) : Exclusion :=
  ⟨"ex_planning_events_" ++ column ++ "_overlap", column⟩

/-- The rules on the events. -/
def all : List Exclusion :=
  [ofColumn "machine_id", ofColumn "workstation_id"]

end Exclusion

end Workshop.Storage
