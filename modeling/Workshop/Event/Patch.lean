import Workshop.Event.Field

/-!
# Patches of events

An `EventPatch` sets some fields of an event and leaves the others alone; fields that may be
empty can be set to nothing.  `EventPatch.merge` is the event as the patch would have it, and
`Event.Tokens` are what a client may remember of the event it has seen.
-/

namespace Workshop

/-- New values for some fields of an event. -/
structure EventPatch where
  kind : Option EventKind := none
  status : Option EventStatus := none
  priority : Option EventPriority := none
  orderId : Option (Option Int) := none
  operationId : Option (Option String) := none
  machineId : Option (Option String) := none
  workstationId : Option (Option String) := none
  title : Option String := none
  description : Option (Option String) := none
  start : Option Instant := none
  stop : Option Instant := none
  allowOverlap : Option Bool := none
deriving DecidableEq, Repr, Inhabited

namespace EventPatch

/-- Whether the patch sets the field. -/
def sets (p : EventPatch) : Event.Field → Bool
  | .kind => p.kind.isSome
  | .status => p.status.isSome
  | .priority => p.priority.isSome
  | .orderId => p.orderId.isSome
  | .operationId => p.operationId.isSome
  | .machineId => p.machineId.isSome
  | .workstationId => p.workstationId.isSome
  | .title => p.title.isSome
  | .description => p.description.isSome
  | .start => p.start.isSome
  | .stop => p.stop.isSome
  | .allowOverlap => p.allowOverlap.isSome

/-- The fields that the patch sets. -/
def fields (p : EventPatch) : List Event.Field :=
  (Worded.values : List Event.Field).filter p.sets

/-- Whether the patch sets a resource. -/
def setsResource (p : EventPatch) : Bool :=
  p.machineId.isSome || p.workstationId.isSome

/-- The event with the values that the patch sets in place of its own. -/
def merge (p : EventPatch) (e : Event) : Event :=
  { e with
    kind := p.kind.getD e.kind
    status := p.status.getD e.status
    priority := p.priority.getD e.priority
    orderId := p.orderId.getD e.orderId
    operationId := p.operationId.getD e.operationId
    machineId := p.machineId.getD e.machineId
    workstationId := p.workstationId.getD e.workstationId
    title := p.title.getD e.title
    description := p.description.getD e.description
    start := p.start.getD e.start
    stop := p.stop.getD e.stop
    allowOverlap := p.allowOverlap.getD e.allowOverlap }

/-- The named values that the patch sets, with instants written by `time`. -/
def entries (time : Instant → String) (p : EventPatch) : List (String × Json) :=
  let word {α : Type} [Worded α] (a : α) : Json := .str (Worded.word a)
  let moment (i : Instant) : Json := .str (time i)
  ([ ("kind", p.kind.map word),
     ("status", p.status.map word),
     ("priority", p.priority.map word),
     ("order_id", p.orderId.map .optInt),
     ("operation_id", p.operationId.map .optStr),
     ("machine_id", p.machineId.map .optStr),
     ("workstation_id", p.workstationId.map .optStr),
     ("title", p.title.map .str),
     ("description", p.description.map .optStr),
     ("start_time_utc", p.start.map moment),
     ("end_time_utc", p.stop.map moment),
     ("allow_overlap", p.allowOverlap.map .bool) ] : List (String × Option Json)).filterMap
    fun (name, value) => value.map fun v => (name, v)

end EventPatch

/-- What a client remembers of an event: when it was changed last, and its version. -/
structure Event.Tokens where
  updatedAt : Option Instant := none
  version : Option Int := none
deriving DecidableEq, Repr, Inhabited

namespace Event.Tokens

/-- Whether what is remembered still holds of the event. -/
def Fresh (t : Tokens) (e : Event) : Prop :=
  (∀ i ∈ t.updatedAt, i = e.updatedAt) ∧ ∀ n ∈ t.version, n = e.version

instance (t : Tokens) (e : Event) : Decidable (t.Fresh e) :=
  inferInstanceAs (Decidable (_ ∧ _))

/-- The named tokens, with instants written by `time`. -/
def entries (time : Instant → String) (t : Tokens) : List (String × Json) :=
  (t.updatedAt.map fun i => ("expected_updated_at", Json.str (time i))).toList
    ++ (t.version.map fun n => ("expected_version", Json.int n)).toList

end Event.Tokens

end Workshop
