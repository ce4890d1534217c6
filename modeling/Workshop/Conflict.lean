import Workshop.Event.View
import Workshop.Records
import Workshop.Sorting

/-!
# Conflicts

An event stands in the way of a booking if it holds the same resource at an overlapping interval,
is not archived and does not allow overlaps.  `Records.clashes` reports the first such events, and
`Records.requireFree` refuses a booking that they stand in the way of.
-/

namespace Workshop

/-- The order of events in listings: by start, and by id among those that start together. -/
def Event.listedBefore (a b : Event) : Bool :=
  a.start < b.start || (a.start = b.start && a.id ≤ b.id)

/-- Whether the event books the resource. -/
def Resource.IsBookedBy (resource : Resource) (e : Event) : Prop :=
  match resource.kind with
  | .machine => e.machineId = some resource.id
  | .workstation => e.workstationId = some resource.id

instance (resource : Resource) (e : Event) : Decidable (resource.IsBookedBy e) := by
  unfold Resource.IsBookedBy
  cases resource.kind <;> exact inferInstance

/-- Whether the event stands in the way of a booking of the resource for the interval. -/
def Event.Blocks (e : Event) (resource : Resource) (span : Interval) : Prop :=
  resource.IsBookedBy e ∧ e.archivedAt = none ∧ e.allowOverlap = false ∧ e.interval.Overlaps span

instance (e : Event) (resource : Resource) (span : Interval) :
    Decidable (e.Blocks resource span) :=
  inferInstanceAs (Decidable (_ ∧ _ ∧ _ ∧ _))

/-- The event as a refusal reports it. -/
def Catalog.clash (c : Catalog) (e : Event) : Clash :=
  ⟨e.id, e.start, e.stop, e.title, (c.orderOf e).map (·.number)⟩

/-- The most events that a refusal reports. -/
def clashLimit : Nat :=
  25

namespace Records

/-- The events that stand in the way of a booking, but for the one called `exclude`, in the order
of listings. -/
def blockers (r : Records) (resource : Resource) (span : Interval) (exclude : Option String) :
    List Event :=
  sortBy Event.listedBefore <|
    r.events.filter fun e => e.Blocks resource span ∧ given exclude ≠ some e.id

/-- The first events that stand in the way of a booking, as a refusal reports them. -/
def clashes (r : Records) (catalog : Catalog) (resource : Resource) (span : Interval)
    (exclude : Option String) : List Clash :=
  ((r.blockers resource span exclude).take clashLimit).map catalog.clash

/-- The first events that stand in the way of a booking, as a request finds them. -/
def findClashes (r : Records) (c : Conditions) (catalog : Catalog) (resource : Resource)
    (span : Interval) (exclude : Option String) : Except Failure (List Clash) := do
  c.attempt .eventSelect
  return r.clashes catalog resource span exclude

/-- Refuses a booking that other events stand in the way of.  One that allows overlaps is never
refused. -/
def requireFree (r : Records) (c : Conditions) (catalog : Catalog) (resource : Resource)
    (span : Interval) (allowOverlap : Bool) (exclude : Option String) : Except Failure Unit :=
  if c.skipsCheck || allowOverlap then .ok ()
  else do
    let found ← r.findClashes (c.during .check) catalog resource span exclude
    if found.isEmpty then .ok () else .error (.refused (.conflict found))

end Records

end Workshop
