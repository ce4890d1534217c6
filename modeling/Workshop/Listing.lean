import Workshop.Conflict

/-!
# Listings

A `Listing.Query` asks for the events whose intervals overlap a range and that pass some filters,
and `Records.list` answers their views, in the order of start and id.
-/

namespace Workshop

namespace Listing

/-- What a listing asks for.  An empty id filters nothing. -/
structure Query where
  range : Interval
  machineId : Option String := none
  workstationId : Option String := none
  orderId : Option Int := none
  operationId : Option String := none
  kind : Option EventKind := none
  status : Option EventStatus := none
  priority : Option EventPriority := none
  includeArchived : Bool := false
deriving DecidableEq, Repr, Inhabited

namespace Query

/-- Whether the view passes the filters of the query. -/
def Admits (q : Query) (v : EventView) : Prop :=
  (∀ m ∈ given q.machineId, v.machineId = some m)
    ∧ (∀ w ∈ given q.workstationId, v.workstationId = some w)
    ∧ (∀ n ∈ q.orderId, v.orderId = some n)
    ∧ (∀ o ∈ given q.operationId, v.operationId = some o)
    ∧ (∀ k ∈ q.kind, v.kind = k)
    ∧ (∀ s ∈ q.status, v.status = s)
    ∧ (∀ p ∈ q.priority, v.priority = p)
    ∧ (q.includeArchived = false → v.archivedAt = none)

instance (q : Query) (v : EventView) : Decidable (q.Admits v) :=
  inferInstanceAs (Decidable (_ ∧ _ ∧ _ ∧ _ ∧ _ ∧ _ ∧ _ ∧ _))

/-- The refusal of a query whose range holds no instant or that asks for two resources at once. -/
def check (q : Query) : Except Refusal Unit :=
  if ¬ q.range.IsProper then .error .emptyRange
  else if (given q.machineId).isSome ∧ (given q.workstationId).isSome then
    .error (.noResource .ambiguous)
  else .ok ()

end Query

end Listing

/-- Fails unless answers can show the view: its version must be an integer of 64 bits. -/
def EventView.requireShowable (v : EventView) : Except Failure Unit :=
  if v.version ≤ Event.lastVersion then .ok ()
  else .error (.unshowable [⟨[.name "version"], .integerTooLarge⟩])

namespace Records

/-- The views that a query asks for. -/
def select (r : Records) (catalog : Catalog) (q : Listing.Query) : List EventView :=
  (sortBy Event.listedBefore <|
    r.events.filter fun e => e.interval.Overlaps q.range ∧ q.Admits (catalog.view e)).map
      catalog.view

/-- The answer to a query. -/
def list (r : Records) (c : Conditions) (catalog : Catalog) (q : Listing.Query) :
    Except Failure (List EventView) := do
  q.check.mapError .refused
  requireStorable q.orderId
  c.attempt .eventSelect
  let views := r.select catalog q
  views.forM EventView.requireShowable
  return views

/-- The view of the event with the given id. -/
def view (r : Records) (c : Conditions) (catalog : Catalog) (id : String) :
    Except Failure (Option EventView) := do
  c.attempt .eventSelect
  let found := (r.event? id).map catalog.view
  found.toList.forM EventView.requireShowable
  return found

/-- The view of an event that was just written. -/
def reload (r : Records) (c : Conditions) (catalog : Catalog) (id : String) :
    Except Failure EventView := do
  match ← r.view (c.during .reload) catalog id with
  | some v => return v
  | none => .error .internal

end Records

end Workshop
