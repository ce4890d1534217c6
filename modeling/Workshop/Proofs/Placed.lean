import Workshop.Proofs.Booked

/-!
# Every event books one real resource

An event is placed if it books one resource, under a non-empty id that the catalog lists.  Drafts
make placed events, and patches keep events placed, whether they set a resource or leave it alone:
`State.run_isPlaced`.  The view of an event that books a real resource shows the kind of the
resource, and names it and no other: `Event.isShown_view`.
-/

namespace Workshop

/-! ### Resources of the catalog -/

/-- Whether the id of the resource is that of a machine of the catalog, or, for a workstation, that
of a workstation of the catalog. -/
def Resource.IsReal (r : Resource) (c : Catalog) : Prop :=
  match r.kind with
  | .machine => ∃ m ∈ c.machines, m.id = r.id
  | .workstation => ∃ w ∈ c.workstations, w.id = r.id

theorem Resource.isListed_iff {r : Resource} {c : Catalog} :
  r.isListed c = true ↔ r.IsReal c
  := by
  cases h : r.kind <;>
    simp [isListed, IsReal, h, Catalog.machine?, Catalog.workstation?, List.find?_isSome]

namespace Event

variable {e : Event} {catalog : Catalog}

/-- Whether the event books one resource, under a non-empty id that the catalog lists. -/
def IsPlaced (e : Event) (catalog : Catalog) : Prop :=
  ∃ resource : Resource, resource.id ≠ "" ∧ resource.IsReal catalog ∧ e.Books resource

theorem IsPlaced.archive (h : e.IsPlaced catalog) (actor : String) (stamp : Instant) :
  (e.archive actor stamp).IsPlaced catalog
  := h

end Event

theorem EventDraft.isPlaced_of_resolve {d : EventDraft} {catalog : Catalog} {id actor : String}
    {now : Instant} {b : Booking} (h : d.resolve catalog id actor now = .ok b) :
  b.event.IsPlaced catalog
  := by
  obtain ⟨operation, -, -, hres, -, hbooks, -⟩ := of_resolve h
  use b.resource, Resource.id_ne_of_resolve hres
  use Resource.isListed_iff.mp (isListed_of_resolve h)

/-- A patch checks that its resource is real only if it sets one; otherwise it stores the one that
the event had before. -/
theorem EventPatch.isPlaced_apply {p : EventPatch} {catalog : Catalog} {e : Event} {b : Booking}
    (h : p.resolve catalog e = .ok b) (he : e.IsPlaced catalog) (actor : String)
    (stamp : Instant) :
  (p.apply e b.event actor stamp).IsPlaced catalog
  := by
  obtain ⟨resource, hid, hreal, hbooks⟩ := he
  obtain ⟨operation, -, -, hres, -⟩ := of_resolve h
  use b.resource, Resource.id_ne_of_resolve hres
  constructor
  · cases hs : p.setsResource with
    | true => apply Resource.isListed_iff.mp (isListed_of_resolve h hs)
    | false =>
      rw [resource_of_resolve h hid hbooks hs]
      apply hreal
  · apply books_apply h hid hbooks

/-- A patch stores the values that were checked, those of the resource included. -/
theorem EventPatch.snapshot_apply {p : EventPatch} {catalog : Catalog} {e : Event} {b : Booking}
    (h : p.resolve catalog e = .ok b) (he : e.IsPlaced catalog) (actor : String)
    (stamp : Instant) :
  (p.apply e b.event actor stamp).snapshot = b.event.snapshot
  := by
  obtain ⟨resource, hid, -, hbooks⟩ := he
  obtain ⟨-, -, -, -, -, hb⟩ := of_resolve h
  have hbooked : b.event.Books b.resource := by
    rw [hb]
    constructor <;> rfl
  obtain ⟨hmachine, hworkstation⟩ := books_apply h hid hbooks actor stamp
  rw [← hbooked.1] at hmachine
  rw [← hbooked.2] at hworkstation
  simp only [Event.snapshot, hmachine, hworkstation]
  rw [apply_of_resolve h]

/-! ### Views -/

/-- Whether the view shows the kind of the resource, and a code and a name of a resource of this
kind and of none of the other. -/
structure Resource.IsShown (r : Resource) (v : EventView) : Prop where
  kind : v.resourceKind = some r.kind
  machineCode : v.machineCode ≠ none ↔ r.kind = .machine
  machineName : v.machineName ≠ none ↔ r.kind = .machine
  workstationCode : v.workstationCode ≠ none ↔ r.kind = .workstation
  workstationLabel : v.workstationLabel ≠ none ↔ r.kind = .workstation

/-- The view of an event shows the resource that it books, if that is real. -/
theorem Event.isShown_view {e : Event} {catalog : Catalog} {resource : Resource}
    (hid : resource.id ≠ "") (hreal : resource.IsReal catalog) (he : e.Books resource) :
  resource.IsShown (catalog.view e)
  := by
  have hlisted := Resource.isListed_iff.mpr hreal
  obtain ⟨kind, id⟩ := resource
  obtain ⟨hm, hw⟩ := he
  cases kind with
  | machine =>
    obtain ⟨m, hfound⟩ := Option.isSome_iff_exists.mp hlisted
    simp only [Resource.machineId?, Resource.workstationId?] at hm hw
    constructor <;> simp_all [Catalog.view, EventView.resourceKind, given]
  | workstation =>
    obtain ⟨w, hfound⟩ := Option.isSome_iff_exists.mp hlisted
    simp only [Resource.machineId?, Resource.workstationId?] at hm hw
    constructor <;> simp_all [Catalog.view, EventView.resourceKind, given]

/-! ### Runs -/

/-- Along a run that starts without events, every event is placed. -/
theorem State.run_isPlaced {s : State} (empty : s.records.events = []) (steps : List Step) :
  ∀ e ∈ (s.run steps).records.events, e.IsPlaced s.catalog
  := by
  apply run_events (P := fun e => e.IsPlaced s.catalog) empty
  intro x _ old e writes h
  cases writes with
  | create _ resolved => apply EventDraft.isPlaced_of_resolve resolved
  | patch _ resolved => apply EventPatch.isPlaced_apply resolved (h _ rfl)
  | archive => apply (h _ rfl).archive

/-- Every event books one real resource: along a run that starts without events, every event has
either a machine or a workstation, under a non-empty id that the catalog lists, and its view shows
just that resource. -/
theorem State.books_one_real_resource {s : State} (empty : s.records.events = [])
    (steps : List Step) {e : Event} (he : e ∈ (s.run steps).records.events) :
  ∃ resource : Resource, resource.id ≠ "" ∧ resource.IsReal s.catalog
    ∧ e.machineId = resource.machineId? ∧ e.workstationId = resource.workstationId?
    ∧ resource.IsShown (s.catalog.view e)
  := by
  obtain ⟨resource, hid, hreal, hm, hw⟩ := run_isPlaced empty steps e he
  use resource, hid, hreal, hm, hw
  apply Event.isShown_view hid hreal ⟨hm, hw⟩

namespace Sample

/-- The workshop with a bench next to the lathe. -/
def furnished : State :=
  { state with
    catalog := { catalog with workstations := [⟨"bench", "B1", "Bench", none, true, none⟩] } }

/-- An operation is planned, which takes place on the lathe, and then moved to the bench. -/
def rehousing : List Step :=
  [ step 1 (.create "first" { draft 8 12 with machineId := none, operationId := some "turn" }),
    step 2 (.patch "first" { machineId := some none, workstationId := some (some "bench") } {}) ]

/-- The event on the bench. -/
def rehoused : Event :=
  { event "first" 8 12 with
    orderId := some 1
    operationId := some "turn"
    machineId := none
    workstationId := some "bench"
    title := "P10 - Shaft"
    version := 2
    createdAt := hour 1
    createdBy := some "user"
    updatedAt := hour 2
    updatedBy := some "user" }

end Sample

/-- The event ends on the bench, and shows it. -/
theorem State.books_bench_of_rehousing :
  Sample.rehoused ∈ (Sample.furnished.run Sample.rehousing).records.events
    ∧ ∃ resource : Resource, resource.id ≠ "" ∧ resource.IsReal Sample.furnished.catalog
      ∧ none = resource.machineId? ∧ some "bench" = resource.workstationId?
      ∧ resource.IsShown (Sample.furnished.catalog.view Sample.rehoused)
  := by
  have he : Sample.rehoused ∈ (Sample.furnished.run Sample.rehousing).records.events := by decide
  exact ⟨he, books_one_real_resource rfl Sample.rehousing he⟩

end Workshop
