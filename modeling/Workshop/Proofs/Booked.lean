import Workshop.Proofs.Run

/-!
# What requests book

`EventDraft.of_resolve` and `EventPatch.of_resolve` say what is known of a booking that was not
refused: its interval is proper, it belongs to the order of the operation that the request names,
and its event books its resource.  `EventPatch.apply_of_resolve` says that a patch stores the event
that was checked, though it writes only the columns of the fields that it sets.  These bookings and
archivals are all that writes rows of events, so a property of events is kept along a run if these
rows have it: `State.run_events`.
-/

namespace Workshop

open Storage

/-! ### Checks against the catalog -/

theorem Interval.requireProper_eq_ok_iff {i : Interval} :
  i.requireProper = .ok () ↔ i.IsProper
  := by
  simp only [requireProper]
  split <;> simp_all

theorem OperationDefaults.requireOrder_eq_ok_iff {operation : Option OperationDefaults}
    {orderId : Option Int} :
  requireOrder operation orderId = .ok () ↔ ∀ op ∈ operation, ∀ n ∈ orderId, op.orderId = n
  := by
  cases operation with
  | none => simp [requireOrder]
  | some op =>
    cases orderId with
    | none => simp [requireOrder]
    | some n =>
      simp only [requireOrder]
      split <;> simp_all

theorem requireOneResource_eq_ok_iff {machineId workstationId : Option String} :
  requireOneResource machineId workstationId = .ok () ↔
    given machineId = none ∨ given workstationId = none
  := by
  simp only [requireOneResource]
  cases given machineId <;> cases given workstationId <;> simp

/-- An operation is required only where an id is given, and then it is the one that the catalog
lists under that id. -/
theorem Catalog.requireOperation_eq_ok_iff {c : Catalog} {id : Option String}
    {operation : Option OperationDefaults} :
  c.requireOperation id = .ok operation ↔
    (∀ i ∈ given id, c.operation? i ≠ none)
      ∧ operation = ((given id).bind c.operation?).map (·.toOperationDefaults)
  := by
  cases hi : given id with
  | none => simp [requireOperation, hi, eq_comm]
  | some i => cases ho : c.operation? i <;> simp [requireOperation, hi, ho, eq_comm]

theorem Catalog.requireResource_eq_ok_iff {c : Catalog} {resource : Resource} :
  c.requireResource resource = .ok () ↔ resource.isListed c = true
  := by
  simp only [requireResource]
  split <;> simp_all

/-- The resource of a booking is chosen again when nothing else is asked for. -/
theorem Resource.resolve_self {resource : Resource} {operation : Option OperationDefaults}
    (h : resource.id ≠ "") :
  resolve resource.machineId? resource.workstationId? operation = .ok resource
  := by
  obtain ⟨kind, id⟩ := resource
  cases kind <;>
    simp_all [resolve, machineId?, workstationId?, given, Option.filter]

/-! ### Drafts -/

/-- Whether the event books the resource and no other. -/
def Event.Books (e : Event) (resource : Resource) : Prop :=
  e.machineId = resource.machineId? ∧ e.workstationId = resource.workstationId?

theorem EventDraft.of_resolve {d : EventDraft} {catalog : Catalog} {id actor : String}
    {now : Instant} {b : Booking} (h : d.resolve catalog id actor now = .ok b) :
  ∃ operation, catalog.requireOperation d.operationId = .ok operation
    ∧ (∀ op ∈ operation, ∀ n ∈ d.orderId, op.orderId = n)
    ∧ Resource.resolve d.machineId d.workstationId operation = .ok b.resource
    ∧ b.event.interval.IsProper
    ∧ b.event.Books b.resource
    ∧ b.event.id = id
    ∧ b.event.operationId = d.operationId
    ∧ b.event.orderId = (d.orderId <|> operation.map (·.orderId))
  := by
  simp only [resolve, check_bind_eq_ok_iff, Interval.requireProper_eq_ok_iff] at h
  obtain ⟨hproper, -, h⟩ := h
  obtain ⟨operation, hop, h⟩ := bind_eq_ok_iff.mp h
  obtain ⟨horder, h⟩ := check_bind_eq_ok_iff.mp h
  obtain ⟨resource, hres, h⟩ := bind_eq_ok_iff.mp h
  obtain ⟨-, h⟩ := check_bind_eq_ok_iff.mp h
  cases h
  use operation, hop, OperationDefaults.requireOrder_eq_ok_iff.mp horder,
    mapError_eq_ok_iff.mp hres, hproper, ⟨rfl, rfl⟩

/-- A draft books a resource that the catalog lists. -/
theorem EventDraft.isListed_of_resolve {d : EventDraft} {catalog : Catalog} {id actor : String}
    {now : Instant} {b : Booking} (h : d.resolve catalog id actor now = .ok b) :
  b.resource.isListed catalog = true
  := by
  simp only [resolve, check_bind_eq_ok_iff] at h
  obtain ⟨-, -, h⟩ := h
  obtain ⟨operation, -, h⟩ := bind_eq_ok_iff.mp h
  obtain ⟨-, h⟩ := check_bind_eq_ok_iff.mp h
  obtain ⟨resource, -, h⟩ := bind_eq_ok_iff.mp h
  obtain ⟨hlisted, h⟩ := check_bind_eq_ok_iff.mp h
  cases h
  apply Catalog.requireResource_eq_ok_iff.mp hlisted

/-- Whether the event has just been made by `actor`, at the time `now`. -/
structure Event.IsNew (e : Event) (actor : String) (now : Instant) : Prop where
  version : e.version = 1
  createdAt : e.createdAt = now
  createdBy : e.createdBy = some actor
  updatedAt : e.updatedAt = now
  updatedBy : e.updatedBy = some actor
  archivedAt : e.archivedAt = none
  archivedBy : e.archivedBy = none

theorem EventDraft.isNew_of_resolve {d : EventDraft} {catalog : Catalog} {id actor : String}
    {now : Instant} {b : Booking} (h : d.resolve catalog id actor now = .ok b) :
  b.event.IsNew actor now
  := by
  simp only [resolve, check_bind_eq_ok_iff] at h
  obtain ⟨-, -, h⟩ := h
  obtain ⟨operation, -, h⟩ := bind_eq_ok_iff.mp h
  obtain ⟨-, h⟩ := check_bind_eq_ok_iff.mp h
  obtain ⟨resource, -, h⟩ := bind_eq_ok_iff.mp h
  obtain ⟨-, h⟩ := check_bind_eq_ok_iff.mp h
  cases h
  constructor <;> rfl

/-! ### Patches -/

namespace EventPatch

variable {p : EventPatch} {catalog : Catalog} {e : Event} {b : Booking}

theorem of_resolve (h : p.resolve catalog e = .ok b) :
  ∃ operation, catalog.requireOperation p.operationId.join = .ok operation
    ∧ (∀ op ∈ operation, ∀ n ∈ (p.merge e).orderId, op.orderId = n)
    ∧ Resource.resolve (p.merge e).machineId (p.merge e).workstationId operation = .ok b.resource
    ∧ (p.merge e).interval.IsProper
    ∧ b.event = { p.merge e with
        machineId := b.resource.machineId?
        workstationId := b.resource.workstationId? }
  := by
  obtain ⟨operation, hop, h⟩ := bind_eq_ok_iff.mp h
  obtain ⟨hproper, h⟩ := check_bind_eq_ok_iff.mp h
  obtain ⟨horder, h⟩ := check_bind_eq_ok_iff.mp h
  obtain ⟨resource, hres, h⟩ := bind_eq_ok_iff.mp h
  have hb : b = ⟨resource, { p.merge e with
      machineId := resource.machineId?
      workstationId := resource.workstationId? }⟩ := by
    split at h
    · apply return_eq_ok_iff.mp (check_bind_eq_ok_iff.mp h).2
    · apply return_eq_ok_iff.mp h
  subst hb
  use operation, hop, OperationDefaults.requireOrder_eq_ok_iff.mp horder,
    mapError_eq_ok_iff.mp hres, Interval.requireProper_eq_ok_iff.mp hproper

/-- A patch that sets a resource books one that the catalog lists. -/
theorem isListed_of_resolve (h : p.resolve catalog e = .ok b) (hs : p.setsResource = true) :
  b.resource.isListed catalog = true
  := by
  obtain ⟨operation, -, h⟩ := bind_eq_ok_iff.mp h
  obtain ⟨-, h⟩ := check_bind_eq_ok_iff.mp h
  obtain ⟨-, h⟩ := check_bind_eq_ok_iff.mp h
  obtain ⟨resource, -, h⟩ := bind_eq_ok_iff.mp h
  rw [if_pos hs] at h
  obtain ⟨hlisted, h⟩ := check_bind_eq_ok_iff.mp h
  cases h
  apply Catalog.requireResource_eq_ok_iff.mp hlisted

/-- A patch of a booking that sets no resource checks the resource of the booking. -/
theorem resource_of_resolve {resource : Resource} (h : p.resolve catalog e = .ok b)
    (hid : resource.id ≠ "") (he : e.Books resource) (hs : p.setsResource = false) :
  b.resource = resource
  := by
  obtain ⟨operation, -, -, hres, -⟩ := of_resolve h
  have hnone : p.machineId = none ∧ p.workstationId = none := by
    simpa [setsResource] using hs
  simp only [merge, hnone, Option.getD_none, he.1, he.2, Resource.resolve_self hid] at hres
  cases hres
  rfl

/-! ### The columns that a patch writes -/

/-- Copying columns leaves each of them as it is in `next` if it is copied, and as it was if it is
not. -/
theorem foldl_copyColumn (next e : Event) (columns : List Event.Field) :
  columns.foldl (Event.copyColumn next) e =
    { e with
      kind := if .kind ∈ columns then next.kind else e.kind
      status := if .status ∈ columns then next.status else e.status
      priority := if .priority ∈ columns then next.priority else e.priority
      orderId := if .orderId ∈ columns then next.orderId else e.orderId
      operationId := if .operationId ∈ columns then next.operationId else e.operationId
      machineId := if .machineId ∈ columns then next.machineId else e.machineId
      workstationId := if .workstationId ∈ columns then next.workstationId else e.workstationId
      title := if .title ∈ columns then next.title else e.title
      description := if .description ∈ columns then next.description else e.description
      start := if .start ∈ columns then next.start else e.start
      stop := if .stop ∈ columns then next.stop else e.stop
      allowOverlap := if .allowOverlap ∈ columns then next.allowOverlap else e.allowOverlap }
  := by
  induction columns generalizing e with
  | nil => simp
  | cons f columns ih =>
    rw [List.foldl_cons, ih]
    cases f <;> simp [Event.copyColumn]

theorem mem_fields {f : Event.Field} :
  f ∈ p.fields ↔ p.sets f = true
  := by
  simp only [fields, List.mem_filter, and_iff_right_iff_imp]
  intro
  cases f <;> simp [Worded.values]

/-- A column that no other field writes is written exactly when its own field is set, and a column
of the resource when either of them is. -/
theorem mem_columns {f : Event.Field} :
  f ∈ p.fields.flatMap Event.Field.columns ↔
    if f = .machineId ∨ f = .workstationId then p.setsResource = true else p.sets f = true
  := by
  simp only [List.mem_flatMap, mem_fields]
  constructor
  · rintro ⟨g, hg, hf⟩
    cases g <;> simp_all [Event.Field.columns, setsResource, sets]
  · split
    · rename_i hf
      intro h
      simp only [setsResource, Bool.or_eq_true] at h
      rcases h with h | h
      · use .machineId, h
        simpa [Event.Field.columns] using hf
      · use .workstationId, h
        simpa [Event.Field.columns] using hf
    · intro h
      use f, h
      cases f <;> simp_all [Event.Field.columns]

theorem ite_isSome_getD {α : Type} (o : Option α) (a : α) :
  (if o.isSome = true then o.getD a else a) = o.getD a
  := by
  cases o <;> rfl

/-- A patch stores the event that was checked, but for the resource, which it leaves alone unless it
sets it. -/
theorem apply_of_resolve (h : p.resolve catalog e = .ok b) (actor : String) (stamp : Instant) :
  p.apply e b.event actor stamp =
    { b.event with
      machineId := if p.setsResource then b.resource.machineId? else e.machineId
      workstationId := if p.setsResource then b.resource.workstationId? else e.workstationId
      version := Event.nextVersion e.version
      updatedAt := stamp
      updatedBy := some actor }
  := by
  obtain ⟨-, -, -, -, -, hb⟩ := of_resolve h
  rw [hb, apply, Event.assign, foldl_copyColumn]
  simp only [mem_columns]
  simp [merge, sets, ite_isSome_getD]

/-- A patch that sets a resource stores the one that was checked. -/
theorem books_apply_of_sets (h : p.resolve catalog e = .ok b) (hs : p.setsResource = true)
    (actor : String) (stamp : Instant) :
  (p.apply e b.event actor stamp).Books b.resource
  := by
  rw [apply_of_resolve h]
  simp only [hs, if_true]
  constructor <;> rfl

/-- A patch of a booking stores the resource that was checked. -/
theorem books_apply {resource : Resource} (h : p.resolve catalog e = .ok b)
    (hid : resource.id ≠ "") (he : e.Books resource) (actor : String) (stamp : Instant) :
  (p.apply e b.event actor stamp).Books b.resource
  := by
  by_cases hs : p.setsResource = true
  · apply books_apply_of_sets h hs
  · rw [apply_of_resolve h, resource_of_resolve h hid he (by simpa using hs)]
    simp only [hs]
    use he.1, he.2

theorem interval_apply (h : p.resolve catalog e = .ok b) (actor : String) (stamp : Instant) :
  (p.apply e b.event actor stamp).interval = b.event.interval
  := by
  rw [apply_of_resolve h]
  rfl

theorem allowOverlap_apply (h : p.resolve catalog e = .ok b) (actor : String) (stamp : Instant) :
  (p.apply e b.event actor stamp).allowOverlap = b.event.allowOverlap
  := by
  rw [apply_of_resolve h]

theorem id_apply (h : p.resolve catalog e = .ok b) (actor : String) (stamp : Instant) :
  (p.apply e b.event actor stamp).id = e.id
  := by
  obtain ⟨-, -, -, -, -, hb⟩ := of_resolve h
  rw [apply_of_resolve h, hb]
  rfl

theorem createdAt_apply (p : EventPatch) (e next : Event) (actor : String) (stamp : Instant) :
  (p.apply e next actor stamp).createdAt = e.createdAt
  := by
  rw [apply, Event.assign, foldl_copyColumn]

theorem archivedAt_apply (p : EventPatch) (e next : Event) (actor : String) (stamp : Instant) :
  (p.apply e next actor stamp).archivedAt = e.archivedAt
  := by
  rw [apply, Event.assign, foldl_copyColumn]

end EventPatch

@[simp]
theorem Event.id_archive (e : Event) (actor : String) (stamp : Instant) :
  (e.archive actor stamp).id = e.id
  := rfl

/-! ### Rows that are written -/

/-- `x.Writes catalog old e` says that the request of the step may write the row of the event `e`,
in the place of the row of the event `old` if there is one. -/
inductive Step.Writes (catalog : Catalog) (x : Step) : Option Event → Event → Prop where
  | create {id : String} {d : EventDraft} {b : Booking} (asked : x.request = .create id d)
      (resolved : d.resolve catalog id x.context.actor x.conditions.now = .ok b)
      (storable : ∀ n ∈ b.event.orderId, Storable n) :
    Writes catalog x none b.event
  | patch {id : String} {p : EventPatch} {tokens : Event.Tokens} {current : Event} {b : Booking}
      {stamp : Instant} (asked : x.request = .patch id p tokens)
      (resolved : p.resolve catalog current = .ok b)
      (stamped : Instant.next? current.updatedAt x.conditions.now = some stamp)
      (storable : ∀ n ∈ p.orderId.join, Storable n) :
    Writes catalog x (some current) (p.apply current b.event x.context.actor stamp)
  | archive {id : String} {current : Event} {stamp : Instant} (asked : x.request = .archive id)
      (stamped : Instant.next? current.updatedAt x.conditions.now = some stamp) :
    Writes catalog x (some current) (current.archive x.context.actor stamp)

/-- What holds of every event, and of the rows that the request writes if it holds of those that
they replace, holds of every event after a change. -/
theorem State.Change.forall_events {s : State} {x : Step} {r : Records} {P : Event → Prop}
    (change : s.Change x.conditions x.context x.request r) (h : ∀ e ∈ s.records.events, P e)
    (writes : ∀ old e, x.Writes s.catalog old e → (∀ a ∈ old, P a) → P e) :
  ∀ e ∈ r.events, P e
  := by
  have hfound {id : String} {current : Event} (found : s.records.event? id = some current) :
      ∀ a ∈ some current, P a := by
    rintro a ⟨⟩
    apply h _ (Records.mem_of_event? found)
  generalize hrequest : x.request = request at change
  cases change with
  | create resolved _ _ _ storable =>
    apply List.forall_mem_append.mpr ⟨h, _⟩
    rw [List.forall_mem_singleton]
    apply writes none _ (.create hrequest resolved storable)
    rintro a ⟨⟩
  | @patch id p tokens current b stamp _ found _ resolved _ stamped _ _ storable =>
    apply (Records.forall_mem_replaceEvent_iff h found
      (EventPatch.id_apply resolved x.context.actor stamp)).mpr
    apply writes _ _ (.patch hrequest resolved stamped storable) (hfound found)
  | @archive id current stamp found _ stamped =>
    apply (Records.forall_mem_replaceEvent_iff h found
      (current.id_archive x.context.actor stamp)).mpr
    apply writes _ _ (.archive hrequest stamped) (hfound found)
  | _ => apply h

/-- What holds of the rows that the requests of a run write, if it holds of those that they replace,
holds of every event along the run, if this starts without events. -/
theorem State.run_events {s : State} {steps : List Step} {P : Event → Prop}
    (empty : s.records.events = [])
    (writes : ∀ x ∈ steps, ∀ old e, x.Writes s.catalog old e → (∀ a ∈ old, P a) → P e) :
  ∀ e ∈ (s.run steps).records.events, P e
  := by
  apply run_records (P := fun r => ∀ e ∈ r.events, P e)
  · simp [empty]
  · intro t r ht h x hx change
    apply change.forall_events h
    rw [ht]
    apply writes x hx
  · intro r h x _ e he
    apply h e (Conditions.mem_of_mem_commit he)

end Workshop
