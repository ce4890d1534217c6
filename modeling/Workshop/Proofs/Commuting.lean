import Workshop.Proofs.Bookable

/-!
# Creations commute

A draft is booked where its event collides with no stored one, and colliding is symmetric.  So two
drafts that are booked one after the other are booked in either order, with the same answers, and
what is stored differs only in the order of the rows: `State.creates_commute`.
-/

namespace Workshop

open Storage

/-! ### Lists that are sorted alike -/

/-- What goes in front of two lists that are sorted alike leaves them so. -/
theorem sortBy_append_congr {α : Type} {le : α → α → Bool} {m m' : List α}
    (h : sortBy le m = sortBy le m') (l : List α) :
  sortBy le (l ++ m) = sortBy le (l ++ m')
  := by
  induction l with
  | nil => apply h
  | cons a l ih => simp only [List.cons_append, sortBy, ih]

/-- Where just one of two elements may precede the other, both orders of them are sorted alike. -/
theorem sortBy_pair_comm {α : Type} {le : α → α → Bool} {a b : α} (h : le a b = !le b a) :
  sortBy le [a, b] = sortBy le [b, a]
  := by
  simp only [sortBy, insertBy, h]
  cases le b a <;> rfl

/-! ### States that grow -/

/-- The state with more events and more entries of the audit trail. -/
def State.grown (s : State) (events : List Event) (audit : List Audit.Entry) : State :=
  { s with
    records :=
      { s.records with
        events := s.records.events ++ events
        audit := s.records.audit ++ audit } }

namespace State

variable {s : State}

@[simp]
theorem catalog_grown {events : List Event} {audit : List Audit.Entry} :
  (s.grown events audit).catalog = s.catalog
  := rfl

@[simp]
theorem events_grown {events : List Event} {audit : List Audit.Entry} :
  (s.grown events audit).records.events = s.records.events ++ events
  := rfl

theorem grown_grown {events events' : List Event} {audit audit' : List Audit.Entry} :
  (s.grown events audit).grown events' audit' = s.grown (events ++ events') (audit ++ audit')
  := by
  simp [grown]

theorem event?_grown_of_ne {e : Event} {audit : List Audit.Entry} {id : String}
    (h : e.id ≠ id) :
  (s.grown [e] audit).records.event? id = s.records.event? id
  := by
  simp [Records.event?, h]

/-- The table of events is the same, whichever of two new events comes first. -/
theorem eventsById_grown_comm {e e' : Event} {audit audit' : List Audit.Entry}
    (h : e.id ≠ e'.id) :
  (s.grown [e, e'] audit).records.eventsById = (s.grown [e', e] audit').records.eventsById
  := by
  apply sortBy_append_congr
  apply sortBy_pair_comm
  rcases lt_or_gt_of_ne h with hlt | hlt
  · simp [hlt.le, hlt]
  · simp [hlt.le, hlt]

end State

/-! ### Drafts that are booked -/

/-- What stands in the way of the booking of a draft are the events that collide with its event. -/
theorem EventDraft.blocked_iff_exists_collides {d : EventDraft} {catalog : Catalog} {r : Records}
    {id actor : String} {now : Instant} {b : Booking}
    (resolved : d.resolve catalog id actor now = .ok b) :
  b.event.allowOverlap = false ∧ r.blockers b.resource b.event.interval none ≠ [] ↔
    ∃ e ∈ r.events, e.Collides b.event
  := by
  obtain ⟨-, -, -, -, -, books, -⟩ := of_resolve resolved
  have isOpen := (isNew_of_resolve resolved).archivedAt
  simp only [Records.blockers_ne_nil_iff, Event.collides_iff_blocks books, isOpen, given_none]
  grind

/-- Whether the step, where nothing fails, is to book a draft that the catalog completes to the
booking `b`, whose order the storage can hold. -/
def Step.Books (x : Step) (catalog : Catalog) (b : Booking) : Prop :=
  x.conditions.IsCalm ∧ (∀ n ∈ b.event.orderId, Storable n)
    ∧ ∃ d, x.request = .create b.event.id d
      ∧ d.resolve catalog b.event.id x.context.actor x.conditions.now = .ok b

/-- The entry in the audit trail of a step that books an event. -/
def Step.entry (x : Step) (e : Event) : Audit.Entry :=
  ⟨x.context, .ofCreated e, e.id, x.conditions.now⟩

namespace State

variable {s : State} {x : Step} {b : Booking}

/-- A booking with a new id that collides with no stored event is stored, with its entry in the
audit trail. -/
theorem perform_of_books (books : x.Books s.catalog b)
    (fresh : s.records.event? b.event.id = none)
    (free : ∀ e ∈ s.records.events, ¬ e.Collides b.event) :
  s.answer x = .ok (.event (s.catalog.view b.event))
    ∧ s.after x = s.grown [b.event] [x.entry b.event]
  := by
  obtain ⟨c, context, request⟩ := x
  obtain ⟨calm, storable, d, asked, resolved⟩ := books
  have hfree : ¬ (b.event.allowOverlap = false
      ∧ s.records.blockers b.resource b.event.interval none ≠ []) := by
    rw [EventDraft.blocked_iff_exists_collides resolved]
    rintro ⟨e, he, hcollides⟩
    apply free e he hcollides
  have hcreate := Records.create_of_resolve calm fresh resolved
  rw [if_neg hfree, if_pos storable] at hcreate
  subst asked
  simp only [answer, after, perform, withRecords, hcreate]
  exact ⟨rfl, rfl⟩

/-- The same booking is stored on top of another event, if this has another id and does not collide
with it. -/
theorem perform_grown_of_books {e : Event} {p : Audit.Entry} (books : x.Books s.catalog b)
    (fresh : s.records.event? b.event.id = none)
    (free : ∀ e ∈ s.records.events, ¬ e.Collides b.event) (other : e.id ≠ b.event.id)
    (apart : ¬ e.Collides b.event) :
  (s.grown [e] [p]).answer x = .ok (.event (s.catalog.view b.event))
    ∧ (s.grown [e] [p]).after x = s.grown [e, b.event] [p, x.entry b.event]
  := by
  have hfree : ∀ a ∈ (s.grown [e] [p]).records.events, ¬ a.Collides b.event := by
    rw [events_grown, List.forall_mem_append, List.forall_mem_singleton]
    exact ⟨free, apart⟩
  obtain ⟨hanswer, hafter⟩ :=
    perform_of_books (s := s.grown [e] [p]) books ((event?_grown_of_ne other).trans fresh) hfree
  use hanswer
  rw [hafter, grown_grown]
  rfl

/-- Where nothing fails and the id is new, a draft that is answered is for a booking that collides
with no stored event. -/
theorem of_create_ok {id : String} {d : EventDraft} {a : Answer} (asked : x.request = .create id d)
    (calm : x.conditions.IsCalm) (fresh : s.records.event? id = none) (h : s.answer x = .ok a) :
  ∃ b, b.event.id = id ∧ x.Books s.catalog b
    ∧ (∀ e ∈ s.records.events, ¬ e.Collides b.event)
    ∧ a = .event (s.catalog.view b.event)
  := by
  obtain ⟨c, context, request⟩ := x
  subst asked
  simp only [answer, perform, withRecords] at h
  cases hb : d.resolve s.catalog id context.actor c.now with
  | error why =>
    rw [Records.create_of_resolve_error (c.attempt_of_fault_none calm.1 _) hb] at h
    cases h
  | ok b =>
    obtain ⟨-, -, -, -, -, -, rfl, -⟩ := EventDraft.of_resolve hb
    rw [Records.create_of_resolve calm fresh hb] at h
    split at h
    · cases h
    · rename_i hfree
      rw [EventDraft.blocked_iff_exists_collides hb] at hfree
      split at h
      · rename_i hstorable
        cases h
        exact ⟨b, rfl, ⟨calm, hstorable, d, rfl, hb⟩, by simpa using hfree, rfl⟩
      · cases h

/-! ### Drafts that are booked in either order -/

/-- Creations commute.  If two drafts with two new ids are booked one after the other, where nothing
fails, then they are booked in the other order as well, and each is answered with the same view.
The table of events is the same in the end, and the state is the one before with the two events and
their two entries in the audit trail, in the order of the requests. -/
theorem creates_commute {y : Step} {id id' : String} {d d' : EventDraft} {a a' : Answer}
    (asked : x.request = .create id d) (asked' : y.request = .create id' d')
    (calm : x.conditions.IsCalm) (calm' : y.conditions.IsCalm)
    (fresh : s.records.event? id = none) (fresh' : s.records.event? id' = none)
    (distinct : id ≠ id') (first : s.answer x = .ok a) (second : (s.after x).answer y = .ok a') :
  s.answer y = .ok a' ∧ (s.after y).answer x = .ok a
    ∧ ((s.after x).after y).records.eventsById = ((s.after y).after x).records.eventsById
    ∧ ∃ e e' p p', (s.after x).after y = s.grown [e, e'] [p, p']
      ∧ (s.after y).after x = s.grown [e', e] [p', p]
  := by
  obtain ⟨b, rfl, books, free, rfl⟩ := of_create_ok asked calm fresh first
  obtain ⟨-, hx⟩ := perform_of_books books fresh free
  rw [hx] at second ⊢
  obtain ⟨b', rfl, books', free', rfl⟩ :=
    of_create_ok asked' calm' ((event?_grown_of_ne distinct).trans fresh') second
  rw [events_grown, List.forall_mem_append, List.forall_mem_singleton] at free'
  obtain ⟨free', apart⟩ := free'
  rw [catalog_grown] at books' ⊢
  -- the second booking is free without the first, and the first, by symmetry, on top of the second
  obtain ⟨second', hy⟩ := perform_of_books books' fresh' free'
  obtain ⟨-, hxy⟩ := perform_grown_of_books (p := x.entry b.event) books' fresh' free' distinct
    apart
  obtain ⟨first', hyx⟩ := perform_grown_of_books (p := y.entry b'.event) books fresh free
    distinct.symm fun h => apart (Event.collides_comm.mp h)
  rw [hy, hxy, hyx]
  exact ⟨second', first', eventsById_grown_comm distinct, _, _, _, _, rfl, rfl⟩

end State

namespace Sample

/-- The lathe is asked for from eleven to thirteen, whoever else uses it. -/
def sharing : Step :=
  step 1 (.create "second" { draft 11 13 with allowOverlap := true })

/-- The operation on the lathe is planned from twelve to fourteen. -/
def taking : Step :=
  step 1 (.create "third" { operationId := some "turn", start := hour 12, stop := hour 14 })

end Sample

/-- A booking that allows overlaps and one that does not are made in either order. -/
theorem State.creates_of_sharing :
  (Sample.booked.after Sample.sharing).answer Sample.taking = Sample.booked.answer Sample.taking
    ∧ (Sample.booked.after Sample.taking).answer Sample.sharing
      = Sample.booked.answer Sample.sharing
    ∧ ((Sample.booked.after Sample.sharing).after Sample.taking).records.eventsById
      = ((Sample.booked.after Sample.taking).after Sample.sharing).records.eventsById
  := by
  obtain ⟨a, first⟩ : ∃ a, Sample.booked.answer Sample.sharing = .ok a := ⟨_, rfl⟩
  obtain ⟨a', second⟩ :
      ∃ a, (Sample.booked.after Sample.sharing).answer Sample.taking = .ok a := ⟨_, rfl⟩
  obtain ⟨second', first', hsame, -⟩ := creates_commute rfl rfl (by decide) (by decide)
    (by decide) (by decide) (by decide) first second
  exact ⟨second.trans second'.symm, first'.trans first.symm, hsame⟩

end Workshop
