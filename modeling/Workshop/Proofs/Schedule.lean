import Workshop.Proofs.Booked

/-!
# No resource is booked twice

Two events collide if they book one resource at overlapping intervals, neither of them being
archived or allowing overlaps.  `Records.IsSchedule` says that every event is a booking and that no
two of them collide, and `State.run_isSchedule` that every run keeps this as long as the check for
conflicts takes place.  What carries the proof is that the event which is checked books the same
resource, at the same interval, as the one which is stored: `EventPatch.books_apply`.
-/

namespace Workshop

namespace Event

variable {a b e : Event} {resource : Resource}

/-! ### Bookings -/

/-- Whether the event books one resource with a non-empty id, for a proper interval. -/
def IsBooking (e : Event) : Prop :=
  e.interval.IsProper ∧ ∃ resource : Resource, resource.id ≠ "" ∧ e.Books resource

/-- Whether two events that are not archived and do not allow overlaps book one machine or one
workstation at overlapping intervals. -/
def Collides (a b : Event) : Prop :=
  (a.archivedAt = none ∧ b.archivedAt = none)
    ∧ (a.allowOverlap = false ∧ b.allowOverlap = false)
    ∧ ((∃ m, a.machineId = some m ∧ b.machineId = some m)
      ∨ ∃ w, a.workstationId = some w ∧ b.workstationId = some w)
    ∧ a.interval.Overlaps b.interval

theorem collides_comm :
  a.Collides b ↔ b.Collides a
  := by
  simp only [Collides, Interval.overlaps_comm (a := a.interval)]
  grind

/-- An event that collides with a booking of a resource stands in the way of that booking. -/
theorem blocks_of_collides (hb : b.Books resource) (h : a.Collides b) :
  a.Blocks resource b.interval
  := by
  obtain ⟨⟨hopen, -⟩, ⟨hallow, -⟩, hshare, hover⟩ := h
  refine ⟨?_, hopen, hallow, hover⟩
  obtain ⟨hm, hw⟩ := hb
  rcases hshare with ⟨m, ha, hm'⟩ | ⟨w, ha, hw'⟩
  · cases hk : resource.kind <;>
      simp_all [Resource.IsBookedBy, Resource.machineId?, Resource.workstationId?]
  · cases hk : resource.kind <;>
      simp_all [Resource.IsBookedBy, Resource.machineId?, Resource.workstationId?]

/-- A booking that was found to be free collides with no event but the excluded one. -/
theorem not_collides_of_requireFree {r : Records} {c : Conditions} {catalog : Catalog}
    {exclude : Option String} (checks : c.skipsCheck = false) (hb : b.Books resource)
    (h : r.requireFree c catalog resource b.interval b.allowOverlap exclude = .ok ())
    (ha : a ∈ r.events) (hne : exclude ≠ some a.id) :
  ¬ a.Collides b
  := by
  intro hc
  rcases Records.requireFree_eq_ok_iff.mp h with hfree | ⟨-, hblockers⟩
  · obtain ⟨-, ⟨-, hallow⟩, -⟩ := hc
    simp [checks, hallow] at hfree
  · have hmem : a ∈ r.blockers resource b.interval exclude := by
      refine Records.mem_blockers_iff.mpr ⟨ha, blocks_of_collides hb hc, ?_⟩
      intro hx
      apply hne (given_eq_some.mp hx).1
    rw [hblockers] at hmem
    apply List.not_mem_nil hmem

end Event

/-! ### Patches of bookings -/

namespace EventPatch

variable {p : EventPatch} {catalog : Catalog} {e : Event} {b : Booking}

/-- A patch turns a booking into a booking. -/
theorem isBooking_apply (h : p.resolve catalog e = .ok b) (he : e.IsBooking) (actor : String)
    (stamp : Instant) :
  (p.apply e b.event actor stamp).IsBooking
  := by
  obtain ⟨operation, -, -, hres, hproper, hb⟩ := of_resolve h
  obtain ⟨-, resource, hid, hbooks⟩ := he
  constructor
  · rw [interval_apply h, hb]
    apply hproper
  · use b.resource, Resource.id_ne_of_resolve hres
    apply books_apply h hid hbooks

end EventPatch

/-! ### Schedules -/

/-- Every event is a booking, and no two events collide. -/
structure Records.IsSchedule (r : Records) : Prop where
  booking : ∀ e ∈ r.events, e.IsBooking
  exclusive : ∀ a ∈ r.events, ∀ b ∈ r.events, a.id ≠ b.id → ¬ a.Collides b

namespace Records.IsSchedule

variable {r : Records} {e : Event}

theorem audited {context : Audit.Context} {action : Audit.Action} {id : String} {time : Instant}
    (h : r.IsSchedule) :
  (r.audited context action id time).IsSchedule
  := ⟨h.booking, h.exclusive⟩

/-- Where a booking collides with no event, it can be added. -/
theorem insert (h : r.IsSchedule) (he : e.IsBooking) (hfree : ∀ a ∈ r.events, ¬ a.Collides e) :
  Records.IsSchedule { r with events := r.events ++ [e] }
  := by
  constructor
  · intro a ha
    rcases List.mem_append.mp ha with ha | ha
    · apply h.booking a ha
    · rw [List.mem_singleton.mp ha]
      apply he
  · intro a ha b hb hne
    rcases List.mem_append.mp ha with ha | ha <;> rcases List.mem_append.mp hb with hb | hb
    · apply h.exclusive a ha b hb hne
    · rw [List.mem_singleton.mp hb]
      apply hfree a ha
    · rw [List.mem_singleton.mp ha, Event.collides_comm]
      apply hfree b hb
    · rw [List.mem_singleton.mp ha, List.mem_singleton.mp hb] at hne
      contradiction

/-- Where a booking collides with no event of another id, it can take the place of the event of its
own id. -/
theorem replace (h : r.IsSchedule) (he : e.IsBooking)
    (hfree : ∀ a ∈ r.events, a.id ≠ e.id → ¬ a.Collides e) :
  (r.replaceEvent e).IsSchedule
  := by
  constructor
  · intro a ha
    rcases mem_replaceEvent ha with rfl | ⟨ha, -⟩
    · apply he
    · apply h.booking a ha
  · intro a ha b hb hne
    rcases mem_replaceEvent ha with hae | ⟨hae, ha'⟩ <;>
      rcases mem_replaceEvent hb with hbe | ⟨hbe, hb'⟩
    · rw [hae, hbe] at hne
      contradiction
    · rw [hae, Event.collides_comm]
      apply hfree b hbe hb'
    · rw [hbe]
      apply hfree a hae ha'
    · apply h.exclusive a hae b hbe hne

/-- A change that checks for conflicts turns a schedule into a schedule. -/
theorem change {s : State} {c : Conditions} {context : Audit.Context} {request : Request}
    (h : s.records.IsSchedule) (checks : c.skipsCheck = false)
    (change : s.Change c context request r) :
  r.IsSchedule
  := by
  cases change with
  | @create id d b resolved free _ _ =>
    obtain ⟨operation, -, -, hres, hproper, hbooks, -⟩ := EventDraft.of_resolve resolved
    apply audited
    apply h.insert
    · exact ⟨hproper, b.resource, Resource.id_ne_of_resolve hres, hbooks⟩
    · intro a ha
      apply Event.not_collides_of_requireFree checks hbooks free ha
      simp
  | @patch id p tokens current b stamp _ found _ resolved free _ _ _ =>
    have hcur := h.booking current (Records.mem_of_event? found)
    obtain ⟨resource, hid, hbooks⟩ := hcur.2
    -- what was found to be free is the event as it is stored, not only as it was asked for
    rw [← EventPatch.interval_apply resolved context.actor stamp,
      ← EventPatch.allowOverlap_apply resolved context.actor stamp] at free
    apply audited
    apply h.replace
    · apply EventPatch.isBooking_apply resolved hcur
    · intro a ha hne
      rw [EventPatch.id_apply resolved] at hne
      apply Event.not_collides_of_requireFree checks
        (EventPatch.books_apply resolved hid hbooks context.actor stamp) free ha
      simpa using hne.symm
  | @archive id current stamp found _ _ _ =>
    apply audited
    apply h.replace
    · apply h.booking current (Records.mem_of_event? found)
    · rintro a - - ⟨⟨-, harchived⟩, -⟩
      cases harchived
  | archiveAgain => apply h
  | comment => exact ⟨h.booking, h.exclusive⟩
  | upload => exact ⟨h.booking, h.exclusive⟩

/-- A commit leaves a schedule, as it adds no events. -/
theorem commit (h : r.IsSchedule) (c : Conditions) :
  (c.commit r).IsSchedule
  := by
  constructor
  · intro e he
    apply h.booking e (Conditions.mem_of_mem_commit he)
  · intro a ha b hb
    apply h.exclusive a (Conditions.mem_of_mem_commit ha) b (Conditions.mem_of_mem_commit hb)

end Records.IsSchedule

/-- No resource is booked twice: where a run starts from a schedule and its requests check for
conflicts, it leads to a schedule, whatever the clock shows and whatever fails. -/
theorem State.run_isSchedule {s : State} {steps : List Step} (h : s.records.IsSchedule)
    (checks : ∀ x ∈ steps, x.conditions.skipsCheck = false) :
  (s.run steps).records.IsSchedule
  := by
  apply run_records h
  · intro t r _ ht x hx hchange
    apply ht.change (checks x hx) hchange
  · intro r hr x _
    apply hr.commit

namespace Sample

/-- A workshop where the lathe is booked from eight to twelve. -/
def booked : State :=
  { state with records := { events := [event "first" 8 12] } }

/-- The lathe is booked from twelve on, and then asked for from eleven on. -/
def crowding : List Step :=
  [ step 1 (.create "second" (draft 12 14)),
    step 2 (.patch "second" { start := some (hour 11) } {}) ]

end Sample

/-- The second booking stays where it is. -/
theorem State.run_crowding :
  Sample.booked.records.IsSchedule
    ∧ (∀ x ∈ Sample.crowding, x.conditions.skipsCheck = false)
    ∧ (Sample.booked.run Sample.crowding).records.IsSchedule
    ∧ (Sample.booked.run Sample.crowding).records.events.map Event.interval
      = [⟨Sample.hour 8, Sample.hour 12⟩, ⟨Sample.hour 12, Sample.hour 14⟩]
  := by
  have hbooked : Sample.booked.records.IsSchedule := by
    constructor
    · intro e he
      rw [List.mem_singleton.mp he]
      exact ⟨by decide, ⟨.machine, "lathe"⟩, by decide, rfl, rfl⟩
    · intro a ha b hb hne
      rw [List.mem_singleton.mp ha, List.mem_singleton.mp hb] at hne
      contradiction
  have hchecks : ∀ x ∈ Sample.crowding, x.conditions.skipsCheck = false := by decide
  exact ⟨hbooked, hchecks, run_isSchedule hbooked hchecks, by decide⟩

end Workshop
