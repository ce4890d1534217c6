import Workshop.Proofs.Dossier

/-!
# Bookkeeping

Every event counts its states and dates the first and the last of them.  `Event.IsKept` says what
holds of these books at any time, and `Event.Becomes` what one step can make of an event: nothing
else, or its next state.  `State.run_bookkeeping` proves both along runs that start without events,
whatever the clock shows.
-/

namespace Workshop

/-! ### The books of an event -/

/-- Whether the books of the event are in order: its states are counted from one and lie at least a
microsecond apart, the first of them is also the last exactly while it is the only one, and if the
event is archived, then its last change has cancelled and archived it. -/
structure Event.IsKept (e : Event) : Prop where
  counted : 1 ≤ e.version
  paced : e.IsPaced
  unchanged : e.createdAt = e.updatedAt ↔ e.version = 1
  signed : e.archivedAt ≠ none ↔ e.archivedBy ≠ none
  closed : e.archivedAt ≠ none →
    e.status = .cancelled ∧ e.archivedAt = some e.updatedAt ∧ e.archivedBy = e.updatedBy

namespace Event.IsKept

variable {e e' : Event} {actor : String} {now stamp : Instant}

theorem of_isNew (h : e.IsNew actor now) :
  e.IsKept
  := by
  have hopen := h.archivedAt
  constructor
  · exact h.version.ge
  · apply IsPaced.of_isNew h
  · rw [h.createdAt, h.updatedAt, h.version]
    simp
  · simp [hopen, h.archivedBy]
  · intro harchived
    contradiction

/-- A change counts on, and comes later than the first state. -/
theorem count_of_next? (h : e.IsKept) (stamped : Instant.next? e.updatedAt now = some stamp)
    (hcreated : e'.createdAt = e.createdAt) (hstamp : e'.updatedAt = stamp)
    (hversion : e'.version = nextVersion e.version) :
  1 ≤ e'.version ∧ e'.IsPaced ∧ (e'.createdAt = e'.updatedAt ↔ e'.version = 1)
  := by
  have hcounted := h.counted
  have hpaced := h.paced
  have hlater := Instant.lt_iff.mp (Instant.lt_of_next? stamped).1
  have hnext : e'.version = e.version + 1 := by rw [hversion, hpaced.nextVersion_eq]
  refine ⟨by omega, hpaced.of_next? stamped hcreated hstamp hversion, ?_⟩
  constructor
  · intro heq
    rw [IsPaced] at hpaced
    rw [hcreated, hstamp] at heq
    rw [heq] at hpaced
    omega
  · omega

theorem patch (h : e.IsKept) (hopen : e.archivedAt = none)
    (stamped : Instant.next? e.updatedAt now = some stamp) (p : EventPatch) (next : Event) :
  (p.apply e next actor stamp).IsKept
  := by
  have hat := EventPatch.archivedAt_apply p e next actor stamp
  have hby : (p.apply e next actor stamp).archivedBy = e.archivedBy := by
    rw [EventPatch.apply, Event.assign, EventPatch.foldl_copyColumn]
  obtain ⟨hcounted, hpaced, hunchanged⟩ := h.count_of_next? stamped
    (EventPatch.createdAt_apply p e next actor stamp) rfl rfl
  constructor
  · apply hcounted
  · apply hpaced
  · apply hunchanged
  · rw [hat, hby]
    apply h.signed
  · rw [hat, hopen]
    intro harchived
    contradiction

theorem archive (h : e.IsKept) (stamped : Instant.next? e.updatedAt now = some stamp) :
  (e.archive actor stamp).IsKept
  := by
  obtain ⟨hcounted, hpaced, hunchanged⟩ :=
    @count_of_next? e (e.archive actor stamp) now stamp h stamped rfl rfl rfl
  constructor
  · apply hcounted
  · apply hpaced
  · apply hunchanged
  · simp [Event.archive]
  · intro
    exact ⟨rfl, rfl, rfl⟩

end Event.IsKept

/-! ### What becomes of the books -/

/-- Whether one step can make `e'` of `e`: who made the event and when stays as it is, and so does
all else, unless `e'` is the next version, with a later stamp. -/
structure Event.Becomes (e e' : Event) : Prop where
  id : e'.id = e.id
  createdAt : e'.createdAt = e.createdAt
  createdBy : e'.createdBy = e.createdBy
  counted : e' = e ∨ e'.version = e.version + 1 ∧ e.updatedAt < e'.updatedAt

namespace Event.Becomes

variable {e e' : Event}

theorem refl (e : Event) :
  e.Becomes e
  := ⟨rfl, rfl, rfl, .inl rfl⟩

theorem of_next? {now stamp : Instant} (paced : e.IsPaced)
    (stamped : Instant.next? e.updatedAt now = some stamp) (hid : e'.id = e.id)
    (hat : e'.createdAt = e.createdAt) (hby : e'.createdBy = e.createdBy)
    (hstamp : e'.updatedAt = stamp) (hversion : e'.version = nextVersion e.version) :
  e.Becomes e'
  := by
  refine ⟨hid, hat, hby, .inr ⟨?_, ?_⟩⟩
  · rw [hversion, paced.nextVersion_eq]
  · rw [hstamp]
    apply (Instant.lt_of_next? stamped).1

end Event.Becomes

namespace Dossier.Next

variable {catalog : Catalog} {c : Conditions} {context : Audit.Context} {id : String}
  {d d' : Dossier}

/-- A commit keeps the books of the event in order. -/
theorem isKept (next : Dossier.Next catalog c context id d d') (kept : ∀ e ∈ d.event, e.IsKept) :
  ∀ e ∈ d'.event, e.IsKept
  := by
  cases next with
  | create _ resolved =>
    rintro e ⟨⟩
    apply Event.IsKept.of_isNew (EventDraft.isNew_of_resolve resolved)
  | patch found isOpen _ stamped =>
    rintro e ⟨⟩
    apply (kept _ found).patch isOpen stamped
  | archive found _ stamped =>
    rintro e ⟨⟩
    apply (kept _ found).archive stamped
  | _ => apply kept

/-- A commit does not lose the event, and makes of it what a step can make of it. -/
theorem becomes {e : Event} (next : Dossier.Next catalog c context id d d')
    (found : d.event = some e) (paced : e.IsPaced) :
  ∃ e', d'.event = some e' ∧ e.Becomes e'
  := by
  cases next with
  | create absent =>
    rw [found] at absent
    cases absent
  | @patch p _ e' b stamp found' _ resolved stamped =>
    obtain rfl : e = e' := by simpa [found] using found'
    refine ⟨_, rfl, Event.Becomes.of_next? paced stamped ?_ ?_ ?_ rfl rfl⟩
    · apply EventPatch.id_apply resolved
    · apply EventPatch.createdAt_apply
    · rw [EventPatch.apply, Event.assign, EventPatch.foldl_copyColumn]
  | @archive e' stamp found' _ stamped =>
    obtain rfl : e = e' := by simpa [found] using found'
    exact ⟨_, rfl, Event.Becomes.of_next? paced stamped rfl rfl rfl rfl rfl⟩
  | _ => exact ⟨e, found, Event.Becomes.refl e⟩

end Dossier.Next

/-! ### Runs -/

namespace State

variable {s : State} {steps : List Step}

/-- Along a run that starts without events, the books of all events are in order. -/
theorem run_isKept (h : s.records.events = [])
    (stays : ∀ x ∈ steps, x.conditions.vanishes = false) :
  ∀ e ∈ (s.run steps).records.events, e.IsKept
  := by
  intro e he
  have kept : ∀ e' ∈ ((s.run steps).records.dossier e.id).event, e'.IsKept := by
    apply run_dossier (P := fun d => ∀ e' ∈ d.event, e'.IsKept) _ stays
    · intro x _ d d' kept next
      apply next.isKept kept
    · simp [Records.dossier, Records.event?, h]
  apply kept
  apply (run_isKeyed h steps).event?_of_mem he

/-- As long as no other client deletes events, a step loses none and makes of each what a step can
make of it. -/
theorem becomes_after {x : Step} {id : String} {e : Event} (stays : x.conditions.vanishes = false)
    (found : s.records.event? id = some e) (paced : e.IsPaced) :
  ∃ e', (s.after x).records.event? id = some e' ∧ e.Becomes e'
  := by
  rcases s.after_cases x with hr | ⟨r, change, hr⟩
  · rw [hr]
    exact ⟨e, found, Event.Becomes.refl e⟩
  · rw [hr, Conditions.commit_of_stays stays]
    apply (change.next id).becomes found paced

/-- The books are in order.  Along a run that starts without events, and as long as no other client
deletes rows, whatever the clock shows and whatever fails, no two events share an id, the books of
every event are in order, and every step leaves each event as it is or makes the next version of it,
with a later stamp and the same maker. -/
theorem run_bookkeeping (h : s.records.events = [])
    (stays : ∀ x ∈ steps, x.conditions.vanishes = false) :
  (s.run steps).records.IsKeyed
    ∧ (∀ e ∈ (s.run steps).records.events, e.IsKept)
    ∧ ∀ before x after, steps = before ++ x :: after →
      ∀ e ∈ (s.run before).records.events,
        ∃ e', ((s.run before).after x).records.event? e.id = some e' ∧ e.Becomes e'
  := by
  refine ⟨run_isKeyed h steps, run_isKept h stays, ?_⟩
  rintro before x after rfl e he
  have staysBefore : ∀ y ∈ before, y.conditions.vanishes = false := by
    intro y hy
    apply stays y (List.mem_append_left _ hy)
  have found := (run_isKeyed h before).event?_of_mem he
  apply becomes_after (stays x (by simp)) found (run_isKept h staysBefore e he).paced

end State

namespace Sample

/-- An event is made, moved while the clock stands still, moved while it runs backwards, and
archived; then it is to be moved again. -/
def turningBack : List Step :=
  [ step 5 (.create "first" (draft 8 12)),
    step 5 (.patch "first" { start := some (hour 7) } {}),
    step 3 (.patch "first" { start := some (hour 6) } {}),
    step 4 (.archive "first"),
    step 9 (.patch "first" { start := some (hour 5) } {}) ]

end Sample

/-- Each change is dated one microsecond after the one before it. -/
theorem State.kept_turningBack :
  (Sample.state.run Sample.turningBack).records.events.map
      (fun e => (e.version, e.updatedAt.micros - e.createdAt.micros, e.archivedAt.isSome))
      = [(4, 3, true)]
    ∧ (∀ e ∈ (Sample.state.run Sample.turningBack).records.events, e.IsKept)
    ∧ ∀ before x after, Sample.turningBack = before ++ x :: after →
      ∀ e ∈ (Sample.state.run before).records.events,
        ∃ e', ((Sample.state.run before).after x).records.event? e.id = some e' ∧ e.Becomes e'
  := by
  have stays : ∀ x ∈ Sample.turningBack, x.conditions.vanishes = false := by decide
  obtain ⟨-, hkept, hbecomes⟩ := @run_bookkeeping Sample.state Sample.turningBack rfl stays
  exact ⟨by decide +kernel, hkept, hbecomes⟩

end Workshop
