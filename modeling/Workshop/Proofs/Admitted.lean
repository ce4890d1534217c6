import Workshop.Proofs.Outcomes

/-!
# Rows that the storage takes

The table of events asks of every row that some columns have values, that the event ends after it
starts, and that it has the id of a machine or of a workstation: `Event.IsAdmitted`.  A request that
creates, patches or archives an event has checked as much before it hands over the row, if the
stored rows are admitted: `State.Prepares.isChecked`.  So the only constraint that it can violate is
that of ids, which is answered with a refusal of its own: `State.checks_cover_constraints`.
-/

namespace Workshop

open Storage

/-! ### Rows of events -/

/-- Whether the row of the event has its values, the event ends after it starts, and it has one id
of a resource. -/
structure Event.IsAdmitted (e : Event) : Prop where
  required : ∀ c ∈ Tables.planningEvents.columns, c.nullable = false → e.row c.name ≠ .null
  proper : e.start < e.stop
  single : e.machineId.isSome = true ↔ e.workstationId = none

theorem Event.IsChecked.isAdmitted {e : Event} (h : e.IsChecked) :
  e.IsAdmitted
  := by
  obtain ⟨proper, ⟨kind, id⟩, hm, hw⟩ := isChecked_iff.mp h
  refine ⟨fun c hc required => row_ne_null hc required, proper, ?_⟩
  rw [hm, hw]
  cases kind <;> simp [Resource.machineId?, Resource.workstationId?]

/-- Whether the request is to write the row of an event. -/
def Request.WritesEvent : Request → Prop
  | .create .. | .patch .. | .archive .. => True
  | _ => False

/-! ### Rows that requests prepare -/

/-- `s.Prepares x e` says that the request of the step has made the row of the event `e` of what it
found and what it is to change, to hand it to the storage. -/
inductive State.Prepares (s : State) (x : Step) : Event → Prop where
  | create {id : String} {d : EventDraft} {b : Booking} (asked : x.request = .create id d)
      (resolved : d.resolve s.catalog id x.context.actor x.conditions.now = .ok b) :
      Prepares s x b.event
  | patch {id : String} {p : EventPatch} {tokens : Event.Tokens} {current : Event} {b : Booking}
      {stamp : Instant} (asked : x.request = .patch id p tokens)
      (locked : s.records.lockOpen x.conditions id = .ok current)
      (resolved : p.resolve s.catalog current = .ok b)
      (stamped : current.nextStamp x.conditions.now = .ok stamp) :
      Prepares s x (p.apply current b.event x.context.actor stamp)
  | archive {id : String} {current : Event} {stamp : Instant} (asked : x.request = .archive id)
      (locked : s.records.lock x.conditions id = .ok current)
      (stamped : current.nextStamp x.conditions.now = .ok stamp) :
      Prepares s x (current.archive x.context.actor stamp)

/-- What a draft is completed to is checked. -/
theorem EventDraft.isChecked_of_resolve {d : EventDraft} {catalog : Catalog} {id actor : String}
    {now : Instant} {b : Booking} (h : d.resolve catalog id actor now = .ok b) :
  b.event.IsChecked
  := by
  obtain ⟨-, -, -, -, proper, books, -⟩ := of_resolve h
  apply Event.isChecked_of_books proper books

/-- Among checked events, every row that a request prepares is checked. -/
theorem State.Prepares.isChecked {s : State} {x : Step} {e : Event}
    (held : ∀ a ∈ s.records.events, a.IsChecked) (h : s.Prepares x e) :
  e.IsChecked
  := by
  cases h with
  | create _ resolved => apply EventDraft.isChecked_of_resolve resolved
  | patch _ locked resolved _ =>
    obtain ⟨-, found, -⟩ := Records.lockOpen_eq_ok_iff.mp locked
    apply EventPatch.isChecked_apply resolved (held _ (Records.mem_of_event? found))
  | archive _ locked _ =>
    obtain ⟨-, found⟩ := Records.lock_eq_ok_iff.mp locked
    apply (held _ (Records.mem_of_event? found)).archive

/-- Where nothing fails from outside, the rows that a step adds or replaces are those that its
request has prepared. -/
theorem State.prepares_of_mem_after {s : State} {x : Step} {e : Event}
    (reads : x.conditions.fault = none) (h : e ∈ (s.after x).records.events) :
  e ∈ s.records.events ∨ s.Prepares x e
  := by
  have hreads := Conditions.attempt_during_of_fault_none .lock reads .eventSelect
  rcases s.after_cases x with hr | ⟨r, change, hr⟩
  · left
    rwa [← hr]
  · rw [hr] at h
    replace h := Conditions.mem_of_mem_commit h
    obtain ⟨c, context, request⟩ := x
    cases change with
    | create resolved =>
      rcases List.mem_append.mp h with h | h
      · left
        apply h
      · right
        rw [List.mem_singleton.mp h]
        exact .create rfl resolved
    | patch _ found isOpen resolved _ stamped =>
      rcases Records.mem_replaceEvent h with rfl | ⟨h, -⟩
      · right
        exact .patch rfl (Records.lockOpen_eq_ok_iff.mpr ⟨hreads, found, isOpen⟩) resolved
          (Event.nextStamp_eq_ok_iff.mpr stamped)
      · left
        apply h
    | archive found _ stamped =>
      rcases Records.mem_replaceEvent h with rfl | ⟨h, -⟩
      · right
        exact .archive rfl (Records.lock_eq_ok_iff.mpr ⟨hreads, found⟩)
          (Event.nextStamp_eq_ok_iff.mpr stamped)
      · left
        apply h
    | _ =>
      left
      apply h

/-! ### Constraints that requests violate -/

/-- `s.Violates x v` says that a statement of the request fails because of the constraint that `v`
reports. -/
inductive State.Violates (s : State) (x : Step) (v : Violation) : Prop where
  | resolveDraft {id : String} {d : EventDraft} (asked : x.request = .create id d)
      (fails : d.lookUp x.conditions s.catalog id x.context.actor = .error (.violated v))
  | create {id : String} {d : EventDraft} {b : Booking} (asked : x.request = .create id d)
      (resolved : d.resolve s.catalog id x.context.actor x.conditions.now = .ok b)
      (fails : s.records.writeCreated x.conditions s.catalog x.context b = .error (.violated v))
  | lockOpen {id : String} {p : EventPatch} {tokens : Event.Tokens}
      (asked : x.request = .patch id p tokens)
      (fails : s.records.lockOpen x.conditions id = .error (.violated v))
  | resolvePatch {id : String} {p : EventPatch} {tokens : Event.Tokens} {current : Event}
      (asked : x.request = .patch id p tokens)
      (locked : s.records.lockOpen x.conditions id = .ok current)
      (fails : p.lookUp x.conditions s.catalog current = .error (.violated v))
  | patch {id : String} {p : EventPatch} {tokens : Event.Tokens} {current : Event} {b : Booking}
      (asked : x.request = .patch id p tokens)
      (locked : s.records.lockOpen x.conditions id = .ok current)
      (resolved : p.resolve s.catalog current = .ok b)
      (fails : s.records.writePatched x.conditions s.catalog x.context p tokens current b
        = .error (.violated v))
  | lock {id : String} (asked : x.request = .archive id)
      (fails : s.records.lock x.conditions id = .error (.violated v))
  | archive {id : String} {current : Event} (asked : x.request = .archive id)
      (locked : s.records.lock x.conditions id = .ok current)
      (fails : s.records.writeArchived x.conditions x.context current = .error (.violated v))

/-- Whether the request is to create an event under the id of another one, and nothing else stands
in its way. -/
inductive State.Repeats (s : State) (x : Step) : Prop where
  | intro {id : String} {d : EventDraft} {b : Booking} (asked : x.request = .create id d)
      (resolved : d.resolve s.catalog id x.context.actor x.conditions.now = .ok b)
      (free : s.records.requireFree x.conditions s.catalog b.resource b.event.interval
        b.event.allowOverlap none = .ok ())
      (order : ∀ n ∈ b.event.orderId, Storable n) (taken : s.records.event? id ≠ none)

/-- The report of an id of an event that is used again. -/
def Event.repeated : Violation :=
  .unique Tables.planningEvents.name Tables.planningEvents.key

/-- An id that is used again is refused. -/
theorem Event.reported_repeated (clashes : Except Failure (List Clash)) :
  (Failure.violated repeated).reported clashes = .refused .recordExists
  := by
  have hmeaning : repeated.meaning? = some .duplicate := by decide +kernel
  simp only [Failure.reported, Failure.ofViolation, hmeaning]

namespace Records

variable {r : Records} {c : Conditions} {catalog : Catalog} {context : Audit.Context}
  {id : String} {d : EventDraft} {b : Booking}

/-- Where nothing fails from outside, a completed draft is not stored for a reason that is expected,
or because its id is used again. -/
theorem writeCreated_failsAs (reads : c.fault = none)
    (resolved : d.resolve catalog id context.actor c.now = .ok b) :
  FailsAs
    (fun f => f.IsExpected True ∨ f = .violated Event.repeated
      ∧ r.requireFree c catalog b.resource b.event.interval b.event.allowOverlap none = .ok ()
      ∧ (∀ n ∈ b.event.orderId, Storable n) ∧ r.event? id ≠ none)
    (r.writeCreated c catalog context b)
  := by
  obtain ⟨-, -, -, -, -, -, hid, -⟩ := EventDraft.of_resolve resolved
  have checked := EventDraft.isChecked_of_resolve resolved
  apply failsAs_bind ((requireFree_isExpected reads).mono fun _ => .inl)
  intro _ free
  apply failsAs_bind
  · apply failsAs_bind ((Conditions.attempt_isExpected reads _).mono fun _ => .inl)
    intro _ _
    apply failsAs_bind ((requireStorable_isExpected fun _ => trivial).mono fun _ => .inl)
    intro _ hstorable
    apply failsAs_bind
      ((requireNone_isExpected (Event.defect?_eq_none checked)).mono fun _ => .inl)
    intro _ _
    apply failsAs_bind
    · cases htaken : (r.event? b.event.id).isSome with
      | false => apply failsAs_ok
      | true =>
        apply failsAs_error
        right
        refine ⟨rfl, free, requireStorable_eq_ok_iff.mp hstorable, ?_⟩
        rw [← hid]
        apply Option.isSome_iff_ne_none.mp htaken
    · intro _ _
      apply failsAs_ok
  · intro _ _
    apply (conclude_isExpected reads).mono fun _ => .inl

/-- A draft that would be stored under another id is not stored under one that is used. -/
theorem writeCreated_of_taken (reads : c.fault = none)
    (resolved : d.resolve catalog id context.actor c.now = .ok b)
    (free : r.requireFree c catalog b.resource b.event.interval b.event.allowOverlap none = .ok ())
    (order : ∀ n ∈ b.event.orderId, Storable n) (taken : r.event? id ≠ none) :
  r.writeCreated c catalog context b = .error (.violated Event.repeated)
  := by
  obtain ⟨-, -, -, -, -, -, hid, -⟩ := EventDraft.of_resolve resolved
  have hdefect := Event.defect?_eq_none (EventDraft.isChecked_of_resolve resolved)
  have hstorable := requireStorable_eq_ok_iff.mpr order
  have htaken : (r.event? b.event.id).isSome = true := by
    rw [hid]
    apply Option.isSome_iff_ne_none.mpr taken
  rw [writeCreated, free, insertEvent, Conditions.attempt_of_fault_none reads, hstorable, hdefect,
    htaken]
  rfl

end Records

/-! ### Answers -/

/-- Whether the failure is not a report of the storage on a violated constraint. -/
def Failure.ViolatesNothing : Failure → Prop
  | violated _ => False
  | _ => True

theorem Failure.IsExpected.violatesNothing {strained : Prop} {f : Failure}
    (h : f.IsExpected strained) :
  f.ViolatesNothing
  := by
  cases f with
  | violated => cases h
  | _ => trivial

namespace Records

variable {r : Records} {c : Conditions} {catalog : Catalog} {context : Audit.Context}
  {id : String}

theorem reload_violatesNothing (reads : c.fault = none) :
  FailsAs Failure.ViolatesNothing (r.reload c catalog id)
  := by
  have hselect := @Conditions.attempt_isExpected True (c.during .reload)
    (Conditions.fault_during _ reads) .eventSelect
  apply failsAs_bind
  · apply failsAs_bind (hselect.mono fun _ h => h.violatesNothing)
    intro _ _
    apply failsAs_bind
    · cases r.event? id with
      | none => apply failsAs_ok
      | some e =>
        apply failsAs_bind
        · apply failsAs_ite failsAs_ok
          apply failsAs_error trivial
        · intro _ _
          apply failsAs_ok
    · intro _ _
      apply failsAs_ok
  · intro found _
    cases found with
    | some v => apply failsAs_ok
    | none => apply failsAs_error trivial

/-- What the storage reports of a draft is an id that is used again at most, for which there is a
refusal. -/
theorem create_violatesNothing {d : EventDraft} (reads : c.fault = none) :
  FailsAs Failure.ViolatesNothing (r.create c catalog context id d).1
  := by
  cases hb : d.resolve catalog id context.actor c.now with
  | error why =>
    rw [create_of_resolve_error (c.attempt_of_fault_none reads _) hb]
    apply failsAs_error trivial
  | ok b =>
    have hlook := EventDraft.lookUp_of_resolve reads hb
    cases hw : r.writeCreated c catalog context b with
    | ok r' =>
      simp only [create, hlook, hw]
      apply reload_violatesNothing reads
    | error f =>
      rw [create_of_writeCreated_error hlook hw]
      apply failsAs_error
      rcases (writeCreated_failsAs reads hb).of_error f hw with expected | ⟨rfl, -⟩
      · rw [Failure.reported_of_isExpected expected]
        apply expected.violatesNothing
      · rw [Event.reported_repeated]
        trivial

theorem patch_violatesNothing {p : EventPatch} {tokens : Event.Tokens} (reads : c.fault = none)
    (held : ∀ e ∈ r.events, e.IsChecked) :
  FailsAs Failure.ViolatesNothing (r.patch c catalog context id p tokens).1
  := by
  cases hp : p.check with
  | error why =>
    simp only [patch, hp]
    apply failsAs_error trivial
  | ok _ =>
    cases hl : r.lockOpen c id with
    | error f =>
      have expected : f.IsExpected True := (lockOpen_isExpected reads).of_error f hl
      rw [patch_of_lockOpen_error hp hl, Failure.reported_of_isExpected expected]
      apply failsAs_error expected.violatesNothing
    | ok current =>
      cases hb : p.resolve catalog current with
      | error why =>
        rw [patch_of_resolve_error hp hl (c.attempt_of_fault_none reads _) hb]
        apply failsAs_error trivial
      | ok b =>
        have hlook := EventPatch.lookUp_of_resolve reads hb
        cases hw : r.writePatched c catalog context p tokens current b with
        | ok r' =>
          simp only [patch, hp, hl, hlook, hw]
          apply reload_violatesNothing reads
        | error f =>
          obtain ⟨-, found, -⟩ := lockOpen_eq_ok_iff.mp hl
          have expected : f.IsExpected True := (writePatched_isExpected reads hb
            (held current (mem_of_event? found)) (fun _ => trivial) (fun _ => trivial)
            (fun _ => trivial)).of_error f hw
          rw [patch_of_writePatched_error hp hl hlook hw, Failure.reported_of_isExpected expected]
          apply failsAs_error expected.violatesNothing

theorem archive_violatesNothing (reads : c.fault = none) (held : ∀ e ∈ r.events, e.IsChecked) :
  FailsAs Failure.ViolatesNothing (r.archive c context id).1
  := by
  cases hl : r.lock c id with
  | error f =>
    have expected : f.IsExpected True := (lock_isExpected reads).of_error f hl
    simp only [archive, hl]
    apply failsAs_error expected.violatesNothing
  | ok current =>
    obtain ⟨-, found⟩ := lock_eq_ok_iff.mp hl
    simp only [archive, hl, Conditions.attempt_of_fault_none reads]
    split
    · apply failsAs_ok
    · cases hw : r.writeArchived c context current with
      | ok r' => apply failsAs_ok
      | error f =>
        have expected : f.IsExpected True := (writeArchived_isExpected reads
          (held current (mem_of_event? found)) (fun _ => trivial) (fun _ => trivial)).of_error f hw
        apply failsAs_error expected.violatesNothing

end Records

/-! ### Requests that meet the constraints -/

namespace State

variable {s : State} {x : Step}

/-- Among checked events, the only constraint that a request can violate is that an id is not used
again. -/
theorem violates_iff {v : Violation} (reads : x.conditions.fault = none)
    (held : ∀ e ∈ s.records.events, e.IsChecked) :
  s.Violates x v ↔ s.Repeats x ∧ v = Event.repeated
  := by
  constructor
  · rintro (⟨-, fails⟩ | ⟨asked, resolved, fails⟩ | ⟨-, fails⟩ | ⟨-, -, fails⟩
      | ⟨-, locked, resolved, fails⟩ | ⟨-, fails⟩ | ⟨-, locked, fails⟩)
    · have expected := (@Conditions.lookUp_isExpected True _ reads _ _ _ _).of_error _ fails
      cases expected
    · rcases (Records.writeCreated_failsAs reads resolved).of_error _ fails with
        expected | ⟨⟨⟩, free, order, taken⟩
      · cases expected
      · exact ⟨⟨asked, resolved, free, order, taken⟩, rfl⟩
    · have expected := (@Records.lockOpen_isExpected True _ reads _ _).of_error _ fails
      cases expected
    · have expected := (@Conditions.lookUp_isExpected True _ reads _ _ _ _).of_error _ fails
      cases expected
    · obtain ⟨-, found, -⟩ := Records.lockOpen_eq_ok_iff.mp locked
      have expected := (@Records.writePatched_isExpected True _ reads _ _ _ _ _ _ _ resolved
        (held _ (Records.mem_of_event? found)) (fun _ => trivial) (fun _ => trivial)
        (fun _ => trivial)).of_error _ fails
      cases expected
    · have expected := (@Records.lock_isExpected True _ reads _ _).of_error _ fails
      cases expected
    · obtain ⟨-, found⟩ := Records.lock_eq_ok_iff.mp locked
      have expected := (@Records.writeArchived_isExpected True _ reads _ _ _
        (held _ (Records.mem_of_event? found)) (fun _ => trivial)
        (fun _ => trivial)).of_error _ fails
      cases expected
  · rintro ⟨⟨asked, resolved, free, order, taken⟩, rfl⟩
    apply Violates.create asked resolved
    apply Records.writeCreated_of_taken reads resolved free order taken

/-- An id that is used again is answered with a refusal, and nothing changes. -/
theorem perform_of_repeats (reads : x.conditions.fault = none) (h : s.Repeats x) :
  s.perform x.conditions x.context x.request = (.error (.refused .recordExists), s)
  := by
  obtain ⟨asked, resolved, free, order, taken⟩ := h
  have hwrite := Records.writeCreated_of_taken reads resolved free order taken
  rw [asked]
  simp only [perform, withRecords,
    Records.create_of_writeCreated_error (EventDraft.lookUp_of_resolve reads resolved) hwrite,
    Event.reported_repeated]
  rfl

/-- Where nothing fails from outside, no report of a violated constraint is passed on. -/
theorem answer_ne_violated (writes : x.request.WritesEvent) (reads : x.conditions.fault = none)
    (held : ∀ e ∈ s.records.events, e.IsChecked) (v : Violation) :
  s.answer x ≠ .error (.violated v)
  := by
  obtain ⟨c, context, request⟩ := x
  cases request with
  | create id d =>
    intro h
    apply (Records.create_violatesNothing reads).of_error _ (map_eq_error_iff.mp h)
  | patch id p tokens =>
    intro h
    apply (Records.patch_violatesNothing reads held).of_error _ (map_eq_error_iff.mp h)
  | archive id =>
    intro h
    apply (Records.archive_violatesNothing reads held).of_error _ (map_eq_error_iff.mp h)
  | _ => cases writes

/-- The checks of requests cover the constraints on single rows.  If the rows that are stored meet
those constraints and nothing fails from outside, then every row that a request prepares meets them
as well, and only such rows are stored.  The only constraint that can be violated is that of ids, by
a draft that would be stored otherwise; it is refused, as a record that exists, and changes
nothing. -/
theorem checks_cover_constraints (writes : x.request.WritesEvent)
    (reads : x.conditions.fault = none) (held : ∀ e ∈ s.records.events, e.defect? = none) :
  (∀ e, s.Prepares x e → e.IsAdmitted ∧ e.defect? = none)
    ∧ (∀ e ∈ (s.after x).records.events, e ∈ s.records.events ∨ s.Prepares x e)
    ∧ (∀ v, s.Violates x v ↔ s.Repeats x ∧ v = Event.repeated)
    ∧ (s.Repeats x → s.answer x = .error (.refused .recordExists) ∧ s.after x = s)
    ∧ (∀ v, s.answer x ≠ .error (.violated v))
    ∧ Refusal.recordExists.status = 409 ∧ Refusal.recordExists.code = "UNIQUE_VIOLATION"
  := by
  have hchecked : ∀ e ∈ s.records.events, e.IsChecked :=
    fun e he => Event.isChecked_of_defect? (held e he)
  refine ⟨?_, fun e he => prepares_of_mem_after reads he, fun v => violates_iff reads hchecked, ?_,
    answer_ne_violated writes reads hchecked, rfl, rfl⟩
  · intro e he
    have checked := he.isChecked hchecked
    exact ⟨checked.isAdmitted, Event.defect?_eq_none checked⟩
  · intro h
    have hperform := perform_of_repeats reads h
    exact ⟨congrArg Prod.fst hperform, congrArg Prod.snd hperform⟩

end State

namespace Sample

/-- An event is planned on a machine whose id is empty. -/
def nameless : State :=
  { state with records := { events := [{ event "first" 8 10 with machineId := some "" }] } }

/-- The event is to belong to an operation on the lathe, and nothing else is to change. -/
def assigning : Step :=
  step 1 (.patch "first" { operationId := some (some "turn") } {})

/-- The lathe is to be booked under the id of the event. -/
def reusing : Step :=
  step 1 (.create "first" (draft 14 16))

end Sample

/-- The event with its operation keeps the empty id of its machine, with which it is admitted, and
its own id is not used again. -/
theorem State.covers_nameless :
  (∃ e, Sample.nameless.Prepares Sample.assigning e ∧ e.machineId = some "" ∧ e.workstationId = none
      ∧ e.operationId = some "turn" ∧ e.IsAdmitted)
    ∧ Sample.nameless.Violates Sample.reusing Event.repeated
    ∧ Sample.nameless.answer Sample.reusing = .error (.refused .recordExists)
    ∧ Sample.nameless.after Sample.reusing = Sample.nameless
  := by
  have held : ∀ e ∈ Sample.nameless.records.events, e.defect? = none := by decide
  obtain ⟨hadmitted, hstored, -⟩ := @checks_cover_constraints _ Sample.assigning trivial rfl held
  obtain ⟨-, -, hviolates, hrefused, -⟩ :=
    @checks_cover_constraints _ Sample.reusing trivial rfl held
  have hrepeats : Sample.nameless.Repeats Sample.reusing :=
    .intro rfl rfl (by decide +kernel) (by decide) (by decide)
  refine ⟨?_, (hviolates _).mpr ⟨hrepeats, rfl⟩, hrefused hrepeats⟩
  have hafter : { Sample.event "first" 8 10 with
        machineId := some "", operationId := some "turn", version := 2, updatedAt := Sample.hour 1,
        updatedBy := some "user" } ∈ (Sample.nameless.after Sample.assigning).records.events := by
    decide +kernel
  have hprepared := (hstored _ hafter).resolve_left (by decide)
  exact ⟨_, hprepared, rfl, rfl, rfl, (hadmitted _ hprepared).1⟩

end Workshop
