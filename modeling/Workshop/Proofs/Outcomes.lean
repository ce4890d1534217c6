import Workshop.Proofs.Bookable
import Workshop.Proofs.Tokens

/-!
# How requests end

Where nothing fails from outside, a request that handles no files has a result or is refused.  The
one other end that it can come to is that it strains the storage, with an integer beyond 64 bits, or
the calendar, with a change after the last instant of the year 9999: `State.perform_settles`.  The
proof needs to know of the stored events that they are sound, and every run keeps them so.
-/

namespace Workshop

open Storage

/-! ### Checked events -/

/-- What a patch stores of a checked event is checked, for the pair of ids of a resource is written
whole or not at all. -/
theorem EventPatch.isChecked_apply {p : EventPatch} {catalog : Catalog} {e : Event} {b : Booking}
    (h : p.resolve catalog e = .ok b) (he : e.IsChecked) (actor : String) (stamp : Instant) :
  (p.apply e b.event actor stamp).IsChecked
  := by
  obtain ⟨-, -, -, -, proper, hb⟩ := of_resolve h
  rw [Event.isChecked_iff, interval_apply h]
  constructor
  · rw [hb]
    exact proper
  · by_cases hs : p.setsResource = true
    · exact ⟨b.resource, books_apply_of_sets h hs actor stamp⟩
    · obtain ⟨-, resource, books⟩ := Event.isChecked_iff.mp he
      use resource
      rw [apply_of_resolve h, if_neg hs, if_neg hs]
      exact books

theorem Event.IsChecked.archive {e : Event} (h : e.IsChecked) (actor : String) (stamp : Instant) :
  (e.archive actor stamp).IsChecked
  := by
  rw [isChecked_iff] at h ⊢
  exact h

/-! ### Sound events -/

/-- Whether the event is a booking that has been changed no more often than the clock allows. -/
def Event.IsSound (e : Event) : Prop :=
  e.IsBooking ∧ e.IsPaced

namespace Event.IsSound

variable {e : Event}

theorem checked (h : e.IsSound) :
  e.IsChecked
  := by
  obtain ⟨⟨proper, resource, -, books⟩, -⟩ := h
  apply isChecked_of_books proper books

/-- The years 1 to 9999 have fewer microseconds than there are versions. -/
theorem counted (h : e.IsSound) :
  e.version < lastVersion
  := by
  have hpaced := h.2
  have := e.updatedAt.micros_lt
  simp only [IsPaced, lastVersion] at *
  omega

theorem archive {now stamp : Instant} (h : e.IsSound)
    (stamped : Instant.next? e.updatedAt now = some stamp) (actor : String) :
  (e.archive actor stamp).IsSound
  := ⟨h.1, h.2.of_next? stamped rfl rfl rfl⟩

end Event.IsSound

theorem EventDraft.isSound_of_resolve {d : EventDraft} {catalog : Catalog} {id actor : String}
    {now : Instant} {b : Booking} (h : d.resolve catalog id actor now = .ok b) :
  b.event.IsSound
  := by
  obtain ⟨operation, -, -, hres, proper, books, -⟩ := of_resolve h
  exact ⟨⟨proper, b.resource, Resource.id_ne_of_resolve hres, books⟩,
    Event.IsPaced.of_isNew (isNew_of_resolve h)⟩

theorem EventPatch.isSound_apply {p : EventPatch} {catalog : Catalog} {e : Event} {b : Booking}
    {now stamp : Instant} (h : p.resolve catalog e = .ok b) (he : e.IsSound)
    (stamped : Instant.next? e.updatedAt now = some stamp) (actor : String) :
  (p.apply e b.event actor stamp).IsSound
  := by
  use isBooking_apply h he.1 actor stamp
  apply he.2.of_next? stamped _ rfl rfl
  apply p.createdAt_apply e b.event actor stamp

/-- Along a run that starts without events, every event is sound. -/
theorem State.run_isSound {s : State} (empty : s.records.events = []) (steps : List Step) :
  ∀ e ∈ (s.run steps).records.events, e.IsSound
  := by
  apply run_events (P := Event.IsSound) empty
  intro x _ old e writes h
  cases writes with
  | create _ resolved => apply EventDraft.isSound_of_resolve resolved
  | patch _ resolved stamped => apply EventPatch.isSound_apply resolved (h _ rfl) stamped
  | archive _ stamped => apply (h _ rfl).archive stamped

/-! ### Failures that are expected -/

/-- Whether the failure is a refusal, or one of the range of numbers and instants where these are
strained. -/
def Failure.IsExpected (strained : Prop) : Failure → Prop
  | .refused _ => True
  | .outOfRange => strained
  | _ => False

/-- A failure that is expected is reported as it is. -/
theorem Failure.reported_of_isExpected {strained : Prop} {f : Failure}
    (h : f.IsExpected strained) (clashes : Except Failure (List Clash)) :
  f.reported clashes = f
  := by
  cases f with
  | violated => cases h
  | _ => rfl

section

variable {strained : Prop} {c : Conditions} (reads : c.fault = none)

include reads in
theorem Conditions.attempt_isExpected (statement : Statement) :
  FailsAs (Failure.IsExpected strained) (c.attempt statement)
  := by
  rw [attempt_of_fault_none reads]
  apply failsAs_ok

include reads in
theorem Conditions.lookUp_isExpected {α : Type} {check : Except Refusal Unit} {consults : Bool}
    {found : Except Refusal α} :
  FailsAs (Failure.IsExpected strained) (c.lookUp check consults found)
  := lookUp_failsAs (fun _ _ => trivial) (attempt_isExpected reads _) fun _ _ => trivial

theorem requireStorable_isExpected {n : Option Int} (h : (∃ i ∈ n, ¬ Storable i) → strained) :
  FailsAs (Failure.IsExpected strained) (requireStorable n)
  := by
  simp only [requireStorable]
  split
  · apply failsAs_ok
  · rename_i hn
    apply failsAs_error
    apply h
    simpa using hn

theorem requireNone_isExpected {v : Option Violation} (h : v = none) :
  FailsAs (Failure.IsExpected strained) (requireNone v)
  := by
  rw [h]
  apply failsAs_ok

theorem Event.nextStamp_isExpected {e : Event} {now : Instant}
    (h : e.updatedAt.succ? = none → strained) :
  FailsAs (Failure.IsExpected strained) (e.nextStamp now)
  := by
  simp only [nextStamp]
  split
  · apply failsAs_ok
  · rename_i hnone
    apply failsAs_error
    apply h
    simpa [Instant.next?] using hnone

namespace Records

variable {r : Records} {catalog : Catalog} {context : Audit.Context} {id : String}

include reads in
theorem lock_isExpected :
  FailsAs (Failure.IsExpected strained) (r.lock c id)
  := by
  apply failsAs_bind (Conditions.attempt_isExpected (Conditions.fault_during _ reads) _)
  intro _ _
  split
  · apply failsAs_ok
  · apply failsAs_error trivial

include reads in
theorem lockOpen_isExpected :
  FailsAs (Failure.IsExpected strained) (r.lockOpen c id)
  := by
  apply failsAs_bind (lock_isExpected reads)
  intro e _
  apply failsAs_ite _ failsAs_ok
  apply failsAs_error trivial

include reads in
theorem findClashes_isExpected {resource : Resource} {span : Interval} {exclude : Option String} :
  FailsAs (Failure.IsExpected strained) (r.findClashes c catalog resource span exclude)
  := by
  apply failsAs_bind (Conditions.attempt_isExpected reads _)
  intro _ _
  apply failsAs_ok

include reads in
theorem requireFree_isExpected {resource : Resource} {span : Interval} {allowOverlap : Bool}
    {exclude : Option String} :
  FailsAs (Failure.IsExpected strained)
    (r.requireFree c catalog resource span allowOverlap exclude)
  := by
  apply failsAs_ite failsAs_ok
  apply failsAs_bind (findClashes_isExpected (Conditions.fault_during _ reads))
  intro found _
  apply failsAs_ite failsAs_ok
  apply failsAs_error trivial

include reads in
theorem conclude_isExpected {action : Audit.Action} :
  FailsAs (Failure.IsExpected strained) (r.conclude c context id action)
  := by
  apply failsAs_bind (Conditions.attempt_isExpected reads _)
  intro _ _
  apply failsAs_bind (Conditions.attempt_isExpected reads _)
  intro _ _
  apply failsAs_ok

include reads in
theorem writePatched_isExpected {p : EventPatch} {tokens : Event.Tokens} {current : Event}
    {b : Booking} (resolved : p.resolve catalog current = .ok b) (checked : current.IsChecked)
    (order : (∃ n ∈ p.orderId.join, ¬ Storable n) → strained)
    (token : (∃ n ∈ tokens.version, ¬ Storable n) → strained)
    (last : current.updatedAt.succ? = none → strained) :
  FailsAs (Failure.IsExpected strained) (r.writePatched c catalog context p tokens current b)
  := by
  apply failsAs_bind (requireFree_isExpected reads)
  intro _ _
  apply failsAs_bind (Event.nextStamp_isExpected last)
  intro stamp _
  have next := EventPatch.isChecked_apply resolved checked context.actor stamp
  apply failsAs_bind
  · apply failsAs_bind (Conditions.attempt_isExpected reads _)
    intro _ _
    apply failsAs_bind (requireStorable_isExpected order)
    intro _ _
    apply failsAs_bind (requireStorable_isExpected token)
    intro _ _
    apply failsAs_ite _ (failsAs_error trivial)
    apply failsAs_bind (requireNone_isExpected (Event.defect?_eq_none next))
    intro _ _
    apply failsAs_ok
  · intro _ _
    apply conclude_isExpected reads

include reads in
theorem writeArchived_isExpected {current : Event} (checked : current.IsChecked)
    (counted : current.version = Event.lastVersion → strained)
    (last : current.updatedAt.succ? = none → strained) :
  FailsAs (Failure.IsExpected strained) (r.writeArchived c context current)
  := by
  apply failsAs_bind (Event.nextStamp_isExpected last)
  intro stamp _
  apply failsAs_bind (Conditions.attempt_isExpected reads _)
  intro _ _
  apply failsAs_bind
  · rw [Event.requireCountable]
    split
    · rename_i h
      apply failsAs_error (counted h)
    · apply failsAs_ok
  intro _ _
  have next := checked.archive context.actor stamp
  apply failsAs_bind (requireNone_isExpected (Event.defect?_eq_none next))
  intro _ _
  apply conclude_isExpected reads

include reads in
theorem writeComment_isExpected {eventId body : String} (fresh : r.comment? id = none) :
  FailsAs (Failure.IsExpected strained) (r.writeComment c context eventId id body)
  := by
  apply failsAs_bind (lockOpen_isExpected reads)
  intro _ _
  apply failsAs_bind
  · apply failsAs_bind (Conditions.attempt_isExpected reads _)
    intro _ _
    have free : requireUnused (r.comment? id).isSome
        (.unique "planning_event_comments" ["comment_id"]) = .ok () := by
      rw [fresh]
      rfl
    rw [free]
    apply failsAs_ok
  · intro _ _
    apply conclude_isExpected reads

end Records

end

/-! ### Operations that settle -/

/-- Whether the operation, if it fails, fails as expected and leaves the records alone. -/
def Records.Settles {α : Type} (r : Records) (strained : Prop)
    (outcome : Except Failure α × Records) : Prop :=
  ∀ f, outcome.1 = .error f → f.IsExpected strained ∧ outcome.2 = r

namespace Records

variable {strained : Prop} {r : Records} {c : Conditions} {catalog : Catalog}
  {context : Audit.Context} {id : String}

theorem settles_ok {α : Type} {r' : Records} {a : α} :
  r.Settles strained (.ok a, r')
  := by
  rintro f ⟨⟩

theorem settles_error {α : Type} {f : Failure} (h : f.IsExpected strained) :
  r.Settles strained ((.error f, r) : Except Failure α × Records)
  := by
  rintro g ⟨⟩
  exact ⟨h, rfl⟩

theorem settles_refused {α : Type} {why : Refusal} :
  r.Settles strained ((.error (.refused why), r) : Except Failure α × Records)
  := settles_error trivial

theorem create_settles {d : EventDraft} (calm : c.IsCalm) (fresh : r.event? id = none)
    (stored : catalog.IsStorable) (order : (∃ n ∈ d.orderId, ¬ Storable n) → strained) :
  r.Settles strained (r.create c catalog context id d)
  := by
  cases hb : d.resolve catalog id context.actor c.now with
  | error why =>
    rw [create_of_resolve_error (c.attempt_of_fault_none calm.1 _) hb]
    apply settles_refused
  | ok b =>
    rw [create_of_resolve calm fresh hb]
    split
    · apply settles_refused
    · split
      · apply settles_ok
      · rename_i hstorable
        apply settles_error
        apply order
        by_contra hnone
        apply hstorable
        apply EventDraft.storable_of_resolve stored _ hb
        simpa using hnone

/-- A patch that was written is read back. -/
theorem reload_of_writePatched {p : EventPatch} {tokens : Event.Tokens} {current : Event}
    {b : Booking} {r' : Records} (reads : c.fault = none) (found : r.event? id = some current)
    (sound : current.IsSound) (resolved : p.resolve catalog current = .ok b)
    (written : r.writePatched c catalog context p tokens current b = .ok r') :
  ∃ v, r'.reload c catalog id = .ok v
  := by
  obtain ⟨-, stamp, stamped, -, -, rfl⟩ := writePatched_eq_ok_iff.mp written
  have hcounted := (EventPatch.isSound_apply resolved sound stamped context.actor).counted
  have hfound : ((r.replaceEvent (p.apply current b.event context.actor stamp)).audited
      context (.update p tokens b.event.snapshot) current.id c.now).event? id
      = some (p.apply current b.event context.actor stamp) := by
    rw [event?_audited, event?_replaceEvent_of_found found (EventPatch.id_apply resolved _ _)]
  exact ⟨_, reload_of_found (Conditions.attempt_of_fault_none reads _) hfound hcounted.le⟩

theorem patch_settles {p : EventPatch} {tokens : Event.Tokens} (calm : c.IsCalm)
    (sound : ∀ e ∈ r.events, e.IsSound)
    (order : (∃ n ∈ p.orderId.join, ¬ Storable n) → strained)
    (token : (∃ n ∈ tokens.version, ¬ Storable n) → strained)
    (last : ∀ e, r.event? id = some e → e.updatedAt.succ? = none → strained) :
  r.Settles strained (r.patch c catalog context id p tokens)
  := by
  obtain ⟨reads, -, -, stays⟩ := calm
  cases hp : p.check with
  | error why =>
    simp only [patch, hp]
    apply settles_refused
  | ok _ =>
    cases hl : r.lockOpen c id with
    | error f =>
      have expected : f.IsExpected strained := (lockOpen_isExpected reads).of_error f hl
      rw [patch_of_lockOpen_error hp hl, Failure.reported_of_isExpected expected]
      apply settles_error expected
    | ok current =>
      obtain ⟨-, found, -⟩ := lockOpen_eq_ok_iff.mp hl
      have hcurrent := sound current (mem_of_event? found)
      cases hb : p.resolve catalog current with
      | error why =>
        rw [patch_of_resolve_error hp hl (c.attempt_of_fault_none reads _) hb]
        apply settles_refused
      | ok b =>
        have hlook := EventPatch.lookUp_of_resolve reads hb
        cases hw : r.writePatched c catalog context p tokens current b with
        | error f =>
          have expected := (writePatched_isExpected reads hb hcurrent.checked order token
            (last current found)).of_error f hw
          rw [patch_of_writePatched_error hp hl hlook hw, Failure.reported_of_isExpected expected]
          apply settles_error expected
        | ok r' =>
          obtain ⟨v, hreload⟩ := reload_of_writePatched reads found hcurrent hb hw
          simp only [patch, hp, hl, hlook, hw, Conditions.commit_of_stays stays, hreload]
          apply settles_ok

theorem archive_settles (calm : c.IsCalm) (sound : ∀ e ∈ r.events, e.IsSound)
    (last : ∀ e, r.event? id = some e → e.updatedAt.succ? = none → strained) :
  r.Settles strained (r.archive c context id)
  := by
  obtain ⟨reads, -⟩ := calm
  cases hl : r.lock c id with
  | error f =>
    simp only [archive, hl]
    apply settles_error ((lock_isExpected reads).of_error f hl)
  | ok current =>
    obtain ⟨-, found⟩ := lock_eq_ok_iff.mp hl
    simp only [archive, hl, Conditions.attempt_of_fault_none reads]
    split
    · apply settles_ok
    · cases hw : r.writeArchived c context current with
      | error f =>
        apply settles_error
        have hcurrent := sound current (mem_of_event? found)
        apply (writeArchived_isExpected reads hcurrent.checked
          (fun h => absurd h hcurrent.counted.ne) (last current found)).of_error f hw
      | ok r' => apply settles_ok

theorem comment_settles {eventId body : String} (calm : c.IsCalm)
    (fresh : r.comment? id = none) :
  r.Settles strained (r.comment c catalog context eventId id body)
  := by
  obtain ⟨reads, -, -, stays⟩ := calm
  cases hw : r.writeComment c context eventId id body with
  | error f =>
    simp only [comment, hw]
    apply settles_error ((writeComment_isExpected reads fresh).of_error f hw)
  | ok r' =>
    have hreload : ∃ v, r'.reloadComment c catalog id = .ok v :=
      ⟨_, reloadComment_eq_ok_iff.mpr
        ⟨Conditions.attempt_of_fault_none reads _, _, comment?_of_writeComment hw, rfl⟩⟩
    obtain ⟨v, hv⟩ := hreload
    simp only [comment, hw, Conditions.commit_of_stays stays, hv]
    apply settles_ok

/-! ### Readings -/

theorem listComments_isExpected (reads : c.fault = none) :
  FailsAs (Failure.IsExpected strained) (r.listComments c catalog id)
  := by
  apply failsAs_bind (Conditions.attempt_isExpected reads _)
  intro _ _
  apply failsAs_ok

theorem listDocuments_isExpected (reads : c.fault = none) :
  FailsAs (Failure.IsExpected strained) (r.listDocuments c id)
  := by
  apply failsAs_bind (Conditions.attempt_isExpected reads _)
  intro _ _
  apply failsAs_ok

theorem detail_isExpected (reads : c.fault = none) (sound : ∀ e ∈ r.events, e.IsSound) :
  FailsAs (Failure.IsExpected strained) (r.detail c catalog id)
  := by
  cases found : r.event? id with
  | none =>
    have hview : r.view c catalog id = .ok none := by
      simp [view, Conditions.attempt_of_fault_none reads, found, bind, Except.bind, pure,
        Except.pure]
    rw [detail, hview]
    apply failsAs_error trivial
  | some e =>
    rw [detail, view_of_found (Conditions.attempt_of_fault_none reads _) found
      (sound e (mem_of_event? found)).counted.le]
    apply failsAs_bind (listComments_isExpected reads)
    intro _ _
    apply failsAs_bind (listDocuments_isExpected reads)
    intro _ _
    apply failsAs_ok

theorem list_isExpected {q : Listing.Query} (reads : c.fault = none)
    (sound : ∀ e ∈ r.events, e.IsSound) (order : (∃ n ∈ q.orderId, ¬ Storable n) → strained) :
  FailsAs (Failure.IsExpected strained) (r.list c catalog q)
  := by
  apply failsAs_bind (failsAs_mapError fun _ _ => trivial)
  intro _ _
  apply failsAs_bind (requireStorable_isExpected order)
  intro _ _
  apply failsAs_bind (Conditions.attempt_isExpected reads _)
  intro _ _
  have hshown : (r.select catalog q).forM EventView.requireShowable = .ok () := by
    rw [forM_eq_ok_iff]
    intro v hv
    obtain ⟨e, he, rfl⟩ := List.mem_map.mp hv
    have hmem : e ∈ r.events := List.mem_of_mem_filter ((mem_sortBy _).mp he)
    apply EventView.requireShowable_eq_ok_iff.mpr (sound e hmem).counted.le
  simp only [hshown]
  apply failsAs_ok

end Records

/-! ### Requests -/

/-- Whether the request stores or reads files. -/
def Request.HandlesFiles : Request → Prop
  | .upload .. | .document .. => True
  | _ => False

/-- Whether the ids that the request brings for new rows are new. -/
def Request.IsFresh (r : Records) : Request → Prop
  | .create id _ => r.event? id = none
  | .comment _ id _ => r.comment? id = none
  | _ => True

/-- Whether the request holds an integer that the storage cannot hold, or is to change an event that
was changed at the last instant of the year 9999. -/
def State.Strains (s : State) : Request → Prop
  | .create _ d => ∃ n ∈ d.orderId, ¬ Storable n
  | .patch id p tokens =>
    (∃ n ∈ p.orderId.join, ¬ Storable n) ∨ (∃ n ∈ tokens.version, ¬ Storable n)
      ∨ ∃ e, s.records.event? id = some e ∧ e.updatedAt.succ? = none
  | .archive id => ∃ e, s.records.event? id = some e ∧ e.updatedAt.succ? = none
  | .list q => ∃ n ∈ q.orderId, ¬ Storable n
  | _ => False

namespace State

variable {s : State} {c : Conditions} {context : Audit.Context} {request : Request}

theorem settles_withRecords {α : Type} {strained : Prop} {f : α → Answer}
    {result : Except Failure α × Records} (h : s.records.Settles strained result) :
  ∀ g, (s.withRecords f result).1 = .error g →
    g.IsExpected strained ∧ (s.withRecords f result).2 = s
  := by
  intro g hg
  obtain ⟨hexpected, hrecords⟩ := h g (map_eq_error_iff.mp hg)
  use hexpected
  simp only [withRecords, hrecords]

/-- Where nothing fails from outside, a request that handles no files, if it fails, is refused or
strains the numbers and the instants, and leaves the state alone. -/
theorem perform_settles (calm : c.IsCalm) (stored : s.catalog.IsStorable)
    (sound : ∀ e ∈ s.records.events, e.IsSound) (plain : ¬ request.HandlesFiles)
    (fresh : request.IsFresh s.records) :
  ∀ f, (s.perform c context request).1 = .error f →
    f.IsExpected (s.Strains request) ∧ (s.perform c context request).2 = s
  := by
  cases request with
  | create id d =>
    apply settles_withRecords
    apply Records.create_settles calm fresh stored fun h => h
  | patch id p tokens =>
    apply settles_withRecords
    apply Records.patch_settles calm sound .inl (.inr ∘ .inl)
    intro e found last
    exact .inr (.inr ⟨e, found, last⟩)
  | archive id =>
    apply settles_withRecords
    apply Records.archive_settles calm sound
    intro e found last
    exact ⟨e, found, last⟩
  | comment eventId id body =>
    apply settles_withRecords
    apply Records.comment_settles calm fresh
  | detail id =>
    intro f hf
    use (Records.detail_isExpected calm.1 sound).of_error f (map_eq_error_iff.mp hf)
    rfl
  | list q =>
    intro f hf
    use (Records.list_isExpected calm.1 sound fun h => h).of_error f (map_eq_error_iff.mp hf)
    rfl
  | resources includeArchived =>
    intro f hf
    use (Conditions.attempt_isExpected calm.1 _).of_error f (map_eq_error_iff.mp hf)
    rfl
  | clashes resource span exclude =>
    intro f hf
    use (Records.findClashes_isExpected calm.1).of_error f (map_eq_error_iff.mp hf)
    rfl
  | upload => contradiction
  | document => contradiction

end State

end Workshop
