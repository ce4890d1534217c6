import Workshop.Proofs.Forms
import Workshop.Proofs.OperationLinks
import Workshop.Proofs.Race

/-!
# Saving a form without changes

A client that sends back what it was shown of an event, with the tokens of the event, asks for every
field to be set to the value that it has.  Such a patch suits the event, which is in nobody's way
but its own, and what it stores differs from the event in the order only, which is now the one that
was shown: `EventPatch.apply_ofView`.  So the view of the event stays as it is, but for the version
and the stamp, along every run that starts without events: `Api.saving_unchanged`.
-/

namespace Workshop

open Storage

/-! ### Numbers that are stored -/

/-- Whether the numbers of the event are such as the storage can hold, where versions are counted
from one. -/
structure Event.IsHeld (e : Event) : Prop where
  order : ∀ n ∈ e.orderId, Storable n
  counted : 1 ≤ e.version

/-- Where the version of an event is counted on, it is counted from one. -/
theorem Event.one_le_nextVersion {version : Int} (h : 1 ≤ version) :
  1 ≤ nextVersion version
  := by
  simp only [nextVersion]
  split
  · decide
  · omega

/-- Along a run that starts without events, the storage can hold the numbers of every event. -/
theorem State.run_isHeld {s : State} (empty : s.records.events = []) (steps : List Step) :
  ∀ e ∈ (s.run steps).records.events, e.IsHeld
  := by
  apply run_events (P := Event.IsHeld) empty
  intro x _ old e writes h
  cases writes with
  | create _ resolved storable =>
    exact ⟨storable, (EventDraft.isNew_of_resolve resolved).version.ge⟩
  | @patch id p tokens current b stamp _ resolved _ storable =>
    obtain ⟨order, counted⟩ := h current rfl
    obtain ⟨-, -, -, -, -, hb⟩ := EventPatch.of_resolve resolved
    rw [EventPatch.apply_of_resolve resolved, hb]
    refine ⟨?_, Event.one_le_nextVersion counted⟩
    change ∀ n ∈ p.orderId.getD current.orderId, Storable n
    cases ho : p.orderId with
    | none => apply order
    | some n =>
      rw [ho] at storable
      apply storable
  | @archive _ current =>
    obtain ⟨order, counted⟩ := h current rfl
    exact ⟨order, Event.one_le_nextVersion counted⟩

/-- If the storage can hold the orders of the catalog and that of the event, then it can hold the
order that is shown. -/
theorem Event.IsHeld.storable_orderIdOf {e : Event} {catalog : Catalog} (h : e.IsHeld)
    (stored : catalog.IsStorable) :
  ∀ n ∈ catalog.orderIdOf e, Storable n
  := by
  intro n hn
  cases ho : e.orderId with
  | some m =>
    have heq : m = n := by simpa [Catalog.orderIdOf, ho] using hn
    apply h.order n
    rw [ho, heq]
    rfl
  | none =>
    have hmap : (catalog.operationOf e).map (·.orderId) = some n := by
      simpa [Catalog.orderIdOf, ho] using hn
    obtain ⟨op, hop, rfl⟩ := Option.map_eq_some_iff.mp hmap
    obtain ⟨i, -, hfound⟩ := Option.bind_eq_some_iff.mp hop
    apply stored op (List.mem_of_find?_eq_some hfound)

/-- The storage can hold the version of a sound event. -/
theorem Event.IsHeld.storable_version {e : Event} (h : e.IsHeld) (sound : e.IsSound) :
  Storable e.version
  := by
  have hcounted := h.counted
  have hlast := sound.counted
  simp only [lastVersion] at hlast
  exact ⟨by omega, by omega⟩

/-! ### Bookings that are in nobody's way -/

/-- In a schedule, nothing but the event itself stands in the way of an event that is not archived
and does not allow overlaps. -/
theorem Records.IsSchedule.blockers_eq_nil {r : Records} {e : Event} {resource : Resource}
    (h : r.IsSchedule) (he : e ∈ r.events) (isOpen : e.archivedAt = none)
    (exclusive : e.allowOverlap = false) (books : e.Books resource) (named : e.id ≠ "") :
  r.blockers resource e.interval (some e.id) = []
  := by
  by_contra hblocked
  obtain ⟨a, ha, hblocks, hleft⟩ := blockers_ne_nil_iff.mp hblocked
  have hne := (given_id_ne_iff (.inl named) ha).mp hleft
  apply h.exclusive a ha e he hne
  apply (Event.collides_iff_blocks books).mpr ⟨hblocks, isOpen, exclusive⟩

/-- Along a run that starts without events and whose requests check for conflicts, the events make
up a schedule. -/
theorem State.run_schedules {s : State} {steps : List Step} (empty : s.records.events = [])
    (checks : ∀ x ∈ steps, x.conditions.skipsCheck = false) :
  (s.run steps).records.IsSchedule
  := by
  apply run_records (P := Records.IsSchedule)
  · constructor <;> simp [empty]
  · intro t r _ schedule x hx change
    apply schedule.change (checks x hx) change
  · intro r schedule x _
    apply schedule.commit

/-! ### Patches that set every field to its value -/

namespace Catalog

variable {catalog : Catalog} {e : Event}

/-- Whether the operation of the event, if the catalog lists it, belongs to the order that is
shown. -/
def LinkAgrees (catalog : Catalog) (e : Event) : Prop :=
  ∀ op ∈ catalog.operationOf e, catalog.orderIdOf e = some op.orderId

/-- If the event is given the order that is shown, then this is still shown, and a change of its
stamp shows nothing else. -/
theorem view_restamped (catalog : Catalog) (e : Event) (version : Int) (stamp : Instant)
    (actor : Option String) :
  catalog.view { e with
      orderId := catalog.orderIdOf e, version := version, updatedAt := stamp, updatedBy := actor }
    = { catalog.view e with version := version, updatedAt := stamp, updatedBy := actor }
  := by
  have horder : catalog.orderIdOf { e with
        orderId := catalog.orderIdOf e, version := version, updatedAt := stamp
        updatedBy := actor }
      = catalog.orderIdOf e := by
    simp only [orderIdOf, operationOf]
    cases e.orderId <;> simp
  simp only [view, orderOf, horder, operationOf]

end Catalog

namespace EventPatch

open Schema

variable {catalog : Catalog} {e : Event} {resource : Resource}

/-- The patch that sets every field to what is shown of it suits a booking of a real resource, whose
operation is listed and belongs to the order that is shown. -/
theorem suits_ofView (proper : e.interval.IsProper) (named : resource.id ≠ "")
    (real : resource.IsReal catalog) (books : e.Books resource)
    (linked : ∀ i ∈ given e.operationId, catalog.HasOperation i)
    (agrees : catalog.LinkAgrees e) :
  (PatchBody.ofView (catalog.view e)).patch.Suits catalog e resource
  := by
  obtain ⟨kind, id⟩ := resource
  obtain ⟨hm, hw⟩ := books
  have hgiven : given (some id) = some id := given_eq_some.mpr ⟨rfl, named⟩
  refine ⟨?_, ?_, ?_, fun _ => real, proper⟩
  · intro i hi
    obtain ⟨op, hop⟩ := Option.ne_none_iff_exists'.mp
      (Catalog.operation?_eq_none_iff.not.mpr (not_not.mpr (linked i hi)))
    have hlink : catalog.operationOf e = some op := by
      have hid : e.operationId = some i := (given_eq_some.mp hi).1
      rw [Catalog.operationOf, hid, Option.bind_some, hop]
    refine ⟨op, hop, ?_⟩
    intro n hn
    have horder : catalog.orderIdOf e = some n := hn
    rw [agrees op hlink] at horder
    cases horder
    rfl
  · cases kind with
    | machine =>
      right
      exact congrArg given hw
    | workstation =>
      left
      exact congrArg given hm
  · cases kind with
    | machine => exact .machine ((congrArg given hm).trans hgiven)
    | workstation => exact .workstation ((congrArg given hw).trans hgiven)

/-- What the patch that sets every field to what is shown of it makes of a booking is the booking
itself, with the order that is shown. -/
theorem completed_ofView (books : e.Books resource) :
  (PatchBody.ofView (catalog.view e)).patch.completed e resource
    = { e with orderId := catalog.orderIdOf e }
  := by
  obtain ⟨hm, hw⟩ := books
  rw [completed, ← hm, ← hw]
  rfl

/-- Such a patch stores the event with the order that is shown, the next version and its stamp. -/
theorem apply_ofView {b : Booking} (books : e.Books b.resource)
    (resolved : (PatchBody.ofView (catalog.view e)).patch.resolve catalog e = .ok b)
    (actor : String) (stamp : Instant) :
  (PatchBody.ofView (catalog.view e)).patch.apply e b.event actor stamp
    = { e with
        orderId := catalog.orderIdOf e
        version := Event.nextVersion e.version
        updatedAt := stamp
        updatedBy := some actor }
  := by
  obtain ⟨-, hevent⟩ := resolve_eq_ok_iff.mp resolved
  rw [apply_of_resolve resolved, hevent, completed_ofView books, ← books.1, ← books.2]
  rfl

end EventPatch

namespace Records

open Schema

variable {r : Records} {c : Conditions} {catalog : Catalog} {context : Audit.Context} {e : Event}

/-- Where nothing fails, the patch that sets every field of a placed booking to what is shown of it
is carried out, and shows nothing else but the version and the stamp. -/
theorem patch_ofView (calm : c.IsCalm) (schedule : r.IsSchedule) (sound : e.IsSound)
    (held : e.IsHeld) (placed : e.IsPlaced catalog) (stored : catalog.IsStorable)
    (linked : ∀ i ∈ given e.operationId, catalog.HasOperation i) (agrees : catalog.LinkAgrees e)
    (named : e.id ≠ "") (found : r.event? e.id = some e) (isOpen : e.archivedAt = none)
    (last : e.updatedAt.succ? ≠ none) :
  ∃ stamp, Instant.next? e.updatedAt c.now = some stamp
    ∧ (r.patch c catalog context e.id (PatchBody.ofView (catalog.view e)).patch
        (PatchBody.ofView (catalog.view e)).tokens).1
      = .ok { catalog.view e with
          version := e.version + 1, updatedAt := stamp, updatedBy := some context.actor }
  := by
  obtain ⟨stamp, hstamp⟩ := Event.exists_nextStamp last c.now
  have stamped := Event.nextStamp_eq_ok_iff.mp hstamp
  obtain ⟨resource, hid, real, books⟩ := placed
  have hsuits := EventPatch.suits_ofView sound.1.1 hid real books linked agrees
  obtain ⟨b, hb, resolved⟩ : ∃ b : Booking, b.resource = resource
      ∧ (PatchBody.ofView (catalog.view e)).patch.resolve catalog e = .ok b :=
    ⟨⟨resource, EventPatch.completed _ e resource⟩, rfl,
      EventPatch.resolve_eq_ok_iff.mpr ⟨hsuits, rfl⟩⟩
  subst hb
  have hevent : b.event = { e with orderId := catalog.orderIdOf e } := by
    rw [(EventPatch.resolve_eq_ok_iff.mp resolved).2, EventPatch.completed_ofView books]
  have htoken : ∀ n ∈ (PatchBody.ofView (catalog.view e)).tokens.version, Storable n := by
    rintro n ⟨⟩
    apply held.storable_version sound
  have hfree : ¬ (b.event.allowOverlap = false
      ∧ r.blockers b.resource b.event.interval (some e.id) ≠ []) := by
    rw [hevent]
    rintro ⟨exclusive, hblocked⟩
    apply hblocked
    apply schedule.blockers_eq_nil (mem_of_event? found) isOpen exclusive books named
  have hversion : Event.nextVersion e.version = e.version + 1 :=
    if_neg (not_le.mpr sound.counted)
  refine ⟨stamp, stamped, ?_⟩
  rw [patch_of_resolve calm sound resolved stamped (held.storable_orderIdOf stored) htoken found
    isOpen, if_neg hfree, if_pos ⟨by rintro i ⟨⟩; rfl, by rintro n ⟨⟩; rfl⟩,
    EventPatch.apply_ofView books resolved, Catalog.view_restamped, hversion]

end Records

/-! ### Forms that are saved -/

namespace Api

open Schema

variable {t : State} {c : Conditions} {call : Call} {id actor : String}

/-- A call for an event that is stored is replied to by a record that shows the event, and changes
nothing. -/
theorem answer_detail {e : Event} (reads : c.fault = none) (asks : call.endpoint = .detail id)
    (found : t.records.event? id = some e) (counted : e.version ≤ Event.lastVersion) :
  ∃ body, answer t c call = (.json 200 body, t)
    ∧ body.field? "event" = some (t.catalog.view e).toJson
  := by
  have hview := @Records.view_of_found t.records c t.catalog id e
    (Conditions.attempt_of_fault_none reads _) found counted
  have hparts : call.parts = .ok [] := by rw [Call.parts, asks]
  have hmeaning : call.meaning [] = .valid (.request "" (.detail id)) := by
    rw [Call.meaning, asks]
  have hstatus : call.successStatus = 200 := by rw [Call.successStatus, asks]
  obtain ⟨d, hdetail, hevent⟩ : ∃ d, t.records.detail c t.catalog id = .ok d
      ∧ d.event = t.catalog.view e := by
    have hattempt := Conditions.attempt_of_fault_none reads
    use ⟨t.catalog.view e, t.records.commentsOf t.catalog id, t.records.documentsOf id⟩
    exact ⟨Records.detail_eq_ok_iff.mpr ⟨hview, ⟨hattempt _, rfl⟩, hattempt _, rfl⟩, rfl⟩
  refine ⟨d.toJson, ?_, ?_⟩
  · simp only [answer, hparts, hmeaning, State.perform, hdetail, Except.map, Call.present, hstatus]
    rfl
  · rw [← hevent]
    rfl

/-- A call that patches an event with a body that is read is replied to as the patch is answered. -/
theorem answer_patch {fields : Fields} {body : PatchBody} {v : EventView}
    (asks : call.endpoint = .patch id) (signed : readActor call.parameters = .valid actor)
    (structured : call.contentType?.all ContentType.isStructured = true)
    (sends : call.body = .obj fields) (reads : PatchBody.read fields = .valid body)
    (h : (t.records.patch c t.catalog (call.context actor) id body.patch body.tokens).1 = .ok v) :
  (answer t c call).1 = .json 200 v.toJson
  := by
  have hparts : call.parts = .ok [] := by rw [Call.parts, asks]
  have hbody : call.readBody PatchBody.read = .valid body := by
    simp only [Call.readBody, sends, structured, if_true, record, reads]
    rfl
  have hmeaning : call.meaning [] = .valid (.request actor (.patch id body.patch body.tokens)) := by
    rw [Call.meaning, asks]
    apply Checked.seq_eq_valid.mpr ⟨_, body, _, hbody, rfl⟩
    apply Checked.map_eq_valid.mpr ⟨actor, signed, rfl⟩
  have hstatus : call.successStatus = 200 := by rw [Call.successStatus, asks]
  rcases hpatch : t.records.patch c t.catalog (call.context actor) id body.patch body.tokens with
    ⟨result, r⟩
  rw [hpatch] at h
  subst h
  simp only [answer, hparts, hmeaning, State.perform, State.withRecords, hpatch, Except.map,
    Call.present, hstatus]
  rfl

/-- Saving a form without changes changes nothing: whatever a run that starts without events has
led to, and whichever event that is not archived a call shows, if a patch may hold what is shown of
the event and its operation belongs to the order that is shown, then the patch that sends all of it
back is carried out, and it is replied to by the view as it was, but for the version, the stamp and
who made the patch. -/
theorem saving_unchanged {s : State} {steps : List Step} {e : Event} {c' : Conditions}
    {get patch : Call} {names : List String} (empty : s.records.events = [])
    (stored : s.catalog.IsStorable) (checks : ∀ x ∈ steps, x.conditions.skipsCheck = false)
    (he : e ∈ (s.run steps).records.events) (isOpen : e.archivedAt = none)
    (last : e.updatedAt.succ? ≠ none) (fits : (s.catalog.view e).FitsPatch)
    (agrees : s.catalog.LinkAgrees e)
    (reached : Endpoint.reach? names .get = some get.endpoint) (gets : get.endpoint = .detail e.id)
    (reads : c.fault = none) (patches : patch.endpoint = .patch e.id)
    (signed : readActor patch.parameters = .valid actor)
    (structured : patch.contentType?.all ContentType.isStructured = true) (calm : c'.IsCalm) :
  ∃ body shown, answer (s.run steps) c get = (.json 200 body, s.run steps)
    ∧ body.field? "event" = some shown ∧ shown = (s.catalog.view e).toJson
    ∧ (patch.body = formOf shown → ∃ stamp, Instant.next? e.updatedAt c'.now = some stamp
      ∧ (answer (s.run steps) c' patch).1
        = .json 200 (EventView.toJson { s.catalog.view e with
            version := e.version + 1, updatedAt := stamp, updatedBy := some actor }))
  := by
  have hcatalog := s.catalog_run steps
  have sound := State.run_isSound empty steps e he
  have found := (State.run_isKeyed empty steps).event?_of_mem he
  have schedule := State.run_schedules empty checks
  have named : e.id ≠ "" := by
    intro hid
    apply Endpoint.empty_not_mem_ids reached
    rw [gets, hid]
    exact List.mem_singleton_self _
  obtain ⟨body, hbody, hevent⟩ := answer_detail reads gets found sound.counted.le
  rw [hcatalog] at hevent
  refine ⟨body, _, hbody, hevent, rfl, ?_⟩
  intro sends
  rw [formOf_toJson] at sends
  obtain ⟨stamp, stamped, hpatch⟩ := @Records.patch_ofView _ c' _ (patch.context actor) e calm
    schedule sound (State.run_isHeld empty steps e he) (State.run_isPlaced empty steps e he) stored
    (State.run_linksGiven empty steps e he) agrees named found isOpen last
  refine ⟨stamp, stamped, ?_⟩
  apply answer_patch patches signed structured sends (PatchBody.read_formFields fits)
  rw [hcatalog]
  apply hpatch

end Api

namespace Sample

/-- The lathe is booked twice, and the first booking becomes an operation, whose order is not stored
with it. -/
def linking : List Step :=
  [ step 1 (.create "first" (draft 8 12)),
    step 2 (.create "second" (draft 12 14)),
    step 3 (.patch "first" { operationId := some (some "turn") } {}) ]

/-- The first booking after it has become an operation. -/
def linked : Event :=
  { event "first" 8 12 with
    operationId := some "turn"
    title := "Planning"
    version := 2
    createdAt := hour 1
    createdBy := some "user"
    updatedAt := hour 3
    updatedBy := some "user" }

/-- The call that asks for the first booking. -/
def opening : Api.Call where
  endpoint := .detail "first"

/-- The call that sends back what is shown of the first booking. -/
def saving : Api.Call where
  endpoint := .patch "first"
  query := [("actor_user_id", "planner")]
  body := Api.formOf (catalog.view linked).toJson

end Sample

/-- The booking is shown with the order of its operation, which is stored with it when it is saved.
Nothing else of it changes but its stamp. -/
theorem Api.saves_linked :
  Sample.linked.orderId = none ∧ (Sample.catalog.view Sample.linked).orderId = some 1
    ∧ (Api.answer (Sample.state.run Sample.linking) { now := Sample.hour 4 } Sample.saving).1
      = .json 200 (EventView.toJson { Sample.catalog.view Sample.linked with
          version := 3, updatedAt := Sample.hour 4, updatedBy := some "planner" })
  := by
  have checks : ∀ x ∈ Sample.linking, x.conditions.skipsCheck = false := by decide
  have he : Sample.linked ∈ (Sample.state.run Sample.linking).records.events := by decide +kernel
  have fits : (Sample.catalog.view Sample.linked).FitsPatch :=
    ⟨by decide, by decide, by decide, by decide, by decide, by decide⟩
  have agrees : Sample.catalog.LinkAgrees Sample.linked := by
    rintro op ⟨⟩
    rfl
  obtain ⟨body, shown, -, -, hshown, saves⟩ := @Api.saving_unchanged { now := Sample.hour 4 }
    "planner" Sample.state Sample.linking Sample.linked { now := Sample.hour 4 } Sample.opening
    Sample.saving (Api.Endpoint.events ["first"]) rfl (by decide) checks he rfl (by decide) fits
    agrees (by decide) rfl rfl rfl (by decide) (by decide) (by decide)
  obtain ⟨stamp, hstamp, hanswer⟩ := saves (congrArg Api.formOf hshown.symm)
  have hnext : Instant.next? Sample.linked.updatedAt (Sample.hour 4) = some (Sample.hour 4) := by
    decide
  rw [hnext] at hstamp
  cases hstamp
  exact ⟨rfl, by decide, hanswer⟩

end Workshop
