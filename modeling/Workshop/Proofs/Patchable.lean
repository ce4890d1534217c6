import Workshop.Proofs.Outcomes

/-!
# Which patches are carried out

A patch is acceptable if it finds an open event as its tokens remember it, the catalog can complete
it to an event with one resource, and no other event stands in the way.  Where nothing fails, a
patch is carried out exactly if it is acceptable, and otherwise refused:
`State.patch_iff_isAcceptable`.
-/

namespace Workshop

open Storage

/-! ### Events with a name -/

/-- The id that the request brings for a new event, if it brings one. -/
def Request.newEventId? : Request → Option String
  | .create id _ => some id
  | _ => none

/-- Along a run that starts without events and brings no empty id for any, no event has one. -/
theorem State.run_named {s : State} {steps : List Step} (empty : s.records.events = [])
    (named : ∀ x ∈ steps, x.request.newEventId? ≠ some "") :
  ∀ e ∈ (s.run steps).records.events, e.id ≠ ""
  := by
  apply run_events (P := fun e => e.id ≠ "") empty
  intro x hx old e writes h
  cases writes with
  | create asked resolved =>
    have hnew := named x hx
    obtain ⟨-, -, -, -, -, -, hid, -⟩ := EventDraft.of_resolve resolved
    rw [asked] at hnew
    rw [hid]
    simpa [Request.newEventId?] using hnew
  | patch _ resolved =>
    rw [EventPatch.id_apply resolved]
    apply h _ rfl
  | archive => apply h _ rfl

/-! ### Patches that are completed -/

/-- Whether the patch makes of the event a booking of the resource: the operation that the patch
names belongs to the order that the event then has; the resource is the one that the event then
asks for or that this operation offers, and is listed if the patch sets it; and the interval is
proper. -/
structure EventPatch.Suits (p : EventPatch) (catalog : Catalog) (e : Event) (resource : Resource) :
    Prop where
  operation : ∀ i ∈ given p.operationId.join, ∃ op, catalog.operation? i = some op
    ∧ ∀ n ∈ p.orderId.getD e.orderId, op.orderId = n
  single : given (p.machineId.getD e.machineId) = none
    ∨ given (p.workstationId.getD e.workstationId) = none
  chosen : resource.IsChosen (p.machineId.getD e.machineId)
    (p.workstationId.getD e.workstationId) (catalog.linked? p.operationId.join)
  real : p.machineId ≠ none ∨ p.workstationId ≠ none → resource.IsReal catalog
  proper : p.start.getD e.start < p.stop.getD e.stop

namespace EventPatch

variable {p : EventPatch} {catalog : Catalog} {e : Event} {b : Booking} {resource : Resource}

theorem setsResource_iff :
  p.setsResource = true ↔ p.machineId ≠ none ∨ p.workstationId ≠ none
  := by
  simp [setsResource, Option.isSome_iff_ne_none]

/-- What a patch makes of a value stays, if the patch sets it, or was there before. -/
theorem given_getD_join {o : Option (Option String)} {old : Option String}
    (h : given (o.getD old) = none) :
  given o.join = none
  := by
  cases o with
  | none => rfl
  | some value => exact h

theorem check_eq_ok_iff :
  p.check = .ok () ↔ (given p.machineId.join = none ∨ given p.workstationId.join = none)
    ∧ ∀ start ∈ p.start, ∀ stop ∈ p.stop, start < stop
  := by
  rw [check, check_bind_eq_ok_iff, requireOneResource_eq_ok_iff]
  apply and_congr_right'
  cases p.start with
  | none => simp [pure, Except.pure]
  | some start =>
    cases p.stop with
    | none => simp [pure, Except.pure]
    | some stop => simp [Interval.requireProper_eq_ok_iff, Interval.IsProper]

/-- A patch that suits an event passes the checks that it has by itself. -/
theorem Suits.check (h : p.Suits catalog e resource) :
  p.check = .ok ()
  := by
  apply check_eq_ok_iff.mpr ⟨h.single.imp given_getD_join given_getD_join, _⟩
  intro start hstart stop hstop
  have hproper := h.proper
  rw [hstart, hstop] at hproper
  apply hproper

/-- The event as the patch would have it, as a booking of the resource. -/
def completed (p : EventPatch) (e : Event) (resource : Resource) : Event :=
  { p.merge e with
    machineId := resource.machineId?
    workstationId := resource.workstationId? }

/-- A patch is completed exactly to a booking of a resource for which it suits the event. -/
theorem resolve_eq_ok_iff :
  p.resolve catalog e = .ok b ↔
    p.Suits catalog e b.resource ∧ b.event = p.completed e b.resource
  := by
  constructor
  · intro h
    obtain ⟨operation, hop, horder, hres, hproper, hevent⟩ := of_resolve h
    obtain ⟨hoperation, rfl⟩ := Catalog.requireOperation_and_requireOrder_iff.mp
      ⟨hop, OperationDefaults.requireOrder_eq_ok_iff.mpr horder⟩
    obtain ⟨hsingle, hchosen⟩ := Resource.resolve_eq_ok_iff.mp hres
    refine ⟨⟨hoperation, hsingle, hchosen, ?_, hproper⟩, hevent⟩
    intro hsets
    apply Resource.isListed_iff.mp (isListed_of_resolve h (setsResource_iff.mpr hsets))
  · rintro ⟨⟨hoperation, hsingle, hchosen, hreal, hproper⟩, hevent⟩
    obtain ⟨hop, horder⟩ :=
      Catalog.requireOperation_and_requireOrder_iff.mpr ⟨hoperation, rfl⟩
    have hres := Resource.resolve_eq_ok_iff.mpr ⟨hsingle, hchosen⟩
    refine bind_eq_ok_iff.mpr ⟨_, hop, ?_⟩
    refine check_bind_eq_ok_iff.mpr ⟨Interval.requireProper_eq_ok_iff.mpr hproper, ?_⟩
    refine check_bind_eq_ok_iff.mpr ⟨horder, ?_⟩
    refine bind_eq_ok_iff.mpr ⟨b.resource, mapError_eq_ok_iff.mpr hres, ?_⟩
    have hb : b = ⟨b.resource, p.completed e b.resource⟩ := by
      rw [← hevent]
    split
    · rename_i hsets
      have hlisted := Resource.isListed_iff.mpr (hreal (setsResource_iff.mp hsets))
      apply check_bind_eq_ok_iff.mpr ⟨Catalog.requireResource_eq_ok_iff.mpr hlisted, _⟩
      apply return_eq_ok_iff.mpr hb
    · apply return_eq_ok_iff.mpr hb

end EventPatch

/-! ### Patches that are carried out -/

namespace Records

variable {r : Records} {c : Conditions} {catalog : Catalog} {context : Audit.Context}
  {id : String} {p : EventPatch} {tokens : Event.Tokens} {e : Event} {b : Booking}
  {stamp : Instant} (calm : c.IsCalm) (sound : e.IsSound)
  (resolved : p.resolve catalog e = .ok b)
  (stamped : Instant.next? e.updatedAt c.now = some stamp)
  (order : ∀ n ∈ p.orderId.join, Storable n) (token : ∀ n ∈ tokens.version, Storable n)

include calm sound resolved stamped order token

theorem writePatched_of_resolve :
  r.writePatched c catalog context p tokens e b =
    if b.event.allowOverlap = false ∧ r.blockers b.resource b.event.interval (some e.id) ≠ [] then
      .error (.refused (.conflict (r.clashes catalog b.resource b.event.interval (some e.id))))
    else if tokens.Fresh e then
      .ok ((r.replaceEvent (p.apply e b.event context.actor stamp)).audited context
        (.update p tokens b.event.snapshot) e.id c.now)
    else .error (.refused .stale)
  := by
  obtain ⟨reads, -, checks, -⟩ := calm
  have hattempt := Conditions.attempt_of_fault_none reads
  have hfree := @requireFree_eq r c catalog b.resource b.event.interval b.event.allowOverlap
    (some e.id) reads checks
  split
  · rename_i hblocked
    rw [writePatched, hfree, if_pos hblocked]
    rfl
  · rename_i hopen
    rw [if_neg hopen] at hfree
    split
    · rename_i hfresh
      have next := EventPatch.isSound_apply resolved sound stamped context.actor
      apply writePatched_eq_ok_iff.mpr
      exact ⟨hfree, stamp, stamped, ⟨hattempt _, order, token, hfresh,
        Event.defect?_eq_none next.checked⟩, ⟨hattempt _, hattempt _⟩, rfl⟩
    · rename_i hstale
      have hupdate : ∀ next, r.updatePatched c p tokens e next = .error (.refused .stale) := by
        intro next
        rw [updatePatched, hattempt, requireStorable_eq_ok_iff.mpr order,
          requireStorable_eq_ok_iff.mpr token, if_neg hstale]
        rfl
      rw [writePatched, hfree, Event.nextStamp_eq_ok_iff.mpr stamped]
      simp only [hupdate]
      rfl

/-- Where nothing fails, a patch that was completed to a booking is refused if other events stand in
the way of this, or if its tokens do not hold of the event, and else is carried out. -/
theorem patch_of_resolve (found : r.event? id = some e) (isOpen : e.archivedAt = none) :
  r.patch c catalog context id p tokens =
    if b.event.allowOverlap = false ∧ r.blockers b.resource b.event.interval (some id) ≠ [] then
      (.error (.refused (.conflict (r.clashes catalog b.resource b.event.interval (some id)))), r)
    else if tokens.Fresh e then
      (.ok (catalog.view (p.apply e b.event context.actor stamp)),
        (r.replaceEvent (p.apply e b.event context.actor stamp)).audited context
          (.update p tokens b.event.snapshot) id c.now)
    else (.error (.refused .stale), r)
  := by
  have hwrite := @writePatched_of_resolve r c catalog context p tokens e b stamp calm sound
    resolved stamped order token
  obtain ⟨reads, -, -, stays⟩ := calm
  have hlook := EventPatch.lookUp_of_resolve reads resolved
  have checked := (EventPatch.resolve_eq_ok_iff.mp resolved).1.check
  have opened : r.lockOpen c id = .ok e :=
    lockOpen_eq_ok_iff.mpr ⟨Conditions.attempt_during_of_fault_none _ reads _, found, isOpen⟩
  obtain rfl := id_of_event? found
  split
  · rename_i hblocked
    rw [if_pos hblocked] at hwrite
    rw [patch_of_writePatched_error checked opened hlook hwrite]
    rfl
  · rename_i hopen
    rw [if_neg hopen] at hwrite
    split
    · rename_i hfresh
      rw [if_pos hfresh] at hwrite
      have next := EventPatch.isSound_apply resolved sound stamped context.actor
      have hfound : ((r.replaceEvent (p.apply e b.event context.actor stamp)).audited context
          (.update p tokens b.event.snapshot) e.id c.now).event? e.id
          = some (p.apply e b.event context.actor stamp) :=
        event?_replaceEvent_of_found found (EventPatch.id_apply resolved context.actor stamp)
      simp only [patch, checked, opened, hlook, hwrite, Conditions.commit_of_stays stays]
      rw [reload_of_found (Conditions.attempt_of_fault_none reads _) hfound next.counted.le]
    · rename_i hstale
      rw [if_neg hstale] at hwrite
      rw [patch_of_writePatched_error checked opened hlook hwrite]
      rfl

end Records

/-- A patch that is answered has found the event open and as its tokens remember it, was completed
to a booking that is free, and has stored this. -/
theorem Records.of_patch_ok {r : Records} {c : Conditions} {catalog : Catalog}
    {context : Audit.Context} {id : String} {p : EventPatch} {tokens : Event.Tokens}
    {v : EventView} (h : (r.patch c catalog context id p tokens).1 = .ok v) :
  ∃ e b stamp, r.event? id = some e ∧ e.archivedAt = none ∧ tokens.Fresh e
    ∧ p.resolve catalog e = .ok b
    ∧ r.requireFree c catalog b.resource b.event.interval b.event.allowOverlap (some id) = .ok ()
    ∧ Instant.next? e.updatedAt c.now = some stamp
    ∧ v = catalog.view (p.apply e b.event context.actor stamp)
    ∧ (r.patch c catalog context id p tokens).2
      = (r.replaceEvent (p.apply e b.event context.actor stamp)).audited context
          (.update p tokens b.event.snapshot) id c.now
  := by
  rcases r.patch_cases c context id catalog p tokens with
    ⟨f, hf⟩ | ⟨e, b, r', -, hlock, hb, hwrite, hpatch⟩
  · rw [hf] at h
    cases h
  · obtain ⟨-, found, isOpen⟩ := lockOpen_eq_ok_iff.mp hlock
    obtain ⟨hfree, stamp, stamped, ⟨-, -, -, hfresh, -⟩, -, rfl⟩ := writePatched_eq_ok_iff.mp hwrite
    rw [hpatch] at h ⊢
    obtain ⟨⟨e', hfound, rfl⟩, -⟩ := of_view (view_of_reload h)
    have hcommit := Conditions.commit_of_event? hfound
    rw [hcommit, event?_audited, event?_replaceEvent_of_found found
      (EventPatch.id_apply hb context.actor stamp)] at hfound
    cases hfound
    obtain rfl := id_of_event? found
    exact ⟨e, b, stamp, found, isOpen, hfresh, hb, hfree, stamped, rfl, hcommit⟩

/-- Whether the patch of the event with the given id finds it open and as the tokens remember it,
and makes a booking of it that allows overlaps or that no other event stands in the way of. -/
def EventPatch.IsAcceptable (p : EventPatch) (tokens : Event.Tokens) (catalog : Catalog)
    (r : Records) (id : String) : Prop :=
  ∃ e, r.event? id = some e ∧ e.archivedAt = none ∧ tokens.Fresh e
    ∧ ∃ resource, p.Suits catalog e resource
      ∧ (p.allowOverlap.getD e.allowOverlap = true
        ∨ ∀ a ∈ r.events, a.id ≠ id →
          ¬ a.Blocks resource ⟨p.start.getD e.start, p.stop.getD e.stop⟩)

/-- A patch is acceptable exactly if it can be completed, its tokens hold, and it does not meet
events in its way. -/
theorem EventPatch.isAcceptable_iff {p : EventPatch} {tokens : Event.Tokens} {catalog : Catalog}
    {r : Records} {id : String} (named : ∀ e ∈ r.events, e.id ≠ "") :
  p.IsAcceptable tokens catalog r id ↔
    ∃ e, r.event? id = some e ∧ e.archivedAt = none ∧ tokens.Fresh e
      ∧ ∃ b, p.resolve catalog e = .ok b
        ∧ ¬ (b.event.allowOverlap = false
          ∧ r.blockers b.resource b.event.interval (some id) ≠ [])
  := by
  have hblocked : ∀ e, r.event? id = some e → ∀ resource,
      (p.allowOverlap.getD e.allowOverlap = true
          ∨ ∀ a ∈ r.events, a.id ≠ id →
            ¬ a.Blocks resource ⟨p.start.getD e.start, p.stop.getD e.stop⟩)
        ↔ ¬ ((p.merge e).allowOverlap = false
          ∧ r.blockers resource (p.merge e).interval (some id) ≠ []) := by
    intro e found resource
    obtain rfl := Records.id_of_event? found
    have hleft : ∀ a ∈ r.events, (given (some e.id) ≠ some a.id ↔ a.id ≠ e.id) := by
      intro a ha
      apply Records.given_id_ne_iff (.inl (named e (Records.mem_of_event? found))) ha
    rw [Records.not_blocked_iff]
    apply or_congr_right
    apply forall₂_congr
    intro a ha
    rw [hleft a ha]
    rfl
  constructor
  · rintro ⟨e, found, isOpen, hfresh, resource, hsuits, hfree⟩
    refine ⟨e, found, isOpen, hfresh, ⟨resource, p.completed e resource⟩, ?_, ?_⟩
    · exact resolve_eq_ok_iff.mpr ⟨hsuits, rfl⟩
    · exact (hblocked e found resource).mp hfree
  · rintro ⟨e, found, isOpen, hfresh, b, hb, hfree⟩
    obtain ⟨hsuits, hevent⟩ := resolve_eq_ok_iff.mp hb
    rw [hevent] at hfree
    exact ⟨e, found, isOpen, hfresh, b.resource, hsuits, (hblocked e found b.resource).mpr hfree⟩

/-- Where nothing fails, a patch that strains neither the storage nor the calendar is carried out
exactly if it is acceptable. -/
theorem Records.patch_eq_ok_iff {r : Records} {c : Conditions} {catalog : Catalog}
    {context : Audit.Context} {id : String} {p : EventPatch} {tokens : Event.Tokens}
    (calm : c.IsCalm) (sound : ∀ e ∈ r.events, e.IsSound) (named : ∀ e ∈ r.events, e.id ≠ "")
    (order : ∀ n ∈ p.orderId.join, Storable n) (token : ∀ n ∈ tokens.version, Storable n)
    (last : ∀ e, r.event? id = some e → e.updatedAt.succ? ≠ none) :
  (∃ v, (r.patch c catalog context id p tokens).1 = .ok v) ↔ p.IsAcceptable tokens catalog r id
  := by
  rw [EventPatch.isAcceptable_iff named]
  constructor
  · rintro ⟨v, hv⟩
    obtain ⟨e, b, -, found, isOpen, hfresh, hb, hfree, -⟩ := of_patch_ok hv
    refine ⟨e, found, isOpen, hfresh, b, hb, ?_⟩
    intro hblocked
    rw [requireFree_eq calm.1 calm.2.2.1, if_pos hblocked] at hfree
    cases hfree
  · rintro ⟨e, found, isOpen, hfresh, b, hb, hfree⟩
    obtain ⟨floor, hfloor⟩ := Option.ne_none_iff_exists'.mp (last e found)
    obtain ⟨stamp, stamped⟩ : ∃ stamp, Instant.next? e.updatedAt c.now = some stamp := by
      rw [Instant.next?, hfloor]
      exact ⟨_, rfl⟩
    rw [patch_of_resolve calm (sound e (mem_of_event? found)) hb stamped order token found isOpen,
      if_neg hfree, if_pos hfresh]
    exact ⟨_, rfl⟩

/-- A patch is carried out exactly if it is acceptable.  On any state that a run reaches which
starts without events and gives none an empty id, and where nothing fails, a patch that strains
neither the storage nor the calendar is answered by a view exactly if it is acceptable.  Otherwise
it is refused and changes nothing, and the event itself is not reported to be in its way. -/
theorem State.patch_iff_isAcceptable {s : State} {steps : List Step} {x : Step} {id : String}
    {p : EventPatch} {tokens : Event.Tokens} (empty : s.records.events = [])
    (named : ∀ y ∈ steps, y.request.newEventId? ≠ some "")
    (asked : x.request = .patch id p tokens) (calm : x.conditions.IsCalm)
    (order : ∀ n ∈ p.orderId.join, Storable n) (token : ∀ n ∈ tokens.version, Storable n)
    (last : ∀ e, (s.run steps).records.event? id = some e → e.updatedAt.succ? ≠ none) :
  ((∃ a, (s.run steps).answer x = .ok a)
      ↔ p.IsAcceptable tokens s.catalog (s.run steps).records id)
    ∧ ∀ f, (s.run steps).answer x = .error f →
      (∃ why, f = .refused why) ∧ (s.run steps).after x = s.run steps
        ∧ ∀ clashes, f = .refused (.conflict clashes) → ∀ k ∈ clashes, k.eventId ≠ id
  := by
  have sound := run_isSound empty steps
  have hnamed := run_named empty named
  obtain ⟨c, context, request⟩ := x
  subst asked
  rw [← catalog_run s steps]
  constructor
  · rw [← @Records.patch_eq_ok_iff _ c (s.run steps).catalog context id p tokens calm sound hnamed
      order token last]
    simp only [answer, perform, withRecords, map_eq_ok_iff]
    constructor
    · rintro ⟨a, v, hv, -⟩
      use v
    · rintro ⟨v, hv⟩
      use .event v, v
  · intro f hf
    have settles : (s.run steps).records.Settles False
        ((s.run steps).records.patch c (s.run steps).catalog context id p tokens) := by
      apply Records.patch_settles calm sound
      · rintro ⟨n, hn, hlarge⟩
        exact hlarge (order n hn)
      · rintro ⟨n, hn, hlarge⟩
        exact hlarge (token n hn)
      · exact last
    obtain ⟨hexpected, hafter⟩ := settles_withRecords (f := Answer.event) settles f hf
    refine ⟨?_, hafter, ?_⟩
    · cases f with
      | refused why => use why
      | _ => cases hexpected
    · rintro clashes rfl
      apply Records.ne_of_patch_conflict hnamed (map_eq_error_iff.mp hf)

namespace Sample

/-- The lathe is booked twice. -/
def bookings : List Step :=
  [step 1 (.create "first" (draft 8 12)), step 2 (.create "second" (draft 14 16))]

/-- A booking is to be moved. -/
def shift (start stop : Nat) : EventPatch where
  start := some (hour start)
  stop := some (hour stop)

end Sample

/-- The first booking can be moved to where it overlaps with what it was itself, but not to where it
overlaps with the second. -/
theorem State.accepts_shift :
  (Sample.shift 9 13).IsAcceptable { version := some 1 } Sample.catalog
      (Sample.state.run Sample.bookings).records "first"
    ∧ ¬ (Sample.shift 9 15).IsAcceptable { version := some 1 } Sample.catalog
      (Sample.state.run Sample.bookings).records "first"
  := by
  have named : ∀ y ∈ Sample.bookings, y.request.newEventId? ≠ some "" := by decide
  have last : ∀ e, (Sample.state.run Sample.bookings).records.event? "first" = some e →
      e.updatedAt.succ? ≠ none := by
    have hfound : ∀ e ∈ (Sample.state.run Sample.bookings).records.event? "first",
        e.updatedAt.succ? ≠ none := by decide +kernel
    apply hfound
  have accepted := @patch_iff_isAcceptable Sample.state Sample.bookings
    (Sample.step 3 (.patch "first" (Sample.shift 9 13) { version := some 1 })) "first"
    (Sample.shift 9 13) { version := some 1 } rfl named rfl (by decide) (by decide) (by decide) last
  have refused := @patch_iff_isAcceptable Sample.state Sample.bookings
    (Sample.step 3 (.patch "first" (Sample.shift 9 15) { version := some 1 })) "first"
    (Sample.shift 9 15) { version := some 1 } rfl named rfl (by decide) (by decide) (by decide) last
  constructor
  · apply accepted.1.mp
    exact ⟨_, rfl⟩
  · intro hacceptable
    obtain ⟨a, ha⟩ := refused.1.mpr hacceptable
    cases ha

end Workshop
