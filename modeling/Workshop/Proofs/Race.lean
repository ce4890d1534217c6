import Workshop.Proofs.Patchable
import Workshop.Proofs.Refusals

/-!
# Races that the storage decides

Another client may book a resource after a request has looked for conflicts, but before it writes.
Then the request finds nothing in its way, and it is the storage that refuses the statement.  The
client is answered just as if the request had found the conflict itself, and the state is left alone
just the same: `State.race_is_answered_alike`.  The one exception is a patch of an event for whose
next change the calendar has no stamp left, as this comes to light before the statement.
-/

namespace Workshop

open Storage

/-! ### Conflicts that are reported -/

namespace Records

variable {r : Records} {c : Conditions} {catalog : Catalog} {context : Audit.Context}
  {id : String} {d : EventDraft} {p : EventPatch} {tokens : Event.Tokens} {clashes : List Clash}

/-- Where nothing fails, a draft that meets a conflict was completed to a booking, and what is
reported stands in the way of this. -/
theorem of_create_conflict (reads : c.fault = none)
    (h : (r.create c catalog context id d).1 = .error (.refused (.conflict clashes))) :
  ∃ b, d.resolve catalog id context.actor c.now = .ok b
    ∧ clashes = r.clashes catalog b.resource b.event.interval none
  := by
  cases hb : d.resolve catalog id context.actor c.now with
  | error why =>
    have hasked := (d.resolve_isOfRequest catalog id context.actor c.now).of_error why hb
    rw [create_of_resolve_error (c.attempt_of_fault_none reads _) hb] at h
    cases h
    exact absurd rfl (hasked.ne_conflict clashes)
  | ok b =>
    use b, rfl
    have hlook := EventDraft.lookUp_of_resolve reads hb
    apply (create_refusesAs_of_lookUp (P := fun why => ∀ cs, why = .conflict cs →
      cs = r.clashes catalog b.resource b.event.interval none)
      r c catalog context id hlook _ _).of_error _ h clashes rfl
    · rintro cs ⟨⟩
      rfl
    · rintro cs ⟨⟩

/-- Where nothing fails, a patch that meets a conflict has found its event open and was completed to
a booking, and what is reported stands in the way of this. -/
theorem of_patch_conflict (reads : c.fault = none)
    (h : (r.patch c catalog context id p tokens).1 = .error (.refused (.conflict clashes))) :
  ∃ e b, p.check = .ok () ∧ r.event? id = some e ∧ e.archivedAt = none
    ∧ p.resolve catalog e = .ok b
    ∧ clashes = r.clashes catalog b.resource b.event.interval (some id)
  := by
  cases hp : p.check with
  | error why =>
    have hasked := p.check_isOfRequest.of_error why hp
    simp only [patch, hp, Except.error.injEq, Failure.refused.injEq] at h
    exact absurd h (hasked.ne_conflict clashes)
  | ok _ =>
    cases hl : r.lockOpen c id with
    | error f =>
      have hexpected : f.IsExpected True := (lockOpen_isExpected reads).of_error f hl
      rw [patch_of_lockOpen_error hp hl, Failure.reported_of_isExpected hexpected] at h
      cases h
      have hopen := (r.lockOpen_refusesAs (P := fun why => why ≠ .conflict clashes) c id
        (by simp) (by simp)).of_error _ hl
      exact absurd rfl hopen
    | ok e =>
      obtain ⟨-, found, isOpen⟩ := lockOpen_eq_ok_iff.mp hl
      cases hb : p.resolve catalog e with
      | error why =>
        have hasked := (p.resolve_isOfRequest catalog e).of_error why hb
        rw [patch_of_resolve_error hp hl (c.attempt_of_fault_none reads _) hb] at h
        cases h
        exact absurd rfl (hasked.ne_conflict clashes)
      | ok b =>
        refine ⟨e, b, rfl, found, isOpen, hb, ?_⟩
        have hlook := EventPatch.lookUp_of_resolve reads hb
        apply (patch_refusesAs_of_lookUp (P := fun why => ∀ cs, why = .conflict cs →
          cs = r.clashes catalog b.resource b.event.interval (some id))
          r c catalog context id p tokens hp hl hlook _ _ _).of_error _ h clashes rfl
        · rintro cs ⟨⟩
          rfl
        · rintro cs ⟨⟩
        · rintro _ cs ⟨⟩

end Records

/-! ### Statements that lose a race -/

/-- The statement by which the request books a resource, if it does. -/
def Request.booking? : Request → Option Statement
  | .create .. => some .eventInsert
  | .patch .. => some .eventUpdate
  | _ => none

/-- Whether the request is to change an event that was last changed at the last instant of the year
9999. -/
def State.RunsOut (s : State) : Request → Prop
  | .patch id _ _ => ∃ e ∈ s.records.event? id, e.updatedAt.succ? = none
  | _ => False

instance (s : State) : (request : Request) → Decidable (s.RunsOut request)
  | .patch id _ _ =>
    inferInstanceAs (Decidable (∃ e ∈ s.records.event? id, e.updatedAt.succ? = none))
  | .create .. | .archive .. | .comment .. | .upload .. | .detail .. | .list .. | .resources ..
  | .document .. | .clashes .. => inferInstanceAs (Decidable False)

/-- The conditions under which no conflict is found before the statement, and the storage refuses
this with a report of a violation. -/
def Conditions.raced (c : Conditions) (statement : Statement) (v : Violation) : Conditions :=
  { c with
    skipsCheck := true
    fault := some (statement, .violation v) }

/-- The step as it goes if the storage refuses the statement. -/
def Step.raced (x : Step) (statement : Statement) (v : Violation) : Step :=
  { x with conditions := x.conditions.raced statement v }

/-- Where the storage refuses one statement, others go through. -/
theorem Conditions.attempt_raced {c : Conditions} {t t' : Statement} {v : Violation} (h : t ≠ t') :
  (c.raced t v).attempt t' = .ok ()
  := if_neg h

theorem Failure.reported_of_overlap {v : Violation} (overlap : v.code = some Violation.overlapCode)
    (clashes : List Clash) :
  (violated v).reported (.ok clashes) = refused (.conflict clashes)
  := by
  simp [reported, ofViolation, Violation.meaning?, overlap]

theorem Event.nextStamp_of_last {e : Event} (last : e.updatedAt.succ? = none) (now : Instant) :
  e.nextStamp now = .error .outOfRange
  := by
  simp [nextStamp, Instant.next?, last]

theorem Event.exists_nextStamp {e : Event} (last : e.updatedAt.succ? ≠ none) (now : Instant) :
  ∃ stamp, e.nextStamp now = .ok stamp
  := by
  obtain ⟨floor, hfloor⟩ := Option.ne_none_iff_exists'.mp last
  simp [nextStamp, Instant.next?, hfloor]

namespace Records

variable {r : Records} {c : Conditions} {catalog : Catalog} {context : Audit.Context}
  {id : String} {b : Booking} {v : Violation}

theorem requireFree_raced {t : Statement} {resource : Resource} {span : Interval}
    {allowOverlap : Bool} {exclude : Option String} :
  r.requireFree (c.raced t v) catalog resource span allowOverlap exclude = .ok ()
  := requireFree_eq_ok_iff.mpr (.inl (.inl rfl))

theorem findClashes_raced {t : Statement} {resource : Resource} {span : Interval}
    {exclude : Option String} (h : t ≠ .eventSelect) :
  r.findClashes ((c.raced t v).during .report) catalog resource span exclude
    = .ok (r.clashes catalog resource span exclude)
  := findClashes_eq_ok_iff.mpr ⟨Conditions.attempt_during .report (Conditions.attempt_raced h), rfl⟩

variable (overlap : v.code = some Violation.overlapCode)

include overlap in
/-- Where the storage refuses the booking of a draft for an overlap, the answer is a conflict with
the events in its way. -/
theorem create_raced {d : EventDraft}
    (resolved : d.resolve catalog id context.actor c.now = .ok b) :
  r.create (c.raced .eventInsert v) catalog context id d
    = (.error (.refused (.conflict (r.clashes catalog b.resource b.event.interval none))), r)
  := by
  have hwrite : r.writeCreated (c.raced .eventInsert v) catalog context b
      = .error (.violated v) := by
    rw [writeCreated, requireFree_raced]
    rfl
  have hlook : d.lookUp (c.raced .eventInsert v) catalog id context.actor = .ok b :=
    EventDraft.lookUp_eq_ok_iff.mpr ⟨Conditions.attempt_raced (by simp), resolved⟩
  rw [create_of_writeCreated_error hlook hwrite, findClashes_raced (by simp),
    Failure.reported_of_overlap overlap]

include overlap in
/-- Where the storage refuses the booking of a patch for an overlap, the answer is a conflict with
the events in its way, unless the calendar has no stamp for the change. -/
theorem patch_raced {p : EventPatch} {tokens : Event.Tokens} {e : Event}
    (checked : p.check = .ok ()) (found : r.event? id = some e) (isOpen : e.archivedAt = none)
    (resolved : p.resolve catalog e = .ok b) :
  r.patch (c.raced .eventUpdate v) catalog context id p tokens
    = (.error (if e.updatedAt.succ? = none then .outOfRange else
        .refused (.conflict (r.clashes catalog b.resource b.event.interval (some id)))), r)
  := by
  have hreads : (c.raced .eventUpdate v).attempt .eventSelect = .ok () :=
    Conditions.attempt_raced (by simp)
  have opened : r.lockOpen (c.raced .eventUpdate v) id = .ok e :=
    lockOpen_eq_ok_iff.mpr ⟨Conditions.attempt_during .lock hreads, found, isOpen⟩
  have hlook : p.lookUp (c.raced .eventUpdate v) catalog e = .ok b :=
    EventPatch.lookUp_eq_ok_iff.mpr ⟨fun _ => Conditions.attempt_raced (by simp), resolved⟩
  have hwrite : r.writePatched (c.raced .eventUpdate v) catalog context p tokens e b
      = e.nextStamp c.now >>= fun _ => .error (.violated v) := by
    rw [writePatched, requireFree_raced]
    rfl
  split
  · rename_i last
    rw [e.nextStamp_of_last last] at hwrite
    rw [patch_of_writePatched_error checked opened hlook hwrite]
    rfl
  · rename_i last
    obtain ⟨stamp, hstamp⟩ := e.exists_nextStamp last c.now
    rw [hstamp] at hwrite
    rw [patch_of_writePatched_error checked opened hlook hwrite, findClashes_raced (by simp),
      Failure.reported_of_overlap overlap]

end Records

/-! ### Races -/

namespace State

variable {s : State} {x : Step} {statement : Statement}

/-- Where a request that books a resource is refused, it leaves the state alone. -/
theorem after_of_refused {why : Refusal} (books : x.request.booking? = some statement)
    (h : s.answer x = .error (.refused why)) :
  s.after x = s
  := by
  obtain ⟨c, context, request⟩ := x
  have hreload : ∀ r : Records, ∀ id, r.reload c s.catalog id ≠ .error (.refused why) :=
    fun r id => (r.reload_refusesAs (P := fun _ => False) c s.catalog id).of_error _
  cases request with
  | create id d =>
    rcases s.records.create_cases c context id s.catalog d with ⟨f, hf⟩ | ⟨b, r', -, -, hcreate⟩
    · simp only [after, perform, withRecords, hf]
    · simp only [answer, perform, withRecords, hcreate, map_eq_error_iff] at h
      exact absurd h (hreload _ _)
  | patch id p tokens =>
    rcases s.records.patch_cases c context id s.catalog p tokens with
      ⟨f, hf⟩ | ⟨e, b, r', -, -, -, -, hpatch⟩
    · simp only [after, perform, withRecords, hf]
    · simp only [answer, perform, withRecords, hpatch, map_eq_error_iff] at h
      exact absurd h (hreload _ _)
  | _ => cases books

/-- A request that would be refused for a conflict, but loses a race instead, is answered with the
same conflict, unless the calendar has no stamp for its change. -/
theorem perform_raced {v : Violation} {clashes : List Clash}
    (books : x.request.booking? = some statement) (reads : x.conditions.fault = none)
    (overlap : v.code = some Violation.overlapCode)
    (refused : s.answer x = .error (.refused (.conflict clashes))) :
  s.perform (x.conditions.raced statement v) x.context x.request
    = (.error (if s.RunsOut x.request then .outOfRange else .refused (.conflict clashes)), s)
  := by
  obtain ⟨c, context, request⟩ := x
  cases request with
  | create id d =>
    cases books
    obtain ⟨b, resolved, rfl⟩ := Records.of_create_conflict reads (map_eq_error_iff.mp refused)
    simp only [perform, withRecords, Records.create_raced overlap resolved]
    rfl
  | patch id p tokens =>
    cases books
    obtain ⟨e, b, checked, found, isOpen, resolved, rfl⟩ :=
      Records.of_patch_conflict reads (map_eq_error_iff.mp refused)
    have hlast : s.RunsOut (.patch id p tokens) ↔ e.updatedAt.succ? = none := by
      simp [RunsOut, found]
    simp only [perform, withRecords,
      Records.patch_raced (c := c) overlap checked found isOpen resolved, hlast]
    rfl
  | _ => cases books

/-- A race that the storage decides is answered like a conflict that is found before.  Let a request
to create or to patch an event be refused for a conflict, where nothing fails.  If the same request
finds no conflict, but the storage refuses its statement with the code of an overlap, then it fails
in the same way, with the same events in its way.  Both leave the state alone, and a patch of an
event whose id is not empty does not report the event itself.  The one exception is a patch of an
event that was last changed at the last instant of the calendar: it fails for want of a stamp, and
leaves the state alone all the same. -/
theorem race_is_answered_alike {v : Violation} {clashes : List Clash}
    (books : x.request.booking? = some statement) (reads : x.conditions.fault = none)
    (overlap : v.code = some Violation.overlapCode)
    (refused : s.answer x = .error (.refused (.conflict clashes))) :
  s.after x = s ∧ s.after (x.raced statement v) = s
    ∧ (s.answer (x.raced statement v) = s.answer x ↔ ¬ s.RunsOut x.request)
    ∧ (s.RunsOut x.request → s.answer (x.raced statement v) = .error .outOfRange)
    ∧ ∀ id p tokens, x.request = .patch id p tokens → id ≠ "" → ∀ k ∈ clashes, k.eventId ≠ id
  := by
  have hraced := perform_raced books reads overlap refused
  have hanswer : s.answer (x.raced statement v) = .error
      (if s.RunsOut x.request then .outOfRange else .refused (.conflict clashes)) :=
    congrArg Prod.fst hraced
  refine ⟨after_of_refused books refused, congrArg Prod.snd hraced, ?_, ?_, ?_⟩
  · rw [hanswer, refused]
    split <;> simp_all
  · intro last
    rw [hanswer, if_pos last]
  · intro id p tokens patches named k hk
    rw [answer, patches] at refused
    obtain ⟨e, b, -, -, -, -, rfl⟩ := Records.of_patch_conflict reads (map_eq_error_iff.mp refused)
    apply Records.eventId_ne_of_mem_clashes (.inl named) k hk

end State

namespace Sample

/-- The lathe is booked twice, and the first booking was last changed when the calendar ends. -/
def late : State :=
  { state with
    records :=
      { events :=
          [ { event "first" 8 10 with updatedAt := ⟨315537897599999999, by decide⟩ },
            event "second" 12 14 ] } }

/-- One of the bookings is to be moved into the other. -/
def moveInto (id : String) (start stop : Nat) : Step :=
  step 1 (.patch id (shift start stop) {})

end Sample

/-- Someone else moves a booking at the same time.  The patch of the second booking is answered as
if it had found this out itself, and that of the first booking is not. -/
theorem State.races_of_late :
  Sample.late.answer ((Sample.moveInto "second" 9 11).raced .eventUpdate ⟨some "23P01", none, ""⟩)
      = Sample.late.answer (Sample.moveInto "second" 9 11)
    ∧ Sample.late.answer
        ((Sample.moveInto "first" 9 13).raced .eventUpdate ⟨some "", some "23P01", ""⟩)
      = .error .outOfRange
  := by
  have second : Sample.late.answer (Sample.moveInto "second" 9 11)
      = .error (.refused (.conflict
        [⟨"first", Sample.hour 8, Sample.hour 10, "Shaft", none⟩])) := by
    decide +kernel
  have first : Sample.late.answer (Sample.moveInto "first" 9 13)
      = .error (.refused (.conflict
        [⟨"second", Sample.hour 12, Sample.hour 14, "Shaft", none⟩])) := by
    decide +kernel
  obtain ⟨-, -, halike, -⟩ := race_is_answered_alike (v := ⟨some "23P01", none, ""⟩)
    rfl rfl (by decide) second
  obtain ⟨-, -, -, hlast, -⟩ := race_is_answered_alike (v := ⟨some "", some "23P01", ""⟩)
    rfl rfl (by decide) first
  exact ⟨halike.mpr (by decide), hlast (by decide)⟩

end Workshop
