import Workshop.Proofs.Change

/-!
# Why drafts and patches are refused

`Records.RefusesPatch` lists the reasons for which a patch can be refused, and
`Records.patch_refuses` says that there are no others.  In particular it is refused as stale only
where it remembers something of the event that does not hold any more, and the event itself is never
reported to be in its own way: `Records.patch_ne_stale`, `Records.ne_of_patch_conflict`.  A draft or
a patch that was completed is refused for a conflict only with the events in the way of its booking:
`Records.create_refusesAs_of_lookUp`, `Records.patch_refusesAs_of_lookUp`.
-/

namespace Workshop

/-! ### Checks of requests -/

/-- Whether the refusal is about what a request asks for, not about the events that there are. -/
def Refusal.IsOfRequest : Refusal → Prop
  | operationNotFound | resourceNotFound _ | noResource _ | emptyInterval | operationMismatch =>
    True
  | _ => False

theorem Refusal.IsOfRequest.ne_conflict {why : Refusal} (asked : why.IsOfRequest)
    (clashes : List Clash) :
  why ≠ .conflict clashes
  := by
  rintro rfl
  exact asked

theorem requireOneResource_isOfRequest (machineId workstationId : Option String) :
  FailsAs Refusal.IsOfRequest (requireOneResource machineId workstationId)
  := by
  apply failsAs_ite _ failsAs_ok
  apply failsAs_error trivial

theorem Interval.requireProper_isOfRequest (i : Interval) :
  FailsAs Refusal.IsOfRequest i.requireProper
  := by
  apply failsAs_ite failsAs_ok
  apply failsAs_error trivial

theorem Catalog.requireOperation_isOfRequest (c : Catalog) (id : Option String) :
  FailsAs Refusal.IsOfRequest (c.requireOperation id)
  := by
  simp only [requireOperation]
  split
  · apply failsAs_ok
  · split
    · apply failsAs_ok
    · apply failsAs_error trivial

theorem Catalog.requireResource_isOfRequest (c : Catalog) (resource : Resource) :
  FailsAs Refusal.IsOfRequest (c.requireResource resource)
  := by
  apply failsAs_ite failsAs_ok
  apply failsAs_error trivial

theorem OperationDefaults.requireOrder_isOfRequest (operation : Option OperationDefaults)
    (orderId : Option Int) :
  FailsAs Refusal.IsOfRequest (requireOrder operation orderId)
  := by
  simp only [requireOrder]
  split
  · apply failsAs_ite failsAs_ok
    apply failsAs_error trivial
  · apply failsAs_ok

/-- The checks of a draft against the catalog refuse it for what it asks for. -/
theorem EventDraft.resolve_isOfRequest (d : EventDraft) (catalog : Catalog) (id actor : String)
    (now : Instant) :
  FailsAs Refusal.IsOfRequest (d.resolve catalog id actor now)
  := by
  apply failsAs_bind (Interval.requireProper_isOfRequest _)
  intro _ _
  apply failsAs_bind (requireOneResource_isOfRequest _ _)
  intro _ _
  apply failsAs_bind (catalog.requireOperation_isOfRequest _)
  intro operation _
  apply failsAs_bind (OperationDefaults.requireOrder_isOfRequest _ _)
  intro _ _
  apply failsAs_bind (failsAs_mapError fun _ _ => trivial)
  intro resource _
  apply failsAs_bind (catalog.requireResource_isOfRequest resource)
  intro _ _
  apply failsAs_ok

namespace EventPatch

/-- The checks of a patch by itself refuse it for what it asks for. -/
theorem check_isOfRequest (p : EventPatch) :
  FailsAs Refusal.IsOfRequest p.check
  := by
  apply failsAs_bind (requireOneResource_isOfRequest _ _)
  intro _ _
  split
  · apply Interval.requireProper_isOfRequest
  · apply failsAs_ok

/-- The checks of a patch against the event and the catalog refuse it for what it asks for. -/
theorem resolve_isOfRequest (p : EventPatch) (catalog : Catalog) (e : Event) :
  FailsAs Refusal.IsOfRequest (p.resolve catalog e)
  := by
  apply failsAs_bind (catalog.requireOperation_isOfRequest _)
  intro operation _
  apply failsAs_bind (Interval.requireProper_isOfRequest _)
  intro _ _
  apply failsAs_bind (OperationDefaults.requireOrder_isOfRequest _ _)
  intro _ _
  apply failsAs_bind (failsAs_mapError fun _ _ => trivial)
  intro resource _
  apply failsAs_ite _ failsAs_ok
  apply failsAs_bind (catalog.requireResource_isOfRequest resource)
  intro _ _
  apply failsAs_ok

end EventPatch

/-! ### Failures that are refusals -/

/-- Whether the failure, if it is a refusal, is one for a reason that satisfies `P`. -/
def Failure.RefusesAs (P : Refusal → Prop) : Failure → Prop
  | refused why => P why
  | _ => True

section

variable {P : Refusal → Prop}

theorem failsAs_refused {α : Type} {why : Refusal} (h : P why) :
  FailsAs (Failure.RefusesAs P) (.error (.refused why) : Except Failure α)
  := failsAs_error h

theorem Conditions.attempt_refusesAs (c : Conditions) (s : Statement) :
  FailsAs (Failure.RefusesAs P) (c.attempt s)
  := by
  simp only [attempt]
  split
  · rename_i t f _
    apply failsAs_ite _ failsAs_ok
    cases f <;> apply failsAs_error trivial
  · apply failsAs_ok

/-- What the catalog is read for is refused only as the catalog has it. -/
theorem Conditions.lookUp_refusesAs {α : Type} (c : Conditions) {check : Except Refusal Unit}
    (reads : Bool) {found : Except Refusal α}
    (h : ∀ why, check = .error why → found = .error why) (hfound : FailsAs P found) :
  FailsAs (Failure.RefusesAs P) (c.lookUp check reads found)
  := by
  apply Conditions.lookUp_failsAs _ (c.attempt_refusesAs _) hfound.of_error
  intro why hwhy
  apply hfound.of_error why (h why hwhy)

theorem requireStorable_refusesAs (n : Option Int) :
  FailsAs (Failure.RefusesAs P) (requireStorable n)
  := by
  apply failsAs_ite failsAs_ok
  apply failsAs_error trivial

theorem requireNone_refusesAs (v : Option Storage.Violation) :
  FailsAs (Failure.RefusesAs P) (requireNone v)
  := by
  cases v with
  | none => apply failsAs_ok
  | some v => apply failsAs_error trivial

theorem Event.nextStamp_refusesAs (e : Event) (now : Instant) :
  FailsAs (Failure.RefusesAs P) (e.nextStamp now)
  := by
  simp only [nextStamp]
  split
  · apply failsAs_ok
  · apply failsAs_error trivial

/-- A failure is reported as it is, or as a conflict with the events in the way, or as a row that
exists. -/
theorem Failure.reported_refusesAs {f : Failure} {clashes : Except Failure (List Clash)}
    (hf : f.RefusesAs P) (hclashes : FailsAs (Failure.RefusesAs P) clashes)
    (conflict : ∀ cs, clashes = .ok cs → P (.conflict cs)) (duplicate : P .recordExists) :
  (f.reported clashes).RefusesAs P
  := by
  simp only [reported]
  split
  · simp only [ofViolation]
    split
    · cases hcs : clashes with
      | ok cs => apply conflict cs hcs
      | error g => apply hclashes.of_error g hcs
    · apply duplicate
    · trivial
  · apply hf

namespace Records

variable (r : Records) (c : Conditions) (catalog : Catalog) (id : String)

theorem lockOpen_refusesAs (missing : P .eventNotFound) (closed : P .archived) :
  FailsAs (Failure.RefusesAs P) (r.lockOpen c id)
  := by
  apply failsAs_bind
  · apply failsAs_bind ((c.during .lock).attempt_refusesAs _)
    intro _ _
    split
    · apply failsAs_ok
    · apply failsAs_refused missing
  · intro e _
    apply failsAs_ite _ failsAs_ok
    apply failsAs_refused closed

theorem findClashes_refusesAs (resource : Resource) (span : Interval) (exclude : Option String) :
  FailsAs (Failure.RefusesAs P) (r.findClashes c catalog resource span exclude)
  := by
  apply failsAs_bind (c.attempt_refusesAs _)
  intro _ _
  apply failsAs_ok

theorem requireFree_refusesAs {resource : Resource} {span : Interval} {exclude : Option String}
    (allowOverlap : Bool) (blocked : P (.conflict (r.clashes catalog resource span exclude))) :
  FailsAs (Failure.RefusesAs P) (r.requireFree c catalog resource span allowOverlap exclude)
  := by
  apply failsAs_ite failsAs_ok
  apply failsAs_bind (r.findClashes_refusesAs (c.during .check) catalog _ _ _)
  intro found hfound
  apply failsAs_ite failsAs_ok
  rw [(findClashes_eq_ok_iff.mp hfound).2]
  apply failsAs_refused blocked

theorem view_refusesAs :
  FailsAs (Failure.RefusesAs P) (r.view c catalog id)
  := by
  apply failsAs_bind (c.attempt_refusesAs _)
  intro _ _
  apply failsAs_bind
  · cases r.event? id with
    | none => apply failsAs_ok
    | some e =>
      apply failsAs_bind
      · apply failsAs_ite failsAs_ok
        apply failsAs_error trivial
      · intro _ _
        apply failsAs_ok
  · intro _ _
    apply failsAs_ok

theorem reload_refusesAs :
  FailsAs (Failure.RefusesAs P) (r.reload c catalog id)
  := by
  apply failsAs_bind (r.view_refusesAs (c.during .reload) catalog id)
  intro found _
  cases found with
  | some v => apply failsAs_ok
  | none => apply failsAs_error trivial

variable (context : Audit.Context) (p : EventPatch) (tokens : Event.Tokens)

theorem insertEvent_refusesAs (e : Event) :
  FailsAs (Failure.RefusesAs P) (r.insertEvent c e)
  := by
  apply failsAs_bind (c.attempt_refusesAs _)
  intro _ _
  apply failsAs_bind (requireStorable_refusesAs _)
  intro _ _
  apply failsAs_bind (requireNone_refusesAs _)
  intro _ _
  apply failsAs_bind
  · apply failsAs_ite _ failsAs_ok
    apply failsAs_error trivial
  · intro _ _
    apply failsAs_ok

theorem conclude_refusesAs (action : Audit.Action) :
  FailsAs (Failure.RefusesAs P) (r.conclude c context id action)
  := by
  apply failsAs_bind (c.attempt_refusesAs _)
  intro _ _
  apply failsAs_bind (c.attempt_refusesAs _)
  intro _ _
  apply failsAs_ok

theorem writeCreated_refusesAs {b : Booking}
    (blocked : P (.conflict (r.clashes catalog b.resource b.event.interval none))) :
  FailsAs (Failure.RefusesAs P) (r.writeCreated c catalog context b)
  := by
  apply failsAs_bind (r.requireFree_refusesAs c catalog _ blocked)
  intro _ _
  apply failsAs_bind (r.insertEvent_refusesAs c b.event)
  intro r' _
  apply conclude_refusesAs

theorem updatePatched_refusesAs {current : Event} (e : Event)
    (stale : ¬ tokens.Fresh current → P .stale) :
  FailsAs (Failure.RefusesAs P) (r.updatePatched c p tokens current e)
  := by
  apply failsAs_bind (c.attempt_refusesAs _)
  intro _ _
  apply failsAs_bind (requireStorable_refusesAs _)
  intro _ _
  apply failsAs_bind (requireStorable_refusesAs _)
  intro _ _
  split
  · apply failsAs_bind (requireNone_refusesAs _)
    intro _ _
    apply failsAs_ok
  · rename_i hold
    apply failsAs_refused (stale hold)

theorem writePatched_refusesAs {current : Event} {b : Booking}
    (blocked : P (.conflict (r.clashes catalog b.resource b.event.interval (some current.id))))
    (stale : ¬ tokens.Fresh current → P .stale) :
  FailsAs (Failure.RefusesAs P) (r.writePatched c catalog context p tokens current b)
  := by
  apply failsAs_bind (r.requireFree_refusesAs c catalog _ blocked)
  intro _ _
  apply failsAs_bind (current.nextStamp_refusesAs c.now)
  intro stamp _
  apply failsAs_bind (r.updatePatched_refusesAs c p tokens _ stale)
  intro _ _
  apply conclude_refusesAs

end Records

end

/-! ### Drafts and patches that are refused -/

/-- `r.RefusesPatch catalog id tokens why` says that a patch of the event with the given id, with
these tokens, may be refused for the reason `why`.  A failing statement may be reported as a row
that exists, or as a conflict with the events in the way, or with none if they are not known yet. -/
inductive Records.RefusesPatch (r : Records) (catalog : Catalog) (id : String)
    (tokens : Event.Tokens) : Refusal → Prop where
  | ofRequest {why : Refusal} (asked : why.IsOfRequest) : RefusesPatch r catalog id tokens why
  | missing : RefusesPatch r catalog id tokens .eventNotFound
  | closed : RefusesPatch r catalog id tokens .archived
  | blocked (resource : Resource) (span : Interval) :
    RefusesPatch r catalog id tokens (.conflict (r.clashes catalog resource span (some id)))
  | unexplained : RefusesPatch r catalog id tokens (.conflict [])
  | duplicate : RefusesPatch r catalog id tokens .recordExists
  | stale {e : Event} (found : r.event? id = some e) (old : ¬ tokens.Fresh e) :
    RefusesPatch r catalog id tokens .stale

namespace Records

variable (r : Records) (c : Conditions) (catalog : Catalog) (context : Audit.Context)
  (id : String) (p : EventPatch) (tokens : Event.Tokens)

/-- A draft that was completed is refused only for a conflict with the events in its way, or for a
row that exists. -/
theorem create_refusesAs_of_lookUp {P : Refusal → Prop} {d : EventDraft} {b : Booking}
    (resolved : d.lookUp c catalog id context.actor = .ok b)
    (blocked : P (.conflict (r.clashes catalog b.resource b.event.interval none)))
    (duplicate : P .recordExists) :
  FailsAs (Failure.RefusesAs P) (r.create c catalog context id d).1
  := by
  cases hw : r.writeCreated c catalog context b with
  | error f =>
    rw [create_of_writeCreated_error resolved hw]
    apply failsAs_error
    apply Failure.reported_refusesAs _
      (r.findClashes_refusesAs (c.during .report) catalog _ _ _) _ duplicate
    · apply (r.writeCreated_refusesAs c catalog context blocked).of_error f hw
    · intro cs hcs
      rw [(findClashes_eq_ok_iff.mp hcs).2]
      apply blocked
  | ok r' =>
    simp only [create, resolved, hw]
    apply reload_refusesAs

/-- A patch that was completed is refused only for a conflict with the events in its way, for a row
that exists, or as stale. -/
theorem patch_refusesAs_of_lookUp {P : Refusal → Prop} {current : Event} {b : Booking}
    (checked : p.check = .ok ()) (opened : r.lockOpen c id = .ok current)
    (resolved : p.lookUp c catalog current = .ok b)
    (blocked : P (.conflict (r.clashes catalog b.resource b.event.interval (some id))))
    (duplicate : P .recordExists) (stale : ¬ tokens.Fresh current → P .stale) :
  FailsAs (Failure.RefusesAs P) (r.patch c catalog context id p tokens).1
  := by
  obtain ⟨-, found, -⟩ := lockOpen_eq_ok_iff.mp opened
  obtain rfl := id_of_event? found
  cases hw : r.writePatched c catalog context p tokens current b with
  | error f =>
    rw [patch_of_writePatched_error checked opened resolved hw]
    apply failsAs_error
    apply Failure.reported_refusesAs _
      (r.findClashes_refusesAs (c.during .report) catalog _ _ _) _ duplicate
    · apply (r.writePatched_refusesAs c catalog context p tokens blocked stale).of_error f hw
    · intro cs hcs
      rw [(findClashes_eq_ok_iff.mp hcs).2]
      apply blocked
  | ok r' =>
    simp only [patch, checked, opened, resolved, hw]
    apply reload_refusesAs

theorem patch_refuses :
  FailsAs (Failure.RefusesAs (r.RefusesPatch catalog id tokens))
    (r.patch c catalog context id p tokens).1
  := by
  cases hp : p.check with
  | error why =>
    simp only [patch, hp]
    apply failsAs_refused (.ofRequest (p.check_isOfRequest.of_error why hp))
  | ok _ =>
    cases hl : r.lockOpen c id with
    | error f =>
      rw [patch_of_lockOpen_error hp hl]
      apply failsAs_error
      apply Failure.reported_refusesAs _ failsAs_ok _ .duplicate
      · apply (r.lockOpen_refusesAs c id .missing .closed).of_error f hl
      · rintro cs ⟨⟩
        apply RefusesPatch.unexplained
    | ok current =>
      obtain ⟨-, found, -⟩ := lockOpen_eq_ok_iff.mp hl
      cases hb : p.lookUp c catalog current with
      | error f =>
        simp only [patch, hp, hl, hb]
        apply failsAs_error
        apply Failure.reported_refusesAs _ failsAs_ok _ .duplicate
        · have hasked : FailsAs (r.RefusesPatch catalog id tokens) (p.resolve catalog current) :=
            (p.resolve_isOfRequest catalog current).mono fun _ => .ofRequest
          apply (c.lookUp_refusesAs p.consults
            (fun _ => EventPatch.resolve_of_checkOn_error) hasked).of_error f hb
        · rintro cs ⟨⟩
          apply RefusesPatch.unexplained
      | ok b =>
        apply r.patch_refusesAs_of_lookUp c catalog context id p tokens hp hl hb _ .duplicate
          (.stale found)
        apply RefusesPatch.blocked

/-- A patch whose tokens still hold of the event is not refused as stale. -/
theorem patch_ne_stale (fresh : ∀ e, r.event? id = some e → tokens.Fresh e) :
  FailsAs (· ≠ .refused .stale) (r.patch c catalog context id p tokens).1
  := by
  constructor
  rintro f hf rfl
  have hstale : r.RefusesPatch catalog id tokens .stale :=
    (r.patch_refuses c catalog context id p tokens).of_error _ hf
  cases hstale with
  | ofRequest asked => cases asked
  | stale found old => exact old (fresh _ found)

variable {r c catalog context id p tokens}

/-- What stands in the way of an event, where this is left out, is not the event itself. -/
theorem eventId_ne_of_mem_clashes {resource : Resource} {span : Interval}
    (named : id ≠ "" ∨ ∀ a ∈ r.events, a.id ≠ id) :
  ∀ k ∈ r.clashes catalog resource span (some id), k.eventId ≠ id
  := by
  intro k hk
  obtain ⟨a, ha, rfl⟩ := List.mem_map.mp hk
  obtain ⟨hmem, -, hleft⟩ := mem_blockers_iff.mp (List.mem_of_mem_take ha)
  rintro rfl
  rcases named with hne | hnone
  · apply hleft (given_eq_some.mpr ⟨rfl, hne⟩)
  · apply hnone a hmem rfl

/-- A patch does not report the event itself to be in its way. -/
theorem ne_of_patch_conflict {clashes : List Clash} (named : ∀ e ∈ r.events, e.id ≠ "")
    (h : (r.patch c catalog context id p tokens).1 = .error (.refused (.conflict clashes))) :
  ∀ k ∈ clashes, k.eventId ≠ id
  := by
  have hconflict : r.RefusesPatch catalog id tokens (.conflict clashes) :=
    (r.patch_refuses c catalog context id p tokens).of_error _ h
  generalize hwhy : Refusal.conflict clashes = why at hconflict
  cases hconflict with
  | ofRequest asked =>
    subst hwhy
    cases asked
  | blocked resource span =>
    cases hwhy
    apply eventId_ne_of_mem_clashes
    by_cases hid : id = ""
    · right
      rw [hid]
      apply named
    · left
      apply hid
  | unexplained =>
    cases hwhy
    simp
  | _ => cases hwhy

end Records

end Workshop
