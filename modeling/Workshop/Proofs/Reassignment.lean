import Workshop.Proofs.Patchable

/-!
# Which resource a patch chooses

A patch that sets a resource chooses it from what the event asks for in the end and from the
operation that the patch itself names: `EventPatch.chosen`.  `EventPatch.rechosen` is the choice
from the operation that the event has in the end, whether the patch names it or not.  The two come
to the same, unless the event keeps an operation that offers a resource and asks for none any more:
`State.decides_rechosen_iff`.
-/

namespace Workshop

/-! ### Choices -/

/-- Whether the operation offers a resource. -/
def OperationDefaults.Offers (op : OperationDefaults) : Prop :=
  given op.workstationId ≠ none ∨ given op.machineId ≠ none

namespace Resource

variable {machineId workstationId : Option String}

/-- A choice, with the code of the refusal that a problem leads to. -/
def decision (choice : Except Problem Resource) : Except String Resource :=
  choice.mapError fun problem => (Refusal.noResource problem).code

theorem exists_ofOperation_iff {op : OperationDefaults} :
  (∃ resource, ofOperation op = .ok resource) ↔ op.Offers
  := by
  simp only [ofOperation, OperationDefaults.Offers]
  cases given op.workstationId <;> cases given op.machineId <;> simp

theorem ofOperation_eq_error {op : OperationDefaults} {problem : Problem}
    (h : ofOperation op = .error problem) :
  problem = .unassigned
  := by
  simp only [ofOperation] at h
  split at h
  · cases h
  · split at h
    · cases h
    · cases h
      rfl

/-- Where a resource is asked for, it does not matter what the operation offers. -/
theorem resolve_of_asked {operation operation' : Option OperationDefaults}
    (asked : ¬ (given machineId = none ∧ given workstationId = none)) :
  resolve machineId workstationId operation = resolve machineId workstationId operation'
  := by
  cases hm : given machineId <;> cases hw : given workstationId <;> simp_all [resolve]

/-- Where no resource is asked for, there is one only if there is an operation that offers one; and
whether there is no operation or one that offers nothing, the code is the same. -/
theorem decision_of_unasked {operation : Option OperationDefaults}
    (unasked : given machineId = none ∧ given workstationId = none) :
  decision (resolve machineId workstationId operation) = .error "MISSING_RESOURCE"
    ↔ ∀ op ∈ operation, ¬ op.Offers
  := by
  simp only [resolve, unasked]
  cases operation with
  | none => simp [decision, Except.mapError, Refusal.code]
  | some op =>
    simp only [Option.mem_some, forall_eq', ← exists_ofOperation_iff]
    cases h : ofOperation op with
    | ok resource => simp [decision, Except.mapError]
    | error problem =>
      rw [ofOperation_eq_error h]
      simp [decision, Except.mapError, Refusal.code]

end Resource

namespace EventPatch

variable {p : EventPatch} {catalog : Catalog} {e : Event}

/-- The resource of the event as the patch would have it, chosen with the operation that the patch
names. -/
def chosen (p : EventPatch) (catalog : Catalog) (e : Event) : Except Resource.Problem Resource :=
  Resource.resolve (p.machineId.getD e.machineId) (p.workstationId.getD e.workstationId)
    (catalog.linked? p.operationId.join)

/-- The resource of the event as the patch would have it, chosen with the operation that the event
would have. -/
def rechosen (p : EventPatch) (catalog : Catalog) (e : Event) : Except Resource.Problem Resource :=
  Resource.resolve (p.machineId.getD e.machineId) (p.workstationId.getD e.workstationId)
    (catalog.linked? (p.operationId.getD e.operationId))

/-- Whether the event keeps an operation that offers a resource, but asks for none in the end. -/
structure Forgets (p : EventPatch) (catalog : Catalog) (e : Event) : Prop where
  kept : p.operationId = none
  unasked : given (p.machineId.getD e.machineId) = none
    ∧ given (p.workstationId.getD e.workstationId) = none
  offered : ∃ op, catalog.linked? e.operationId = some op ∧ op.Offers

/-- A patch that forgets the operation of the event chooses no resource, though there is one. -/
theorem Forgets.choices (h : p.Forgets catalog e) :
  p.chosen catalog e = .error .missing ∧ ∃ resource, p.rechosen catalog e = .ok resource
  := by
  obtain ⟨kept, unasked, op, hlinked, hoffers⟩ := h
  simp only [chosen, rechosen, Resource.resolve, unasked, kept, Option.getD_none, hlinked]
  exact ⟨rfl, Resource.exists_ofOperation_iff.mpr hoffers⟩

theorem Suits.chosen_eq {resource : Resource} (h : p.Suits catalog e resource) :
  p.chosen catalog e = .ok resource
  := Resource.resolve_eq_ok_iff.mpr ⟨h.single, h.chosen⟩

/-- The two choices have the same outcome, unless the patch forgets the operation of the event. -/
theorem decision_chosen_eq_iff :
  Resource.decision (p.chosen catalog e) = Resource.decision (p.rechosen catalog e)
    ↔ ¬ p.Forgets catalog e
  := by
  cases hsent : p.operationId with
  | some operationId =>
    have hnot : ¬ p.Forgets catalog e := by
      intro h
      rw [h.kept] at hsent
      cases hsent
    simp only [hnot, not_false_eq_true, iff_true, chosen, rechosen, hsent]
    rfl
  | none =>
    by_cases unasked : given (p.machineId.getD e.machineId) = none
        ∧ given (p.workstationId.getD e.workstationId) = none
    · have hchosen : Resource.decision (p.chosen catalog e) = .error "MISSING_RESOURCE" := by
        apply (Resource.decision_of_unasked unasked).mpr
        simp [hsent, Catalog.linked?, given]
      rw [hchosen, eq_comm, rechosen, Resource.decision_of_unasked unasked, hsent]
      constructor
      · rintro hnone ⟨-, -, op, hlinked, hoffers⟩
        apply hnone op hlinked hoffers
      · intro hnot op hlinked hoffers
        exact hnot ⟨hsent, unasked, op, hlinked, hoffers⟩
    · have hnot : ¬ p.Forgets catalog e := fun h => unasked h.unasked
      simp only [hnot, not_false_eq_true, iff_true, chosen, rechosen]
      rw [Resource.resolve_of_asked unasked]

/-- A patch that asks for two resources at once is refused by the checks that it has by itself, as
it would be by the choice. -/
theorem check_of_both (h : given p.machineId.join ≠ none ∧ given p.workstationId.join ≠ none) :
  p.check = .error (.noResource .ambiguous) ∧ p.chosen catalog e = .error .ambiguous
  := by
  obtain ⟨hm, hw⟩ := h
  have hm' : given (p.machineId.getD e.machineId) ≠ none := fun hnone => hm (given_getD_join hnone)
  have hw' : given (p.workstationId.getD e.workstationId) ≠ none :=
    fun hnone => hw (given_getD_join hnone)
  rw [Option.ne_none_iff_exists'] at hm hw hm' hw'
  obtain ⟨⟨m, hm⟩, ⟨w, hw⟩, ⟨m', hm'⟩, ⟨w', hw'⟩⟩ := And.intro hm (And.intro hw (And.intro hm' hw'))
  constructor
  · simp [check, requireOneResource, hm, hw, bind, Except.bind]
  · simp [chosen, Resource.resolve, hm', hw']

theorem check_of_one (proper : p.start.getD e.start < p.stop.getD e.stop)
    (one : ¬ (given p.machineId.join ≠ none ∧ given p.workstationId.join ≠ none)) :
  p.check = .ok ()
  := by
  apply check_eq_ok_iff.mpr ⟨by tauto, _⟩
  intro start hstart stop hstop
  rw [hstart, hstop] at proper
  apply proper

/-- A patch for which a resource is chosen passes the checks that it has by itself. -/
theorem check_of_chosen_ok {resource : Resource}
    (proper : p.start.getD e.start < p.stop.getD e.stop) (h : p.chosen catalog e = .ok resource) :
  p.check = .ok ()
  := by
  apply check_of_one proper
  intro hboth
  rw [(check_of_both hboth).2] at h
  cases h

theorem resolve_of_chosen
    (operation : ∀ i ∈ given p.operationId.join, ∃ op, catalog.operation? i = some op
      ∧ ∀ n ∈ p.orderId.getD e.orderId, op.orderId = n)
    (proper : p.start.getD e.start < p.stop.getD e.stop) :
  p.resolve catalog e = ((p.chosen catalog e).mapError .noResource >>= fun resource => do
    if p.setsResource then catalog.requireResource resource
    return ⟨resource, p.completed e resource⟩)
  := by
  obtain ⟨hop, horder⟩ := Catalog.requireOperation_and_requireOrder_iff.mpr ⟨operation, rfl⟩
  have hproper : (p.merge e).interval.requireProper = .ok () :=
    Interval.requireProper_eq_ok_iff.mpr proper
  have horder' : OperationDefaults.requireOrder (catalog.linked? p.operationId.join)
      (p.merge e).orderId = .ok () := horder
  simp only [resolve, hop, hproper, horder', bind, Except.bind]
  rfl

end EventPatch

namespace Records

variable {r : Records} {c : Conditions} {catalog : Catalog} {context : Audit.Context}
  {id : String} {p : EventPatch} {tokens : Event.Tokens} {e : Event} {resource : Resource}
  {problem : Resource.Problem}
  (operation : ∀ i ∈ given p.operationId.join, ∃ op, catalog.operation? i = some op
    ∧ ∀ n ∈ p.orderId.getD e.orderId, op.orderId = n)
  (proper : p.start.getD e.start < p.stop.getD e.stop) (opened : r.lockOpen c id = .ok e)
  (consults : c.attempt .catalogSelect = .ok ())

include operation proper opened consults

theorem patch_of_chosen_error (h : p.chosen catalog e = .error problem) :
  r.patch c catalog context id p tokens = (.error (.refused (.noResource problem)), r)
  := by
  by_cases hboth : given p.machineId.join ≠ none ∧ given p.workstationId.join ≠ none
  · obtain ⟨hcheck, hchosen⟩ := EventPatch.check_of_both hboth
    rw [hchosen] at h
    cases h
    simp only [patch, hcheck]
  · have hcheck := EventPatch.check_of_one proper hboth
    have hresolve : p.resolve catalog e = .error (.noResource problem) := by
      rw [EventPatch.resolve_of_chosen operation proper, h]
      rfl
    apply patch_of_resolve_error hcheck opened consults hresolve

theorem patch_of_unlisted (sets : p.setsResource = true)
    (h : p.chosen catalog e = .ok resource) (unlisted : resource.isListed catalog = false) :
  r.patch c catalog context id p tokens = (.error (.refused (.resourceNotFound resource)), r)
  := by
  have hcheck := EventPatch.check_of_chosen_ok proper h
  have hresolve : p.resolve catalog e = .error (.resourceNotFound resource) := by
    rw [EventPatch.resolve_of_chosen operation proper, h]
    simp [sets, Catalog.requireResource, unlisted, Except.mapError, bind, Except.bind]
  apply patch_of_resolve_error hcheck opened consults hresolve

theorem patch_refusesAs_of_listed (h : p.chosen catalog e = .ok resource)
    (listed : resource.isListed catalog = true) :
  FailsAs (Failure.RefusesAs fun why =>
      why.code ∉ ["INVALID_RESOURCE", "MISSING_RESOURCE", "RESOURCE_NOT_FOUND"])
    (r.patch c catalog context id p tokens).1
  := by
  have hcheck := EventPatch.check_of_chosen_ok proper h
  have hresolve : p.resolve catalog e = .ok ⟨resource, p.completed e resource⟩ := by
    rw [EventPatch.resolve_of_chosen operation proper, h]
    simp [Catalog.requireResource, listed, Except.mapError, bind, Except.bind, pure, Except.pure]
  have hlook := EventPatch.lookUp_eq_ok_iff.mpr ⟨fun _ => consults, hresolve⟩
  apply patch_refusesAs_of_lookUp r c catalog context id p tokens hcheck opened hlook
  · simp [Refusal.code]
  · simp [Refusal.code]
  · simp [Refusal.code]

end Records

/-! ### Decisions -/

/-- Whether the step, which patches the event with the given id, decides like this on its resource:
an error is the code with which it is refused; and a resource is looked up in the catalog, is not
refused if it is there, and is booked if the patch is carried out. -/
structure State.Decides (s : State) (x : Step) (id : String)
    (decision : Except String Resource) : Prop where
  refused : ∀ code, decision = .error code →
    ∃ why, s.answer x = .error (.refused why) ∧ why.code = code
  unlisted : ∀ resource, decision = .ok resource → ¬ resource.IsReal s.catalog →
    s.answer x = .error (.refused (.resourceNotFound resource))
  listed : ∀ resource why, decision = .ok resource → resource.IsReal s.catalog →
    s.answer x = .error (.refused why) →
    why.code ∉ ["INVALID_RESOURCE", "MISSING_RESOURCE", "RESOURCE_NOT_FOUND"]
  booked : ∀ resource a, decision = .ok resource → s.answer x = .ok a →
    ∃ e, a = .event (s.catalog.view e) ∧ (s.after x).records.event? id = some e
      ∧ e.Books resource

namespace State

variable {s : State} {x : Step} {id : String} {p : EventPatch} {tokens : Event.Tokens} {e : Event}

section

variable (asked : x.request = .patch id p tokens)
  (reads : x.conditions.attempt .eventSelect = .ok ())
  (consults : x.conditions.attempt .catalogSelect = .ok ())
  (found : s.records.event? id = some e) (isOpen : e.archivedAt = none)
  (operation : ∀ i ∈ given p.operationId.join, ∃ op, s.catalog.operation? i = some op
    ∧ ∀ n ∈ p.orderId.getD e.orderId, op.orderId = n)
  (proper : p.start.getD e.start < p.stop.getD e.stop)

include asked reads consults found isOpen operation proper

theorem answer_of_chosen_error {problem : Resource.Problem}
    (h : p.chosen s.catalog e = .error problem) :
  s.answer x = .error (.refused (.noResource problem))
  := by
  obtain ⟨c, context, request⟩ := x
  subst asked
  have opened := Records.lockOpen_eq_ok_iff.mpr
    ⟨Conditions.attempt_during .lock reads, found, isOpen⟩
  simp only [answer, perform, withRecords,
    Records.patch_of_chosen_error operation proper opened consults h]
  rfl

theorem decides_chosen (sets : p.machineId ≠ none ∨ p.workstationId ≠ none) :
  s.Decides x id (Resource.decision (p.chosen s.catalog e))
  := by
  cases hchosen : p.chosen s.catalog e with
  | error problem =>
    constructor
    · rintro code ⟨⟩
      use .noResource problem
      use answer_of_chosen_error asked reads consults found isOpen operation proper hchosen
    · rintro resource ⟨⟩
    · rintro resource why ⟨⟩
    · rintro resource a ⟨⟩
  | ok resource =>
    obtain ⟨c, context, request⟩ := x
    subst asked
    have opened := Records.lockOpen_eq_ok_iff.mpr
      ⟨Conditions.attempt_during .lock reads, found, isOpen⟩
    have hsets := EventPatch.setsResource_iff.mpr sets
    constructor
    · rintro code ⟨⟩
    · rintro resource ⟨⟩ unreal
      rw [← Resource.isListed_iff, Bool.not_eq_true] at unreal
      simp only [answer, perform, withRecords,
        Records.patch_of_unlisted operation proper opened consults hsets hchosen unreal]
      rfl
    · rintro resource why ⟨⟩ real hanswer
      have hrefuses := @Records.patch_refusesAs_of_listed s.records c s.catalog context id p tokens
        e resource operation proper opened consults hchosen (Resource.isListed_iff.mpr real)
      apply hrefuses.of_error _ (map_eq_error_iff.mp hanswer)
    · rintro resource a ⟨⟩ hanswer
      obtain ⟨v, hv, rfl⟩ := map_eq_ok_iff.mp hanswer
      obtain ⟨e', b, stamp, found', -, -, hb, -, -, rfl, hafter⟩ := Records.of_patch_ok hv
      obtain rfl : e' = e := by simpa [found] using found'.symm
      have hbooked := (EventPatch.resolve_eq_ok_iff.mp hb).1.chosen_eq
      rw [hchosen] at hbooked
      cases hbooked
      refine ⟨_, rfl, ?_, EventPatch.books_apply_of_sets hb hsets context.actor stamp⟩
      simp only [after, perform, withRecords, hafter, Records.event?_audited]
      apply Records.event?_replaceEvent_of_found found
      apply EventPatch.id_apply hb

end

/-- A patch that sets a resource chooses it from what the event asks for in the end and from the
operation that the event has in the end, exactly unless it forgets this operation.  This holds of
any open event, if events and the catalog can be read, if the operation that the patch names exists
and belongs to the order, and if the interval is proper.  If the patch forgets the operation, it is
refused as if there were none, though there is a resource. -/
theorem decides_rechosen_iff (asked : x.request = .patch id p tokens)
    (reads : x.conditions.attempt .eventSelect = .ok ())
    (consults : x.conditions.attempt .catalogSelect = .ok ())
    (found : s.records.event? id = some e) (isOpen : e.archivedAt = none)
    (sets : p.machineId ≠ none ∨ p.workstationId ≠ none)
    (operation : ∀ i ∈ given p.operationId.join, ∃ op, s.catalog.operation? i = some op
      ∧ ∀ n ∈ p.orderId.getD e.orderId, op.orderId = n)
    (proper : p.start.getD e.start < p.stop.getD e.stop) :
  (s.Decides x id (Resource.decision (p.rechosen s.catalog e)) ↔ ¬ p.Forgets s.catalog e)
    ∧ (p.Forgets s.catalog e → s.answer x = .error (.refused (.noResource .missing))
      ∧ ∃ resource, p.rechosen s.catalog e = .ok resource)
  := by
  have hforgotten : p.Forgets s.catalog e →
      s.answer x = .error (.refused (.noResource .missing))
        ∧ ∃ resource, p.rechosen s.catalog e = .ok resource := by
    intro hforgets
    obtain ⟨hchosen, hrechosen⟩ := hforgets.choices
    have hanswer :=
      answer_of_chosen_error asked reads consults found isOpen operation proper hchosen
    exact ⟨hanswer, hrechosen⟩
  refine ⟨⟨?_, ?_⟩, hforgotten⟩
  · intro hdecides hforgets
    obtain ⟨hanswer, resource, hrechosen⟩ := hforgotten hforgets
    rw [hrechosen] at hdecides
    by_cases real : resource.IsReal s.catalog
    · apply hdecides.listed resource _ rfl real hanswer
      decide
    · rw [hdecides.unlisted resource rfl real] at hanswer
      cases hanswer
  · intro hnot
    rw [← EventPatch.decision_chosen_eq_iff.mpr hnot]
    apply decides_chosen asked reads consults found isOpen operation proper sets

end State

namespace Sample

/-- An operation is planned, and takes place on the lathe. -/
def planning : Step :=
  step 1 (.create "first" { draft 8 12 with machineId := none, operationId := some "turn" })

/-- The event of the operation. -/
def planned : Event :=
  { event "first" 8 12 with
    orderId := some 1
    operationId := some "turn"
    title := "P10 - Shaft"
    createdAt := hour 1
    createdBy := some "user"
    updatedAt := hour 1
    updatedBy := some "user" }

/-- The event is to take place where its operation does. -/
def releasing : Step :=
  step 2 (.patch "first" { machineId := some none } {})

end Sample

/-- The operation offers the lathe, but the patch is refused. -/
theorem State.forgets_releasing :
  EventPatch.rechosen { machineId := some none } Sample.catalog Sample.planned = .ok Sample.lathe
    ∧ ¬ (Sample.state.run [Sample.planning]).Decides Sample.releasing "first" (.ok Sample.lathe)
    ∧ (Sample.state.run [Sample.planning]).answer Sample.releasing
      = .error (.refused (.noResource .missing))
  := by
  have found : (Sample.state.run [Sample.planning]).records.event? "first"
      = some Sample.planned := by
    decide +kernel
  have forgets : EventPatch.Forgets { machineId := some none } Sample.catalog Sample.planned :=
    ⟨rfl, ⟨rfl, rfl⟩, _, rfl, .inr (by decide)⟩
  obtain ⟨hdecides, hforgotten⟩ := @decides_rechosen_iff (Sample.state.run [Sample.planning])
    Sample.releasing "first" { machineId := some none } {} Sample.planned rfl rfl rfl found rfl
    (.inl (by decide)) (by decide) (by decide)
  refine ⟨rfl, ?_, (hforgotten forgets).1⟩
  intro hlathe
  apply hdecides.mp hlathe forgets

end Workshop
