import Workshop.Proofs.Booked

/-!
# Links to operations

A request that names an operation is refused unless the catalog lists it.  The empty id names none:
it is not looked up, but an event can be left with it all the same.  `State.operation_links_run`
says that this is the only way in which a link to an operation can lead nowhere.
-/

namespace Workshop

/-! ### Operations that are linked -/

/-- Whether the catalog lists an operation under the id. -/
def Catalog.HasOperation (c : Catalog) (id : String) : Prop :=
  ∃ op ∈ c.operations, op.id = id

instance (c : Catalog) (id : String) : Decidable (c.HasOperation id) :=
  inferInstanceAs (Decidable (∃ op ∈ c.operations, op.id = id))

theorem Catalog.operation?_eq_none_iff {c : Catalog} {id : String} :
  c.operation? id = none ↔ ¬ c.HasOperation id
  := by
  simp [operation?, HasOperation]

namespace Records

variable {r : Records} {catalog : Catalog}

/-- Whether the operation of every event, if it has one, is listed in the catalog. -/
def LinksReal (r : Records) (catalog : Catalog) : Prop :=
  ∀ e ∈ r.events, ∀ i ∈ e.operationId, catalog.HasOperation i

instance : Decidable (r.LinksReal catalog) :=
  inferInstanceAs (Decidable (∀ e ∈ r.events, ∀ i ∈ e.operationId, catalog.HasOperation i))

/-- Whether the operation of every event, if it has one whose id is not empty, is listed in the
catalog. -/
def LinksGiven (r : Records) (catalog : Catalog) : Prop :=
  ∀ e ∈ r.events, ∀ i ∈ given e.operationId, catalog.HasOperation i

/-- Whether no event has an operation with an empty id. -/
def LinksNamed (r : Records) : Prop :=
  ∀ e ∈ r.events, e.operationId ≠ some ""

/-- Where no operation of the catalog has an empty id, the links that lead nowhere are those whose
id is empty and those whose id is not. -/
theorem linksReal_iff (named : ¬ catalog.HasOperation "") :
  r.LinksReal catalog ↔ r.LinksGiven catalog ∧ r.LinksNamed
  := by
  constructor
  · intro h
    constructor
    · intro e he i hi
      apply h e he i (given_eq_some.mp hi).1
    · intro e he heq
      apply named (h e he "" heq)
  · rintro ⟨hgiven, hnamed⟩ e he i hi
    apply hgiven e he i
    apply given_eq_some.mpr
    use hi
    rintro rfl
    apply hnamed e he hi

end Records

/-! ### Operations that are looked up -/

theorem Catalog.requireOperation_of_unknown {c : Catalog} {id : Option String} {i : String}
    (asked : given id = some i) (unknown : ¬ c.HasOperation i) :
  c.requireOperation id = .error .operationNotFound
  := by
  simp [requireOperation, asked, operation?_eq_none_iff.mpr unknown]

theorem EventDraft.hasOperation_of_resolve {d : EventDraft} {catalog : Catalog}
    {id actor : String} {now : Instant} {b : Booking}
    (h : d.resolve catalog id actor now = .ok b) :
  ∀ i ∈ given b.event.operationId, catalog.HasOperation i
  := by
  obtain ⟨operation, hop, -, -, -, -, -, hoperation, -⟩ := of_resolve h
  rw [hoperation]
  intro i hi
  by_contra hunknown
  rw [Catalog.requireOperation_of_unknown hi hunknown] at hop
  cases hop

/-- A patch leaves the event with an operation that was looked up, or with the operation that it
had. -/
theorem EventPatch.hasOperation_of_resolve {p : EventPatch} {catalog : Catalog} {e : Event}
    {b : Booking} (h : p.resolve catalog e = .ok b)
    (he : ∀ i ∈ given e.operationId, catalog.HasOperation i) :
  ∀ i ∈ given b.event.operationId, catalog.HasOperation i
  := by
  obtain ⟨operation, hop, -, -, -, hb⟩ := of_resolve h
  rw [hb]
  cases hp : p.operationId with
  | none => simpa [merge, hp] using he
  | some operationId =>
    simp only [merge, hp, Option.getD_some]
    intro i hi
    by_contra hunknown
    rw [hp, Option.join_some, Catalog.requireOperation_of_unknown hi hunknown] at hop
    cases hop

/-- Whether every request for an operation that the catalog does not list is refused for this
reason, unless it is refused before the operation is looked up or a failure is injected. -/
structure State.RefusesUnknown (s : State) : Prop where
  create : ∀ (x : Step) (id : String) (d : EventDraft) (i : String),
    x.conditions.attempt .catalogSelect = .ok () → x.request = .create id d →
    given d.operationId = some i → ¬ s.catalog.HasOperation i → d.start < d.stop →
    given d.machineId = none ∨ given d.workstationId = none →
    s.answer x = .error (.refused .operationNotFound)
  patch : ∀ (x : Step) (id : String) (p : EventPatch) (tokens : Event.Tokens) (e : Event)
    (i : String), x.conditions.fault = none → x.request = .patch id p tokens →
    given p.operationId.join = some i → ¬ s.catalog.HasOperation i → p.check = .ok () →
    s.records.event? id = some e → e.archivedAt = none →
    s.answer x = .error (.refused .operationNotFound)

theorem State.refusesUnknown (s : State) :
  s.RefusesUnknown
  := by
  constructor
  · rintro ⟨c, context, request⟩ id d i reads rfl asked unknown hproper hsingle
    have proper : Interval.requireProper ⟨d.start, d.stop⟩ = .ok () := if_pos hproper
    have hresolve : d.resolve s.catalog id context.actor c.now = .error .operationNotFound := by
      rw [EventDraft.resolve, proper, requireOneResource_eq_ok_iff.mpr hsingle,
        Catalog.requireOperation_of_unknown asked unknown]
      rfl
    simp only [answer, perform, withRecords, Records.create_of_resolve_error reads hresolve]
    rfl
  · rintro ⟨c, context, request⟩ id p tokens e i hc rfl asked unknown hp found isOpen
    have hl : s.records.lockOpen c id = .ok e :=
      Records.lockOpen_eq_ok_iff.mpr ⟨Conditions.attempt_during_of_fault_none _ hc _, found, isOpen⟩
    have hresolve : p.resolve s.catalog e = .error .operationNotFound := by
      rw [EventPatch.resolve, Catalog.requireOperation_of_unknown asked unknown]
      rfl
    simp only [answer, perform, withRecords,
      Records.patch_of_resolve_error hp hl (c.attempt_of_fault_none hc _) hresolve]
    rfl

/-! ### The empty id -/

/-- Whether the request gives an event the empty id for its operation. -/
def Request.BlanksOperation : Request → Prop
  | .create _ d => d.operationId = some ""
  | .patch _ p _ => p.operationId = some (some "")
  | _ => False

/-- Whether the step commits what a request asks for that gives an event the empty id for its
operation. -/
def State.BlanksOperation (s : State) (x : Step) : Prop :=
  (s.after x).records ≠ s.records ∧ x.conditions.vanishes = false ∧ x.request.BlanksOperation

namespace State.Change

variable {s : State} {c : Conditions} {context : Audit.Context} {request : Request} {r : Records}

theorem linksNamed_iff (change : s.Change c context request r) (h : s.records.LinksNamed) :
  r.LinksNamed ↔ ¬ (r ≠ s.records ∧ request.BlanksOperation)
  := by
  cases change with
  | @create id d b resolved =>
    obtain ⟨operation, -, -, -, -, -, -, hoperation, -⟩ := EventDraft.of_resolve resolved
    rw [and_iff_right (by apply Records.audited_ne; rfl), Request.BlanksOperation, ← hoperation]
    apply List.forall_mem_append.trans
    apply (and_iff_right h).trans
    rw [List.forall_mem_singleton]
  | @patch id p tokens current b stamp _ found _ resolved =>
    obtain ⟨operation, -, -, -, -, hb⟩ := EventPatch.of_resolve resolved
    rw [and_iff_right (by apply Records.audited_ne; rfl), Request.BlanksOperation]
    apply (Records.forall_mem_replaceEvent_iff h found
      (EventPatch.id_apply resolved context.actor stamp)).trans
    rw [EventPatch.apply_of_resolve resolved, hb]
    cases hp : p.operationId with
    | none => simpa [EventPatch.merge, hp] using h current (Records.mem_of_event? found)
    | some operationId => simp [EventPatch.merge, hp]
  | @archive id current stamp found =>
    simp only [Request.BlanksOperation, and_false, not_false_eq_true, iff_true]
    apply (Records.forall_mem_replaceEvent_iff h found
      (current.id_archive context.actor stamp)).mpr
    apply h current (Records.mem_of_event? found)
  | archiveAgain | comment | upload =>
    simp only [Request.BlanksOperation, and_false, not_false_eq_true, iff_true]
    apply h

end State.Change

/-! ### Runs -/

namespace State

variable {s : State}

/-- A run from records without events leaves no link that leads nowhere, unless its id is empty. -/
theorem run_linksGiven (empty : s.records.events = []) (steps : List Step) :
  (s.run steps).records.LinksGiven s.catalog
  := by
  apply run_events (P := fun e => ∀ i ∈ given e.operationId, s.catalog.HasOperation i) empty
  intro x _ old e writes h
  cases writes with
  | create _ resolved => apply EventDraft.hasOperation_of_resolve resolved
  | patch _ resolved =>
    rw [EventPatch.apply_of_resolve resolved]
    apply EventPatch.hasOperation_of_resolve resolved (h _ rfl)
  | archive => apply h _ rfl

/-- From records where no event has an operation with an empty id, a step leads to such records
exactly when it does not blank an operation. -/
theorem linksNamed_after_iff (h : s.records.LinksNamed) (x : Step) :
  (s.after x).records.LinksNamed ↔ ¬ s.BlanksOperation x
  := by
  rcases s.after_cases x with hr | ⟨r, change, hr⟩
  · simp only [BlanksOperation, hr]
    simpa using h
  · cases hv : x.conditions.vanishes with
    | true => simp [Records.LinksNamed, BlanksOperation, hr, Conditions.commit, hv]
    | false =>
      rw [Conditions.commit_of_stays hv] at hr
      simp only [BlanksOperation, hr, hv, true_and]
      apply change.linksNamed_iff h

/-- Along a run that starts without events, in a catalog where no operation has an empty id, all
events are linked to operations of the catalog, if to any, exactly when no step gives one the empty
id for its operation.  In any case these are the only links that lead nowhere, and requests for
operations that the catalog does not list are refused. -/
theorem operation_links_run (empty : s.records.events = [])
    (named : ∀ op ∈ s.catalog.operations, op.id ≠ "") (steps : List Step) :
  ((∀ xs, xs <+: steps → (s.run xs).records.LinksReal s.catalog)
      ↔ ∀ xs x, xs ++ [x] <+: steps → ¬ (s.run xs).BlanksOperation x)
    ∧ ∀ xs, xs <+: steps →
      (s.run xs).records.LinksGiven s.catalog ∧ (s.run xs).RefusesUnknown
  := by
  have hnamed : ¬ s.catalog.HasOperation "" := by
    rintro ⟨op, hop, hid⟩
    apply named op hop hid
  have hgiven := fun xs => run_linksGiven empty xs
  have hstart : s.records.LinksNamed := by simp [Records.LinksNamed, empty]
  constructor
  · simp only [Records.linksReal_iff hnamed, hgiven, true_and]
    apply run_prefixes_iff hstart
    intro t x _ ht
    apply linksNamed_after_iff ht
  · intro xs _
    exact ⟨hgiven xs, (s.run xs).refusesUnknown⟩

end State

/-- An event is planned without an operation, though the request gives an id for one, and another
one is refused an operation that is not listed. -/
def Sample.misplanning : List Step :=
  [ step 1 (.create "first" { draft 8 12 with operationId := some "" }),
    step 2 (.create "second" { draft 12 14 with operationId := some "mill" }) ]

/-- The event that is planned is linked to an operation that does not exist. -/
theorem State.blanks_misplanning :
  (Sample.state.run Sample.misplanning).records.events.map (·.operationId) = [some ""]
    ∧ ¬ (Sample.state.run Sample.misplanning).records.LinksReal Sample.catalog
    ∧ ∃ xs x, xs ++ [x] <+: Sample.misplanning ∧ (Sample.state.run xs).BlanksOperation x
  := by
  have hleft : ¬ (Sample.state.run Sample.misplanning).records.LinksReal Sample.catalog := by
    decide
  refine ⟨by decide, hleft, ?_⟩
  by_contra hnever
  apply hleft
  obtain ⟨hreal, -⟩ := @operation_links_run Sample.state rfl (by decide) Sample.misplanning
  apply hreal.mpr _ _ List.prefix_rfl
  intro xs x hx hblanks
  apply hnever
  use xs, x

end Workshop
