import Workshop.Proofs.Booked

/-!
# Orders and operations that disagree

An event agrees with the catalog if its order is that of its operation.  A request that names an
operation is refused unless the two agree, but one that names none is not checked, so that a patch
which moves an event to another order leaves it with the operation of the order before.
`State.ordersAgree_after_iff` says that these are the only requests from which an event comes to
disagree, and `State.ordersAgree_run_iff` says the same of runs.
-/

namespace Workshop

/-! ### Agreement -/

/-- Whether an order and an operation, if both are given and the catalog lists the latter, belong
together. -/
def Catalog.Agree (c : Catalog) (orderId : Option Int) (operationId : Option String) : Prop :=
  ∀ n ∈ orderId, ∀ op ∈ operationId.bind c.operation?, op.orderId = n

instance (c : Catalog) (orderId : Option Int) (operationId : Option String) :
    Decidable (c.Agree orderId operationId) :=
  inferInstanceAs (Decidable (∀ n ∈ orderId, ∀ op ∈ operationId.bind c.operation?, op.orderId = n))

namespace Records

variable {r r' : Records} {catalog : Catalog} {e : Event}

/-- Whether the order and the operation of every event belong together. -/
def OrdersAgree (r : Records) (catalog : Catalog) : Prop :=
  ∀ e ∈ r.events, catalog.Agree e.orderId e.operationId

instance : Decidable (r.OrdersAgree catalog) :=
  inferInstanceAs (Decidable (∀ e ∈ r.events, catalog.Agree e.orderId e.operationId))

theorem OrdersAgree.insert_iff (h : r.OrdersAgree catalog) :
  OrdersAgree { r with events := r.events ++ [e] } catalog
    ↔ catalog.Agree e.orderId e.operationId
  := by
  constructor
  · intro hr
    apply hr e (List.mem_append_right r.events (List.mem_singleton_self e))
  · intro he a ha
    rcases List.mem_append.mp ha with ha | ha
    · apply h a ha
    · rw [List.mem_singleton.mp ha]
      apply he

theorem OrdersAgree.replace_iff {id : String} {old : Event} (h : r.OrdersAgree catalog)
    (found : r.event? id = some old) (hid : e.id = old.id) :
  (r.replaceEvent e).OrdersAgree catalog ↔ catalog.Agree e.orderId e.operationId
  := by
  constructor
  · intro hr
    have hnew : (r.replaceEvent e).event? id = some e := by
      rw [event?_replaceEvent, hid, id_of_event? found, if_pos rfl, found]
      rfl
    apply hr e (mem_of_event? hnew)
  · intro he a ha
    rcases mem_replaceEvent ha with rfl | ⟨ha, -⟩
    · apply he
    · apply h a ha

end Records

/-! ### What is checked -/

/-- A draft makes an event that agrees with the catalog if it names an operation, or if what it
gives agrees. -/
theorem EventDraft.agree_iff_of_resolve {d : EventDraft} {catalog : Catalog} {id actor : String}
    {now : Instant} {b : Booking} (h : d.resolve catalog id actor now = .ok b) :
  catalog.Agree b.event.orderId b.event.operationId ↔
    ¬ (given d.operationId = none ∧ ¬ catalog.Agree d.orderId d.operationId)
  := by
  obtain ⟨operation, hop, horder, -, -, -, -, hoperation, hid⟩ := of_resolve h
  obtain ⟨-, rfl⟩ := Catalog.requireOperation_eq_ok_iff.mp hop
  rw [hoperation, hid]
  cases hg : given d.operationId with
  | none => simp
  | some i =>
    simp only [reduceCtorEq, false_and, not_false_eq_true, iff_true]
    rw [(given_eq_some.mp hg).1]
    intro n hn op hop
    have hop : catalog.operation? i = some op := hop
    simp only [hg, Option.bind_some, hop, Option.map_some] at horder hn
    cases hd : d.orderId with
    | none =>
      rw [hd] at hn
      apply Option.some.inj hn
    | some m =>
      rw [hd] at hn horder
      apply horder _ rfl n hn

/-- A patch makes an event that agrees with the catalog if it names an operation, or if the order
and the operation that the event has in the end agree. -/
theorem EventPatch.agree_iff_of_resolve {p : EventPatch} {catalog : Catalog} {e : Event}
    {b : Booking} (h : p.resolve catalog e = .ok b) :
  catalog.Agree b.event.orderId b.event.operationId ↔
    ¬ (given p.operationId.join = none
      ∧ ¬ catalog.Agree (p.merge e).orderId (p.merge e).operationId)
  := by
  obtain ⟨operation, hop, horder, -, -, hb⟩ := of_resolve h
  obtain ⟨-, rfl⟩ := Catalog.requireOperation_eq_ok_iff.mp hop
  rw [hb]
  cases hg : given p.operationId.join with
  | none => simp
  | some i =>
    have hi : p.operationId = some (some i) := by
      simpa [Option.join_eq_some_iff] using (given_eq_some.mp hg).1
    simp only [reduceCtorEq, false_and, not_false_eq_true, iff_true]
    intro n hn op hop
    have hop : catalog.operation? i = some op := by simpa [merge, hi] using hop
    simp only [hg, Option.bind_some, hop, Option.map_some] at horder
    apply horder _ rfl n hn

/-! ### Steps and runs -/

/-- Whether the request names no operation, but asks for an event whose order and operation do not
belong together. -/
def State.Misnames (s : State) : Request → Prop
  | .create _ d => given d.operationId = none ∧ ¬ s.catalog.Agree d.orderId d.operationId
  | .patch id p _ =>
    given p.operationId.join = none ∧ ∃ e, s.records.event? id = some e
      ∧ ¬ s.catalog.Agree (p.merge e).orderId (p.merge e).operationId
  | _ => False

/-- Whether the step commits what a request asks for that names no operation, but an event whose
order and operation do not belong together. -/
def State.Mislinks (s : State) (x : Step) : Prop :=
  (s.after x).records ≠ s.records ∧ x.conditions.vanishes = false ∧ s.Misnames x.request

theorem State.Change.ordersAgree_iff {s : State} {c : Conditions} {context : Audit.Context}
    {request : Request} {r : Records} (change : s.Change c context request r)
    (h : s.records.OrdersAgree s.catalog) :
  r.OrdersAgree s.catalog ↔ ¬ (r ≠ s.records ∧ s.Misnames request)
  := by
  cases change with
  | create resolved =>
    rw [and_iff_right (by apply Records.audited_ne; rfl)]
    apply Iff.trans h.insert_iff
    apply EventDraft.agree_iff_of_resolve resolved
  | @patch id p tokens current b stamp _ found _ resolved =>
    rw [and_iff_right (by apply Records.audited_ne; rfl)]
    apply Iff.trans (h.replace_iff found (EventPatch.id_apply resolved context.actor stamp))
    rw [EventPatch.apply_of_resolve resolved]
    apply Iff.trans (EventPatch.agree_iff_of_resolve resolved)
    simp [Misnames, found]
  | @archive id current stamp found =>
    simp only [Misnames, and_false, not_false_eq_true, iff_true]
    apply (h.replace_iff found (current.id_archive context.actor stamp)).mpr
    apply h current (Records.mem_of_event? found)
  | archiveAgain =>
    simp only [Misnames, and_false, not_false_eq_true, iff_true]
    apply h
  | comment =>
    simp only [Misnames, and_false, not_false_eq_true, iff_true]
    apply h
  | upload =>
    simp only [Misnames, and_false, not_false_eq_true, iff_true]
    apply h

namespace State

variable {s : State}

/-- From records that agree with the catalog, a step leads to such records exactly when it does not
mislink. -/
theorem ordersAgree_after_iff (h : s.records.OrdersAgree s.catalog) (x : Step) :
  (s.after x).records.OrdersAgree s.catalog ↔ ¬ s.Mislinks x
  := by
  rcases s.after_cases x with hr | ⟨r, change, hr⟩
  · simp only [Mislinks, hr]
    simpa using h
  · cases hv : x.conditions.vanishes with
    | true => simp [Records.OrdersAgree, Mislinks, hr, Conditions.commit, hv]
    | false =>
      rw [Conditions.commit_of_stays hv] at hr
      simp only [Mislinks, hr, hv, true_and]
      apply change.ordersAgree_iff h

/-- Along a run that starts without events, all records agree with the catalog exactly when no step
mislinks. -/
theorem ordersAgree_run_iff (empty : s.records.events = []) (steps : List Step) :
  (∀ xs, xs <+: steps → (s.run xs).records.OrdersAgree s.catalog)
    ↔ ∀ xs x, xs ++ [x] <+: steps → ¬ (s.run xs).Mislinks x
  := by
  have hstart : s.records.OrdersAgree s.catalog := by simp [Records.OrdersAgree, empty]
  apply run_prefixes_iff (P := fun r => r.OrdersAgree s.catalog) hstart
  intro t x ht h
  rw [← ht] at h
  rw [← ht]
  apply ordersAgree_after_iff h

end State

/-- An event is planned for the operation of the first order, and then moved to the second. -/
def Sample.relinking : List Step :=
  [ step 1 (.create "first" { draft 8 12 with operationId := some "turn" }),
    step 2 (.patch "first" { orderId := some (some 2) } {}) ]

/-- The event that is moved keeps the operation of the first order. -/
theorem State.mislinks_relinking :
  ¬ (Sample.state.run Sample.relinking).records.OrdersAgree Sample.catalog
    ∧ ∃ xs x, xs ++ [x] <+: Sample.relinking ∧ (Sample.state.run xs).Mislinks x
  := by
  have hdisagree : ¬ (Sample.state.run Sample.relinking).records.OrdersAgree Sample.catalog := by
    decide
  use hdisagree
  by_contra hnever
  apply hdisagree
  apply (ordersAgree_run_iff rfl Sample.relinking).mpr _ _ List.prefix_rfl
  intro xs x hx hmislinks
  apply hnever
  use xs, x

end Workshop
