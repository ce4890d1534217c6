import Workshop.Proofs.Exclusion
import Workshop.Proofs.Placed
import Workshop.Schema.Event

/-!
# Which drafts are booked

A draft is bookable if the catalog can complete it to an event with one resource, and no other event
stands in the way.  Where nothing fails, a draft is booked exactly if it is bookable, and otherwise
refused: `State.create_iff_isBookable`, which also says what is stored.
-/

namespace Workshop

open Storage

/-! ### Resources that are chosen -/

/-- `resource.IsChosen machineId workstationId operation` says that the resource is one of those
that are asked for; or else, if none is, the one that the operation offers, which is its workstation
rather than its machine. -/
inductive Resource.IsChosen (machineId workstationId : Option String)
    (operation : Option OperationDefaults) : Resource → Prop where
  | machine {m : String} (asked : given machineId = some m) :
    IsChosen machineId workstationId operation ⟨.machine, m⟩
  | workstation {w : String} (asked : given workstationId = some w) :
    IsChosen machineId workstationId operation ⟨.workstation, w⟩
  | workstationOf {op : OperationDefaults} {w : String}
      (unasked : given machineId = none ∧ given workstationId = none)
      (linked : operation = some op) (offered : given op.workstationId = some w) :
    IsChosen machineId workstationId operation ⟨.workstation, w⟩
  | machineOf {op : OperationDefaults} {m : String}
      (unasked : given machineId = none ∧ given workstationId = none)
      (linked : operation = some op) (finer : given op.workstationId = none)
      (offered : given op.machineId = some m) :
    IsChosen machineId workstationId operation ⟨.machine, m⟩

theorem Resource.ofOperation_eq_ok_iff {op : OperationDefaults} {resource : Resource} :
  ofOperation op = .ok resource ↔
    (∃ w, given op.workstationId = some w ∧ resource = ⟨.workstation, w⟩)
      ∨ given op.workstationId = none
        ∧ ∃ m, given op.machineId = some m ∧ resource = ⟨.machine, m⟩
  := by
  cases hw : given op.workstationId <;> cases hm : given op.machineId <;>
    simp [ofOperation, hw, hm, eq_comm]

/-- A resource is resolved if it is chosen and not both kinds are asked for. -/
theorem Resource.resolve_eq_ok_iff {machineId workstationId : Option String}
    {operation : Option OperationDefaults} {resource : Resource} :
  resolve machineId workstationId operation = .ok resource ↔
    (given machineId = none ∨ given workstationId = none)
      ∧ resource.IsChosen machineId workstationId operation
  := by
  constructor
  · intro h
    cases hm : given machineId with
    | some m =>
      cases hw : given workstationId with
      | some w => simp [resolve, hm, hw] at h
      | none =>
        simp only [resolve, hm, hw] at h
        cases h
        exact ⟨.inr rfl, .machine hm⟩
    | none =>
      use .inl rfl
      cases hw : given workstationId with
      | some w =>
        simp only [resolve, hm, hw] at h
        cases h
        apply IsChosen.workstation hw
      | none =>
        simp only [resolve, hm, hw] at h
        cases operation with
        | none => cases h
        | some op =>
          rcases ofOperation_eq_ok_iff.mp h with ⟨w, hoffered, rfl⟩ | ⟨hfiner, m, hoffered, rfl⟩
          · apply IsChosen.workstationOf ⟨hm, hw⟩ rfl hoffered
          · apply IsChosen.machineOf ⟨hm, hw⟩ rfl hfiner hoffered
  · rintro ⟨hsingle, hchosen⟩
    cases hchosen with
    | machine asked => simp_all [resolve]
    | workstation asked => simp_all [resolve]
    | workstationOf unasked linked offered =>
      simp only [resolve, unasked.1, unasked.2, linked]
      apply ofOperation_eq_ok_iff.mpr (.inl ⟨_, offered, rfl⟩)
    | machineOf unasked linked finer offered =>
      simp only [resolve, unasked.1, unasked.2, linked]
      apply ofOperation_eq_ok_iff.mpr (.inr ⟨finer, _, offered, rfl⟩)

/-! ### Drafts that are completed -/

/-- The operation of the catalog with the given id, if an id is given. -/
def Catalog.linked? (c : Catalog) (id : Option String) : Option OperationDefaults :=
  ((given id).bind c.operation?).map (·.toOperationDefaults)

/-- An operation is required and belongs to the order that is given exactly if the catalog lists it
with that order. -/
theorem Catalog.requireOperation_and_requireOrder_iff {c : Catalog} {id : Option String}
    {orderId : Option Int} {operation : Option OperationDefaults} :
  (c.requireOperation id = .ok operation
      ∧ OperationDefaults.requireOrder operation orderId = .ok ())
    ↔ (∀ i ∈ given id, ∃ op, c.operation? i = some op ∧ ∀ n ∈ orderId, op.orderId = n)
      ∧ operation = c.linked? id
  := by
  rw [requireOperation_eq_ok_iff, OperationDefaults.requireOrder_eq_ok_iff, linked?]
  cases hi : given id with
  | none => simp +contextual
  | some i => cases ho : c.operation? i <;> simp +contextual [ho, and_comm]

/-- Whether the draft is one for a booking of the resource: its interval is proper, the operation
that it names belongs to the order that it names, and the resource is listed and is the one that it
asks for or that the operation offers. -/
structure EventDraft.Suits (d : EventDraft) (catalog : Catalog) (resource : Resource) : Prop where
  proper : d.start < d.stop
  single : given d.machineId = none ∨ given d.workstationId = none
  operation : ∀ i ∈ given d.operationId, ∃ op, catalog.operation? i = some op
    ∧ ∀ n ∈ d.orderId, op.orderId = n
  chosen : resource.IsChosen d.machineId d.workstationId (catalog.linked? d.operationId)
  real : resource.IsReal catalog

/-- `d.IsTitled operation title` says that the title is the one that the draft has; or else, if it
has none, the designation of the operation, behind its phase if that is positive, or `Planning` if
there is no operation. -/
inductive EventDraft.IsTitled (d : EventDraft) (operation : Option OperationDefaults) :
    String → Prop where
  | asked {title : String} (asked : d.title = some title) : IsTitled d operation title
  | numbered {op : OperationDefaults} {phase : Int} (unasked : d.title = none)
      (linked : operation = some op) (numbered : op.phase = some phase) (positive : 0 < phase) :
    IsTitled d operation ("P" ++ toString phase ++ " - " ++ op.designation)
  | unnumbered {op : OperationDefaults} (unasked : d.title = none) (linked : operation = some op)
      (unnumbered : ∀ phase ∈ op.phase, ¬ 0 < phase) :
    IsTitled d operation op.designation
  | unlinked (unasked : d.title = none) (unlinked : operation = none) :
    IsTitled d operation "Planning"

theorem EventDraft.isTitled_iff {d : EventDraft} {operation : Option OperationDefaults}
    {title : String} :
  d.IsTitled operation title ↔ title = d.title.getD (derivedTitle operation)
  := by
  constructor
  · intro h
    cases h with
    | asked asked => simp [asked]
    | numbered unasked linked numbered positive =>
      simp [unasked, linked, derivedTitle, numbered, positive]
    | @unnumbered op unasked linked unnumbered =>
      cases hp : op.phase <;> simp_all [derivedTitle]
    | unlinked unasked unlinked => simp [unasked, unlinked, derivedTitle, defaultTitle]
  · rintro rfl
    cases ht : d.title with
    | some t => apply IsTitled.asked ht
    | none =>
      cases operation with
      | none => apply IsTitled.unlinked ht rfl
      | some op =>
        simp only [Option.getD_none, derivedTitle]
        split
        · rename_i hpositive
          cases hp : op.phase with
          | none => simp [hp] at hpositive
          | some phase =>
            rw [hp] at hpositive
            apply IsTitled.numbered ht rfl hp hpositive
        · rename_i hnot
          apply IsTitled.unnumbered ht rfl
          intro phase hp
          simpa [Option.mem_def.mp hp] using hnot

/-- The event with the title that is booked for a draft. -/
def EventDraft.booked (d : EventDraft) (catalog : Catalog) (resource : Resource)
    (title id actor : String) (now : Instant) : Event where
  id := id
  kind := d.kind
  status := d.status
  priority := d.priority
  orderId := d.orderId <|> (catalog.linked? d.operationId).map (·.orderId)
  operationId := d.operationId
  machineId := resource.machineId?
  workstationId := resource.workstationId?
  title := title
  description := d.description
  start := d.start
  stop := d.stop
  allowOverlap := d.allowOverlap
  version := 1
  createdAt := now
  createdBy := some actor
  updatedAt := now
  updatedBy := some actor
  archivedAt := none
  archivedBy := none

namespace EventDraft

variable {d : EventDraft} {catalog : Catalog} {id actor : String} {now : Instant} {b : Booking}

/-- A draft with no empty title is completed exactly to the booking of a resource that it suits,
under its title. -/
theorem resolve_eq_ok_iff (titled : d.title ≠ some "") :
  d.resolve catalog id actor now = .ok b ↔
    d.Suits catalog b.resource ∧ d.IsTitled (catalog.linked? d.operationId) b.event.title
      ∧ b.event = d.booked catalog b.resource b.event.title id actor now
  := by
  have htitle : given d.title = d.title := by
    cases ht : d.title with
    | none => rfl
    | some t =>
      rw [ht] at titled
      apply given_eq_some.mpr ⟨rfl, fun h => titled (congrArg some h)⟩
  constructor
  · intro h
    obtain ⟨hproper, h⟩ := check_bind_eq_ok_iff.mp h
    obtain ⟨hsingle, h⟩ := check_bind_eq_ok_iff.mp h
    obtain ⟨operation, hop, h⟩ := bind_eq_ok_iff.mp h
    obtain ⟨horder, h⟩ := check_bind_eq_ok_iff.mp h
    obtain ⟨resource, hres, h⟩ := bind_eq_ok_iff.mp h
    obtain ⟨hlisted, h⟩ := check_bind_eq_ok_iff.mp h
    obtain ⟨hoperation, rfl⟩ :=
      Catalog.requireOperation_and_requireOrder_iff.mp ⟨hop, horder⟩
    obtain ⟨hone, hchosen⟩ := Resource.resolve_eq_ok_iff.mp (mapError_eq_ok_iff.mp hres)
    cases h
    refine ⟨?_, ?_, rfl⟩
    · exact ⟨Interval.requireProper_eq_ok_iff.mp hproper, hone, hoperation, hchosen,
        Resource.isListed_iff.mp (Catalog.requireResource_eq_ok_iff.mp hlisted)⟩
    · simp only [isTitled_iff, htitle]
  · rintro ⟨⟨hproper, hone, hoperation, hchosen, hreal⟩, hnamed, hevent⟩
    obtain ⟨hop, horder⟩ :=
      Catalog.requireOperation_and_requireOrder_iff.mpr ⟨hoperation, rfl⟩
    have hres := Resource.resolve_eq_ok_iff.mpr ⟨hone, hchosen⟩
    have hlisted := Resource.isListed_iff.mpr hreal
    refine check_bind_eq_ok_iff.mpr ⟨Interval.requireProper_eq_ok_iff.mpr hproper, ?_⟩
    refine check_bind_eq_ok_iff.mpr ⟨requireOneResource_eq_ok_iff.mpr hone, ?_⟩
    refine bind_eq_ok_iff.mpr ⟨_, hop, ?_⟩
    refine check_bind_eq_ok_iff.mpr ⟨horder, ?_⟩
    refine bind_eq_ok_iff.mpr ⟨b.resource, mapError_eq_ok_iff.mpr hres, ?_⟩
    refine check_bind_eq_ok_iff.mpr ⟨Catalog.requireResource_eq_ok_iff.mpr hlisted, ?_⟩
    rw [return_eq_ok_iff, htitle]
    obtain ⟨resource, event⟩ := b
    simp only [isTitled_iff] at hnamed hevent
    rw [hevent, hnamed]
    rfl

end EventDraft

/-! ### Rows that the table takes -/

/-- The row of an event has a value in every column that must have one. -/
theorem Event.row_ne_null {e : Event} {c : Column} (hc : c ∈ Tables.planningEvents.columns)
    (required : c.nullable = false) :
  e.row c.name ≠ .null
  := by
  have hnames : (Tables.planningEvents.columns.filter fun c => !c.nullable).map (·.name)
      = ["event_id", "kind", "status", "priority", "title", "start_time_utc", "end_time_utc",
        "allow_overlap", "version", "created_at", "updated_at"] := rfl
  have hversion : e.row "version" ≠ .null := by
    change e.versionCell ≠ .null
    simp only [versionCell]
    split <;> exact Cell.noConfusion
  have hrow : ∀ name ∈ (Tables.planningEvents.columns.filter fun c => !c.nullable).map (·.name),
      e.row name ≠ .null := by
    rw [hnames]
    simp only [List.forall_mem_cons, List.not_mem_nil, false_implies, implies_true, and_true]
    refine ⟨?_, ?_, ?_, ?_, ?_, ?_, ?_, ?_, hversion, ?_, ?_⟩ <;> exact Cell.noConfusion
  apply hrow
  apply List.mem_map_of_mem
  simpa [required] using hc

/-- The table of events takes every row that passes its checks. -/
theorem Event.defect?_eq_none {e : Event} (checked : e.IsChecked) :
  e.defect? = none
  := by
  have hcolumns : Tables.planningEvents.columns.find?
      (fun c => !c.nullable && e.row c.name == .null) = none := by
    simp only [List.find?_eq_none, Bool.and_eq_true, Bool.not_eq_true', beq_iff_eq]
    rintro c hc ⟨required, hnull⟩
    apply row_ne_null hc required hnull
  have hchecks : Tables.planningEvents.checks.find? (fun c => c.condition.Refuses e.row)
      = none := by
    rw [List.find?_eq_none]
    intro check hcheck
    simpa using checked check hcheck
  simp only [defect?, Layout.defect?, hcolumns, hchecks]

/-- A row that the table of events takes passes its checks. -/
theorem Event.isChecked_of_defect? {e : Event} (h : e.defect? = none) :
  e.IsChecked
  := by
  intro check hcheck refuses
  simp only [defect?, Layout.defect?] at h
  split at h
  · cases h
  · split at h
    · cases h
    · rename_i hnone
      have := List.find?_eq_none.mp hnone check hcheck
      exact this (by simpa using refuses)

namespace Records

variable {r : Records} {c : Conditions} {catalog : Catalog} {context : Audit.Context}
  {id : String} {e : Event}

theorem view_of_found (reads : c.attempt .eventSelect = .ok ()) (found : r.event? id = some e)
    (counted : e.version ≤ Event.lastVersion) :
  r.view c catalog id = .ok (some (catalog.view e))
  := by
  have hshown : (catalog.view e).requireShowable = .ok () := if_pos counted
  simp [view, reads, found, hshown, bind, Except.bind, pure, Except.pure]

theorem reload_of_found (reads : c.attempt .eventSelect = .ok ()) (found : r.event? id = some e)
    (counted : e.version ≤ Event.lastVersion) :
  r.reload c catalog id = .ok (catalog.view e)
  := by
  rw [reload, view_of_found (Conditions.attempt_during _ reads) found counted]
  rfl

/-- Where nothing fails and the id is new, a draft that was completed is refused if events stand in
the way of its booking, and else is stored, if the storage can hold its order. -/
theorem create_of_resolve {d : EventDraft} {b : Booking} (calm : c.IsCalm)
    (fresh : r.event? id = none) (hb : d.resolve catalog id context.actor c.now = .ok b) :
  r.create c catalog context id d =
    if b.event.allowOverlap = false ∧ r.blockers b.resource b.event.interval none ≠ [] then
      (.error (.refused (.conflict (r.clashes catalog b.resource b.event.interval none))), r)
    else if ∀ n ∈ b.event.orderId, Storable n then
      (.ok (catalog.view b.event),
        audited { r with events := r.events ++ [b.event] } context (.ofCreated b.event) id c.now)
    else (.error .outOfRange, r)
  := by
  obtain ⟨reads, -, checks, stays⟩ := calm
  have hattempt := Conditions.attempt_of_fault_none reads
  obtain ⟨-, -, -, -, proper, books, hid, -⟩ := EventDraft.of_resolve hb
  have hversion := (EventDraft.isNew_of_resolve hb).version
  have sound := Event.defect?_eq_none (Event.isChecked_of_books proper books)
  have hlook := EventDraft.lookUp_of_resolve reads hb
  have hfree := @requireFree_eq r c catalog b.resource b.event.interval b.event.allowOverlap none
    reads checks
  by_cases hblocked : b.event.allowOverlap = false
      ∧ r.blockers b.resource b.event.interval none ≠ []
  · rw [if_pos hblocked] at hfree ⊢
    have hwrite : r.writeCreated c catalog context b = .error
        (.refused (.conflict (r.clashes catalog b.resource b.event.interval none))) := by
      rw [writeCreated, hfree]
      rfl
    rw [create_of_writeCreated_error hlook hwrite]
    rfl
  · rw [if_neg hblocked] at hfree ⊢
    by_cases hstorable : ∀ n ∈ b.event.orderId, Storable n
    · rw [if_pos hstorable]
      have hwrite : r.writeCreated c catalog context b = .ok
          (audited { r with events := r.events ++ [b.event] } context (.ofCreated b.event) id
            c.now) := by
        rw [writeCreated_eq_ok_iff, hid]
        exact ⟨hfree, ⟨hattempt _, hstorable, sound, fresh⟩, ⟨hattempt _, hattempt _⟩, rfl⟩
      have hfound : (audited { r with events := r.events ++ [b.event] } context
          (.ofCreated b.event) id c.now).event? id = some b.event := by
        rw [event?_audited]
        simp only [event?, List.find?_append] at fresh ⊢
        simp [fresh, hid]
      simp only [create, hlook, hwrite, Conditions.commit_of_stays stays]
      rw [reload_of_found (hattempt _) hfound (by rw [hversion]; decide)]
    · rw [if_neg hstorable]
      have hstore : requireStorable b.event.orderId = .error .outOfRange := if_neg hstorable
      have hwrite : r.writeCreated c catalog context b = .error .outOfRange := by
        rw [writeCreated, hfree, insertEvent, hattempt, hstore]
        rfl
      rw [create_of_writeCreated_error hlook hwrite]
      rfl

end Records

/-! ### Titles that are read -/

namespace Schema

theorem optional_eq_valid {α : Type} {name : String} {r : Reader α} {default a : α}
    {fields : Fields} (h : optional name r default fields = .valid a) :
  a = default ∨ ∃ v, r v = .ok a
  := by
  simp only [optional] at h
  split at h
  · right
    rename_i v _
    use v
    cases hv : r v with
    | error f => cases f <;> simp [hv, Checked.ofReading, Checked.below] at h
    | ok b =>
      simp only [hv, Checked.ofReading, Checked.below] at h
      cases h
      rfl
  · left
    cases h
    rfl

theorem nullable_eq_some {α : Type} {r : Reader α} {v : Json} {a : α}
    (h : Reader.nullable r v = .ok (some a)) :
  r v = .ok a
  := by
  have hmap : (r v).map some = .ok (some a) := by
    cases v with
    | null => cases h
    | _ => exact h
  obtain ⟨b, hb, heq⟩ := map_eq_ok_iff.mp hmap
  cases heq
  exact hb

theorem titleReader_ne_ok_empty (v : Json) :
  titleReader v ≠ .ok ""
  := by
  have hwithin : ∀ w, Reader.textWithin 1 500 w ≠ .ok "" := by
    intro w hw
    obtain ⟨s, -, hs⟩ := bind_eq_ok_iff.mp hw
    split at hs
    · cases hs
    · split at hs
      · cases hs
      · cases hs
        contradiction
  cases v <;> apply hwithin

/-- A draft that was read has no empty title. -/
theorem title_of_readDraft {fields : Fields} {d : EventDraft} (h : readDraft fields = .valid d) :
  d.title ≠ some ""
  := by
  simp only [readDraft, Checked.seq_eq_valid, Checked.map_eq_valid, exists_and_left,
    exists_exists_and_eq_and, exists_exists_and_exists_and_eq_and, ↓existsAndEq, and_true] at h
  obtain ⟨_, _, _, _, _, _, _, title, _, _, _, ⟨⟨⟨⟨-, htitle⟩, -⟩, -⟩, -⟩, _, -, rfl⟩ := h
  rintro rfl
  rcases optional_eq_valid htitle with heq | ⟨v, hv⟩
  · cases heq
  · apply titleReader_ne_ok_empty v (nullable_eq_some hv)

end Schema

/-! ### Drafts that are booked -/

/-- Whether the storage can hold the orders of all operations. -/
def Catalog.IsStorable (c : Catalog) : Prop :=
  ∀ op ∈ c.operations, Storable op.orderId

instance (c : Catalog) : Decidable c.IsStorable :=
  inferInstanceAs (Decidable (∀ op ∈ c.operations, Storable op.orderId))

namespace EventDraft

variable {d : EventDraft} {catalog : Catalog} {r : Records} {id actor : String} {now : Instant}
  {b : Booking}

/-- Whether the draft is one for a booking of some resource that allows overlaps or that no event
stands in the way of. -/
def IsBookable (d : EventDraft) (catalog : Catalog) (r : Records) : Prop :=
  ∃ resource, d.Suits catalog resource
    ∧ (d.allowOverlap = true ∨ ∀ e ∈ r.events, ¬ e.Blocks resource ⟨d.start, d.stop⟩)

theorem isBookable_iff (titled : d.title ≠ some "") :
  d.IsBookable catalog r ↔
    ∃ b, d.resolve catalog id actor now = .ok b
      ∧ ¬ (b.event.allowOverlap = false ∧ r.blockers b.resource b.event.interval none ≠ [])
  := by
  have hblocked : ∀ resource, (d.allowOverlap = true
        ∨ ∀ e ∈ r.events, ¬ e.Blocks resource ⟨d.start, d.stop⟩)
      ↔ ¬ (d.allowOverlap = false ∧ r.blockers resource ⟨d.start, d.stop⟩ none ≠ []) := by
    intro resource
    rw [Records.not_blocked_iff]
    simp
  constructor
  · rintro ⟨resource, hsuits, hfree⟩
    use ⟨resource, d.booked catalog resource
      (d.title.getD (derivedTitle (catalog.linked? d.operationId))) id actor now⟩
    exact ⟨(resolve_eq_ok_iff titled).mpr ⟨hsuits, isTitled_iff.mpr rfl, rfl⟩,
      (hblocked resource).mp hfree⟩
  · rintro ⟨b, hb, hfree⟩
    obtain ⟨hsuits, -, hevent⟩ := (resolve_eq_ok_iff titled).mp hb
    rw [hevent] at hfree
    use b.resource, hsuits, (hblocked b.resource).mpr hfree

theorem storable_of_resolve (stored : catalog.IsStorable) (storable : ∀ n ∈ d.orderId, Storable n)
    (h : d.resolve catalog id actor now = .ok b) :
  ∀ n ∈ b.event.orderId, Storable n
  := by
  obtain ⟨operation, hop, -, -, -, -, -, -, horder⟩ := of_resolve h
  obtain ⟨-, rfl⟩ := Catalog.requireOperation_eq_ok_iff.mp hop
  rw [horder]
  cases hd : d.orderId with
  | some m =>
    rw [hd] at storable
    simpa using storable
  | none =>
    rintro n hn
    obtain ⟨defaults, hdefaults, rfl⟩ := Option.map_eq_some_iff.mp hn
    obtain ⟨op, hlinked, rfl⟩ := Option.map_eq_some_iff.mp hdefaults
    obtain ⟨i, -, hfound⟩ := Option.bind_eq_some_iff.mp hlinked
    apply stored op (List.mem_of_find?_eq_some hfound)

end EventDraft

/-- A draft is booked exactly if it is bookable.  Where nothing fails, the id is new and the storage
can hold the orders of the draft and of the catalog, a draft that was read is answered by an event
exactly if it is bookable.  Then just the event that is booked for it is stored, along with an entry
in the audit trail, and its view is answered; and otherwise the draft is refused, and nothing is
stored. -/
theorem State.create_iff_isBookable {s : State} {x : Step} {id : String} {d : EventDraft}
    {fields : Schema.Fields} (read : Schema.readDraft fields = .valid d)
    (asked : x.request = .create id d) (calm : x.conditions.IsCalm)
    (fresh : s.records.event? id = none) (storable : ∀ n ∈ d.orderId, Storable n)
    (stored : s.catalog.IsStorable) :
  ((∃ a, s.answer x = .ok a) ↔ d.IsBookable s.catalog s.records)
    ∧ (∀ a, s.answer x = .ok a → ∃ resource title e, d.Suits s.catalog resource
      ∧ d.IsTitled (s.catalog.linked? d.operationId) title
      ∧ e = d.booked s.catalog resource title id x.context.actor x.conditions.now
      ∧ a = .event (s.catalog.view e)
      ∧ (s.after x).records = Records.audited { s.records with events := s.records.events ++ [e] }
        x.context (.ofCreated e) id x.conditions.now)
    ∧ ∀ f, s.answer x = .error f → (∃ why, f = .refused why) ∧ s.after x = s
  := by
  have titled := Schema.title_of_readDraft read
  obtain ⟨c, context, request⟩ := x
  subst asked
  rw [EventDraft.isBookable_iff titled]
  simp only [answer, after, perform, withRecords]
  cases hb : d.resolve s.catalog id context.actor c.now with
  | error why =>
    rw [Records.create_of_resolve_error (c.attempt_of_fault_none calm.1 _) hb]
    simp [Except.map]
  | ok b =>
    obtain ⟨hsuits, hnamed, hevent⟩ := (EventDraft.resolve_eq_ok_iff titled).mp hb
    rw [Records.create_of_resolve calm fresh hb]
    split
    · rename_i hblocked
      simp [hblocked, Except.map]
    · rename_i hfree
      rw [if_pos (EventDraft.storable_of_resolve stored storable hb)]
      simp only [Except.map, Except.ok.injEq]
      refine ⟨⟨fun _ => ⟨b, rfl, hfree⟩, fun _ => ⟨_, rfl⟩⟩, ?_, fun f hf => by cases hf⟩
      rintro a rfl
      exact ⟨b.resource, b.event.title, b.event, hsuits, hnamed, hevent, rfl, rfl⟩

namespace Sample

/-- The lathe was booked from eight to twelve, and is booked from twelve to fourteen. -/
def freed : State :=
  { state with
    records :=
      { events :=
          [{ event "first" 8 12 with archivedAt := some (hour 1) }, event "second" 12 14] } }

/-- A draft as it is sent: the ids have blanks, and the machine is blank. -/
def turningFields : Schema.Fields :=
  [ ("operation_id", .str " turn "),
    ("machine_id", .str " "),
    ("start_time_utc", .str "2025-11-29T16:00:00Z"),
    ("end_time_utc", .str "2025-11-29T20:00:00Z") ]

/-- The draft, as it is read. -/
def turning : EventDraft where
  operationId := some "turn"
  machineId := some ""
  start := hour 8
  stop := hour 12

/-- The event that is booked for it, with the resource, the order and the title of its operation. -/
def turned : Event :=
  { event "third" 8 12 with
    orderId := some 1
    operationId := some "turn"
    title := "P10 - Shaft"
    createdAt := hour 2
    createdBy := some "user"
    updatedAt := hour 2
    updatedBy := some "user" }

end Sample

/-- The lathe is free again from eight to twelve. -/
theorem State.books_turning :
  Sample.turning.IsBookable Sample.catalog Sample.freed.records
    ∧ (Sample.freed.after (Sample.step 2 (.create "third" Sample.turning))).records.events
      = Sample.freed.records.events ++ [Sample.turned]
  := by
  have read : Schema.readDraft Sample.turningFields = .valid Sample.turning := by decide +kernel
  have answered : Sample.freed.answer (Sample.step 2 (.create "third" Sample.turning))
      = .ok (.event (Sample.catalog.view Sample.turned)) := by
    decide +kernel
  obtain ⟨hbookable, -, -⟩ := @create_iff_isBookable Sample.freed
    (Sample.step 2 (.create "third" Sample.turning)) "third" Sample.turning Sample.turningFields
    read rfl (by decide) (by decide) (by decide) (by decide)
  exact ⟨hbookable.mp ⟨_, answered⟩, by decide +kernel⟩

end Workshop
