import Workshop.Api.Reply
import Workshop.Proofs.Agenda
import Workshop.Proofs.Bookable
import Workshop.Proofs.Replay

/-!
# What a listing shows

A listing shows the events of its range that have, in the fields of their views, the values that it
asks for: `Listing.Query.AsksFor`.  To find them the storage joins the table of events with
those of the catalog, and `Catalog.joins_eq` says that every event stands in exactly one row of the
joined tables, whatever the catalog knows about it.  `State.listing_is_exact` is the main statement.
-/

namespace Workshop

/-! ### Tables that are joined -/

section

variable {α κ : Type} [DecidableEq κ]

/-- The rows of a table to which another row is joined: all that match it, or none of them if none
does. -/
def joined (rows : List α) (on : α → Bool) : List (Option α) :=
  if rows.any on then (rows.filter on).map some else [none]

/-- Where no two rows of a table share a key, a row is joined to the only one with its key. -/
theorem joined_of_nodup {rows : List α} {id : α → κ} (h : (rows.map id).Nodup) (k : Option κ) :
  joined rows (fun a => k = some (id a)) = [k.bind fun i => rows.find? (id · == i)]
  := by
  cases k with
  | none => simp [joined]
  | some i =>
    induction rows with
    | nil => rfl
    | cons a rows ih =>
      rw [List.map_cons, List.nodup_cons] at h
      by_cases ha : id a = i
      · subst ha
        have hrest : ∀ b ∈ rows, ¬ id a = id b := by
          intro b hb heq
          apply h.1
          rw [heq]
          apply List.mem_map_of_mem hb
        simpa [joined] using hrest
      · have hne : ¬ i = id a := Ne.symm ha
        have hrows := ih h.2
        simp only [joined] at hrows ⊢
        simpa [ha, hne] using hrows

end

namespace Catalog

/-- Whether no two rows of a table share an id. -/
structure IsKeyed (c : Catalog) : Prop where
  operations : (c.operations.map (·.id)).Nodup
  orders : (c.orders.map (·.id)).Nodup
  parts : (c.parts.map (·.id)).Nodup
  clients : (c.clients.map (·.id)).Nodup
  machines : (c.machines.map (·.id)).Nodup
  workstations : (c.workstations.map (·.id)).Nodup
  users : (c.users.map (·.id)).Nodup

/-- The rows of the joined tables in which the event stands.  The order is the one of the event, or
else that of its operation; the part and the client are those of the order. -/
def joins (c : Catalog) (e : Event) : List EventView :=
  (joined c.operations fun a => e.operationId = some a.id).flatMap fun operation =>
  (joined c.orders fun a =>
    (e.orderId <|> operation.map (·.orderId)) = some a.id).flatMap fun order =>
  (joined c.parts fun a => order.bind (·.partId) = some a.id).flatMap fun part =>
  (joined c.clients fun a => order.bind (·.clientId) = some a.id).flatMap fun client =>
  (joined c.machines fun a => e.machineId = some a.id).flatMap fun machine =>
  (joined c.workstations fun a => e.workstationId = some a.id).flatMap fun workstation =>
  (joined c.users fun a => e.createdBy = some a.id).map fun creator =>
    { e with
      orderId := e.orderId <|> operation.map (·.orderId)
      createdByUsername := creator.map (·.username)
      orderNumber := order.map (·.number)
      clientId := order.bind (·.clientId)
      clientCompanyName := client.map (·.companyName)
      partCode := part.map (·.code)
      partDesignation := part.bind (·.designation)
      operationPhase := operation.bind (·.phase)
      operationDesignation := operation.map (·.designation)
      machineCode := machine.map (·.code)
      machineName := machine.map (·.name)
      workstationCode := workstation.map (·.code)
      workstationLabel := workstation.map (·.label) }

/-- The joins neither drop an event nor repeat it: it stands in the one row that is its view. -/
theorem joins_eq {c : Catalog} (h : c.IsKeyed) (e : Event) :
  c.joins e = [c.view e]
  := by
  simp only [joins, joined_of_nodup h.operations, joined_of_nodup h.orders,
    joined_of_nodup h.parts, joined_of_nodup h.clients, joined_of_nodup h.machines,
    joined_of_nodup h.workstations, joined_of_nodup h.users, List.flatMap_singleton,
    List.map_singleton]
  rfl

end Catalog

/-- The rows of the table of events, joined with those of the catalog. -/
def Records.joins (r : Records) (c : Catalog) : List EventView :=
  r.events.flatMap c.joins

theorem Records.joins_eq {r : Records} {c : Catalog} (h : c.IsKeyed) :
  r.joins c = r.events.map c.view
  := by
  have hjoins : c.joins = pure ∘ c.view := by
    funext e
    apply Catalog.joins_eq h
  rw [joins, hjoins, List.flatMap_pure_eq_map]

/-! ### What a query asks for -/

namespace Json

theorem optStr_eq_str_iff {s : Option String} {t : String} :
  optStr s = str t ↔ s = some t
  := by
  cases s <;> simp [optStr, ofOption]

theorem optInt_eq_int_iff {n : Option Int} {m : Int} :
  optInt n = int m ↔ n = some m
  := by
  cases n <;> simp [optInt, ofOption]

end Json

namespace Listing.Query

/-- The fields for which a query may ask, with the values that it asks for, if it does.  A blank id
asks for nothing. -/
def fields (q : Query) : List (String × Option Json) :=
  [ ("machine_id", (given q.machineId).map .str),
    ("workstation_id", (given q.workstationId).map .str),
    ("order_id", q.orderId.map .int),
    ("operation_id", (given q.operationId).map .str),
    ("kind", q.kind.map fun k => .str (Worded.word k)),
    ("status", q.status.map fun s => .str (Worded.word s)),
    ("priority", q.priority.map fun p => .str (Worded.word p)) ]

/-- Whether the query asks for an event with the view: it overlaps the range, the view shows the
values that are asked for, and it is not archived unless archived events are to be included. -/
def AsksFor (q : Query) (v : EventView) : Prop :=
  (v.start < q.range.stop ∧ q.range.start < v.stop)
    ∧ (∀ f ∈ q.fields, ∀ value ∈ f.2, v.toJson.field? f.1 = some value)
    ∧ (q.includeArchived = true ∨ v.archivedAt = none)

variable {q : Query} {v : EventView}

theorem asksFor_iff :
  q.AsksFor v ↔ v.interval.Overlaps q.range ∧ q.Admits v
  := by
  have hmachine : v.toJson.field? "machine_id" = some (.optStr v.machineId) := rfl
  have hworkstation : v.toJson.field? "workstation_id" = some (.optStr v.workstationId) := rfl
  have horder : v.toJson.field? "order_id" = some (.optInt v.orderId) := rfl
  have hoperation : v.toJson.field? "operation_id" = some (.optStr v.operationId) := rfl
  have hkind : v.toJson.field? "kind" = some (.str (Worded.word v.kind)) := rfl
  have hstatus : v.toJson.field? "status" = some (.str (Worded.word v.status)) := rfl
  have hpriority : v.toJson.field? "priority" = some (.str (Worded.word v.priority)) := rfl
  have harchived : (q.includeArchived = true ∨ v.archivedAt = none)
      ↔ (q.includeArchived = false → v.archivedAt = none) := by
    cases q.includeArchived <;> simp
  simp only [AsksFor, fields, List.forall_mem_cons, List.not_mem_nil, false_implies, implies_true,
    and_true, Option.mem_map, forall_exists_index, and_imp, forall_apply_eq_imp_iff₂, hmachine,
    hworkstation, horder, hoperation, hkind, hstatus, hpriority, Option.some.injEq,
    Json.optStr_eq_str_iff, Json.optInt_eq_int_iff, Json.str.injEq, Worded.word_inj, harchived,
    and_assoc]
  rw [Admits, Interval.Overlaps, and_assoc]
  exact Iff.rfl

instance : Decidable (q.AsksFor v) :=
  decidable_of_iff _ asksFor_iff.symm

theorem check_eq_ok_iff :
  q.check = .ok () ↔
    q.range.IsProper ∧ (given q.machineId = none ∨ given q.workstationId = none)
  := by
  rw [check]
  cases given q.machineId <;> cases given q.workstationId <;>
    by_cases hproper : q.range.IsProper <;> simp [hproper]

end Listing.Query

/-! ### What a listing shows -/

namespace Records

variable {r : Records} {catalog : Catalog} {q : Listing.Query}

/-- A listing shows the views that are asked for. -/
theorem select_perm :
  (r.select catalog q).Perm ((r.events.map catalog.view).filter (q.AsksFor ·))
  := by
  rw [List.filter_map]
  apply List.Perm.map
  apply (sortBy_perm _ _).trans
  apply List.Perm.of_eq
  apply List.filter_congr
  intro e _
  simp only [Function.comp_apply, Listing.Query.asksFor_iff]
  rfl

theorem mem_select_iff {v : EventView} :
  v ∈ r.select catalog q ↔ (∃ e ∈ r.events, v = catalog.view e) ∧ q.AsksFor v
  := by
  rw [select_perm.mem_iff, List.mem_filter, List.mem_map, decide_eq_true_eq]
  simp only [@eq_comm _ v]

/-- Where no two events share an id, a listing shows them strictly in order. -/
theorem IsKeyed.pairwise_select (keyed : r.IsKeyed) :
  (r.select catalog q).Pairwise fun v w => v.rank < w.rank
  := by
  rw [select, List.pairwise_map]
  apply pairwise_sortBy_of_rank Event.listedBefore_iff
  apply List.Nodup.of_map (fun rank => (ofLex rank).2)
  rw [List.map_map]
  apply keyed.sublist (List.filter_sublist.map _)

end Records

/-- A listing is answered by the views that are selected, if the query is in order and none of their
versions is too large to be shown. -/
theorem State.answer_list_iff {s : State} {x : Step} {q : Listing.Query} {views : List EventView}
    (asked : x.request = .list q) (reads : x.conditions.attempt .eventSelect = .ok ()) :
  s.answer x = .ok (.listing views) ↔
    (q.check = .ok () ∧ ∀ n ∈ q.orderId, Storage.Storable n)
      ∧ (∀ v ∈ s.records.select s.catalog q, v.version ≤ Event.lastVersion)
      ∧ views = s.records.select s.catalog q
  := by
  simp only [answer, asked, perform, map_eq_ok_iff, Answer.listing.injEq, Records.list_eq_ok_iff,
    reads, true_and]
  constructor
  · rintro ⟨vs, ⟨hcheck, storable, shown, rfl⟩, rfl⟩
    exact ⟨⟨hcheck, storable⟩, shown, rfl⟩
  · rintro ⟨⟨hcheck, storable⟩, shown, rfl⟩
    exact ⟨_, ⟨hcheck, storable, shown, rfl⟩, rfl⟩

theorem State.exists_listing_iff {s : State} {x : Step} {q : Listing.Query}
    (asked : x.request = .list q) (reads : x.conditions.attempt .eventSelect = .ok ()) :
  (∃ views, s.answer x = .ok (.listing views)) ↔
    (q.check = .ok () ∧ ∀ n ∈ q.orderId, Storage.Storable n)
      ∧ ∀ v ∈ s.records.select s.catalog q, v.version ≤ Event.lastVersion
  := by
  simp only [answer_list_iff asked reads, exists_and_left, exists_eq, and_true]

/-- A listing is exact.  Where its range is proper, it asks for at most one resource and for an
order that the storage can hold, a listing is answered exactly if the versions of the events that it
asks for are integers of 64 bits.  It shows their views, which are those that are found under their
ids, each once, in the order of their starts and then of their ids; and these are the rows of the
joined tables that pass the filters, of which it shows the total. -/
theorem State.listing_is_exact {s : State} {x : Step} {q : Listing.Query}
    (asked : x.request = .list q) (reads : x.conditions.attempt .eventSelect = .ok ())
    (proper : q.range.IsProper) (single : given q.machineId = none ∨ given q.workstationId = none)
    (storable : ∀ n ∈ q.orderId, Storage.Storable n) (keyed : s.records.IsKeyed) :
  ((∃ views, s.answer x = .ok (.listing views))
      ↔ ∀ e ∈ s.records.events, q.AsksFor (s.catalog.view e) → e.version ≤ Event.lastVersion)
    ∧ ∀ views, s.answer x = .ok (.listing views) →
      (∀ v, v ∈ views ↔ (∃ e ∈ s.records.events, v = s.catalog.view e) ∧ q.AsksFor v)
      ∧ (∀ v ∈ views, s.records.view x.conditions s.catalog v.id = .ok (some v))
      ∧ views.Pairwise (fun v w => v.rank < w.rank)
      ∧ (Answer.listing views).toJson.field? "items" = some (.arr (views.map EventView.toJson))
      ∧ (Answer.listing views).toJson.field? "total" = some (.int views.length)
      ∧ (s.catalog.IsKeyed →
        views.Perm ((s.records.joins s.catalog).filter (q.AsksFor ·))
          ∧ views.length = (s.records.joins s.catalog).countP (q.AsksFor ·))
  := by
  have valid : q.check = .ok () ∧ ∀ n ∈ q.orderId, Storage.Storable n :=
    ⟨Listing.Query.check_eq_ok_iff.mpr ⟨proper, single⟩, storable⟩
  constructor
  · rw [exists_listing_iff asked reads, and_iff_right valid]
    simp only [Records.mem_select_iff]
    constructor
    · intro shown e he hasked
      apply shown (s.catalog.view e) ⟨⟨e, he, rfl⟩, hasked⟩
    · rintro counted v ⟨⟨e, he, rfl⟩, hasked⟩
      apply counted e he hasked
  · intro views answered
    obtain ⟨-, shown, rfl⟩ := (answer_list_iff asked reads).mp answered
    refine ⟨fun v => Records.mem_select_iff, ?_, keyed.pairwise_select, rfl, rfl, ?_⟩
    · intro v hv
      obtain ⟨⟨e, he, rfl⟩, -⟩ := Records.mem_select_iff.mp hv
      apply Records.view_of_found reads (keyed.event?_of_mem he) (shown _ hv)
    · intro primary
      rw [Records.joins_eq primary, List.countP_eq_length_filter]
      exact ⟨Records.select_perm, Records.select_perm.length_eq⟩

namespace Sample

/-- The first order has three events, one of which takes it from its operation and one of which is
archived; there is one of an order that the catalog does not list, and a later one. -/
def mixed : State :=
  { state with
    records :=
      { events :=
          [ { event "second" 9 11 with operationId := some "turn" },
            { event "first" 9 10 with orderId := some 1 },
            { event "third" 8 12 with orderId := some 7 },
            { event "fourth" 8 9 with orderId := some 1, archivedAt := some (hour 1) },
            { event "fifth" 12 13 with orderId := some 1 } ] } }

/-- What is to be done for the first order before noon, on whatever machine. -/
def morning : Listing.Query where
  range := ⟨hour 8, hour 12⟩
  machineId := some ""
  orderId := some 1

theorem isKeyed_catalog :
  catalog.IsKeyed
  := by
  constructor <;> decide

theorem isKeyed_mixed :
  mixed.records.IsKeyed
  := by
  rw [Records.IsKeyed]
  decide

end Sample

/-- Two events are to be done for the first order before noon. -/
theorem State.listing_of_mixed :
  ∃ views, Sample.mixed.answer (Sample.step 2 (.list Sample.morning)) = .ok (.listing views)
    ∧ views.map (·.id) = ["first", "second"]
    ∧ (∀ v ∈ views, Sample.morning.AsksFor v)
    ∧ views.Perm
      ((Sample.mixed.records.joins Sample.mixed.catalog).filter (Sample.morning.AsksFor ·))
  := by
  obtain ⟨hanswered, hexact⟩ := @listing_is_exact Sample.mixed
    (Sample.step 2 (.list Sample.morning)) Sample.morning rfl rfl (by decide) (by decide)
    (by decide) Sample.isKeyed_mixed
  obtain ⟨views, hviews⟩ := hanswered.mpr (by decide +kernel)
  obtain ⟨hmem, -, -, -, -, hjoins⟩ := hexact views hviews
  refine ⟨views, hviews, ?_, fun v hv => ((hmem v).mp hv).2, (hjoins Sample.isKeyed_catalog).1⟩
  cases hviews
  decide +kernel

end Workshop
