import Workshop.Proofs.Additions
import Workshop.Proofs.Exclusion
import Workshop.Proofs.Tokens

/-!
# Conflicts and the calendar

The events that stand in the way of a booking are among those that the calendar of the resource
shows for the same time.  `Records.clashes_eq` says that the report of a conflict is what is left of
the calendar when the events that do not mind are taken out, shortened to the first of them, and
`State.clashes_are_on_the_agenda` that this is what the two requests are answered.
-/

namespace Workshop

/-! ### The agenda of a resource -/

/-- The query for the events of the resource that overlap the interval, but for those that are
archived. -/
def Resource.agenda (resource : Resource) (span : Interval) : Listing.Query where
  range := span
  machineId := resource.machineId?
  workstationId := resource.workstationId?

namespace EventView

/-- Whether the event minds overlaps, and is not the one that is left out. -/
def Hinders (v : EventView) (exclude : Option String) : Prop :=
  v.allowOverlap = false ∧ exclude ≠ some v.id

instance (v : EventView) (exclude : Option String) : Decidable (v.Hinders exclude) :=
  inferInstanceAs (Decidable (_ ∧ _))

/-- What a refusal reports of the event. -/
def clash (v : EventView) : Clash :=
  ⟨v.id, v.start, v.stop, v.title, v.orderNumber⟩

end EventView

/-- Events are listed by start, and by id among those that start together. -/
def Event.rank (e : Event) : ℕ ×ₗ String :=
  toLex (e.start.micros, e.id)

theorem Event.listedBefore_iff (a b : Event) :
  a.listedBefore b = true ↔ a.rank ≤ b.rank
  := by
  simp [listedBefore, rank, Prod.Lex.le_iff, Instant.lt_iff, Instant.ext_iff]

section

variable {resource : Resource} {span : Interval} {exclude : Option String} {catalog : Catalog}

/-- The agenda of a resource has the events that book it and are not archived. -/
theorem Resource.admits_agenda_iff {e : Event} (hid : resource.id ≠ "") :
  (resource.agenda span).Admits (catalog.view e) ↔ resource.IsBookedBy e ∧ e.archivedAt = none
  := by
  cases hk : resource.kind <;>
    simp [Listing.Query.Admits, agenda, machineId?, workstationId?, hk, hid, IsBookedBy,
      Catalog.view, given]

theorem Resource.check_agenda (proper : span.IsProper) :
  (resource.agenda span).check = .ok ()
  := by
  cases hk : resource.kind <;>
    simp [Listing.Query.check, agenda, machineId?, workstationId?, hk, proper, given]

namespace Records

variable {r : Records}

/-- What stands in the way of a booking is what is left of the agenda when the events that do not
hinder it are taken out. -/
theorem filter_select (hid : resource.id ≠ "") (named : exclude ≠ some "") :
  (r.select catalog (resource.agenda span)).filter (·.Hinders exclude)
    = (r.blockers resource span exclude).map catalog.view
  := by
  obtain ⟨trans, total⟩ := trans_and_total_of_rank Event.listedBefore_iff
  have hgiven : given exclude = exclude := by
    cases exclude with
    | none => rfl
    | some id => exact given_eq_some.mpr ⟨rfl, fun h => named (congrArg some h)⟩
  rw [select, List.filter_map, filter_sortBy _ trans total, List.filter_filter, blockers]
  congr 2
  apply List.filter_congr
  intro e _
  rw [Bool.eq_iff_iff, Bool.and_eq_true]
  simp only [Function.comp_apply, decide_eq_true_eq, Resource.admits_agenda_iff hid, hgiven]
  constructor
  · rintro ⟨⟨hallow, hleft⟩, hoverlaps, hbooked, hopen⟩
    exact ⟨⟨hbooked, hopen, hallow, hoverlaps⟩, hleft⟩
  · rintro ⟨⟨hbooked, hopen, hallow, hoverlaps⟩, hleft⟩
    exact ⟨⟨hallow, hleft⟩, hoverlaps, hbooked, hopen⟩

/-- The report of a conflict has the first events of the agenda that hinder the booking. -/
theorem clashes_eq (hid : resource.id ≠ "") (named : exclude ≠ some "") :
  r.clashes catalog resource span exclude
    = (((r.select catalog (resource.agenda span)).filter (·.Hinders exclude)).take 25).map
      EventView.clash
  := by
  rw [filter_select hid named, List.map_take, List.map_map, clashes, List.map_take]
  rfl

/-- No event is reported twice, and each with the number of the order that its view shows. -/
theorem IsKeyed.clashes (keyed : r.IsKeyed) :
  ((r.clashes catalog resource span exclude).map (·.eventId)).Nodup
    ∧ ∀ k ∈ r.clashes catalog resource span exclude, ∃ e, r.event? k.eventId = some e
      ∧ k.orderNumber = (catalog.view e).orderNumber
  := by
  constructor
  · have hblockers : ((r.blockers resource span exclude).map (·.id)).Nodup := by
      apply ((sortBy_perm _ _).map _).nodup_iff.mpr
      apply keyed.sublist (List.filter_sublist.map _)
    rw [Records.clashes, List.map_map]
    apply hblockers.sublist ((List.take_sublist _ _).map _)
  · intro k hk
    obtain ⟨e, he, rfl⟩ := List.mem_map.mp hk
    obtain ⟨hmem, -⟩ := mem_blockers_iff.mp (List.mem_of_mem_take he)
    use e, keyed.event?_of_mem hmem
    rfl

end Records

end

/-- The report of a conflict and the calendar agree.  The events that are reported to be in the way
of a booking are the first 25 of those that a listing for the same resource and time shows, but for
those that allow overlaps and the one that is left out: so none is reported exactly if the listing
shows none.  If no two events share an id, none is reported twice, and each is reported with the
number of the order that its view shows.  The listing fails only for an event whose version is no
integer of 64 bits. -/
theorem State.clashes_are_on_the_agenda {s : State} {x y : Step} {resource : Resource}
    {span : Interval} {exclude : Option String}
    (asked : x.request = .clashes resource span exclude)
    (listed : y.request = .list (resource.agenda span))
    (reads : x.conditions.attempt .eventSelect = .ok ())
    (reads' : y.conditions.attempt .eventSelect = .ok ())
    (hid : resource.id ≠ "") (proper : span.IsProper) (named : exclude ≠ some "") :
  ∃ clashes, s.answer x = .ok (.clashes clashes)
    ∧ (∀ views, s.answer y = .ok (.listing views) →
      clashes = ((views.filter (·.Hinders exclude)).take 25).map EventView.clash
        ∧ (clashes = [] ↔ ∀ v ∈ views, ¬ v.Hinders exclude))
    ∧ (s.records.IsKeyed → (clashes.map (·.eventId)).Nodup
      ∧ ∀ k ∈ clashes, ∃ e, s.records.event? k.eventId = some e
        ∧ k.orderNumber = (s.catalog.view e).orderNumber)
    ∧ ((∀ e ∈ s.records.events, e.version ≤ Event.lastVersion) →
      ∃ views, s.answer y = .ok (.listing views))
  := by
  simp only [answer, asked, listed, perform]
  use s.records.clashes s.catalog resource span exclude
  refine ⟨?_, ?_, fun keyed => keyed.clashes, ?_⟩
  · apply map_eq_ok_iff.mpr ⟨_, Records.findClashes_eq_ok_iff.mpr ⟨reads, rfl⟩, rfl⟩
  · intro views hviews
    obtain ⟨vs, hvs, heq⟩ := map_eq_ok_iff.mp hviews
    cases heq
    obtain ⟨-, -, -, -, rfl⟩ := Records.list_eq_ok_iff.mp hvs
    rw [Records.clashes_eq hid named]
    use rfl
    simp
  · intro countable
    use s.records.select s.catalog (resource.agenda span)
    apply map_eq_ok_iff.mpr ⟨_, Records.list_eq_ok_iff.mpr _, rfl⟩
    refine ⟨Resource.check_agenda proper, by simp [Resource.agenda], reads', ?_, rfl⟩
    intro v hv
    obtain ⟨e, he, rfl⟩ := List.mem_map.mp hv
    apply countable e (List.mem_of_mem_filter ((mem_sortBy _).mp he))

namespace Sample

/-- The lathe is booked by four events, one of which allows overlaps, and another one of which takes
its order from its operation. -/
def busy : State :=
  { state with
    records :=
      { events :=
          [ event "fourth" 10 13,
            { event "third" 9 11 with operationId := some "turn" },
            { event "second" 11 14 with allowOverlap := true },
            event "first" 8 12 ] } }

/-- The time for which the fourth event books the lathe. -/
def forenoon : Interval :=
  ⟨hour 10, hour 13⟩

/-- What stands in the way of the fourth event. -/
def hindrances : List Clash :=
  [ ⟨"first", hour 8, hour 12, "Shaft", none⟩,
    ⟨"third", hour 9, hour 11, "Shaft", some "MO-1"⟩ ]

end Sample

/-- All four events are on the agenda, but only two of them are reported. -/
theorem State.clashes_of_busy :
  Sample.busy.answer (Sample.step 1 (.clashes Sample.lathe Sample.forenoon (some "fourth")))
      = .ok (.clashes Sample.hindrances)
    ∧ ∃ views, Sample.busy.answer (Sample.step 2 (.list (Sample.lathe.agenda Sample.forenoon)))
        = .ok (.listing views)
      ∧ views.length = 4
      ∧ Sample.hindrances
        = ((views.filter (·.Hinders (some "fourth"))).take 25).map EventView.clash
  := by
  obtain ⟨clashes, hclashes, hviews, -, hlists⟩ := @clashes_are_on_the_agenda Sample.busy
    (Sample.step 1 (.clashes Sample.lathe Sample.forenoon (some "fourth")))
    (Sample.step 2 (.list (Sample.lathe.agenda Sample.forenoon))) Sample.lathe Sample.forenoon
    (some "fourth") rfl rfl rfl rfl (by decide) (by decide) (by decide)
  have answered : Sample.busy.answer
        (Sample.step 1 (.clashes Sample.lathe Sample.forenoon (some "fourth")))
      = .ok (.clashes Sample.hindrances) := by
    decide +kernel
  rw [answered] at hclashes
  cases hclashes
  obtain ⟨views, hlisted⟩ := hlists (by decide)
  refine ⟨answered, views, hlisted, ?_, (hviews views hlisted).1⟩
  cases hlisted
  decide +kernel

end Workshop
