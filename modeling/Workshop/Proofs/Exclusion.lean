import Workshop.Proofs.Schedule

/-!
# The exclusion rules and the check for conflicts

The storage can be told the rules of `Exclusion.all`, which two rows break if they hold the same
resource and have an instant in common: `Exclusion.IsBrokenBy`.  `Records.conflict_iff_exclusion`
says that a booking breaks one of them together with another event exactly when the check for
conflicts refuses it.  The check leaves an event out by its id, and the empty id stands for none;
so an event without a name is found to be in its own way: `Records.conflict_with_itself`.
-/

namespace Workshop

open Storage

namespace Storage

/-! ### Conditions that select a row -/

namespace Condition

variable {p q : Condition} {row : Row} {column : String}

theorem selects_both_iff :
  (both p q).Selects row ↔ p.Selects row ∧ q.Selects row
  := by
  simp only [Selects, eval]
  rcases p.eval row with _ | _ | _ <;> rcases q.eval row with _ | _ | _ <;> simp [andThen]

theorem selects_isNull_iff :
  (isNull column).Selects row ↔ row column = .null
  := by
  simp [Selects, eval]

theorem selects_isNotNull_iff :
  (isNotNull column).Selects row ↔ row column ≠ .null
  := by
  simp [Selects, eval]

theorem selects_isNotTrue_iff :
  (isNotTrue column).Selects row ↔ (row column).isTrue = false
  := by
  simp [Selects, eval]

end Condition

/-! ### Rules that two rows break -/

/-- Whether the row's range of time holds the instant: from its start up to but not including its
end. -/
def Row.Covers (row : Row) (i : Instant) : Prop :=
  ∃ start stop, row "start_time_utc" = .moment start ∧ row "end_time_utc" = .moment stop
    ∧ start ≤ i ∧ i < stop

/-- Whether two rows break the rule: it selects both, they hold the same value in its column, and
their ranges of time have an instant in common. -/
def Exclusion.IsBrokenBy (x : Exclusion) (row other : Row) : Prop :=
  (x.guard.Selects row ∧ x.guard.Selects other) ∧ row x.column = other x.column
    ∧ ∃ i, row.Covers i ∧ other.Covers i

@[simp]
theorem Exclusion.column_ofColumn (column : String) :
  (ofColumn column).column = column
  := rfl

end Storage

namespace Event

variable {a b e : Event} {i : Instant} {x : Exclusion} {resource : Resource}

/-- Whether the event passes the checks of its table. -/
def IsChecked (e : Event) : Prop :=
  ∀ check ∈ Tables.planningEvents.checks, ¬ check.condition.Refuses e.row

/-- A checked event has a proper interval. -/
theorem isProper_of_isChecked (h : e.IsChecked) :
  e.interval.IsProper
  := by
  have hcheck : ¬ some (decide (e.start < e.stop)) = some false :=
    h Tables.intervalCheck List.mem_cons_self
  simpa [interval, Interval.IsProper] using hcheck

theorem row_machineId (e : Event) :
  e.row "machine_id" = .ofOption .text e.machineId
  := rfl

theorem row_workstationId (e : Event) :
  e.row "workstation_id" = .ofOption .text e.workstationId
  := rfl

/-- An event that books one resource for a proper interval is checked. -/
theorem isChecked_of_books (proper : e.interval.IsProper) (books : e.Books resource) :
  e.IsChecked
  := by
  intro check hcheck
  simp only [Tables.planningEvents, List.mem_cons, List.not_mem_nil, or_false] at hcheck
  rcases hcheck with rfl | rfl
  · change ¬ some (decide (e.start < e.stop)) = some false
    simpa [interval, Interval.IsProper] using proper
  · obtain ⟨hm, hw⟩ := books
    simp only [Condition.Refuses, Condition.eval, Tables.singleResourceCheck, row_machineId,
      row_workstationId, hm, hw]
    cases hk : resource.kind <;>
      simp [Resource.machineId?, Resource.workstationId?, hk, Cell.ofOption, Condition.andThen,
        Condition.orElse]

/-- A checked event books one resource for a proper interval.  The id of the resource may be
empty. -/
theorem isChecked_iff :
  e.IsChecked ↔ e.interval.IsProper ∧ ∃ resource, e.Books resource
  := by
  constructor
  · intro h
    use isProper_of_isChecked h
    have hsingle : ¬ Tables.singleResourceCheck.condition.Refuses e.row :=
      h _ (List.mem_cons_of_mem _ List.mem_cons_self)
    simp only [Condition.Refuses, Condition.eval, Tables.singleResourceCheck, row_machineId,
      row_workstationId] at hsingle
    cases hm : e.machineId with
    | none =>
      cases hw : e.workstationId with
      | none => simp [hm, hw, Cell.ofOption, Condition.andThen, Condition.orElse] at hsingle
      | some id => exact ⟨⟨.workstation, id⟩, hm, hw⟩
    | some id =>
      cases hw : e.workstationId with
      | none => exact ⟨⟨.machine, id⟩, hm, hw⟩
      | some id => simp [hm, hw, Cell.ofOption, Condition.andThen, Condition.orElse] at hsingle
  · rintro ⟨proper, resource, books⟩
    apply isChecked_of_books proper books

theorem covers_row_iff :
  e.row.Covers i ↔ e.interval.start ≤ i ∧ i < e.interval.stop
  := by
  constructor
  · rintro ⟨start, stop, ⟨⟩, ⟨⟩, h⟩
    apply h
  · intro h
    exact ⟨e.start, e.stop, rfl, rfl, h⟩

/-- A rule selects the events that book a resource in its column, are not archived and do not allow
overlaps. -/
theorem selects_guard_iff :
  x.guard.Selects e.row ↔
    e.row x.column ≠ .null ∧ e.archivedAt = none ∧ e.allowOverlap = false
  := by
  have harchived : e.row "archived_at" = .null ↔ e.archivedAt = none := by
    change Cell.ofOption .moment e.archivedAt = .null ↔ _
    cases e.archivedAt <;> simp [Cell.ofOption]
  have hallow : e.row "allow_overlap" = .bool e.allowOverlap := rfl
  simp only [Exclusion.guard, Condition.selects_both_iff, Condition.selects_isNotNull_iff,
    Condition.selects_isNull_iff, Condition.selects_isNotTrue_iff, harchived, hallow,
    Cell.isTrue_bool, and_assoc]

/-- Two cells of texts hold the same value if both hold the same text. -/
theorem ofOption_text_eq_iff {m m' : Option String} :
  (Cell.ofOption .text m ≠ .null ∧ Cell.ofOption .text m = Cell.ofOption .text m') ↔
    ∃ t, m = some t ∧ m' = some t
  := by
  cases m <;> cases m' <;> simp [Cell.ofOption, eq_comm]

theorem before?_row_iff :
  (a.row "start_time_utc").before? (b.row "end_time_utc") = some true ↔ a.start < b.stop
  := by
  change some (decide (a.start < b.stop)) = some true ↔ _
  simp

/-- A rule forbids two events that it selects, that book the same resource in its column and whose
intervals overlap. -/
theorem forbids_row_iff :
  x.Forbids a.row b.row ↔
    (a.archivedAt = none ∧ b.archivedAt = none)
      ∧ (a.allowOverlap = false ∧ b.allowOverlap = false)
      ∧ (a.row x.column ≠ .null ∧ a.row x.column = b.row x.column)
      ∧ a.interval.Overlaps b.interval
  := by
  simp only [Exclusion.Forbids, selects_guard_iff, before?_row_iff]
  constructor
  · rintro ⟨⟨-, ha, ha'⟩, ⟨-, hb, hb'⟩, hnull, hsame, hover⟩
    exact ⟨⟨ha, hb⟩, ⟨ha', hb'⟩, ⟨hnull, hsame⟩, hover⟩
  · rintro ⟨⟨ha, hb⟩, ⟨ha', hb'⟩, ⟨hnull, hsame⟩, hover⟩
    exact ⟨⟨hnull, ha, ha'⟩, ⟨hsame ▸ hnull, hb, hb'⟩, hnull, hsame, hover⟩

/-- Two events with proper intervals break a rule exactly when it forbids them. -/
theorem isBrokenBy_iff_forbids (ha : a.interval.IsProper) (hb : b.interval.IsProper) :
  x.IsBrokenBy a.row b.row ↔ x.Forbids a.row b.row
  := by
  rw [forbids_row_iff, Interval.overlaps_iff_exists ha hb]
  simp only [Exclusion.IsBrokenBy, selects_guard_iff, covers_row_iff]
  constructor
  · rintro ⟨⟨⟨hnull, ha, ha'⟩, -, hb, hb'⟩, hsame, hshare⟩
    exact ⟨⟨ha, hb⟩, ⟨ha', hb'⟩, ⟨hnull, hsame⟩, hshare⟩
  · rintro ⟨⟨ha, hb⟩, ⟨ha', hb'⟩, ⟨hnull, hsame⟩, hshare⟩
    exact ⟨⟨⟨hnull, ha, ha'⟩, hsame ▸ hnull, hb, hb'⟩, hsame, hshare⟩

/-- Two events are forbidden by one of the rules exactly when they collide. -/
theorem exists_forbids_iff :
  (∃ x ∈ Exclusion.all, x.Forbids a.row b.row) ↔ a.Collides b
  := by
  simp only [Exclusion.all, List.exists_mem_cons_iff, List.not_mem_nil, false_and, exists_false,
    or_false, forbids_row_iff, Exclusion.column_ofColumn, row_machineId, row_workstationId,
    ofOption_text_eq_iff]
  constructor
  · rintro (⟨hopen, hallow, hm, hover⟩ | ⟨hopen, hallow, hw, hover⟩)
    · exact ⟨hopen, hallow, .inl hm, hover⟩
    · exact ⟨hopen, hallow, .inr hw, hover⟩
  · rintro ⟨hopen, hallow, hm | hw, hover⟩
    · exact .inl ⟨hopen, hallow, hm, hover⟩
    · exact .inr ⟨hopen, hallow, hw, hover⟩

/-- Two events with proper intervals break one of the rules exactly when they collide. -/
theorem exists_isBrokenBy_iff (ha : a.interval.IsProper) (hb : b.interval.IsProper) :
  (∃ x ∈ Exclusion.all, x.IsBrokenBy a.row b.row) ↔ a.Collides b
  := by
  simp only [isBrokenBy_iff_forbids ha hb, exists_forbids_iff]

/-- An event collides with a booking of a resource exactly when it stands in the way of that booking
and the booking itself is not archived and does not allow overlaps. -/
theorem collides_iff_blocks (hb : b.Books resource) :
  a.Collides b ↔
    a.Blocks resource b.interval ∧ b.archivedAt = none ∧ b.allowOverlap = false
  := by
  constructor
  · intro h
    exact ⟨blocks_of_collides hb h, h.1.2, h.2.1.2⟩
  · rintro ⟨⟨hbooked, hopen, hallow, hover⟩, hopen', hallow'⟩
    refine ⟨⟨hopen, hopen'⟩, ⟨hallow, hallow'⟩, ?_, hover⟩
    obtain ⟨hm, hw⟩ := hb
    cases hk : resource.kind <;>
      simp_all [Resource.IsBookedBy, Resource.machineId?, Resource.workstationId?]

end Event

/-! ### The check for conflicts -/

namespace Records

variable {r : Records} {c : Conditions} {catalog : Catalog} {resource : Resource}
  {span : Interval} {allowOverlap : Bool} {exclude : Option String} {e : Event}

/-- Whether the event breaks one of the rules together with another event of the records. -/
def IsExcluded (r : Records) (e : Event) : Prop :=
  ∃ other ∈ r.events, other.id ≠ e.id ∧ ∃ x ∈ Exclusion.all, x.IsBrokenBy e.row other.row

theorem blockers_ne_nil_iff :
  r.blockers resource span exclude ≠ [] ↔
    ∃ a ∈ r.events, a.Blocks resource span ∧ given exclude ≠ some a.id
  := by
  rw [ne_eq, List.eq_nil_iff_forall_not_mem]
  simp only [mem_blockers_iff, not_forall, not_not]

/-- A booking is not blocked if it allows overlaps or if no event but the one called `exclude`
stands in its way. -/
theorem not_blocked_iff :
  ¬ (allowOverlap = false ∧ r.blockers resource span exclude ≠ []) ↔
    allowOverlap = true
      ∨ ∀ a ∈ r.events, given exclude ≠ some a.id → ¬ a.Blocks resource span
  := by
  rw [blockers_ne_nil_iff]
  cases allowOverlap with
  | true => simp
  | false => grind

/-- Where nothing fails, the check refuses a booking that does not allow overlaps if events stand in
its way, and passes any other. -/
theorem requireFree_eq (reads : c.fault = none) (checks : c.skipsCheck = false) :
  r.requireFree c catalog resource span allowOverlap exclude =
    if allowOverlap = false ∧ r.blockers resource span exclude ≠ [] then
      .error (.refused (.conflict (r.clashes catalog resource span exclude)))
    else .ok ()
  := by
  have hfound : r.findClashes (c.during .check) catalog resource span exclude
      = .ok (r.clashes catalog resource span exclude) :=
    findClashes_eq_ok_iff.mpr ⟨Conditions.attempt_during_of_fault_none _ reads _, rfl⟩
  cases allowOverlap with
  | true => simp [requireFree]
  | false =>
    simp only [requireFree, checks, Bool.or_self, Bool.false_eq_true, if_false, hfound, true_and]
    by_cases h : r.blockers resource span exclude = []
    · rw [if_neg (not_not.mpr h), clashes_eq_nil_iff.mpr h]
      rfl
    · have hempty : (r.clashes catalog resource span exclude).isEmpty = false := by
        rw [List.isEmpty_eq_false_iff, ne_eq, clashes_eq_nil_iff]
        apply h
      rw [if_pos h]
      simp [bind, Except.bind, hempty]

/-- Leaving out the events with the id of `e` leaves all others in, unless `e` takes the place of an
event and its id is empty. -/
theorem given_id_ne_iff {a : Event} (named : e.id ≠ "" ∨ ∀ a ∈ r.events, a.id ≠ e.id)
    (ha : a ∈ r.events) :
  given (some e.id) ≠ some a.id ↔ a.id ≠ e.id
  := by
  simp only [ne_eq, given_eq_some, Option.some.injEq, not_and, not_not]
  constructor
  · intro h heq
    rcases named with hne | hfresh
    · rw [← heq] at hne
      apply hne (h heq.symm)
    · apply hfresh a ha heq
  · intro hne heq
    exact absurd heq.symm hne

/-- Among checked events, a booking breaks one of the rules exactly when it does not allow overlaps
and events stand in its way. -/
theorem isExcluded_iff_blockers (checked : ∀ a ∈ r.events, a.IsChecked)
    (isOpen : e.archivedAt = none) (proper : e.interval.IsProper) (books : e.Books resource)
    (named : e.id ≠ "" ∨ ∀ a ∈ r.events, a.id ≠ e.id) :
  r.IsExcluded e ↔
    e.allowOverlap = false ∧ r.blockers resource e.interval (some e.id) ≠ []
  := by
  have hbroken : ∀ a ∈ r.events, (∃ x ∈ Exclusion.all, x.IsBrokenBy e.row a.row)
      ↔ a.Blocks resource e.interval ∧ e.allowOverlap = false := by
    intro a ha
    rw [Event.exists_isBrokenBy_iff proper (Event.isProper_of_isChecked (checked a ha)),
      Event.collides_comm, Event.collides_iff_blocks books]
    simp [isOpen]
  rw [blockers_ne_nil_iff]
  constructor
  · rintro ⟨a, ha, hne, hx⟩
    obtain ⟨hblocks, hallow⟩ := (hbroken a ha).mp hx
    use hallow, a, ha, hblocks, (given_id_ne_iff named ha).mpr hne
  · rintro ⟨hallow, a, ha, hblocks, hleft⟩
    exact ⟨a, ha, (given_id_ne_iff named ha).mp hleft, (hbroken a ha).mpr ⟨hblocks, hallow⟩⟩

/-- The exclusion rules and the check for conflicts are the same rule.  Among events that pass the
checks of their table, a booking that is not archived, whether it is new or takes the place of the
event of the same id, breaks one of the rules together with another event exactly when the check
refuses it, and passes the check otherwise.  If it takes the place of an event, its id must not be
empty. -/
theorem conflict_iff_exclusion (checked : ∀ a ∈ r.events, a.IsChecked)
    (isOpen : e.archivedAt = none) (proper : e.interval.IsProper) (books : e.Books resource)
    (named : e.id ≠ "" ∨ ∀ a ∈ r.events, a.id ≠ e.id)
    (reads : c.fault = none) (checks : c.skipsCheck = false) :
  (r.IsExcluded e ↔
      ∃ clashes, r.requireFree c catalog resource e.interval e.allowOverlap (some e.id)
        = .error (.refused (.conflict clashes)))
    ∧ (¬ r.IsExcluded e ↔
      r.requireFree c catalog resource e.interval e.allowOverlap (some e.id) = .ok ())
  := by
  rw [isExcluded_iff_blockers checked isOpen proper books named, requireFree_eq reads checks]
  split <;> rename_i h <;> simp [h]

end Records

namespace Sample

/-- The lathe. -/
def lathe : Resource :=
  ⟨.machine, "lathe"⟩

/-- The lathe is booked from eight to twelve by an event with the given id, and from eleven to
fourteen by one that allows overlaps. -/
def shared (id : String) : Records :=
  { events := [event id 8 12, { event "second" 11 14 with allowOverlap := true }] }

theorem isChecked_shared (id : String) :
  ∀ a ∈ (shared id).events, a.IsChecked
  := by
  intro a ha
  have hproper : a.interval.IsProper ∧ a.Books lathe := by
    simp only [shared, List.mem_cons, List.not_mem_nil, or_false] at ha
    rcases ha with rfl | rfl
    · exact ⟨(by decide : hour 8 < hour 12), rfl, rfl⟩
    · exact ⟨(by decide : hour 11 < hour 14), rfl, rfl⟩
  apply Event.isChecked_of_books hproper.1 hproper.2

end Sample

/-- To book the lathe from eleven on breaks a rule, but not to move the event that holds it. -/
theorem Records.excluded_third :
  (∀ a ∈ (Sample.shared "first").events, a.IsChecked)
    ∧ (Sample.shared "first").IsExcluded (Sample.event "third" 11 13)
    ∧ ¬ (Sample.shared "first").IsExcluded (Sample.event "first" 11 13)
  := by
  have checked := Sample.isChecked_shared "first"
  have hthird := @conflict_iff_exclusion (Sample.shared "first") { now := Sample.hour 1 }
    Sample.catalog Sample.lathe (Sample.event "third" 11 13) checked rfl (by decide) ⟨rfl, rfl⟩
    (.inl (by decide)) rfl rfl
  have hfirst := @conflict_iff_exclusion (Sample.shared "first") { now := Sample.hour 1 }
    Sample.catalog Sample.lathe (Sample.event "first" 11 13) checked rfl (by decide) ⟨rfl, rfl⟩
    (.inl (by decide)) rfl rfl
  exact ⟨checked, hthird.1.mpr ⟨_, rfl⟩, hfirst.2.mpr rfl⟩

/-- An event without a name is found to be in its own way when it is moved, though it breaks no
rule. -/
theorem Records.conflict_with_itself :
  (∀ a ∈ (Sample.shared "").events, a.IsChecked)
    ∧ (Sample.event "" 11 13).archivedAt = none
    ∧ (Sample.event "" 11 13).interval.IsProper
    ∧ (Sample.event "" 11 13).Books Sample.lathe
    ∧ ¬ (Sample.shared "").IsExcluded (Sample.event "" 11 13)
    ∧ (Sample.shared "").requireFree { now := Sample.hour 1 } Sample.catalog Sample.lathe
        (Sample.event "" 11 13).interval (Sample.event "" 11 13).allowOverlap (some "")
      = .error (.refused (.conflict [⟨"", Sample.hour 8, Sample.hour 12, "Shaft", none⟩]))
  := by
  refine ⟨Sample.isChecked_shared "", rfl, by decide, ⟨rfl, rfl⟩, ?_, rfl⟩
  rintro ⟨other, hmem, hne, hbroken⟩
  simp only [Sample.shared, List.mem_cons, List.not_mem_nil, or_false] at hmem
  rcases hmem with rfl | rfl
  · apply hne
    rfl
  · rw [Event.exists_isBrokenBy_iff (by decide) (by decide)] at hbroken
    obtain ⟨-, ⟨-, hallow⟩, -⟩ := hbroken
    cases hallow

end Workshop
