import Workshop.Proofs.Listed

/-!
# Paging the calendar

The listing of a part of a range is what the listing of the range shows of it:
`Records.select_within`.  So two pages that adjoin each other show together just what a listing of
both shows, and only the events that straddle the instant between them stand on both:
`State.pages_lose_nothing`.
-/

namespace Workshop

/-! ### Parts of a range -/

namespace Interval

variable {i : Interval} {start middle stop : Instant} (before : start < middle)
  (after : middle < stop)

include before after

/-- A proper interval overlaps two ranges that adjoin each other together exactly if it overlaps one
of them. -/
theorem overlaps_adjoined_iff (proper : i.IsProper) :
  i.Overlaps ⟨start, stop⟩ ↔ i.Overlaps ⟨start, middle⟩ ∨ i.Overlaps ⟨middle, stop⟩
  := by
  simp only [Overlaps, IsProper, Instant.lt_iff] at *
  omega

/-- An interval overlaps both of two ranges that adjoin each other exactly if it straddles the
instant between them. -/
theorem overlaps_both_iff :
  i.Overlaps ⟨start, middle⟩ ∧ i.Overlaps ⟨middle, stop⟩ ↔ i.start < middle ∧ middle < i.stop
  := by
  simp only [Overlaps, Instant.lt_iff] at *
  omega

end Interval

/-- Where each element of a list satisfies one of two properties, those that satisfy both are
counted twice when both are counted. -/
theorem length_add_countP_and {α : Type} {p q : α → Bool} {l : List α}
    (h : ∀ a ∈ l, p a = true ∨ q a = true) :
  l.length + l.countP (fun a => p a && q a) = l.countP p + l.countP q
  := by
  induction l with
  | nil => rfl
  | cons a l ih =>
    obtain ⟨ha, hl⟩ := List.forall_mem_cons.mp h
    simp only [List.length_cons, List.countP_cons]
    have := ih hl
    cases hp : p a <;> cases hq : q a <;> simp [hp, hq] at ha ⊢ <;> omega

/-! ### Pages -/

/-- The query with the same filters for another range. -/
def Listing.Query.within (q : Listing.Query) (span : Interval) : Listing.Query :=
  { q with range := span }

namespace Records

variable {r : Records} {catalog : Catalog} {q : Listing.Query} {v : EventView}

theorem mem_select_within_iff {span : Interval} :
  v ∈ r.select catalog (q.within span) ↔
    (∃ e ∈ r.events, v = catalog.view e) ∧ v.interval.Overlaps span ∧ q.Admits v
  := by
  rw [mem_select_iff, Listing.Query.asksFor_iff]
  rfl

/-- A listing of part of a range shows the events of the whole listing that overlap the part, in the
same order. -/
theorem select_within {span range : Interval}
    (h : ∀ e ∈ r.events, e.interval.Overlaps span → e.interval.Overlaps range) :
  r.select catalog (q.within span)
    = (r.select catalog (q.within range)).filter (·.interval.Overlaps span)
  := by
  obtain ⟨trans, total⟩ := trans_and_total_of_rank Event.listedBefore_iff
  rw [select, select, List.filter_map, filter_sortBy _ trans total, List.filter_filter]
  congr 2
  apply List.filter_congr
  intro e he
  rw [Bool.eq_iff_iff, Bool.and_eq_true]
  simp only [Function.comp_apply, decide_eq_true_eq]
  constructor
  · rintro ⟨hspan, hadmits⟩
    exact ⟨hspan, h e he hspan, hadmits⟩
  · rintro ⟨hspan, -, hadmits⟩
    exact ⟨hspan, hadmits⟩

/-- Where no two events share an id, two listings show the same view under an id. -/
theorem IsKeyed.eq_of_mem_select (keyed : r.IsKeyed) {q' : Listing.Query} {w : EventView}
    (hv : v ∈ r.select catalog q) (hw : w ∈ r.select catalog q') (hid : v.id = w.id) :
  v = w
  := by
  obtain ⟨⟨e, he, rfl⟩, -⟩ := mem_select_iff.mp hv
  obtain ⟨⟨e', he', rfl⟩, -⟩ := mem_select_iff.mp hw
  have hfound := keyed.event?_of_mem he
  rw [show e.id = e'.id from hid, keyed.event?_of_mem he'] at hfound
  cases hfound
  rfl

section

variable {start middle stop : Instant} (before : start < middle) (after : middle < stop)
  (proper : ∀ e ∈ r.events, e.interval.IsProper)

include before after proper

theorem mem_select_adjoined_iff :
  v ∈ r.select catalog (q.within ⟨start, stop⟩) ↔
    v ∈ r.select catalog (q.within ⟨start, middle⟩)
      ∨ v ∈ r.select catalog (q.within ⟨middle, stop⟩)
  := by
  simp only [mem_select_within_iff, ← and_or_left, ← or_and_right]
  apply and_congr_right
  rintro ⟨e, he, rfl⟩
  apply and_congr_left
  intro
  apply Interval.overlaps_adjoined_iff before after (proper e he)

theorem mem_select_both_iff :
  v ∈ r.select catalog (q.within ⟨start, middle⟩)
      ∧ v ∈ r.select catalog (q.within ⟨middle, stop⟩)
    ↔ v ∈ r.select catalog (q.within ⟨start, stop⟩) ∧ v.start < middle ∧ middle < v.stop
  := by
  have hboth := @Interval.overlaps_both_iff v.interval start middle stop before after
  constructor
  · rintro ⟨hearly, hlate⟩
    use (mem_select_adjoined_iff before after proper).mpr (.inl hearly)
    apply hboth.mp
    exact ⟨(mem_select_within_iff.mp hearly).2.1, (mem_select_within_iff.mp hlate).2.1⟩
  · rintro ⟨hall, hstraddles⟩
    obtain ⟨hview, -, hadmits⟩ := mem_select_within_iff.mp hall
    obtain ⟨hearly, hlate⟩ := hboth.mpr hstraddles
    exact ⟨mem_select_within_iff.mpr ⟨hview, hearly, hadmits⟩,
      mem_select_within_iff.mpr ⟨hview, hlate, hadmits⟩⟩

/-- The events that straddle the instant between two pages are counted on both. -/
theorem length_select_adjoined :
  (r.select catalog (q.within ⟨start, stop⟩)).length
      + (r.select catalog (q.within ⟨start, stop⟩)).countP
        (fun v => v.start < middle ∧ middle < v.stop)
    = (r.select catalog (q.within ⟨start, middle⟩)).length
      + (r.select catalog (q.within ⟨middle, stop⟩)).length
  := by
  have hearly := @select_within r catalog q ⟨start, middle⟩ ⟨start, stop⟩ fun e he hspan =>
    (Interval.overlaps_adjoined_iff before after (proper e he)).mpr (.inl hspan)
  have hlate := @select_within r catalog q ⟨middle, stop⟩ ⟨start, stop⟩ fun e he hspan =>
    (Interval.overlaps_adjoined_iff before after (proper e he)).mpr (.inr hspan)
  rw [hearly, hlate, ← List.countP_eq_length_filter, ← List.countP_eq_length_filter,
    ← length_add_countP_and]
  · simp only [← Bool.decide_and, Interval.overlaps_both_iff before after]
    rfl
  · intro v hv
    obtain ⟨⟨e, he, rfl⟩, hoverlaps, -⟩ := mem_select_within_iff.mp hv
    simp only [decide_eq_true_eq]
    apply (Interval.overlaps_adjoined_iff before after (proper e he)).mp hoverlaps

end

end Records

/-- Paging the calendar loses nothing.  Where all events have proper intervals, two pages that
adjoin each other are listed exactly if their ranges together are.  Then the ids on the two pages
together are those that are listed for the whole range; the ids on both pages are those of the
listed events that straddle the instant between the pages; and with these counted once more, the
total of the whole listing is that of the pages. -/
theorem State.pages_lose_nothing {s : State} {x y z : Step} {q : Listing.Query}
    {start middle stop : Instant}
    (whole : x.request = .list (q.within ⟨start, stop⟩))
    (former : y.request = .list (q.within ⟨start, middle⟩))
    (latter : z.request = .list (q.within ⟨middle, stop⟩))
    (reads : ∀ w ∈ [x, y, z], w.conditions.attempt .eventSelect = .ok ())
    (before : start < middle) (after : middle < stop)
    (keyed : s.records.IsKeyed) (proper : ∀ e ∈ s.records.events, e.interval.IsProper) :
  (((∃ all, s.answer x = .ok (.listing all))
        ↔ (∃ early, s.answer y = .ok (.listing early)) ∧ ∃ late, s.answer z = .ok (.listing late))
      ∧ ((given q.machineId = none ∨ given q.workstationId = none) →
        (∀ n ∈ q.orderId, Storage.Storable n) →
        (∀ e ∈ s.records.events, e.version ≤ Event.lastVersion) →
        ∃ all, s.answer x = .ok (.listing all)))
    ∧ ∀ all early late, s.answer x = .ok (.listing all) → s.answer y = .ok (.listing early) →
      s.answer z = .ok (.listing late) →
        (∀ id, id ∈ all.map (·.id) ↔ id ∈ early.map (·.id) ∨ id ∈ late.map (·.id))
        ∧ (∀ id, id ∈ early.map (·.id) ∧ id ∈ late.map (·.id) ↔
          ∃ v ∈ all, v.id = id ∧ v.start < middle ∧ middle < v.stop)
        ∧ all.length + all.countP (fun v => v.start < middle ∧ middle < v.stop)
          = early.length + late.length
  := by
  simp only [List.forall_mem_cons] at reads
  obtain ⟨hx, hy, hz, -⟩ := reads
  have hboth : start < stop := by
    simp only [Instant.lt_iff] at *
    omega
  refine ⟨⟨?_, ?_⟩, ?_⟩
  · simp only [exists_listing_iff whole hx, exists_listing_iff former hy,
      exists_listing_iff latter hz, Listing.Query.check_eq_ok_iff,
      Records.mem_select_adjoined_iff before after proper]
    constructor
    · rintro ⟨⟨⟨-, single⟩, storable⟩, shown⟩
      exact ⟨⟨⟨⟨before, single⟩, storable⟩, fun v hv => shown v (.inl hv)⟩,
        ⟨⟨after, single⟩, storable⟩, fun v hv => shown v (.inr hv)⟩
    · rintro ⟨⟨⟨⟨-, single⟩, storable⟩, hearly⟩, -, hlate⟩
      exact ⟨⟨⟨hboth, single⟩, storable⟩, fun v hv => hv.elim (hearly v) (hlate v)⟩
  · intro single storable counted
    apply (exists_listing_iff whole hx).mpr
    refine ⟨⟨Listing.Query.check_eq_ok_iff.mpr ⟨hboth, single⟩, storable⟩, ?_⟩
    intro v hv
    obtain ⟨⟨e, he, rfl⟩, -⟩ := Records.mem_select_iff.mp hv
    apply counted e he
  · intro all early late hall hearly hlate
    obtain ⟨-, -, rfl⟩ := (answer_list_iff whole hx).mp hall
    obtain ⟨-, -, rfl⟩ := (answer_list_iff former hy).mp hearly
    obtain ⟨-, -, rfl⟩ := (answer_list_iff latter hz).mp hlate
    refine ⟨?_, ?_, Records.length_select_adjoined before after proper⟩
    · intro id
      simp only [List.mem_map, Records.mem_select_adjoined_iff before after proper, or_and_right,
        exists_or]
    · intro id
      simp only [List.mem_map]
      constructor
      · rintro ⟨⟨v, hv, rfl⟩, w, hw, hid⟩
        rw [keyed.eq_of_mem_select hw hv hid] at hw
        obtain ⟨hshown, hstraddles⟩ :=
          (Records.mem_select_both_iff before after proper).mp ⟨hv, hw⟩
        exact ⟨v, hshown, rfl, hstraddles⟩
      · rintro ⟨v, hshown, rfl, hstraddles⟩
        obtain ⟨hv, hw⟩ :=
          (Records.mem_select_both_iff before after proper).mpr ⟨hshown, hstraddles⟩
        exact ⟨⟨v, hv, rfl⟩, v, hw, rfl⟩

/-- From eight to twelve three events are listed, and two of them on both of two pages, as they
straddle ten o'clock, but not the one that ends then. -/
theorem State.pages_of_mixed :
  ∃ all early late,
    Sample.mixed.answer (Sample.step 2 (.list { range := ⟨Sample.hour 8, Sample.hour 12⟩ }))
        = .ok (.listing all)
      ∧ Sample.mixed.answer (Sample.step 3 (.list { range := ⟨Sample.hour 8, Sample.hour 10⟩ }))
        = .ok (.listing early)
      ∧ Sample.mixed.answer (Sample.step 4 (.list { range := ⟨Sample.hour 10, Sample.hour 12⟩ }))
        = .ok (.listing late)
      ∧ late.map (·.id) = ["third", "second"]
      ∧ 3 + 2 = early.length + late.length
  := by
  obtain ⟨⟨hpages, hlisted⟩, hcounts⟩ := @pages_lose_nothing Sample.mixed
    (Sample.step 2 (.list { range := ⟨Sample.hour 8, Sample.hour 12⟩ }))
    (Sample.step 3 (.list { range := ⟨Sample.hour 8, Sample.hour 10⟩ }))
    (Sample.step 4 (.list { range := ⟨Sample.hour 10, Sample.hour 12⟩ }))
    { range := ⟨Sample.hour 0, Sample.hour 1⟩ } _ _ _ rfl rfl rfl (by decide) (by decide)
    (by decide) Sample.isKeyed_mixed (by decide)
  obtain ⟨all, hall⟩ := hlisted (by decide) (by decide) (by decide)
  obtain ⟨⟨early, hearly⟩, late, hlate⟩ := hpages.mp ⟨all, hall⟩
  refine ⟨all, early, late, hall, hearly, hlate, ?_, ?_⟩
  · cases hlate
    decide +kernel
  · rw [← (hcounts all early late hall hearly hlate).2.2]
    cases hall
    decide +kernel

end Workshop
