import Workshop.Proofs.History
import Workshop.Proofs.Refusals

/-!
# No update is lost

What a client remembers of an event, its stamp or its version, was shown by an answer.  A patch that
carries it goes through only if nobody has changed the event since, and is not refused as stale if
nobody has: `State.no_lost_update`.
-/

namespace Workshop

/-! ### What answers show -/

/-- Whether the answer shows the view of an event. -/
def Answer.Shows (v : EventView) : Answer → Prop
  | .event w => v = w
  | .detail d => v = d.event
  | .listing vs => v ∈ vs
  | _ => False

theorem EventView.requireShowable_eq_ok_iff {v : EventView} :
  v.requireShowable = .ok () ↔ v.version ≤ Event.lastVersion
  := by
  simp only [requireShowable]
  split <;> simp_all

/-- Whether the view is that of the event stored under its id, with a version that is an integer of
64 bits. -/
def Records.Displays (r : Records) (catalog : Catalog) (v : EventView) : Prop :=
  (∃ e, r.event? v.id = some e ∧ v = catalog.view e) ∧ v.version ≤ Event.lastVersion

namespace Records

variable {r : Records} {c : Conditions} {catalog : Catalog} {id : String} {v : EventView}

theorem of_view (h : r.view c catalog id = .ok (some v)) :
  (∃ e, r.event? id = some e ∧ v = catalog.view e) ∧ v.version ≤ Event.lastVersion
  := by
  simp only [view, check_bind_eq_ok_iff, return_eq_ok_iff] at h
  obtain ⟨-, hshow, hv⟩ := h
  constructor
  · obtain ⟨e, he, rfl⟩ := Option.map_eq_some_iff.mp hv.symm
    exact ⟨e, he, rfl⟩
  · rw [forM_eq_ok_iff] at hshow
    apply EventView.requireShowable_eq_ok_iff.mp
    apply hshow
    rw [← hv]
    apply List.mem_singleton_self

theorem displays_of_view (h : r.view c catalog id = .ok (some v)) :
  r.Displays catalog v
  := by
  obtain ⟨⟨e, he, rfl⟩, hversion⟩ := of_view h
  refine ⟨⟨e, ?_, rfl⟩, hversion⟩
  rw [Catalog.id_view, id_of_event? he]
  apply he

theorem view_of_reload (h : r.reload c catalog id = .ok v) :
  r.view (c.during .reload) catalog id = .ok (some v)
  := by
  obtain ⟨found, hview, h⟩ := bind_eq_ok_iff.mp h
  cases found with
  | none => cases h
  | some w =>
    cases h
    apply hview

theorem displays_of_reload (h : r.reload c catalog id = .ok v) :
  r.Displays catalog v
  := by
  apply displays_of_view (view_of_reload h)

theorem displays_of_detail {d : EventDetail} (h : r.detail c catalog id = .ok d) :
  r.Displays catalog d.event
  := displays_of_view (detail_eq_ok_iff.mp h).1

theorem list_eq_ok_iff {q : Listing.Query} {vs : List EventView} :
  r.list c catalog q = .ok vs ↔
    q.check = .ok () ∧ (∀ n ∈ q.orderId, Storage.Storable n) ∧ c.attempt .eventSelect = .ok ()
      ∧ (∀ v ∈ r.select catalog q, v.version ≤ Event.lastVersion) ∧ vs = r.select catalog q
  := by
  simp only [list, check_bind_eq_ok_iff, mapError_eq_ok_iff, requireStorable_eq_ok_iff,
    forM_eq_ok_iff, EventView.requireShowable_eq_ok_iff, return_eq_ok_iff]

theorem displays_of_list {q : Listing.Query} {vs : List EventView} (keyed : r.IsKeyed)
    (h : r.list c catalog q = .ok vs) (hv : v ∈ vs) :
  r.Displays catalog v
  := by
  obtain ⟨-, -, -, hshown, rfl⟩ := list_eq_ok_iff.mp h
  refine ⟨?_, hshown v hv⟩
  obtain ⟨e, he, rfl⟩ := List.mem_map.mp hv
  have hmem : e ∈ r.events := by
    apply List.mem_of_mem_filter ((mem_sortBy _).mp he)
  use e, keyed.event?_of_mem hmem

end Records

/-- What an answer shows of an event is stored when it is given. -/
theorem State.displays_of_answer {s : State} {x : Step} {a : Answer} {v : EventView}
    (keyed : s.records.IsKeyed) (h : s.answer x = .ok a) (hv : a.Shows v) :
  (s.after x).records.Displays s.catalog v
  := by
  obtain ⟨c, context, request⟩ := x
  simp only [answer, after] at *
  cases request with
  | create id d =>
    simp only [perform, withRecords, map_eq_ok_iff] at *
    obtain ⟨w, hw, rfl⟩ := h
    cases hv
    rcases s.records.create_cases c context id s.catalog d with ⟨f, hf⟩ | ⟨b, r', -, -, hr⟩
    · simp [hf] at hw
    · rw [hr] at hw ⊢
      apply Records.displays_of_reload hw
  | patch id p tokens =>
    simp only [perform, withRecords, map_eq_ok_iff] at *
    obtain ⟨w, hw, rfl⟩ := h
    cases hv
    rcases s.records.patch_cases c context id s.catalog p tokens with
      ⟨f, hf⟩ | ⟨e, b, r', -, -, -, -, hr⟩
    · simp [hf] at hw
    · rw [hr] at hw ⊢
      apply Records.displays_of_reload hw
  | detail id =>
    simp only [perform, map_eq_ok_iff] at *
    obtain ⟨d, hd, rfl⟩ := h
    cases hv
    apply Records.displays_of_detail hd
  | list q =>
    simp only [perform, map_eq_ok_iff] at *
    obtain ⟨vs, hvs, rfl⟩ := h
    apply Records.displays_of_list keyed hvs hv
  | archive | comment | upload | resources | document | clashes =>
    obtain ⟨_, -, rfl⟩ := map_eq_ok_iff.mp h
    cases hv

/-! ### Tokens that were shown -/

/-- A patch that goes through finds what it remembers of the event to hold. -/
theorem State.fresh_of_patch {s : State} {y : Step} {id : String} {p : EventPatch}
    {tokens : Event.Tokens} {a : Answer} (hy : y.request = .patch id p tokens)
    (h : s.answer y = .ok a) :
  ∃ e, s.records.event? id = some e ∧ tokens.Fresh e
  := by
  obtain ⟨c, context, request⟩ := y
  subst hy
  simp only [answer, perform, withRecords, map_eq_ok_iff] at h
  obtain ⟨w, hw, -⟩ := h
  rcases s.records.patch_cases c context id s.catalog p tokens with
    ⟨f, hf⟩ | ⟨e, b, r', -, hl, -, hwrite, -⟩
  · simp [hf] at hw
  · obtain ⟨-, he, -⟩ := Records.lockOpen_eq_ok_iff.mp hl
    obtain ⟨-, -, -, ⟨-, -, -, hfresh, -⟩, -⟩ := Records.writePatched_eq_ok_iff.mp hwrite
    exact ⟨e, he, hfresh⟩

/-- A patch is refused as stale only if what it remembers of the event does not hold. -/
theorem State.patch_ne_stale {s : State} {y : Step} {id : String} {p : EventPatch}
    {tokens : Event.Tokens} (hy : y.request = .patch id p tokens)
    (fresh : ∀ e, s.records.event? id = some e → tokens.Fresh e) :
  s.answer y ≠ .error (.refused .stale)
  := by
  obtain ⟨c, context, request⟩ := y
  subst hy
  have hpatch := s.records.patch_ne_stale c s.catalog context id p tokens fresh
  simp only [answer, perform, withRecords]
  cases hp : (s.records.patch c s.catalog context id p tokens).1 with
  | ok v => rintro ⟨⟩
  | error f =>
    rintro ⟨⟩
    apply hpatch.of_error _ hp rfl

/-- A later state of an event that was displayed has another stamp and another version. -/
theorem Event.Older.ne_tokens {e e' : Event} (h : e.Older e') (hv : e.version ≤ lastVersion) :
  e.updatedAt ≠ e'.updatedAt ∧ e.version ≠ e'.version
  := by
  obtain ⟨hstamp, hversion⟩ := h
  constructor
  · intro heq
    rw [heq] at hstamp
    apply Nat.lt_irrefl _ hstamp
  · omega

/-- No update is lost.  Let an answer of a run that starts without events show an event.  If a later
patch remembers the stamp or the version that was shown, and goes through, then no step between the
two has rewritten the event, which is as it was shown.  If a later patch remembers nothing but what
was shown, and no step between the two has rewritten the event, then it is not refused as stale. -/
theorem State.no_lost_update {s : State} {before between : List Step} {x y : Step} {a : Answer}
    {v : EventView} {p : EventPatch} {tokens : Event.Tokens}
    (empty : s.records.events = [])
    (stays : ∀ z ∈ between, z.conditions.vanishes = false)
    (answered : (s.run before).answer x = .ok a) (shown : a.Shows v)
    (patching : y.request = .patch v.id p tokens) :
  ((tokens.updatedAt = some v.updatedAt ∨ tokens.version = some v.version) →
      (∃ b, (s.run (before ++ x :: between)).answer y = .ok b) →
      ¬ (s.run (before ++ [x])).EverRewrites v.id between
        ∧ ∃ e, v = s.catalog.view e
          ∧ (s.run (before ++ [x])).records.event? v.id = some e
          ∧ (s.run (before ++ x :: between)).records.event? v.id = some e)
    ∧ (tokens.Fresh v.toEvent → ¬ (s.run (before ++ [x])).EverRewrites v.id between →
      (s.run (before ++ x :: between)).answer y ≠ .error (.refused .stale))
  := by
  obtain ⟨⟨e, he, hv⟩, hversion⟩ :=
    displays_of_answer (run_isKeyed empty before) answered shown
  rw [catalog_run] at hv
  simp only [run_append, run_cons, run_nil]
  have hstamp : v.updatedAt = e.updatedAt := by
    rw [hv]
    rfl
  have hcount : v.version = e.version := by
    rw [hv]
    rfl
  have hrun := event?_run stays he
  constructor
  · rintro htokens ⟨b, hb⟩
    obtain ⟨e', he', hfresh, hfresh'⟩ := fresh_of_patch patching hb
    rcases hrun with ⟨hsame, hnever⟩ | ⟨e'', hlater, -, holder, -⟩
    · use hnever, e, hv, he
    -- a later state of the event has neither the stamp nor the version that was shown
    · rw [he'] at hlater
      cases hlater
      obtain ⟨hne, hne'⟩ := holder.ne_tokens (by omega)
      rcases htokens with htoken | htoken
      · absurd hne
        rw [← hstamp]
        apply hfresh _ htoken
      · absurd hne'
        rw [← hcount]
        apply hfresh' _ htoken
  · rintro ⟨hfresh, hfresh'⟩ hnever
    apply patch_ne_stale patching
    intro e' he'
    rcases hrun with ⟨hsame, -⟩ | ⟨-, -, -, -, hever⟩
    · rw [hsame] at he'
      cases he'
      use hstamp ▸ hfresh, hcount ▸ hfresh'
    · contradiction

namespace Sample

/-- The lathe is booked. -/
def booking : Step :=
  step 5 (.create "first" (draft 8 12))

/-- What the answer shows of the booking. -/
def shown : EventView :=
  catalog.view
    { event "first" 8 12 with
      title := "Planning"
      createdAt := hour 5
      createdBy := some "user"
      updatedAt := hour 5
      updatedBy := some "user" }

/-- Others comment on the booking and book the lathe themselves. -/
def meanwhile : List Step :=
  [step 4 (.comment "first" "note" "Bring the drawing"), step 4 (.create "second" (draft 12 14))]

/-- The booking is moved, as it was shown. -/
def moving : Step :=
  step 3 <|
    .patch "first" { start := some (hour 7) } { updatedAt := some (hour 5), version := some 1 }

end Sample

/-- Nobody has rewritten the booking meanwhile, so that it can be moved. -/
theorem State.no_lost_update_of_booking :
  ¬ (Sample.state.run [Sample.booking]).EverRewrites "first" Sample.meanwhile
    ∧ (Sample.state.run (Sample.booking :: Sample.meanwhile)).answer Sample.moving
      ≠ .error (.refused .stale)
  := by
  have answered : Sample.state.answer Sample.booking = .ok (.event Sample.shown) := by decide
  have hstays : ∀ z ∈ Sample.meanwhile, z.conditions.vanishes = false := by decide
  obtain ⟨hkept, hfresh⟩ :=
    @no_lost_update Sample.state [] Sample.meanwhile Sample.booking Sample.moving _ _ _ _ rfl
      hstays answered rfl rfl
  obtain ⟨hnever, -⟩ := hkept (.inl rfl) ⟨_, rfl⟩
  exact ⟨hnever, hfresh ⟨by decide, by decide⟩ hnever⟩

end Workshop
