import Workshop.Proofs.Booked

/-!
# What becomes of an event

No two events share an id along a run that starts without events: `State.run_isKeyed`.  As long as
no other client deletes events, an event that is there stays there, and each step either leaves it
as it is or makes it a later state of itself, with a later stamp and a higher version:
`State.event?_after` for one step, and `State.event?_run` for a run.
-/

namespace Workshop

/-! ### Ids -/

namespace Records

variable {r : Records} {e : Event} {id : String}

/-- Whether no two events share an id. -/
def IsKeyed (r : Records) : Prop :=
  (r.events.map (·.id)).Nodup

/-- Where no two events share an id, every event is found under its own. -/
theorem IsKeyed.event?_of_mem (h : r.IsKeyed) (he : e ∈ r.events) :
  r.event? e.id = some e
  := by
  obtain ⟨events, _, _, _, _⟩ := r
  simp only [IsKeyed, event?] at *
  induction events with
  | nil => cases he
  | cons a as ih =>
    rw [List.map_cons, List.nodup_cons] at h
    rcases List.mem_cons.mp he with rfl | hmem
    · simp
    · have hne : a.id ≠ e.id := by
        intro heq
        apply h.1
        rw [heq]
        apply List.mem_map_of_mem hmem
      rw [List.find?_cons_of_neg (by simpa using hne)]
      apply ih h.2 hmem

theorem not_mem_ids_of_event?_none (h : r.event? id = none) :
  id ∉ r.events.map (·.id)
  := by
  intro hmem
  obtain ⟨a, ha, rfl⟩ := List.mem_map.mp hmem
  have := List.find?_eq_none.mp h a ha
  simp at this

theorem ids_replaceEvent (r : Records) (e : Event) :
  (r.replaceEvent e).events.map (·.id) = r.events.map (·.id)
  := by
  simp only [replaceEvent, List.map_map]
  apply List.map_congr_left
  intro a _
  simp only [Function.comp]
  split
  · rename_i h
    rw [h]
  · rfl

theorem IsKeyed.change {s : State} {c : Conditions} {context : Audit.Context} {request : Request}
    (h : s.records.IsKeyed) (change : s.Change c context request r) :
  r.IsKeyed
  := by
  cases change with
  | create _ _ _ absent =>
    simp only [IsKeyed, audited, List.map_append, List.map_cons, List.map_nil]
    rw [← List.concat_eq_append, List.nodup_concat]
    use not_mem_ids_of_event?_none absent
    apply h
  | patch =>
    simp only [IsKeyed, audited, ids_replaceEvent]
    apply h
  | archive =>
    simp only [IsKeyed, audited, ids_replaceEvent]
    apply h
  | archiveAgain => apply h
  | comment => apply h
  | upload => apply h

end Records

/-- Along a run that starts without events, no two events share an id. -/
theorem State.run_isKeyed {s : State} (h : s.records.events = []) (steps : List Step) :
  (s.run steps).records.IsKeyed
  := by
  apply run_records
  · simp [Records.IsKeyed, h]
  · intro t r _ ht x _ hchange
    apply ht.change hchange
  · intro r hr x _
    simp only [Records.IsKeyed, Conditions.commit]
    split
    · apply List.nodup_nil
    · apply hr

/-! ### Later states of an event -/

/-- Whether `e'` has a later stamp than `e` and a higher version.  Only versions that are integers
of 64 bits are compared, as the storage does not count further. -/
def Event.Older (e e' : Event) : Prop :=
  e.updatedAt < e'.updatedAt ∧ min e.version lastVersion < e'.version

namespace Event.Older

variable {e e' e'' : Event}

theorem trans (h : e.Older e') (h' : e'.Older e'') :
  e.Older e''
  := by
  simp only [Event.Older, Instant.lt_iff] at *
  omega

theorem of_next? {now stamp : Instant} (h : Instant.next? e.updatedAt now = some stamp)
    (hstamp : e'.updatedAt = stamp) (hversion : e'.version = nextVersion e.version) :
  e.Older e'
  := by
  constructor
  · rw [hstamp]
    apply (Instant.lt_of_next? h).1
  · rw [hversion, nextVersion]
    split <;> omega

end Event.Older

/-- Whether the last change of the event came at least as many microseconds after its creation as
its version counts changes. -/
def Event.IsPaced (e : Event) : Prop :=
  e.createdAt.micros + (e.version - 1) ≤ e.updatedAt.micros

namespace Event.IsPaced

variable {e e' : Event}

theorem of_isNew {actor : String} {now : Instant} (h : e.IsNew actor now) :
  e.IsPaced
  := by
  rw [Event.IsPaced, h.version, h.createdAt, h.updatedAt]
  omega

/-- The years 1 to 9999 have fewer microseconds than there are versions, so that versions are
counted exactly. -/
theorem nextVersion_eq (h : e.IsPaced) :
  nextVersion e.version = e.version + 1
  := by
  have := e.updatedAt.micros_lt
  simp only [Event.IsPaced] at h
  rw [nextVersion, if_neg]
  simp only [lastVersion]
  omega

theorem of_next? {now stamp : Instant} (h : e.IsPaced)
    (stamped : Instant.next? e.updatedAt now = some stamp) (hcreated : e'.createdAt = e.createdAt)
    (hstamp : e'.updatedAt = stamp) (hversion : e'.version = nextVersion e.version) :
  e'.IsPaced
  := by
  have hlt := Instant.lt_iff.mp (Instant.lt_of_next? stamped).1
  rw [h.nextVersion_eq] at hversion
  simp only [Event.IsPaced, hcreated, hstamp, hversion] at *
  omega

end Event.IsPaced

/-- Whether the request is to patch or to archive the event with the given id. -/
def Request.Targets (id : String) : Request → Prop
  | .patch id' _ _ => id' = id
  | .archive id' => id' = id
  | _ => False

/-- A change leaves an event as it is, unless it patches or archives the event; then the event was
not archived, and becomes a later state of itself. -/
theorem State.Change.event? {s : State} {c : Conditions} {context : Audit.Context}
    {request : Request} {r : Records} {id : String} {e : Event}
    (change : s.Change c context request r) (h : s.records.event? id = some e) :
  (r.event? id = some e ∧ (request.Targets id → r = s.records))
    ∨ ∃ e', r.event? id = some e' ∧ e.archivedAt = none ∧ e.Older e' ∧ request.Targets id
  := by
  cases change with
  | create =>
    left
    refine ⟨?_, False.elim⟩
    simp only [Records.audited, Records.event?, List.find?_append] at *
    rw [h]
    rfl
  | @patch id' p tokens current b stamp _ found isOpen resolved _ stamped _ _ =>
    have hid := EventPatch.id_apply resolved context.actor stamp
    rw [Records.id_of_event? found] at hid
    rw [Records.event?_audited, Records.event?_replaceEvent, hid]
    by_cases hx : id = id'
    · subst hx
      rw [found] at h
      cases h
      right
      use p.apply e b.event context.actor stamp
      rw [if_pos rfl, found]
      exact ⟨rfl, isOpen, Event.Older.of_next? stamped rfl rfl, rfl⟩
    · left
      rw [if_neg hx]
      exact ⟨h, fun heq => absurd heq.symm hx⟩
  | @archive id' current stamp found isOpen stamped _ =>
    rw [Records.event?_audited, Records.event?_replaceEvent, Event.id_archive,
      Records.id_of_event? found]
    by_cases hx : id = id'
    · subst hx
      rw [found] at h
      cases h
      right
      use e.archive context.actor stamp
      rw [if_pos rfl, found]
      exact ⟨rfl, isOpen, Event.Older.of_next? stamped rfl rfl, rfl⟩
    · left
      rw [if_neg hx]
      exact ⟨h, fun heq => absurd heq.symm hx⟩
  | archiveAgain =>
    left
    use h
    intro
    rfl
  | comment =>
    left
    use h
    apply False.elim
  | upload =>
    left
    use h
    apply False.elim

namespace State

variable {s : State} {id : String} {e : Event}

/-- Whether the step patches or archives the event with the given id, and commits it. -/
def Rewrites (s : State) (id : String) (x : Step) : Prop :=
  x.request.Targets id ∧ (s.after x).records ≠ s.records

/-- Whether some of the steps patches or archives the event with the given id, and commits it. -/
def EverRewrites (s : State) (id : String) : List Step → Prop
  | [] => False
  | x :: xs => s.Rewrites id x ∨ (s.after x).EverRewrites id xs

/-- A step leaves an event as it is, unless it rewrites it; then the event was not archived, and
becomes a later state of itself. -/
theorem event?_after {x : Step} (stays : x.conditions.vanishes = false)
    (h : s.records.event? id = some e) :
  ((s.after x).records.event? id = some e ∧ ¬ s.Rewrites id x)
    ∨ ∃ e', (s.after x).records.event? id = some e' ∧ e.archivedAt = none ∧ e.Older e'
      ∧ s.Rewrites id x
  := by
  rcases s.after_cases x with hr | ⟨r, change, hr⟩
  · left
    rw [hr]
    use h
    intro hx
    apply hx.2 hr
  · rw [Conditions.commit_of_stays stays] at hr
    rcases change.event? h with ⟨he, heq⟩ | ⟨e', he', hopen, holder, htarget⟩
    · left
      rw [hr]
      use he
      intro hx
      apply hx.2
      rw [hr, heq hx.1]
    · right
      rw [← hr] at he'
      use e', he', hopen, holder, htarget
      intro heq
      rw [heq, h] at he'
      cases he'
      apply Nat.lt_irrefl _ holder.1

/-- A run leaves an event as it is, unless it rewrites it; then the event was not archived, and
becomes a later state of itself. -/
theorem event?_run {steps : List Step} (stays : ∀ x ∈ steps, x.conditions.vanishes = false)
    (h : s.records.event? id = some e) :
  ((s.run steps).records.event? id = some e ∧ ¬ s.EverRewrites id steps)
    ∨ ∃ e', (s.run steps).records.event? id = some e' ∧ e.archivedAt = none ∧ e.Older e'
      ∧ s.EverRewrites id steps
  := by
  induction steps generalizing s e with
  | nil =>
    left
    exact ⟨h, False.elim⟩
  | cons x xs ih =>
    have hxs : ∀ y ∈ xs, y.conditions.vanishes = false := by
      intro y hy
      apply stays y (List.mem_cons_of_mem x hy)
    rw [run_cons]
    rcases event?_after (stays x List.mem_cons_self) h with
      ⟨he, hx⟩ | ⟨e₁, he, hopen, holder, hx⟩
    · rcases ih hxs he with ⟨he', hrest⟩ | ⟨e', he', hopen, holder, hrest⟩
      · left
        use he'
        rintro (hx' | hrest')
        · apply hx hx'
        · apply hrest hrest'
      · right
        use e', he', hopen, holder
        right
        apply hrest
    · right
      rcases ih hxs he with ⟨he', -⟩ | ⟨e', he', -, holder', -⟩
      · use e₁, he', hopen, holder
        left
        apply hx
      · use e', he', hopen, holder.trans holder'
        left
        apply hx

end State

end Workshop
