import Workshop.Proofs.Statement

/-!
# Changes

A `State.Change` is what a request that comes as far as its commit makes of the records, with all
that was checked on the way: one row or one batch of rows is written, together with one entry of
the audit trail, or nothing at all where an archived event is archived once more.
`State.perform_cases` says that a request either leaves the records alone or commits a change.
-/

namespace Workshop

open Storage

/-! ### Batches of documents -/

namespace Attaching

variable {a a' : Attaching} {c : Conditions} {eventId actor : String}

/-- The records of a batch, with the link that is still to be written. -/
def written (a : Attaching) : Records :=
  { a.records with links := a.records.links ++ a.pending.toList }

/-- Storing one file adds its document, which must be new, and its link. -/
theorem written_storeOne {u : Upload} (h : a.storeOne c eventId actor u = .ok a') :
  a.written.document? u.documentId = none
    ∧ a'.written = { a.written with
        documents := a.written.documents ++ [u.document c.now]
        links := a.written.links ++ [u.link eventId actor c.now] }
  := by
  simp only [storeOne] at h
  split at h
  · cases h
  · rename_i path shelf _
    split at h
    · cases h
    · rename_i r₁ h₁
      have hd : a.records.insertDocument (c.during (.file a.stored.length)) (u.document c.now)
          = .ok r₁ := by
        simp only [writeDocument] at h₁
        split at h₁
        · simp [check_bind_eq_ok_iff] at h₁
        · apply h₁
      obtain ⟨-, hnew, rfl⟩ := Records.insertDocument_eq_ok_iff.mp hd
      split at h
      · cases h
      · rename_i r₂ h₂
        cases h
        use hnew
        simp only [writePending] at h₂
        split at h₂
        · rename_i l hl
          obtain ⟨-, -, rfl⟩ := Records.insertLink_eq_ok_iff.mp h₂
          simp [written, hl]
        · rename_i hl
          cases h₂
          simp [written, hl]

/-- Storing a batch adds its documents, which must be new and differ from each other, and its
links. -/
theorem written_storeAll {us : List Upload} (h : storeAll c eventId actor a us = .ok a') :
  (∀ u ∈ us, a.written.document? u.documentId = none)
    ∧ (us.map (·.documentId)).Nodup
    ∧ a'.written = { a.written with
        documents := a.written.documents ++ us.map (·.document c.now)
        links := a.written.links ++ us.map (·.link eventId actor c.now) }
  := by
  induction us generalizing a with
  | nil =>
    cases h
    simp
  | cons u us ih =>
    simp only [storeAll] at h
    split at h
    · rename_i a₁ h₁
      obtain ⟨hu, hw⟩ := written_storeOne h₁
      obtain ⟨hus, hnodup, hw'⟩ := ih h
      rw [hw] at hus hw'
      simp only [Records.document?, List.find?_append, Option.or_eq_none_iff] at hus hu
      refine ⟨?_, ?_, ?_⟩
      · intro v hv
        rcases List.mem_cons.mp hv with rfl | hv
        · apply hu
        · apply (hus v hv).1
      · rw [List.map_cons, List.nodup_cons]
        refine ⟨?_, hnodup⟩
        intro hmem
        obtain ⟨v, hv, hvu⟩ := List.mem_map.mp hmem
        have := (hus v hv).2
        simp [Upload.document, hvu] at this
      · simp [hw']
    · cases h

/-- Writing the pending link adds it, and the records must not hold it already. -/
theorem of_writePending {r : Records} (h : a.writePending c = .ok r) :
  (∀ l ∈ a.pending, a.records.isLinked l.eventId l.documentId = false)
    ∧ r.links = a.records.links ++ a.pending.toList
  := by
  simp only [writePending] at h
  split at h
  · rename_i l hl
    obtain ⟨-, hnew, rfl⟩ := Records.insertLink_eq_ok_iff.mp h
    simpa [hl] using hnew
  · rename_i hl
    cases h
    simp [hl]

/-- Storing one file leaves its link to be written, and writes the link that was left by the file
before it, which the records must not hold already. -/
theorem pending_storeOne {u : Upload} (h : a.storeOne c eventId actor u = .ok a') :
  (∀ l ∈ a.pending, a.records.isLinked l.eventId l.documentId = false)
    ∧ a'.records.links = a.records.links ++ a.pending.toList
    ∧ a'.pending = some (u.link eventId actor c.now)
  := by
  simp only [storeOne] at h
  split at h
  · cases h
  · split at h
    · cases h
    · rename_i r₁ h₁
      have hlinks : r₁.links = a.records.links := by
        simp only [writeDocument] at h₁
        split at h₁
        · simp [check_bind_eq_ok_iff] at h₁
        · obtain ⟨-, -, rfl⟩ := Records.insertDocument_eq_ok_iff.mp h₁
          rfl
      split at h
      · cases h
      · rename_i r₂ h₂
        cases h
        obtain ⟨hfree, hadded⟩ := of_writePending h₂
        simp only [Records.isLinked, hlinks] at hfree hadded
        exact ⟨hfree, hadded, rfl⟩

/-- The link of a file is written behind the next file, or behind the last one.  None of the links
may be there already. -/
theorem unlinked_storeAll {us : List Upload} {c' : Conditions} {r : Records}
    (h : storeAll c eventId actor a us = .ok a') (hr : a'.writePending c' = .ok r) :
  (∀ l ∈ a.pending, a.records.isLinked l.eventId l.documentId = false)
    ∧ ∀ u ∈ us, a.records.isLinked eventId u.documentId = false
  := by
  induction us generalizing a with
  | nil =>
    cases h
    simpa using (of_writePending hr).1
  | cons u us ih =>
    simp only [storeAll] at h
    split at h
    · rename_i a₁ h₁
      obtain ⟨hfree, hlinks, hpending⟩ := pending_storeOne h₁
      obtain ⟨hu, hus⟩ := ih h
      simp only [Records.isLinked, hlinks, List.any_append, Bool.or_eq_false_iff] at hu hus
      refine ⟨hfree, ?_⟩
      intro v hv
      rcases List.mem_cons.mp hv with rfl | hv
      · apply (hu _ hpending).1
      · apply (hus v hv).1
    · cases h

end Attaching

/-! ### What the operations write -/

namespace Records

variable {r r' : Records} {c : Conditions} {catalog : Catalog} {context : Audit.Context}

theorem writeCreated_eq_ok_iff {b : Booking} :
  r.writeCreated c catalog context b = .ok r' ↔
    r.requireFree c catalog b.resource b.event.interval b.event.allowOverlap none = .ok ()
      ∧ (c.attempt .eventInsert = .ok () ∧ (∀ i ∈ b.event.orderId, Storable i)
        ∧ b.event.defect? = none ∧ r.event? b.event.id = none)
      ∧ (c.attempt .auditInsert = .ok () ∧ c.attempt .commit = .ok ())
      ∧ r' = audited { r with events := r.events ++ [b.event] } context (.ofCreated b.event)
          b.event.id c.now
  := by
  rw [writeCreated, check_bind_eq_ok_iff]
  simp only [bind_eq_ok_iff, insertEvent_eq_ok_iff, conclude_eq_ok_iff]
  constructor
  · rintro ⟨hfree, r₁, ⟨hc, hs, hd, hn, rfl⟩, ha, rfl⟩
    exact ⟨hfree, ⟨hc, hs, hd, hn⟩, ha, rfl⟩
  · rintro ⟨hfree, ⟨hc, hs, hd, hn⟩, ha, rfl⟩
    exact ⟨hfree, _, ⟨hc, hs, hd, hn, rfl⟩, ha, rfl⟩

theorem writePatched_eq_ok_iff {p : EventPatch} {tokens : Event.Tokens} {current : Event}
    {b : Booking} :
  r.writePatched c catalog context p tokens current b = .ok r' ↔
    r.requireFree c catalog b.resource b.event.interval b.event.allowOverlap (some current.id)
        = .ok ()
      ∧ ∃ stamp, Instant.next? current.updatedAt c.now = some stamp
        ∧ (c.attempt .eventUpdate = .ok () ∧ (∀ i ∈ p.orderId.join, Storable i)
          ∧ (∀ i ∈ tokens.version, Storable i) ∧ tokens.Fresh current
          ∧ (p.apply current b.event context.actor stamp).defect? = none)
        ∧ (c.attempt .auditInsert = .ok () ∧ c.attempt .commit = .ok ())
        ∧ r' = (r.replaceEvent (p.apply current b.event context.actor stamp)).audited context
            (.update p tokens b.event.snapshot) current.id c.now
  := by
  rw [writePatched, check_bind_eq_ok_iff]
  simp only [bind_eq_ok_iff, Event.nextStamp_eq_ok_iff, updatePatched_eq_ok_iff,
    conclude_eq_ok_iff]
  constructor
  · rintro ⟨hfree, stamp, hstamp, r₁, ⟨hc, ho, hv, ht, hd, rfl⟩, ha, rfl⟩
    exact ⟨hfree, stamp, hstamp, ⟨hc, ho, hv, ht, hd⟩, ha, rfl⟩
  · rintro ⟨hfree, stamp, hstamp, ⟨hc, ho, hv, ht, hd⟩, ha, rfl⟩
    exact ⟨hfree, stamp, hstamp, _, ⟨hc, ho, hv, ht, hd, rfl⟩, ha, rfl⟩

theorem writeArchived_eq_ok_iff {current : Event} :
  r.writeArchived c context current = .ok r' ↔
    ∃ stamp, Instant.next? current.updatedAt c.now = some stamp
      ∧ (c.attempt .eventUpdate = .ok () ∧ current.version ≠ Event.lastVersion
        ∧ (current.archive context.actor stamp).defect? = none)
      ∧ (c.attempt .auditInsert = .ok () ∧ c.attempt .commit = .ok ())
      ∧ r' = (r.replaceEvent (current.archive context.actor stamp)).audited context .archive
          current.id c.now
  := by
  rw [writeArchived, bind_eq_ok_iff]
  simp only [check_bind_eq_ok_iff, Event.nextStamp_eq_ok_iff, Event.requireCountable_eq_ok_iff,
    requireNone_eq_ok_iff, conclude_eq_ok_iff, and_assoc]

theorem writeComment_eq_ok_iff {eventId id body : String} :
  r.writeComment c context eventId id body = .ok r' ↔
    (∃ e, r.lockOpen c eventId = .ok e)
      ∧ (c.attempt .commentInsert = .ok () ∧ r.comment? id = none)
      ∧ (c.attempt .auditInsert = .ok () ∧ c.attempt .commit = .ok ())
      ∧ r' = audited
          { r with comments := r.comments ++ [⟨id, eventId, body, some context.actor, c.now⟩] }
          context (.comment id) eventId c.now
  := by
  simp only [writeComment, bind_eq_ok_iff, insertComment_eq_ok_iff, conclude_eq_ok_iff]
  constructor
  · rintro ⟨e, he, r₁, ⟨hc, hn, rfl⟩, ha, rfl⟩
    exact ⟨⟨e, he⟩, ⟨hc, hn⟩, ha, rfl⟩
  · rintro ⟨⟨e, he⟩, ⟨hc, hn⟩, ha, rfl⟩
    exact ⟨e, he, _, ⟨hc, hn, rfl⟩, ha, rfl⟩

/-- A comment that was written is there. -/
theorem comment?_of_writeComment {eventId id body : String}
    (h : r.writeComment c context eventId id body = .ok r') :
  r'.comment? id = some ⟨id, eventId, body, some context.actor, c.now⟩
  := by
  obtain ⟨-, ⟨-, absent⟩, -, rfl⟩ := writeComment_eq_ok_iff.mp h
  simp only [comment?] at absent
  simp [audited, comment?, List.find?_append, absent]

/-- A batch that is written adds its documents and its links to an event that is not archived. -/
theorem records_of_writeAttached {shelf shelf' : Shelf} {eventId : String} {us : List Upload}
    (h : r.writeAttached shelf c context eventId us = .ok (r', shelf')) :
  (∃ e, r.lockOpen c eventId = .ok e)
    ∧ (∀ u ∈ us, r.document? u.documentId = none)
    ∧ (us.map (·.documentId)).Nodup
    ∧ r' = audited
        { r with
          documents := r.documents ++ us.map (·.document c.now)
          links := r.links ++ us.map (·.link eventId context.actor c.now) }
        context (.upload us.length) eventId c.now
  := by
  simp only [writeAttached] at h
  split at h
  · cases h
  · rename_i e he
    split at h
    · cases h
    · rename_i a ha
      split at h
      · cases h
      · rename_i r₁ h₁
        split at h
        · cases h
        · rename_i r₂ h₂
          cases h
          obtain ⟨-, rfl⟩ := conclude_eq_ok_iff.mp h₂
          obtain ⟨hnew, hnodup, hw⟩ := Attaching.written_storeAll ha
          refine ⟨⟨e, he⟩, ?_, hnodup, ?_⟩
          · simpa [Attaching.written] using hnew
          · have hr₁ : r₁ = a.written := by
              simp only [Attaching.writePending] at h₁
              split at h₁
              · rename_i l hl
                obtain ⟨-, -, rfl⟩ := insertLink_eq_ok_iff.mp h₁
                simp [Attaching.written, hl]
              · rename_i hl
                cases h₁
                simp [Attaching.written, hl]
            rw [hr₁, hw]
            simp [Attaching.written, audited]

/-- A batch that is written is linked to an event that none of its documents was linked to. -/
theorem unlinked_of_writeAttached {shelf shelf' : Shelf} {eventId : String} {us : List Upload}
    (h : r.writeAttached shelf c context eventId us = .ok (r', shelf')) :
  ∀ u ∈ us, r.isLinked eventId u.documentId = false
  := by
  simp only [writeAttached] at h
  split at h
  · cases h
  · split at h
    · cases h
    · rename_i a ha
      split at h
      · cases h
      · rename_i r₁ h₁
        apply (Attaching.unlinked_storeAll ha h₁).2

end Records

/-! ### Reading the catalog -/

section

variable {c : Conditions} {α : Type} {check : Except Refusal Unit} {reads : Bool}
  {found : Except Refusal α}

/-- What is found out where the catalog can be read, if nothing is refused without reading that the
catalog would not refuse as well. -/
theorem Conditions.lookUp_of_reads (h : ∀ why, check = .error why → found = .error why)
    (hc : reads = true → c.attempt .catalogSelect = .ok ()) :
  c.lookUp check reads found = found.mapError .refused
  := by
  cases hk : check with
  | error why =>
    rw [h why hk]
    rfl
  | ok _ =>
    cases reads with
    | true =>
      rw [lookUp, hc rfl]
      rfl
    | false => rfl

theorem Conditions.lookUp_eq_ok_iff (h : ∀ why, check = .error why → found = .error why) {a : α} :
  c.lookUp check reads found = .ok a ↔
    (reads = true → c.attempt .catalogSelect = .ok ()) ∧ found = .ok a
  := by
  constructor
  · intro ha
    obtain ⟨-, ha⟩ := check_bind_eq_ok_iff.mp ha
    cases reads with
    | true =>
      obtain ⟨hc, ha⟩ := check_bind_eq_ok_iff.mp ha
      exact ⟨fun _ => hc, mapError_eq_ok_iff.mp ha⟩
    | false => exact ⟨nofun, mapError_eq_ok_iff.mp ha⟩
  · rintro ⟨hc, hfound⟩
    rw [lookUp_of_reads h hc]
    apply mapError_eq_ok_iff.mpr hfound

theorem Conditions.lookUp_failsAs {P : Failure → Prop}
    (hcheck : ∀ why, check = .error why → P (.refused why))
    (hattempt : FailsAs P (c.attempt .catalogSelect))
    (hfound : ∀ why, found = .error why → P (.refused why)) :
  FailsAs P (c.lookUp check reads found)
  := by
  apply failsAs_bind (failsAs_mapError hcheck)
  intro _ _
  cases reads with
  | true =>
    apply failsAs_bind hattempt
    intro _ _
    apply failsAs_mapError hfound
  | false => apply failsAs_mapError hfound

end

theorem Catalog.requireOperation_of_unnamed {catalog : Catalog} {id : Option String}
    (h : (given id).isNone = true) :
  catalog.requireOperation id = .ok none
  := by
  rw [requireOperation, Option.isNone_iff_eq_none.mp h]

namespace EventDraft

variable {d : EventDraft} {c : Conditions} {catalog : Catalog} {id actor : String} {now : Instant}

/-- What is refused without reading the catalog is refused whatever it lists. -/
theorem resolve_of_check_error {why : Refusal} (h : d.check = .error why) :
  d.resolve catalog id actor now = .error why
  := by
  apply bind_eq_error_of_bind h
  intro _ h
  apply bind_eq_error_of_bind h
  intro _ h
  split at h
  · rename_i unnamed
    rw [Catalog.requireOperation_of_unnamed unnamed]
    apply bind_eq_error_of_bind h
    rintro _ ⟨⟩
  · cases h

theorem lookUp_of_reads (hc : c.attempt .catalogSelect = .ok ()) :
  d.lookUp c catalog id actor = (d.resolve catalog id actor c.now).mapError .refused
  := Conditions.lookUp_of_reads (fun _ => resolve_of_check_error) fun _ => hc

theorem lookUp_eq_ok_iff {b : Booking} :
  d.lookUp c catalog id actor = .ok b ↔
    c.attempt .catalogSelect = .ok () ∧ d.resolve catalog id actor c.now = .ok b
  := by
  rw [lookUp, Conditions.lookUp_eq_ok_iff fun _ => resolve_of_check_error]
  simp

theorem lookUp_of_resolve {b : Booking} (hc : c.fault = none)
    (h : d.resolve catalog id actor c.now = .ok b) :
  d.lookUp c catalog id actor = .ok b
  := lookUp_eq_ok_iff.mpr ⟨c.attempt_of_fault_none hc _, h⟩

end EventDraft

namespace EventPatch

variable {p : EventPatch} {c : Conditions} {catalog : Catalog} {e : Event}

/-- What is refused without reading the catalog is refused whatever it lists. -/
theorem resolve_of_checkOn_error {why : Refusal} (h : p.checkOn e = .error why) :
  p.resolve catalog e = .error why
  := by
  rw [checkOn] at h
  split at h
  · rename_i unnamed
    rw [resolve, Catalog.requireOperation_of_unnamed unnamed]
    apply bind_eq_error_of_bind h
    intro _ h
    apply bind_eq_error_of_bind h
    rintro _ ⟨⟩
  · cases h

theorem lookUp_of_reads (hc : c.attempt .catalogSelect = .ok ()) :
  p.lookUp c catalog e = (p.resolve catalog e).mapError .refused
  := Conditions.lookUp_of_reads (fun _ => resolve_of_checkOn_error) fun _ => hc

theorem lookUp_eq_ok_iff {b : Booking} :
  p.lookUp c catalog e = .ok b ↔
    (p.consults = true → c.attempt .catalogSelect = .ok ()) ∧ p.resolve catalog e = .ok b
  := Conditions.lookUp_eq_ok_iff fun _ => resolve_of_checkOn_error

theorem lookUp_of_resolve {b : Booking} (hc : c.fault = none) (h : p.resolve catalog e = .ok b) :
  p.lookUp c catalog e = .ok b
  := lookUp_eq_ok_iff.mpr ⟨fun _ => c.attempt_of_fault_none hc _, h⟩

end EventPatch

/-! ### How the operations end -/

namespace Records

variable {r : Records} {c : Conditions} {catalog : Catalog} {context : Audit.Context}
  {id : String}

theorem create_of_resolve_error {d : EventDraft} {why : Refusal}
    (hc : c.attempt .catalogSelect = .ok ())
    (hb : d.resolve catalog id context.actor c.now = .error why) :
  r.create c catalog context id d = (.error (.refused why), r)
  := by
  rw [create, EventDraft.lookUp_of_reads hc, hb]
  rfl

theorem create_of_writeCreated_error {d : EventDraft} {b : Booking} {f : Failure}
    (hb : d.lookUp c catalog id context.actor = .ok b)
    (hw : r.writeCreated c catalog context b = .error f) :
  r.create c catalog context id d
    = (.error <| f.reported <|
        r.findClashes (c.during .report) catalog b.resource b.event.interval none, r)
  := by
  simp only [create, hb, hw]

theorem patch_of_lockOpen_error {p : EventPatch} {tokens : Event.Tokens} {f : Failure}
    (hp : p.check = .ok ()) (hl : r.lockOpen c id = .error f) :
  r.patch c catalog context id p tokens = (.error (f.reported (.ok [])), r)
  := by
  simp only [patch, hp, hl]

theorem patch_of_resolve_error {p : EventPatch} {tokens : Event.Tokens} {current : Event}
    {why : Refusal} (hp : p.check = .ok ()) (hl : r.lockOpen c id = .ok current)
    (hc : c.attempt .catalogSelect = .ok ()) (hb : p.resolve catalog current = .error why) :
  r.patch c catalog context id p tokens = (.error (.refused why), r)
  := by
  simp only [patch, hp, hl, EventPatch.lookUp_of_reads hc, hb]
  rfl

theorem patch_of_writePatched_error {p : EventPatch} {tokens : Event.Tokens} {current : Event}
    {b : Booking} {f : Failure}
    (hp : p.check = .ok ()) (hl : r.lockOpen c id = .ok current)
    (hb : p.lookUp c catalog current = .ok b)
    (hw : r.writePatched c catalog context p tokens current b = .error f) :
  r.patch c catalog context id p tokens
    = (.error <| f.reported <|
        r.findClashes (c.during .report) catalog b.resource b.event.interval (some id), r)
  := by
  simp only [patch, hp, hl, hb, hw]

variable (r c context id)

/-- Creating an event fails and leaves the records alone, or commits and reads the event again. -/
theorem create_cases (catalog : Catalog) (d : EventDraft) :
  (∃ f, r.create c catalog context id d = (.error f, r))
    ∨ ∃ b r', d.resolve catalog id context.actor c.now = .ok b
      ∧ r.writeCreated c catalog context b = .ok r'
      ∧ r.create c catalog context id d = ((c.commit r').reload c catalog id, c.commit r')
  := by
  cases hb : d.lookUp c catalog id context.actor with
  | error f =>
    left
    use f.reported (.ok [])
    simp only [create, hb]
  | ok b =>
    cases hw : r.writeCreated c catalog context b with
    | error f =>
      left
      use f.reported (r.findClashes (c.during .report) catalog b.resource b.event.interval none)
      apply create_of_writeCreated_error hb hw
    | ok r' =>
      right
      use b, r', (EventDraft.lookUp_eq_ok_iff.mp hb).2, hw
      simp only [create, hb, hw]

/-- Patching an event fails and leaves the records alone, or commits and reads the event again. -/
theorem patch_cases (catalog : Catalog) (p : EventPatch) (tokens : Event.Tokens) :
  (∃ f, r.patch c catalog context id p tokens = (.error f, r))
    ∨ ∃ current b r', p.check = .ok () ∧ r.lockOpen c id = .ok current
      ∧ p.resolve catalog current = .ok b
      ∧ r.writePatched c catalog context p tokens current b = .ok r'
      ∧ r.patch c catalog context id p tokens
        = ((c.commit r').reload c catalog id, c.commit r')
  := by
  cases hp : p.check with
  | error why =>
    left
    use .refused why
    simp only [patch, hp]
  | ok _ =>
    cases hl : r.lockOpen c id with
    | error f =>
      left
      use f.reported (.ok [])
      apply patch_of_lockOpen_error hp hl
    | ok current =>
      cases hb : p.lookUp c catalog current with
      | error f =>
        left
        use f.reported (.ok [])
        simp only [patch, hp, hl, hb]
      | ok b =>
        cases hw : r.writePatched c catalog context p tokens current b with
        | error f =>
          left
          use f.reported
            (r.findClashes (c.during .report) catalog b.resource b.event.interval (some id))
          apply patch_of_writePatched_error hp hl hb hw
        | ok r' =>
          right
          use current, b, r', rfl, rfl, (EventPatch.lookUp_eq_ok_iff.mp hb).2, hw
          simp only [patch, hp, hl, hb, hw]

/-- Archiving an event fails and leaves the records alone, or finds the event archived and commits
nothing, or commits. -/
theorem archive_cases :
  (∃ f, r.archive c context id = (.error f, r))
    ∨ (∃ current, r.lock c id = .ok current ∧ current.isArchived = true
      ∧ r.archive c context id = (.ok .alreadyArchived, c.commit r))
    ∨ ∃ current r', r.lock c id = .ok current ∧ current.isArchived = false
      ∧ r.writeArchived c context current = .ok r'
      ∧ r.archive c context id = (.ok .archived, c.commit r')
  := by
  cases hl : r.lock c id with
  | error f =>
    left
    use f
    simp only [archive, hl]
  | ok current =>
    cases ha : current.isArchived with
    | true =>
      cases hc : c.attempt .commit with
      | error f =>
        left
        use f
        simp [archive, hl, ha, hc]
      | ok _ =>
        right
        left
        use current, rfl, ha
        simp [archive, hl, ha, hc]
    | false =>
      cases hw : r.writeArchived c context current with
      | error f =>
        left
        use f
        simp [archive, hl, ha, hw]
      | ok r' =>
        right
        right
        use current, r', rfl, ha, hw
        simp [archive, hl, ha, hw]

/-- Adding a comment fails and leaves the records alone, or commits and reads the comment again. -/
theorem comment_cases (catalog : Catalog) (eventId body : String) :
  (∃ f, r.comment c catalog context eventId id body = (.error f, r))
    ∨ ∃ r', r.writeComment c context eventId id body = .ok r'
      ∧ r.comment c catalog context eventId id body
        = ((c.commit r').reloadComment c catalog id, c.commit r')
  := by
  cases hw : r.writeComment c context eventId id body with
  | error f =>
    left
    use f
    simp only [comment, hw]
  | ok r' =>
    right
    use r', rfl
    simp only [comment, hw]

/-- Attaching a batch fails and leaves the records alone, or commits and reads the documents of the
event. -/
theorem attach_cases (shelf : Shelf) (us : List Upload) :
  (∃ f shelf', r.attach shelf c context id us = (.error f, r, shelf')
      ∧ (shelf' = shelf ∨ r.writeAttached shelf c context id us = .error (f, shelf')))
    ∨ ∃ r' shelf', r.writeAttached shelf c context id us = .ok (r', shelf') ∧ us ≠ []
      ∧ r.attach shelf c context id us
        = ((c.commit r').listDocuments c id, c.commit r', shelf')
  := by
  by_cases hu : us.isEmpty = true
  · left
    use .refused .noDocuments, shelf
    simp [attach, hu]
  · cases hw : r.writeAttached shelf c context id us with
    | error e =>
      left
      use e.1, e.2
      simp [attach, hu, hw]
    | ok w =>
      right
      use w.1, w.2, rfl
      simp only [attach, hu, hw]
      simpa using hu

end Records

/-! ### What requests write -/

/-- Whether the request only reads. -/
def Request.IsReading : Request → Prop
  | .detail _ | .list _ | .resources _ | .document .. | .clashes .. => True
  | _ => False

/-- `s.Change c context request r` says that under the conditions `c` the request, made by
`context`, turns the records of the state `s` into `r`, with all that was checked before the
commit. -/
inductive State.Change (s : State) (c : Conditions) (context : Audit.Context) :
    Request → Records → Prop where
  | create {id : String} {d : EventDraft} {b : Booking}
      (resolved : d.resolve s.catalog id context.actor c.now = .ok b)
      (free : s.records.requireFree c s.catalog b.resource b.event.interval b.event.allowOverlap
        none = .ok ())
      (sound : b.event.defect? = none)
      (absent : s.records.event? b.event.id = none)
      (storable : ∀ n ∈ b.event.orderId, Storable n) :
    Change s c context (.create id d)
      (Records.audited { s.records with events := s.records.events ++ [b.event] } context
        (.ofCreated b.event) b.event.id c.now)
  | patch {id : String} {p : EventPatch} {tokens : Event.Tokens} {current : Event} {b : Booking}
      {stamp : Instant}
      (checked : p.check = .ok ())
      (found : s.records.event? id = some current)
      (isOpen : current.archivedAt = none)
      (resolved : p.resolve s.catalog current = .ok b)
      (free : s.records.requireFree c s.catalog b.resource b.event.interval b.event.allowOverlap
        (some current.id) = .ok ())
      (stamped : Instant.next? current.updatedAt c.now = some stamp)
      (fresh : tokens.Fresh current)
      (sound : (p.apply current b.event context.actor stamp).defect? = none)
      (storable : ∀ n ∈ p.orderId.join, Storable n) :
    Change s c context (.patch id p tokens)
      ((s.records.replaceEvent (p.apply current b.event context.actor stamp)).audited context
        (.update p tokens b.event.snapshot) current.id c.now)
  | archive {id : String} {current : Event} {stamp : Instant}
      (found : s.records.event? id = some current)
      (isOpen : current.archivedAt = none)
      (stamped : Instant.next? current.updatedAt c.now = some stamp)
      (countable : current.version ≠ Event.lastVersion) :
    Change s c context (.archive id)
      ((s.records.replaceEvent (current.archive context.actor stamp)).audited context .archive
        current.id c.now)
  | archiveAgain {id : String} {current : Event}
      (found : s.records.event? id = some current)
      (archived : current.archivedAt ≠ none) :
    Change s c context (.archive id) s.records
  | comment {eventId id body : String} {e : Event}
      (found : s.records.event? eventId = some e)
      (isOpen : e.archivedAt = none)
      (absent : s.records.comment? id = none) :
    Change s c context (.comment eventId id body)
      (Records.audited
        { s.records with
          comments := s.records.comments ++ [⟨id, eventId, body, some context.actor, c.now⟩] }
        context (.comment id) eventId c.now)
  | upload {eventId : String} {files : List SentFile} {us : List Upload} {e : Event}
      (spooled : us = (s.shelf.spoolAll files).1)
      (nonempty : us ≠ [])
      (found : s.records.event? eventId = some e)
      (isOpen : e.archivedAt = none)
      (absent : ∀ u ∈ us, s.records.document? u.documentId = none)
      (distinct : (us.map (·.documentId)).Nodup)
      (unlinked : ∀ u ∈ us, s.records.isLinked eventId u.documentId = false) :
    Change s c context (.upload eventId files)
      (Records.audited
        { s.records with
          documents := s.records.documents ++ us.map (·.document c.now)
          links := s.records.links ++ us.map (·.link eventId context.actor c.now) }
        context (.upload us.length) eventId c.now)

namespace State

/-- A request only reads, or it fails and leaves the records alone, or it commits a change. -/
theorem perform_cases (s : State) (c : Conditions) (context : Audit.Context) (request : Request) :
  (request.IsReading ∧ (s.perform c context request).2 = s)
    ∨ (∃ f, (s.perform c context request).1 = .error f
      ∧ (s.perform c context request).2.records = s.records)
    ∨ ∃ r, s.Change c context request r ∧ (s.perform c context request).2.records = c.commit r
  := by
  cases request with
  | create id d =>
    right
    rcases s.records.create_cases c context id s.catalog d with ⟨f, hf⟩ | ⟨b, r', hb, hw, hr⟩
    · left
      use f
      simp [perform, withRecords, hf, Except.map]
    · right
      use r'
      obtain ⟨hfree, ⟨-, ho, hd, hn⟩, -, rfl⟩ := Records.writeCreated_eq_ok_iff.mp hw
      use .create hb hfree hd hn ho
      simp [perform, withRecords, hr]
  | patch id p tokens =>
    right
    rcases s.records.patch_cases c context id s.catalog p tokens with
      ⟨f, hf⟩ | ⟨e, b, r', hp, hl, hb, hw, hr⟩
    · left
      use f
      simp [perform, withRecords, hf, Except.map]
    · right
      use r'
      obtain ⟨-, he, ha⟩ := Records.lockOpen_eq_ok_iff.mp hl
      obtain ⟨hfree, stamp, hs, ⟨-, ho, -, ht, hd⟩, -, rfl⟩ := Records.writePatched_eq_ok_iff.mp hw
      use .patch hp he ha hb hfree hs ht hd ho
      simp [perform, withRecords, hr]
  | archive id =>
    right
    rcases s.records.archive_cases c context id with
      ⟨f, hf⟩ | ⟨e, hl, ha, hr⟩ | ⟨e, r', hl, ha, hw, hr⟩
    · left
      use f
      simp [perform, withRecords, hf, Except.map]
    · right
      use s.records
      obtain ⟨-, he⟩ := Records.lock_eq_ok_iff.mp hl
      use .archiveAgain he (by simpa [Event.isArchived, Option.isSome_iff_ne_none] using ha)
      simp [perform, withRecords, hr]
    · right
      use r'
      obtain ⟨-, he⟩ := Records.lock_eq_ok_iff.mp hl
      obtain ⟨stamp, hs, ⟨-, hv, -⟩, -, rfl⟩ := Records.writeArchived_eq_ok_iff.mp hw
      use .archive he (by simpa [Event.isArchived] using ha) hs hv
      simp [perform, withRecords, hr]
  | comment eventId id body =>
    right
    rcases s.records.comment_cases c context id s.catalog eventId body with
      ⟨f, hf⟩ | ⟨r', hw, hr⟩
    · left
      use f
      simp [perform, withRecords, hf, Except.map]
    · right
      use r'
      obtain ⟨⟨e, hl⟩, ⟨-, hn⟩, -, rfl⟩ := Records.writeComment_eq_ok_iff.mp hw
      obtain ⟨-, he, ho⟩ := Records.lockOpen_eq_ok_iff.mp hl
      use .comment he ho hn
      simp [perform, withRecords, hr]
  | upload eventId files =>
    right
    rcases s.records.attach_cases c context eventId (s.shelf.spoolAll files).2
      (s.shelf.spoolAll files).1 with ⟨f, shelf', hr, -⟩ | ⟨r', shelf', hw, hu, hr⟩
    · left
      use f
      simp [perform, upload, hr, Except.map]
    · right
      use r'
      obtain ⟨⟨e, hl⟩, hnew, hnodup, rfl⟩ := Records.records_of_writeAttached hw
      obtain ⟨-, he, ho⟩ := Records.lockOpen_eq_ok_iff.mp hl
      use .upload rfl hu he ho hnew hnodup (Records.unlinked_of_writeAttached hw)
      simp [perform, upload, hr]
  | detail _ => exact .inl ⟨trivial, rfl⟩
  | list _ => exact .inl ⟨trivial, rfl⟩
  | resources _ => exact .inl ⟨trivial, rfl⟩
  | document _ _ => exact .inl ⟨trivial, rfl⟩
  | clashes _ _ _ => exact .inl ⟨trivial, rfl⟩

end State

end Workshop
