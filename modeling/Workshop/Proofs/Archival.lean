import Workshop.Proofs.Dossier

/-!
# Archival is final

Once an event is archived no request changes its dossier, and requests on it are answered as
`State.IsClosed` says: `State.archival_is_final`.  The documents stay as they are only because no
link is left without its document, or else a later upload could supply one, so the proof carries
this along.
-/

namespace Workshop

/-! ### Links and documents -/

namespace Records

variable {r : Records} {id eventId : String}

/-- Whether every link leads to a document. -/
def IsFiled (r : Records) : Prop :=
  ∀ l ∈ r.links, r.document? l.documentId ≠ none

/-- A document that is not stored is linked to no event. -/
theorem IsFiled.isLinked_eq_false {documentId : String} (filed : r.IsFiled)
    (absent : r.document? documentId = none) :
  r.isLinked id documentId = false
  := by
  rw [isLinked, List.any_eq_false]
  intro l hl hlinked
  simp only [Bool.and_eq_true, beq_iff_eq] at hlinked
  apply filed l hl
  rw [hlinked.2, absent]

/-- Links of another event leave the dossier alone, and so do new documents, as no link leads to
them. -/
theorem dossier_insertDocuments {documents : List Document} {links : List DocumentLink}
    (filed : r.IsFiled) (absent : ∀ d ∈ documents, r.document? d.id = none)
    (hlinks : ∀ l ∈ links, l.eventId ≠ id) :
  dossier { r with documents := r.documents ++ documents, links := r.links ++ links } id
    = r.dossier id
  := by
  have hnew : links.filter (·.eventId == id) = [] := by
    simpa [List.filter_eq_nil_iff] using hlinks
  have hlinked : ∀ documentId,
      isLinked { r with documents := r.documents ++ documents, links := r.links ++ links } id
        documentId = r.isLinked id documentId := by
    intro documentId
    simp only [isLinked, List.any_append, Bool.or_eq_left_iff_imp, List.any_eq_true]
    rintro ⟨l, hl, heq⟩
    simp only [Bool.and_eq_true, beq_iff_eq] at heq
    absurd hlinks l hl
    apply heq.1
  have hdocuments : documents.filter (fun d => r.isLinked id d.id) = [] := by
    rw [List.filter_eq_nil_iff]
    intro d hd
    simp [filed.isLinked_eq_false (absent d hd)]
  simp only [dossier, hlinked, List.filter_append, hnew, hdocuments, List.append_nil]
  rfl

end Records

/-! ### Changes -/

namespace State.Change

variable {s : State} {c : Conditions} {context : Audit.Context} {request : Request} {r : Records}

/-- A change keeps every link leading to a document. -/
theorem isFiled (change : s.Change c context request r) (filed : s.records.IsFiled) :
  r.IsFiled
  := by
  cases change with
  | @upload eventId files us e =>
    intro l hl
    simp only [Records.audited, Records.document?, List.find?_append] at *
    rcases List.mem_append.mp hl with hl | hl
    · intro hnone
      apply filed l hl
      apply (Option.or_eq_none_iff.mp hnone).1
    · obtain ⟨u, hu, rfl⟩ := List.mem_map.mp hl
      intro hnone
      have := List.find?_eq_none.mp (Option.or_eq_none_iff.mp hnone).2 (u.document c.now)
        (List.mem_map_of_mem hu)
      simp [Upload.document, Upload.link] at this
  | _ => apply filed

/-- A change leaves the dossier of an archived event alone. -/
theorem dossier {id : String} {e : Event} (change : s.Change c context request r)
    (filed : s.records.IsFiled) (found : s.records.event? id = some e)
    (archived : e.archivedAt ≠ none) :
  r.dossier id = s.records.dossier id
  := by
  -- every change but that of a new event is one of an event that is not archived
  have hne : ∀ id' a, s.records.event? id' = some a → a.archivedAt = none → id' ≠ id := by
    rintro id' a ha hopen rfl
    rw [found] at ha
    cases ha
    contradiction
  cases change with
  | @create id' d b resolved _ _ absent =>
    have hother : b.event.id ≠ id := by
      rintro rfl
      rw [found] at absent
      cases absent
    rw [Records.dossier_audited hother, Records.dossier_insertEvent hother]
  | @patch id' p tokens current b stamp _ found' isOpen resolved =>
    have hcur := Records.id_of_event? found'
    have hid := EventPatch.id_apply resolved context.actor stamp
    rw [Records.dossier_audited, Records.dossier_replaceEvent]
    · rw [hid, hcur]
      apply hne id' current found' isOpen
    · rw [hcur]
      apply hne id' current found' isOpen
  | @archive id' current stamp found' isOpen =>
    have hcur := Records.id_of_event? found'
    rw [Records.dossier_audited, Records.dossier_replaceEvent]
    · rw [Event.id_archive, hcur]
      apply hne id' current found' isOpen
    · rw [hcur]
      apply hne id' current found' isOpen
  | archiveAgain => rfl
  | @comment eventId id' body a found' isOpen =>
    have hother := hne eventId a found' isOpen
    rw [Records.dossier_audited hother, Records.dossier_insertComment hother]
  | @upload eventId files us a _ _ found' isOpen absent _ =>
    have hother := hne eventId a found' isOpen
    rw [Records.dossier_audited hother, Records.dossier_insertDocuments filed]
    · intro d hd
      obtain ⟨u, hu, rfl⟩ := List.mem_map.mp hd
      apply absent u hu
    · intro l hl
      obtain ⟨u, hu, rfl⟩ := List.mem_map.mp hl
      apply hother

end State.Change

/-! ### Answers -/

/-- Whether every request on the event, unless it is refused before the event is read or a failure
is injected, is answered as one on an archived event. -/
structure State.IsClosed (s : State) (id : String) : Prop where
  patch : ∀ (x : Step) (p : EventPatch) (tokens : Event.Tokens), x.conditions.fault = none →
    x.request = .patch id p tokens → p.check = .ok () → s.answer x = .error (.refused .archived)
  comment : ∀ (x : Step) (commentId body : String), x.conditions.fault = none →
    x.request = .comment id commentId body → s.answer x = .error (.refused .archived)
  upload : ∀ (x : Step) (files : List SentFile), x.conditions.fault = none →
    x.request = .upload id files → files ≠ [] → s.answer x = .error (.refused .archived)
  archive : ∀ x : Step, x.conditions.fault = none → x.request = .archive id →
    s.answer x = .ok (.archiving id .alreadyArchived)

namespace Records

variable {r : Records} {c : Conditions} {id : String} {e : Event}

theorem lock_of_found (h : c.fault = none) (found : r.event? id = some e) :
  r.lock c id = .ok e
  := lock_eq_ok_iff.mpr ⟨Conditions.attempt_during_of_fault_none _ h _, found⟩

theorem lockOpen_of_archived (h : c.fault = none) (found : r.event? id = some e)
    (archived : e.archivedAt ≠ none) :
  r.lockOpen c id = .error (.refused .archived)
  := by
  rw [lockOpen, lock_of_found h found]
  apply if_pos
  apply Option.isSome_iff_ne_none.mpr archived

/-- The detail of an event is made of its dossier. -/
theorem detail_congr {r' : Records} {c' : Conditions} (catalog : Catalog)
    (hc : c.fault = none) (hc' : c'.fault = none) (h : r.dossier id = r'.dossier id) :
  r.detail c catalog id = r'.detail c' catalog id
  := by
  have hevent : r.event? id = r'.event? id := congrArg Dossier.event h
  have hcomments : r.commentsOf catalog id = r'.commentsOf catalog id :=
    congrArg (fun d : Dossier => (sortBy Comment.listedBefore d.comments).map catalog.viewComment) h
  have hdocuments : r.documentsOf id = r'.documentsOf id :=
    congrArg (fun d : Dossier => sortBy Document.listedBefore d.documents) h
  simp only [detail, view, listComments, listDocuments, Conditions.attempt_of_fault_none hc,
    Conditions.attempt_of_fault_none hc', hevent, hcomments, hdocuments]

end Records

theorem Shelf.spoolAll_ne_nil {shelf : Shelf} {files : List SentFile} (h : files ≠ []) :
  (shelf.spoolAll files).1 ≠ []
  := by
  cases files with
  | nil => contradiction
  | cons f fs => simp [spoolAll]

namespace State

variable {s : State} {id : String} {e : Event}

/-- An archived event is closed. -/
theorem isClosed_of_archived (found : s.records.event? id = some e)
    (archived : e.archivedAt ≠ none) :
  s.IsClosed id
  := by
  constructor
  · rintro ⟨c, context, request⟩ p tokens hc rfl hp
    have hl := Records.lockOpen_of_archived hc found archived
    simp only [answer, perform, withRecords, Records.patch_of_lockOpen_error hp hl]
    rfl
  · rintro ⟨c, context, request⟩ commentId body hc rfl
    have hl := Records.lockOpen_of_archived hc found archived
    simp only [answer, perform, withRecords, Records.comment, Records.writeComment, hl]
    rfl
  · rintro ⟨c, context, request⟩ files hc rfl hfiles
    have hl := Records.lockOpen_of_archived hc found archived
    have hus : (s.shelf.spoolAll files).1 ≠ [] := Shelf.spoolAll_ne_nil hfiles
    simp only [answer, perform, upload, Records.attach, Records.writeAttached, hl]
    simp [hus, Except.map]
  · rintro ⟨c, context, request⟩ hc rfl
    have hl := Records.lock_of_found hc found
    have ha : e.isArchived = true := Option.isSome_iff_ne_none.mpr archived
    have hcommit : c.attempt .commit = .ok () := Conditions.attempt_of_fault_none hc _
    simp [answer, perform, withRecords, Records.archive, hl, ha, hcommit, Except.map]

/-- A run leaves the dossier of an archived event alone. -/
theorem dossier_run {steps : List Step} (filed : s.records.IsFiled)
    (stays : ∀ x ∈ steps, x.conditions.vanishes = false)
    (found : s.records.event? id = some e) (archived : e.archivedAt ≠ none) :
  (s.run steps).records.dossier id = s.records.dossier id
  := by
  have hrun : (s.run steps).records.IsFiled
      ∧ (s.run steps).records.dossier id = s.records.dossier id := by
    apply run_records (P := fun r => r.IsFiled ∧ r.dossier id = s.records.dossier id) ⟨filed, rfl⟩
    · rintro t r - ⟨ht, hdossier⟩ x - change
      have hevent : t.records.event? id = some e :=
        (congrArg Dossier.event hdossier).trans found
      use change.isFiled ht
      rw [change.dossier ht hevent archived, hdossier]
    · intro r hr x hx
      rw [Conditions.commit_of_stays (stays x hx)]
      apply hr
  apply hrun.2

/-- Archival is final.  From records where every link leads to a document, and as long as no other
client deletes rows, no run changes what is stored about an archived event or adds to its audit
trail, so that its detail is answered as before, and it is closed to all requests that would change
it. -/
theorem archival_is_final {steps : List Step} (filed : s.records.IsFiled)
    (stays : ∀ x ∈ steps, x.conditions.vanishes = false)
    (found : s.records.event? id = some e) (archived : e.archivedAt ≠ none) :
  (s.run steps).records.dossier id = s.records.dossier id
    ∧ (∀ x y : Step, x.conditions.fault = none → y.conditions.fault = none →
      x.request = .detail id → y.request = .detail id → (s.run steps).answer x = s.answer y)
    ∧ (s.run steps).IsClosed id
  := by
  have hdossier := dossier_run filed stays found archived
  refine ⟨hdossier, ?_, ?_⟩
  · rintro ⟨c, context, request⟩ ⟨c', context', request'⟩ hc hc' rfl rfl
    simp only [answer, perform, catalog_run]
    rw [Records.detail_congr s.catalog hc hc' hdossier]
  · apply isClosed_of_archived _ archived
    apply (congrArg Dossier.event hdossier).trans found

end State

namespace Sample

/-- A workshop with an archived event, a note on it and a drawing. -/
def shelved : State :=
  { state with
    records :=
      { events := [{ event "first" 8 12 with archivedAt := some (hour 1) }, event "second" 12 14]
        comments := [⟨"note", "first", "Out of stock", some "user", hour 0⟩]
        documents := [⟨"drawing", "shaft.pdf", some "PDF", hour 0⟩]
        links := [⟨"first", "drawing", some "PDF", some "user", hour 0⟩] } }

/-- The archived event is to be noted on and moved, and the other one is. -/
def stirring : List Step :=
  [ step 2 (.comment "first" "plea" "Still needed"),
    step 3 (.patch "first" { start := some (hour 7) } {}),
    step 4 (.comment "second" "reply" "Started"),
    step 5 (.patch "second" { start := some (hour 11) } {}) ]

end Sample

/-- Only the other event is noted on. -/
theorem State.archival_of_first :
  (Sample.shelved.run Sample.stirring).records.comments.map (·.id) = ["note", "reply"]
    ∧ (Sample.shelved.run Sample.stirring).records.dossier "first"
      = Sample.shelved.records.dossier "first"
    ∧ (Sample.shelved.run Sample.stirring).IsClosed "first"
  := by
  have filed : Sample.shelved.records.IsFiled := by
    intro l hl
    rw [List.mem_singleton.mp hl]
    decide
  have stays : ∀ x ∈ Sample.stirring, x.conditions.vanishes = false := by decide
  obtain ⟨hdossier, -, hclosed⟩ :=
    @archival_is_final Sample.shelved "first" _ Sample.stirring filed stays rfl (by decide)
  exact ⟨by decide, hdossier, hclosed⟩

end Workshop
