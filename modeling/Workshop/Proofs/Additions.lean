import Workshop.Proofs.Dossier

/-!
# What is added to an event stays

Comments and documents are only ever added to an event.  A detail lists what is stored of them, each
once and in order: `EventDetail.Lists`.  A later detail lists all of it again, in the same order,
though what was added since may stand between, as it may be dated or named before:
`State.additions_stay`.
-/

namespace Workshop

/-! ### Keys -/

section

variable {α : Type} {l : List α} {key : α → String} {k : String}

theorem find?_key_eq_none_iff :
  l.find? (key · == k) = none ↔ k ∉ l.map key
  := by
  simp [List.find?_eq_none]

/-- Where no two elements of a list share a key, each is found under its own. -/
theorem find?_key_eq_some_iff (h : (l.map key).Nodup) {a : α} :
  l.find? (key · == k) = some a ↔ a ∈ l ∧ key a = k
  := by
  constructor
  · intro hfound
    exact ⟨List.mem_of_find?_eq_some hfound, by simpa using List.find?_some hfound⟩
  · rintro ⟨ha, rfl⟩
    cases hfound : l.find? (key · == key a) with
    | none => cases find?_key_eq_none_iff.mp hfound (List.mem_map_of_mem ha)
    | some b =>
      have hb := List.mem_of_find?_eq_some hfound
      have hkey : key b = key a := by simpa using List.find?_some hfound
      rw [List.inj_on_of_nodup_map h hb ha hkey]

end

namespace Records

/-- Whether no two comments and no two documents share an id, and no document is linked twice to one
event. -/
structure IsIndexed (r : Records) : Prop where
  comments : (r.comments.map (·.id)).Nodup
  documents : (r.documents.map (·.id)).Nodup
  links : (r.links.map fun l => (l.eventId, l.documentId)).Nodup

variable {r : Records}

theorem isLinked_iff {eventId documentId : String} :
  r.isLinked eventId documentId = true
    ↔ ∃ l ∈ r.links, l.eventId = eventId ∧ l.documentId = documentId
  := by
  simp [isLinked]

theorem IsIndexed.change {s : State} {c : Conditions} {context : Audit.Context}
    {request : Request} (h : s.records.IsIndexed) (change : s.Change c context request r) :
  r.IsIndexed
  := by
  cases change with
  | create | patch | archive => exact ⟨h.comments, h.documents, h.links⟩
  | archiveAgain => apply h
  | comment _ _ absent =>
    refine ⟨?_, h.documents, h.links⟩
    simp only [audited, List.map_append, List.map_cons, List.map_nil]
    rw [← List.concat_eq_append, List.nodup_concat]
    exact ⟨find?_key_eq_none_iff.mp absent, h.comments⟩
  | @upload eventId files us e _ _ _ _ absent distinct unlinked =>
    refine ⟨h.comments, ?_, ?_⟩
    · simp only [audited, List.map_append, List.map_map, List.nodup_append']
      refine ⟨h.documents, distinct, ?_⟩
      intro id hold hnew
      obtain ⟨u, hu, rfl⟩ := List.mem_map.mp hnew
      apply find?_key_eq_none_iff.mp (absent u hu) hold
    · simp only [audited, List.map_append, List.map_map, List.nodup_append']
      refine ⟨h.links, ?_, ?_⟩
      · apply List.Nodup.of_map Prod.snd
        simpa [Upload.link, Function.comp_def] using distinct
      · intro key hold hnew
        obtain ⟨u, hu, rfl⟩ := List.mem_map.mp hnew
        obtain ⟨l, hl, heq⟩ := List.mem_map.mp hold
        have hlinked : s.records.isLinked eventId u.documentId = true := by
          simp only [Function.comp, Upload.link, Prod.mk.injEq] at heq
          exact isLinked_iff.mpr ⟨l, hl, heq⟩
        rw [unlinked u hu] at hlinked
        cases hlinked

end Records

/-- A run keeps the keys of comments, documents and links apart. -/
theorem State.run_isIndexed {s : State} (h : s.records.IsIndexed) (steps : List Step) :
  (s.run steps).records.IsIndexed
  := by
  apply run_records h
  · intro t r _ ht x _ change
    apply ht.change change
  · intro r hr x _
    simp only [Conditions.commit]
    split
    · exact ⟨List.nodup_nil, hr.documents, hr.links⟩
    · apply hr

/-! ### Listings in order -/

section

variable {α κ : Type} [LinearOrder κ] {le : α → α → Bool} {rank : α → κ}
  (compares : ∀ a b, le a b = true ↔ rank a ≤ rank b)

include compares

/-- A relation that compares ranks is transitive and total. -/
theorem trans_and_total_of_rank :
  (∀ a b c, le a b → le b c → le a c) ∧ ∀ a b, le a b ∨ le b a
  := by
  simp only [compares]
  exact ⟨fun a b c => le_trans, fun a b => le_total (rank a) (rank b)⟩

/-- Elements with different ranks are sorted by rank. -/
theorem pairwise_sortBy_of_rank {l : List α} (distinct : (l.map rank).Nodup) :
  (sortBy le l).Pairwise fun a b => rank a < rank b
  := by
  obtain ⟨trans, total⟩ := trans_and_total_of_rank compares
  have hle := pairwise_sortBy le trans total l
  have hne : (sortBy le l).Pairwise fun a b => rank a ≠ rank b := by
    apply List.pairwise_map.mp
    apply ((sortBy_perm le l).map rank).nodup_iff.mpr distinct
  apply (hle.and hne).imp
  rintro a b ⟨hab, hne⟩
  apply lt_of_le_of_ne ((compares a b).mp hab) hne

theorem sublist_sortBy_of_rank {l m : List α} (h : l.Sublist m) :
  (sortBy le l).Sublist (sortBy le m)
  := by
  obtain ⟨trans, total⟩ := trans_and_total_of_rank compares
  apply sublist_sortBy le trans total h

end

/-- Comments are listed by time, and by id among those of the same time. -/
def Comment.rank (m : Comment) : ℕ ×ₗ String :=
  toLex (m.createdAt.micros, m.id)

theorem Comment.listedBefore_iff (a b : Comment) :
  a.listedBefore b = true ↔ a.rank ≤ b.rank
  := by
  simp [listedBefore, rank, Prod.Lex.le_iff, Instant.lt_iff, Instant.ext_iff]

/-- Documents are listed by name, and by id among those of the same name. -/
def Document.rank (d : Document) : String ×ₗ String :=
  toLex (d.name, d.id)

theorem Document.listedBefore_iff (a b : Document) :
  a.listedBefore b = true ↔ a.rank ≤ b.rank
  := by
  simp [listedBefore, rank, Prod.Lex.le_iff]

namespace Records

variable {r : Records} {id : String}

/-- For each link of an event that leads to a document, this document. -/
def linkedDocuments (r : Records) (id : String) : List Document :=
  (r.links.filter (·.eventId == id)).filterMap fun l => r.document? l.documentId

/-- Each document of an event is linked to it once. -/
theorem IsIndexed.linkedDocuments_perm (h : r.IsIndexed) :
  (r.documents.filter fun d => r.isLinked id d.id).Perm (r.linkedDocuments id)
  := by
  have hids : ((r.links.filter (·.eventId == id)).map (·.documentId)).Nodup := by
    have hlinks := (h.links.of_map).filter (·.eventId == id)
    apply hlinks.map_on
    intro l hl l' hl' heq
    simp only [List.mem_filter, beq_iff_eq] at hl hl'
    apply List.inj_on_of_nodup_map h.links hl.1 hl'.1
    rw [hl.2, hl'.2, heq]
  have hleft : (r.documents.filter fun d => r.isLinked id d.id).Nodup :=
    h.documents.of_map.filter _
  have hright : (r.linkedDocuments id).Nodup := by
    have hmap : r.linkedDocuments id
        = ((r.links.filter (·.eventId == id)).map (·.documentId)).filterMap r.document? := by
      rw [List.filterMap_map]
      rfl
    rw [hmap]
    apply hids.filterMap
    intro i i' d hi hi'
    rw [Option.mem_def] at hi hi'
    rw [← ((find?_key_eq_some_iff h.documents).mp hi).2,
      ← ((find?_key_eq_some_iff h.documents).mp hi').2]
  rw [List.perm_ext_iff_of_nodup hleft hright]
  intro d
  simp only [linkedDocuments, List.mem_filter, List.mem_filterMap, isLinked_iff, beq_iff_eq]
  constructor
  · rintro ⟨hd, l, hl, hevent, hdocument⟩
    exact ⟨l, ⟨hl, hevent⟩, (find?_key_eq_some_iff h.documents).mpr ⟨hd, hdocument.symm⟩⟩
  · rintro ⟨l, ⟨hl, hevent⟩, hfound⟩
    obtain ⟨hd, hdocument⟩ := (find?_key_eq_some_iff h.documents).mp hfound
    exact ⟨hd, l, hl, hevent, hdocument.symm⟩

end Records

/-- Whether the detail lists the comments of its event, each once and by time and id, and for each
link of the event to a document this document, each once and by name and id. -/
structure EventDetail.Lists (d : EventDetail) (r : Records) (catalog : Catalog) (id : String) :
    Prop where
  comments : d.comments.Perm ((r.comments.filter (·.eventId == id)).map catalog.viewComment)
  dated : d.comments.Pairwise fun a b => a.rank < b.rank
  documents : d.documents.Perm (r.linkedDocuments id)
  named : d.documents.Pairwise fun a b => a.rank < b.rank

theorem Records.of_detail {r : Records} {c : Conditions} {catalog : Catalog} {id : String}
    {d : EventDetail} (h : r.detail c catalog id = .ok d) :
  d.comments = r.commentsOf catalog id ∧ d.documents = r.documentsOf id
  := by
  obtain ⟨-, ⟨-, hcomments⟩, -, hdocuments⟩ := detail_eq_ok_iff.mp h
  exact ⟨hcomments, hdocuments⟩

/-- A detail lists what is stored. -/
theorem Records.IsIndexed.lists {r : Records} {c : Conditions} {catalog : Catalog} {id : String}
    {d : EventDetail} (indexed : r.IsIndexed) (h : r.detail c catalog id = .ok d) :
  d.Lists r catalog id
  := by
  obtain ⟨hcomments, hdocuments⟩ := of_detail h
  constructor
  · rw [hcomments]
    apply (sortBy_perm _ _).map
  · rw [hcomments, commentsOf, List.pairwise_map]
    apply pairwise_sortBy_of_rank Comment.listedBefore_iff
    apply List.Nodup.of_map (fun k => (ofLex k).2)
    rw [List.map_map]
    apply List.Nodup.sublist _ indexed.comments
    apply List.filter_sublist.map
  · rw [hdocuments]
    apply (sortBy_perm _ _).trans indexed.linkedDocuments_perm
  · rw [hdocuments]
    apply pairwise_sortBy_of_rank Document.listedBefore_iff
    apply List.Nodup.of_map (fun k => (ofLex k).2)
    rw [List.map_map]
    apply List.Nodup.sublist _ indexed.documents
    apply List.filter_sublist.map

/-! ### Growth -/

/-- A next dossier has all comments and all documents, in the same order. -/
theorem Dossier.Next.grows {catalog : Catalog} {c : Conditions} {context : Audit.Context}
    {id : String} {d d' : Dossier} (next : Dossier.Next catalog c context id d d') :
  d.comments.Sublist d'.comments ∧ d.documents.Sublist d'.documents
  := by
  cases next with
  | other grown => exact ⟨List.Sublist.refl d.comments, grown⟩
  | create | patch | archive =>
    exact ⟨List.Sublist.refl d.comments, List.Sublist.refl d.documents⟩
  | comment => exact ⟨List.sublist_append_left _ _, List.Sublist.refl d.documents⟩
  | upload _ _ grown => exact ⟨List.Sublist.refl d.comments, grown⟩

namespace State

variable {s : State} {id : String}

/-- A run leaves all comments and all documents of an event, in the same order. -/
theorem run_grows {steps : List Step} (stays : ∀ x ∈ steps, x.conditions.vanishes = false) :
  (s.records.dossier id).comments.Sublist ((s.run steps).records.dossier id).comments
    ∧ (s.records.dossier id).documents.Sublist ((s.run steps).records.dossier id).documents
  := by
  apply run_dossier (P := fun d => (s.records.dossier id).comments.Sublist d.comments
    ∧ (s.records.dossier id).documents.Sublist d.documents) _ stays
  · rintro x - d d' ⟨hcomments, hdocuments⟩ next
    obtain ⟨gcomments, gdocuments⟩ := next.grows
    exact ⟨hcomments.trans gcomments, hdocuments.trans gdocuments⟩
  · exact ⟨List.Sublist.refl _, List.Sublist.refl _⟩

theorem detail_of_answer {x : Step} {d : EventDetail} (hx : x.request = .detail id)
    (h : s.answer x = .ok (.detail d)) :
  s.records.detail x.conditions s.catalog id = .ok d
  := by
  simp only [answer, hx, perform, map_eq_ok_iff] at h
  obtain ⟨a, ha, heq⟩ := h
  cases heq
  apply ha

/-- What is added to an event stays.  A later detail shows all comments and all documents that an
earlier one shows, in the same order, as long as no other client deletes rows in between; and if a
run starts from records whose keys differ, each detail lists what is stored at its time. -/
theorem additions_stay {before between : List Step} {x y : Step} {d d' : EventDetail}
    (stays : ∀ z ∈ between, z.conditions.vanishes = false)
    (hx : x.request = .detail id) (hy : y.request = .detail id)
    (earlier : (s.run before).answer x = .ok (.detail d))
    (later : (s.run (before ++ between)).answer y = .ok (.detail d')) :
  (d.comments.Sublist d'.comments ∧ d.documents.Sublist d'.documents)
    ∧ (s.records.IsIndexed → d.Lists (s.run before).records s.catalog id)
  := by
  have hd := detail_of_answer hx earlier
  have hd' := detail_of_answer hy later
  rw [catalog_run] at hd hd'
  constructor
  · obtain ⟨hcomments, hdocuments⟩ := Records.of_detail hd
    obtain ⟨hcomments', hdocuments'⟩ := Records.of_detail hd'
    rw [run_append] at hcomments' hdocuments'
    obtain ⟨gcomments, gdocuments⟩ := @run_grows (s.run before) id between stays
    rw [hcomments, hdocuments, hcomments', hdocuments']
    constructor
    · apply List.Sublist.map
      apply sublist_sortBy_of_rank Comment.listedBefore_iff gcomments
    · apply sublist_sortBy_of_rank Document.listedBefore_iff gdocuments
  · intro indexed
    apply (run_isIndexed indexed before).lists hd

end State

namespace Sample

/-- An event that is commented on and has a drawing. -/
def annotated : List Step :=
  [ step 0 (.create "first" (draft 8 12)),
    step 5 (.comment "first" "question" "Which bar?"),
    step 6 (.upload "first" [⟨"drawing", "shaft.pdf", none, [1, 2, 3], false⟩]) ]

/-- The clock is set back.  Then a comment is made, and another one with the same id fails; and a
document is sent along with one that has the id of the drawing, which fails, and then by itself. -/
def annotations : List Step :=
  [ step 2 (.comment "first" "warning" "Out of stock"),
    step 3 (.comment "first" "warning" "In stock"),
    step 4 (.upload "first"
      [⟨"setup", "chuck.txt", none, [4], false⟩, ⟨"drawing", "axle.pdf", none, [5], false⟩]),
    step 4 (.upload "first" [⟨"setup", "chuck.txt", none, [4], false⟩]) ]

/-- The detail of the event after some steps. -/
def annotatedDetail (steps : List Step) : EventDetail where
  event := catalog.view
    { event "first" 8 12 with
      title := "Planning", createdBy := some "user", updatedBy := some "user" }
  comments := (state.run steps).records.commentsOf catalog "first"
  documents := (state.run steps).records.documentsOf "first"

end Sample

/-- The comment and the document that are added are listed before those that stay. -/
theorem State.additions_of_annotations :
  ((Sample.annotatedDetail Sample.annotated).comments.map (·.body) = ["Which bar?"]
      ∧ (Sample.annotatedDetail Sample.annotated).documents.map (·.name) = ["shaft.pdf"])
    ∧ ((Sample.annotatedDetail (Sample.annotated ++ Sample.annotations)).comments.map (·.body)
        = ["Out of stock", "Which bar?"]
      ∧ (Sample.annotatedDetail (Sample.annotated ++ Sample.annotations)).documents.map (·.name)
        = ["chuck.txt", "shaft.pdf"])
    ∧ (Sample.annotatedDetail Sample.annotated).comments.Sublist
      (Sample.annotatedDetail (Sample.annotated ++ Sample.annotations)).comments
    ∧ (Sample.annotatedDetail Sample.annotated).Lists
      (Sample.state.run Sample.annotated).records Sample.catalog "first"
  := by
  have stays : ∀ z ∈ Sample.annotations, z.conditions.vanishes = false := by decide
  have earlier : (Sample.state.run Sample.annotated).answer (Sample.step 7 (.detail "first"))
      = .ok (.detail (Sample.annotatedDetail Sample.annotated)) := by
    decide +kernel
  have later : (Sample.state.run (Sample.annotated ++ Sample.annotations)).answer
        (Sample.step 7 (.detail "first"))
      = .ok (.detail (Sample.annotatedDetail (Sample.annotated ++ Sample.annotations))) := by
    decide +kernel
  obtain ⟨⟨hcomments, -⟩, hlists⟩ := State.additions_stay stays rfl rfl earlier later
  have indexed : Sample.state.records.IsIndexed :=
    ⟨List.nodup_nil, List.nodup_nil, List.nodup_nil⟩
  exact ⟨by decide +kernel, by decide +kernel, hcomments, hlists indexed⟩

end Workshop
