import Workshop.Proofs.Batch

/-!
# Stock

Documents are rows and their bytes are files, and there is no transaction that spans both.  Still,
if files can be removed, then whatever else fails, there is one file for each document and no other,
under the name that the document tells, and no file stays spooled: `State.files_match_documents`.
-/

namespace Workshop

namespace State

variable {s : State} {x : Step} {steps : List Step}

/-- Whether the files are those of the documents, one for each, the links lead to one document
each, and no file is spooled. -/
structure IsStocked (s : State) : Prop where
  files : s.shelf.files.map (·.1) = s.records.documents.map fun d => s.shelf.place d.id d.name
  distinct : (s.records.documents.map (·.id)).Nodup
  plain : ∀ d ∈ s.records.documents, FileName.IsPlainId d.id
  links : s.records.links.map (·.documentId) = s.records.documents.map (·.id)
  spool : s.shelf.spool = []

namespace IsStocked

/-- No file stands at the place of a document that is still to come. -/
theorem not_mem_of_fresh (h : s.IsStocked) (fresh : s.GivesFreshIds x) :
  ∀ path ∈ s.places x, path ∉ s.shelf.files.map (·.1)
  := by
  intro path hpath hmem
  obtain ⟨f, hf, rfl⟩ := List.mem_map.mp hpath
  rw [h.files] at hmem
  obtain ⟨d, hd, heq⟩ := List.mem_map.mp hmem
  have hid := Shelf.id_of_place_eq (h.plain d hd) (fresh.plain f hf) heq
  apply Records.document?_eq_none_iff.mp (fresh.absent f hf)
  rw [← hid]
  apply List.mem_map_of_mem hd

theorem after (h : s.IsStocked) (fresh : s.GivesFreshIds x)
    (works : x.conditions.fileFaults.unlink = false) :
  (s.after x).IsStocked
  := by
  have hbase := s.base_after fresh.plain
  have hspool := spool_after fresh.plain works h.spool
  have hfree := h.not_mem_of_fresh fresh
  rcases s.leaves_or_takes fresh.plain with hleaves | ⟨eventId, htakes⟩
  · have hfiles := hleaves.files works hfree
    constructor
    · simp only [hfiles, hleaves.documents, Shelf.place, hbase]
      apply h.files
    · rw [hleaves.documents]
      apply h.distinct
    · rw [hleaves.documents]
      apply h.plain
    · rw [hleaves.links, hleaves.documents]
      apply h.links
    · apply hspool
  · obtain ⟨hfiles, -⟩ := htakes.files hfree
    constructor
    · simp only [hfiles, htakes.documents, List.map_append, List.map_map, Shelf.place, hbase]
      congr 1
      apply h.files
    · rw [htakes.documents, List.map_append, List.map_map, List.nodup_append']
      refine ⟨h.distinct, htakes.distinct, ?_⟩
      intro id hold hnew
      obtain ⟨f, hf, rfl⟩ := List.mem_map.mp hnew
      apply Records.document?_eq_none_iff.mp (fresh.absent f hf) hold
    · rw [htakes.documents]
      intro d hd
      rcases List.mem_append.mp hd with hd | hd
      · apply h.plain d hd
      · obtain ⟨f, hf, rfl⟩ := List.mem_map.mp hd
        apply fresh.plain f hf
    · rw [htakes.links, htakes.documents, List.map_append, List.map_append, h.links, List.map_map,
        List.map_map]
      rfl
    · apply hspool

theorem run (h : s.IsStocked) (fresh : s.Along GivesFreshIds steps)
    (works : ∀ x ∈ steps, x.conditions.fileFaults.unlink = false) :
  (s.run steps).IsStocked
  := by
  apply run_along h fresh
  intro t ht x hx hfresh
  apply ht.after hfresh (works x hx)

/-- Different documents have different files. -/
theorem nodup_files (h : s.IsStocked) :
  (s.shelf.files.map (·.1)).Nodup
  := by
  rw [h.files]
  apply List.Nodup.map_on _ h.distinct.of_map
  intro d hd d' hd' heq
  have hid := Shelf.id_of_place_eq (h.plain d hd) (h.plain d' hd') heq
  apply List.inj_on_of_nodup_map h.distinct hd hd' hid

/-- One link leads to each document. -/
theorem exists_link (h : s.IsStocked) {d : Document} (hd : d ∈ s.records.documents) :
  ∃ l, s.records.links.filter (·.documentId = d.id) = [l]
  := by
  have hmem : d.id ∈ s.records.links.map (·.documentId) := by
    rw [h.links]
    apply List.mem_map_of_mem hd
  have hdistinct : (s.records.links.map (·.documentId)).Nodup := by
    rw [h.links]
    apply h.distinct
  rw [← List.length_eq_one_iff, ← List.countP_eq_length_filter,
    ← List.count_eq_one_of_mem hdistinct hmem, List.count, List.countP_map]
  rfl

/-- No file is left among those that are spooled. -/
theorem spoolCount_eq (h : s.IsStocked) :
  s.shelf.spoolCount = 0
  := by
  rw [Shelf.spoolCount, h.spool, List.length_nil, Nat.zero_add, List.length_eq_zero_iff,
    List.filter_eq_nil_iff]
  intro f hf
  have hmem := List.mem_map_of_mem (f := (·.1)) hf
  rw [h.files] at hmem
  obtain ⟨d, -, heq⟩ := List.mem_map.mp hmem
  rw [← heq, Shelf.place]
  simp

end IsStocked

/-- Whether every link leads from an event. -/
def LinksEvents (s : State) : Prop :=
  ∀ l ∈ s.records.links, ∃ e, s.records.event? l.eventId = some e

theorem LinksEvents.after (h : s.LinksEvents) (plain : GivesPlainIds x)
    (stays : x.conditions.vanishes = false) :
  (s.after x).LinksEvents
  := by
  have hfound : ∀ id, (∃ e, s.records.event? id = some e) →
      ∃ e, (s.after x).records.event? id = some e := by
    rintro id ⟨e, he⟩
    rcases event?_after stays he with ⟨he', -⟩ | ⟨e', he', -⟩
    · use e, he'
    · use e', he'
  intro l hl
  apply hfound
  rcases s.leaves_or_takes plain with hleaves | ⟨eventId, htakes⟩
  · rw [hleaves.links] at hl
    apply h l hl
  · rw [htakes.links] at hl
    rcases List.mem_append.mp hl with hl | hl
    · apply h l hl
    · obtain ⟨f, -, rfl⟩ := List.mem_map.mp hl
      apply htakes.found

theorem LinksEvents.run (h : s.LinksEvents) (fresh : s.Along GivesFreshIds steps)
    (stays : ∀ x ∈ steps, x.conditions.vanishes = false) :
  (s.run steps).LinksEvents
  := by
  apply run_along h fresh
  intro t ht x hx hfresh
  apply ht.after hfresh.plain (stays x hx)

/-- Files match documents.  In a run that starts without documents, links and files, and in which
every new document gets a plain id that no other has, whatever fails but removing files: the files
are those that the documents name, one for each of them, each document is linked once, namely to an
event unless another client has deleted it, and no file is left among those that are spooled. -/
theorem files_match_documents (documents : s.records.documents = []) (links : s.records.links = [])
    (files : s.shelf.files = []) (spool : s.shelf.spool = [])
    (fresh : s.Along GivesFreshIds steps)
    (works : ∀ x ∈ steps, x.conditions.fileFaults.unlink = false) :
  ((s.run steps).shelf.files.map (·.1)
      = (s.run steps).records.documents.map fun d => (s.run steps).shelf.place d.id d.name)
    ∧ ((s.run steps).shelf.files.map (·.1)).Nodup
    ∧ (∀ d ∈ (s.run steps).records.documents, ∃ l,
      (s.run steps).records.links.filter (·.documentId = d.id) = [l]
        ∧ ((∀ x ∈ steps, x.conditions.vanishes = false) →
          ∃ e, (s.run steps).records.event? l.eventId = some e))
    ∧ (s.run steps).shelf.spoolCount = 0
  := by
  have hstart : s.IsStocked := by
    constructor <;> simp [documents, links, files, spool]
  have hstocked := hstart.run fresh works
  refine ⟨hstocked.files, hstocked.nodup_files, ?_, hstocked.spoolCount_eq⟩
  intro d hd
  obtain ⟨l, hl⟩ := hstocked.exists_link hd
  use l, hl
  intro stays
  have hmem : l ∈ (s.run steps).records.links := by
    apply List.mem_of_mem_filter
    rw [hl]
    apply List.mem_singleton_self
  have hlinks : s.LinksEvents := by simp [LinksEvents, links]
  apply hlinks.run fresh stays l hmem

end State

namespace Sample

/-- A file in which three bytes stand. -/
def sheet (id name : String) : SentFile where
  documentId := id
  name := name
  bytes := [1, 2, 3]

/-- Two files are copied, since files cannot be moved; then copies fail halfway; then the links
cannot be written; and then everything works again. -/
def refiling : List Step :=
  [ step 0 (.create "first" (draft 8 12)),
    sending [sheet "one" "Plan.PDF", sheet "two" "notes"]
      { now := hour 1, fileFaults := { rename := true } },
    sending [sheet "three" "Plan.PDF"]
      { now := hour 2, fileFaults := { rename := true, copy := true } },
    sending [sheet "four" "a.txt", sheet "five" "b.txt"]
      { now := hour 3, fault := some (.linkInsert, .outage) },
    sending [sheet "six" "b.txt"] { now := hour 4 } ]

end Sample

/-- The files of the batches that failed are gone. -/
theorem State.stocked_refiling :
  (Sample.state.run Sample.refiling).shelf.files.map (·.1)
      = [["documents", "one.pdf"], ["documents", "two"], ["documents", "six.txt"]]
    ∧ ((Sample.state.run Sample.refiling).shelf.files.map (·.1)
      = (Sample.state.run Sample.refiling).records.documents.map fun d =>
        (Sample.state.run Sample.refiling).shelf.place d.id d.name)
    ∧ (Sample.state.run Sample.refiling).shelf.spoolCount = 0
  := by
  have fresh : Sample.state.Along GivesFreshIds Sample.refiling := by decide +kernel
  have works : ∀ x ∈ Sample.refiling, x.conditions.fileFaults.unlink = false := by decide
  obtain ⟨hfiles, -, -, hspool⟩ := files_match_documents rfl rfl rfl rfl fresh works
  exact ⟨by decide +kernel, hfiles, hspool⟩

end Workshop
