import Workshop.Proofs.Atomic
import Workshop.Proofs.Filing

/-!
# Batches of files

A batch of files is stored one after another, together with their documents and links, and if
anything fails, what was stored is discarded.  `Records.writeAttached_cases` is the induction by
which properties of batches are proved: what every file keeps that is moved, or that cannot be
moved, holds at the end, and before anything is discarded.
-/

namespace Workshop

namespace Attaching

variable {a a' : Attaching} {c : Conditions} {eventId actor : String} {u : Upload}
  {us : List Upload}

/-! ### One file -/

/-- Whether `a'` is a batch that has come as far as `a` and has moved one more file. -/
structure Moves (a : Attaching) (u : Upload) (a' : Attaching) : Prop where
  shelf : a'.shelf = (a.shelf.write (a.shelf.place u.documentId u.name)
    ((a.shelf.spooled? u.number).getD [])).unspool u.number
  stored : a'.stored = a.stored ++ [a.shelf.place u.documentId u.name]
  reaches : a.shelf.Reaches (FileName.stored u.documentId (some u.name))

/-- Whether `a'` is a batch that has come as far as `a` and could not move one more file. -/
structure Misses (a : Attaching) (c : Conditions) (u : Upload) (a' : Attaching) : Prop where
  changes : a.shelf.ChangesAt [a.shelf.place u.documentId u.name] a'.shelf
  stored : a'.stored = a.stored
  removed : (c.fileFaultsOf a.stored.length).unlink = false →
    a'.shelf = a.shelf ∨ a'.shelf = a.shelf.remove (a.shelf.place u.documentId u.name)

namespace Moves

variable {paths : List Path}

theorem changesAt (h : a.Moves u a') (hmem : a.shelf.place u.documentId u.name ∈ paths) :
  a.shelf.ChangesAt paths a'.shelf
  := by
  rw [h.shelf]
  apply (Shelf.changesAt_write hmem _).trans
  apply Shelf.changesAt_unspool

theorem files_eq (h : a.Moves u a')
    (fresh : a.shelf.place u.documentId u.name ∉ a.shelf.files.map (·.1)) :
  a'.shelf.files = a.shelf.files
    ++ [(a.shelf.place u.documentId u.name, (a.shelf.spooled? u.number).getD [])]
  := by
  rw [h.shelf]
  apply Shelf.files_write_of_not_mem fresh

theorem spooled?_eq (h : a.Moves u a') {number : Nat} (hne : number ≠ u.number) :
  a'.shelf.spooled? number = a.shelf.spooled? number
  := by
  rw [h.shelf]
  apply Shelf.spooled?_unspool hne

end Moves

/-- Storing a file moves it, or it fails, be it before or after the file was moved. -/
theorem storeOne_cases (a : Attaching) (c : Conditions) (eventId actor : String)
    (plain : FileName.IsPlainId u.documentId) :
  (∃ f a', a.storeOne c eventId actor u = a'.fail c f ∧ (a.Misses c u a' ∨ a.Moves u a'))
    ∨ ∃ a', a.storeOne c eventId actor u = .ok a' ∧ a.Moves u a'
  := by
  have hname := FileName.isPlainName_stored plain (some u.name)
  rcases a.shelf.store_cases (c.fileFaultsOf a.stored.length) u.number hname with
    ⟨f, shelf, hstore, hchanges, hremoved⟩ | ⟨hreaches, hstore⟩
  · left
    refine ⟨f, { a with shelf }, ?_, .inl ⟨hchanges, rfl, hremoved⟩⟩
    simp only [storeOne, hstore]
  · simp only [storeOne, hstore]
    split
    · rename_i f _
      left
      exact ⟨f, _, rfl, .inr ⟨rfl, rfl, hreaches⟩⟩
    · split
      · rename_i f _
        left
        exact ⟨f, _, rfl, .inr ⟨rfl, rfl, hreaches⟩⟩
      · right
        exact ⟨_, rfl, rfl, rfl, hreaches⟩

theorem fail_ne_ok {α : Type} {f : Failure} {result : α} :
  a.fail c f ≠ .ok result
  := by
  rintro ⟨⟩

theorem moves_of_storeOne (plain : FileName.IsPlainId u.documentId)
    (h : a.storeOne c eventId actor u = .ok a') :
  a.Moves u a'
  := by
  rcases a.storeOne_cases c eventId actor plain with ⟨f, b, hb, -⟩ | ⟨b, hb, hmoves⟩
  · cases fail_ne_ok (hb.symm.trans h)
  · rw [h] at hb
    cases hb
    apply hmoves

/-! ### All files -/

/-- What holds of a batch and is kept by every file, moved or not, holds where the batch fails and
where it ends. -/
theorem storeAll_cases {P : Attaching → Prop} (c : Conditions) (eventId actor : String) (h : P a)
    (plain : ∀ u ∈ us, FileName.IsPlainId u.documentId)
    (step : ∀ b b', P b → ∀ u ∈ us, b.Misses c u b' ∨ b.Moves u b' → P b') :
  (∃ f a', storeAll c eventId actor a us = a'.fail c f ∧ P a')
    ∨ ∃ a', storeAll c eventId actor a us = .ok a' ∧ P a'
  := by
  induction us generalizing a with
  | nil =>
    right
    exact ⟨a, rfl, h⟩
  | cons u us ih =>
    have hu := List.mem_cons_self (a := u) (l := us)
    rcases a.storeOne_cases c eventId actor (plain u hu) with ⟨f, b, hb, hone⟩ | ⟨b, hb, hone⟩
    · left
      refine ⟨f, b, ?_, step a b h u hu hone⟩
      rw [storeAll, hb]
      rfl
    · rw [storeAll, hb]
      apply ih (step a b h u hu (.inr hone))
      · intro v hv
        apply plain v (List.mem_cons_of_mem u hv)
      · intro b b' hP v hv
        apply step b b' hP v (List.mem_cons_of_mem u hv)

/-- A batch that is stored has added its files to those that were there, each with the bytes that
were spooled. -/
theorem files_of_storeAll (h : storeAll c eventId actor a us = .ok a')
    (plain : ∀ u ∈ us, FileName.IsPlainId u.documentId)
    (fresh : ∀ u ∈ us, a.shelf.place u.documentId u.name ∉ a.shelf.files.map (·.1))
    (distinct : (us.map (·.documentId)).Nodup) (numbered : (us.map (·.number)).Nodup) :
  a'.shelf.files = a.shelf.files ++ us.map (fun u =>
      (a.shelf.place u.documentId u.name, (a.shelf.spooled? u.number).getD []))
    ∧ ∀ u ∈ us, a.shelf.Reaches (FileName.stored u.documentId (some u.name))
  := by
  induction us generalizing a with
  | nil =>
    cases h
    simp
  | cons u us ih =>
    simp only [List.map_cons, List.nodup_cons] at distinct numbered
    obtain ⟨hplain, hplains⟩ := List.forall_mem_cons.mp plain
    obtain ⟨hfresh, hfreshs⟩ := List.forall_mem_cons.mp fresh
    simp only [storeAll] at h
    split at h
    · rename_i b hb
      have hmoves := moves_of_storeOne hplain hb
      have hchanges := hmoves.changesAt (List.mem_singleton_self _)
      have hfiles := hmoves.files_eq hfresh
      have hspooled : ∀ v ∈ us, b.shelf.spooled? v.number = a.shelf.spooled? v.number := by
        intro v hv
        apply hmoves.spooled?_eq
        intro heq
        apply numbered.1
        rw [← heq]
        apply List.mem_map_of_mem hv
      have hfreshs' : ∀ v ∈ us, b.shelf.place v.documentId v.name ∉ b.shelf.files.map (·.1) := by
        intro v hv
        rw [hchanges.place_eq, hfiles, List.map_append, List.mem_append, not_or]
        refine ⟨hfreshs v hv, ?_⟩
        intro heq
        apply distinct.1
        rw [← Shelf.id_of_place_eq (hplains v hv) hplain (List.mem_singleton.mp heq)]
        apply List.mem_map_of_mem hv
      obtain ⟨hrest, hreaches⟩ := ih h hplains hfreshs' distinct.2 numbered.2
      constructor
      · rw [hrest, hfiles, List.append_assoc, List.map_cons, List.singleton_append]
        congr 2
        apply List.map_congr_left
        intro v hv
        rw [hchanges.place_eq, hspooled v hv]
      · intro v hv
        rcases List.mem_cons.mp hv with rfl | hv
        · apply hmoves.reaches
        · apply hchanges.reaches_iff.mp (hreaches v hv)
    · cases h

/-! ### What is left behind -/

/-- Whether a batch has changed the shelf at some paths only, and has moved its files there. -/
structure StaysWithin (a : Attaching) (shelf : Shelf) (paths : List Path) : Prop where
  changes : shelf.ChangesAt paths a.shelf
  stored : a.stored ⊆ paths

/-- Whether the files of the shelf are left when those that a batch has moved are discarded. -/
structure Restores (a : Attaching) (shelf : Shelf) : Prop where
  base : a.shelf.base = shelf.base
  files : a.shelf.files.filter (·.1 ∉ a.stored) = shelf.files

variable {shelf : Shelf} {paths : List Path}

theorem StaysWithin.step (h : a.StaysWithin shelf paths)
    (hplace : shelf.place u.documentId u.name ∈ paths) (hstep : a.Misses c u a' ∨ a.Moves u a') :
  a'.StaysWithin shelf paths
  := by
  rw [← h.changes.place_eq] at hplace
  have hplaces : [a.shelf.place u.documentId u.name] ⊆ paths := by simpa using hplace
  rcases hstep with hmisses | hmoves
  · constructor
    · apply h.changes.trans (hmisses.changes.mono hplaces)
    · rw [hmisses.stored]
      apply h.stored
  · constructor
    · apply h.changes.trans (hmoves.changesAt hplace)
    · rw [hmoves.stored]
      apply List.append_subset.mpr ⟨h.stored, hplaces⟩

/-- A batch that fails stays within its paths when it discards what it has moved. -/
theorem StaysWithin.discards (h : a.StaysWithin shelf paths) (faultsOf : Nat → FileFaults) :
  shelf.ChangesAt paths
    (a.stored.zipIdx.foldl (fun shelf file => shelf.discard (faultsOf file.2) file.1) a.shelf)
  := by
  apply h.changes.trans
  apply Shelf.changesAt_foldl
  intro file hfile shelf
  apply Shelf.changesAt_discard _ (h.stored (List.fst_mem_of_mem_zipIdx hfile))

/-- The files of the shelf are left whatever becomes of a file whose place was free, as long as
files can be removed. -/
theorem Restores.step (h : a.Restores shelf) (works : c.fileFaults.unlink = false)
    (fresh : shelf.place u.documentId u.name ∉ shelf.files.map (·.1))
    (hstep : a.Misses c u a' ∨ a.Moves u a') :
  a'.Restores shelf
  := by
  have hplace : a.shelf.place u.documentId u.name = shelf.place u.documentId u.name := by
    rw [Shelf.place, h.base, Shelf.place]
  have hothers := Shelf.filter_files_of_not_mem fresh
  have hremoved : (a.shelf.remove (shelf.place u.documentId u.name)).files.filter
      (·.1 ∉ a.stored) = shelf.files := by
    rw [Shelf.remove, List.filter_filter, ← hothers, ← h.files, List.filter_filter]
    simp only [Bool.and_comm]
  rcases hstep with hmisses | hmoves
  · constructor
    · rw [hmisses.changes.base, h.base]
    · rw [hmisses.stored]
      rcases hmisses.removed (Conditions.unlink_fileFaultsOf works _) with hkept | hgone
      · rw [hkept, h.files]
      · rw [hgone, hplace, hremoved]
  · constructor
    · rw [hmoves.shelf]
      apply h.base
    · rw [hmoves.stored, hplace, Shelf.filter_files_append_singleton, ← hremoved, hmoves.shelf,
        hplace]
      apply congrArg (fun s : Shelf => s.files.filter (·.1 ∉ a.stored)) Shelf.remove_write

end Attaching

namespace Records

variable {r r' : Records} {shelf shelf' : Shelf} {c : Conditions} {context : Audit.Context}
  {eventId : String} {us : List Upload} {f : Failure}

/-- What holds of a batch before its first file and is kept by every file, moved or not, holds where
the batch fails and where it ends. -/
theorem writeAttached_cases {P : Attaching → Prop} (r : Records) (c : Conditions)
    (context : Audit.Context) (eventId : String) (h : P { records := r, shelf })
    (plain : ∀ u ∈ us, FileName.IsPlainId u.documentId)
    (step : ∀ a a', P a → ∀ u ∈ us, a.Misses c u a' ∨ a.Moves u a' → P a') :
  (∃ f a, r.writeAttached shelf c context eventId us = a.fail c f ∧ P a)
    ∨ ∃ r' a, r.writeAttached shelf c context eventId us = .ok (r', a.shelf) ∧ P a
  := by
  cases hl : r.lockOpen c eventId with
  | error f =>
    left
    refine ⟨f, _, ?_, h⟩
    simp only [writeAttached, hl]
    rfl
  | ok e =>
    simp only [writeAttached, hl]
    rcases Attaching.storeAll_cases c eventId context.actor h plain step with
      ⟨f, a, ha, hP⟩ | ⟨a, ha, hP⟩
    · left
      refine ⟨f, a, ?_, hP⟩
      simp only [ha]
      rfl
    · simp only [ha]
      split
      · rename_i f _
        left
        exact ⟨f, a, rfl, hP⟩
      · split
        · rename_i f _
          left
          exact ⟨f, a, rfl, hP⟩
        · rename_i r' _
          right
          exact ⟨r', a, rfl, hP⟩

theorem document?_eq_none_iff {id : String} :
  r.document? id = none ↔ id ∉ r.documents.map (·.id)
  := by
  simp [document?, List.find?_eq_none]

/-- A batch changes the shelf at the places of its files only. -/
theorem changesAt_attach (r : Records) (shelf : Shelf) (c : Conditions) (context : Audit.Context)
    (eventId : String) (plain : ∀ u ∈ us, FileName.IsPlainId u.documentId) :
  shelf.ChangesAt (shelf.places us) (r.attach shelf c context eventId us).2.2
  := by
  by_cases hempty : us.isEmpty = true
  · simp only [attach, hempty, if_true]
    apply Shelf.ChangesAt.refl
  · have hstart : Attaching.StaysWithin { records := r, shelf } shelf (shelf.places us) :=
      ⟨Shelf.ChangesAt.refl, List.nil_subset _⟩
    have hcases := writeAttached_cases (P := fun a => a.StaysWithin shelf (shelf.places us)) r c
      context eventId hstart plain ?_
    · rcases hcases with ⟨f, a, ha, hwithin⟩ | ⟨r', a, ha, hwithin⟩
      · simp only [attach, hempty, ha, Attaching.fail]
        apply hwithin.discards
      · simp only [attach, hempty, ha]
        apply hwithin.changes
    · intro a a' hwithin u hu hstep
      apply hwithin.step (List.mem_map_of_mem hu) hstep

/-- A batch that fails leaves no file behind, if its places were free and files can be removed. -/
theorem files_of_writeAttached_error (works : c.fileFaults.unlink = false)
    (plain : ∀ u ∈ us, FileName.IsPlainId u.documentId)
    (fresh : ∀ u ∈ us, shelf.place u.documentId u.name ∉ shelf.files.map (·.1))
    (h : r.writeAttached shelf c context eventId us = .error (f, shelf')) :
  shelf'.files = shelf.files
  := by
  have hstart : Attaching.Restores { records := r, shelf } shelf := ⟨rfl, by simp⟩
  have hcases := writeAttached_cases (P := fun a => a.Restores shelf) r c context eventId hstart
    plain ?_
  · rcases hcases with ⟨f, a, ha, hrestores⟩ | ⟨r', a, ha, -⟩
    · rw [h] at ha
      cases ha
      apply (Shelf.files_foldl_discard (Conditions.unlink_fileFaultsOf works) 0).trans
        hrestores.files
    · rw [h] at ha
      cases ha
  · intro a a' hrestores u hu hstep
    apply hrestores.step works (fresh u hu) hstep

/-- A batch that succeeds adds its files to those that were there, each with the bytes that were
spooled. -/
theorem files_of_writeAttached (plain : ∀ u ∈ us, FileName.IsPlainId u.documentId)
    (fresh : ∀ u ∈ us, shelf.place u.documentId u.name ∉ shelf.files.map (·.1))
    (numbered : (us.map (·.number)).Nodup)
    (h : r.writeAttached shelf c context eventId us = .ok (r', shelf')) :
  shelf'.files = shelf.files ++ us.map (fun u =>
      (shelf.place u.documentId u.name, (shelf.spooled? u.number).getD []))
    ∧ ∀ u ∈ us, shelf.Reaches (FileName.stored u.documentId (some u.name))
  := by
  obtain ⟨-, -, distinct, -⟩ := records_of_writeAttached h
  simp only [writeAttached] at h
  split at h
  · cases h
  · split at h
    · cases h
    · rename_i a ha
      split at h
      · cases h
      · split at h
        · cases h
        · cases h
          apply Attaching.files_of_storeAll ha plain fresh distinct numbered

end Records

/-! ### Steps -/

/-- The files that a request sends. -/
def Request.files : Request → List SentFile
  | .upload _ files => files
  | _ => []

namespace State

variable {s : State} {x : Step} {eventId : String} {files : List SentFile}

/-- Whether every document that the step may add gets a plain id. -/
def GivesPlainIds (x : Step) : Prop :=
  ∀ f ∈ x.request.files, FileName.IsPlainId f.documentId

instance (x : Step) : Decidable (GivesPlainIds x) :=
  inferInstanceAs (Decidable (∀ f ∈ x.request.files, FileName.IsPlainId f.documentId))

/-- The places of the files that the step sends. -/
def places (s : State) (x : Step) : List Path :=
  x.request.files.map fun f => s.shelf.place f.documentId f.name

/-- Whether the step leaves the documents as they are, with their links and, if files can be removed
and the places of its own files were free, all files. -/
structure Leaves (s : State) (x : Step) : Prop where
  unanswered : ∀ eventId files, x.request = .upload eventId files → ∃ f, s.answer x = .error f
  documents : (s.after x).records.documents = s.records.documents
  links : (s.after x).records.links = s.records.links
  files : x.conditions.fileFaults.unlink = false →
    (∀ path ∈ s.places x, path ∉ s.shelf.files.map (·.1)) →
    (s.after x).shelf.files = s.shelf.files

/-- Whether the step adds a document for every file that it sends, with a link to the event and, if
its place was free, the file. -/
structure Takes (s : State) (x : Step) (eventId : String) : Prop where
  asked : x.request = .upload eventId x.request.files
  found : ∃ e, s.records.event? eventId = some e
  distinct : (x.request.files.map (·.documentId)).Nodup
  absent : ∀ f ∈ x.request.files, s.records.document? f.documentId = none
  documents : (s.after x).records.documents
    = s.records.documents ++ x.request.files.map (·.document x.conditions.now)
  links : (s.after x).records.links = s.records.links
    ++ x.request.files.map (·.link eventId x.context.actor x.conditions.now)
  files : (∀ path ∈ s.places x, path ∉ s.shelf.files.map (·.1)) →
    (s.after x).shelf.files = s.shelf.files
        ++ x.request.files.map (fun f => (s.shelf.place f.documentId f.name, f.bytes))
      ∧ ∀ f ∈ x.request.files,
        (s.after x).shelf.Reaches (FileName.stored f.documentId (some f.name))

/-- What the batch of an upload comes to, before the files that are left in the spool are
discarded. -/
def batch (s : State) (x : Step) (eventId : String) (files : List SentFile) :
    Except Failure (List Document) × Records × Shelf :=
  s.records.attach (s.shelf.spoolAll files).2 x.conditions x.context eventId
    (s.shelf.spoolAll files).1

section

variable (s) (asked : x.request = .upload eventId files)

include asked

theorem answer_upload :
  s.answer x = (s.batch x eventId files).1.map .documents
  := by
  rw [answer, asked]
  rfl

theorem records_after_upload :
  (s.after x).records = (s.batch x eventId files).2.1
  := by
  rw [after, asked]
  rfl

theorem shelf_after_upload :
  (s.after x).shelf = (s.shelf.spoolAll files).1.zipIdx.foldl
    (fun shelf file => shelf.discardSpooled (x.conditions.fileFaultsOf file.2) file.1.number)
    (s.batch x eventId files).2.2
  := by
  rw [after, asked]
  rfl

theorem places_spoolAll :
  (s.shelf.spoolAll files).2.places (s.shelf.spoolAll files).1 = s.places x
  := by
  obtain ⟨hbase, -⟩ := s.shelf.spoolAll_keeps files
  simp only [Shelf.places, places, Shelf.place, hbase, asked, Request.files]
  apply Shelf.map_spoolAll fun id name _ => s.shelf.base ++ [FileName.stored id (some name)]

theorem isPlainId_spoolAll (plain : GivesPlainIds x) :
  ∀ u ∈ (s.shelf.spoolAll files).1, FileName.IsPlainId u.documentId
  := by
  rw [GivesPlainIds, asked] at plain
  apply (Shelf.forall_mem_spoolAll (P := fun id _ => FileName.IsPlainId id)).mpr plain

theorem place_not_mem_spoolAll (fresh : ∀ path ∈ s.places x, path ∉ s.shelf.files.map (·.1)) :
  ∀ u ∈ (s.shelf.spoolAll files).1, (s.shelf.spoolAll files).2.place u.documentId u.name
    ∉ (s.shelf.spoolAll files).2.files.map (·.1)
  := by
  obtain ⟨-, hfiles, -⟩ := s.shelf.spoolAll_keeps files
  intro u hu
  rw [hfiles]
  apply fresh
  rw [← s.places_spoolAll asked]
  apply List.mem_map_of_mem hu

/-- The batch of an upload changes the shelf at the places of its files only. -/
theorem changesAt_batch (plain : GivesPlainIds x) :
  (s.shelf.spoolAll files).2.ChangesAt (s.places x) (s.batch x eventId files).2.2
  := by
  rw [← s.places_spoolAll asked]
  apply Records.changesAt_attach
  apply s.isPlainId_spoolAll asked plain

/-- Behind the batch, nothing changes but the spool. -/
theorem batch_changesAt (paths : List Path) :
  (s.batch x eventId files).2.2.ChangesAt paths (s.after x).shelf
  := by
  rw [s.shelf_after_upload asked]
  apply Shelf.changesAt_foldl_discardSpooled

/-- An upload changes the shelf on which its files are spooled at the places of these files only. -/
theorem changesAt_upload (plain : GivesPlainIds x) :
  (s.shelf.spoolAll files).2.ChangesAt (s.places x) (s.after x).shelf
  := (s.changesAt_batch asked plain).trans (s.batch_changesAt asked (s.places x))

end

/-- A commit leaves the documents and their links. -/
theorem documents_commit (c : Conditions) (r : Records) :
  (c.commit r).documents = r.documents ∧ (c.commit r).links = r.links
  := by
  rw [Conditions.commit]
  split <;> exact ⟨rfl, rfl⟩

/-- A step is an upload, or it leaves the documents and the shelf. -/
theorem upload_or_leaves (s : State) (x : Step) :
  (∃ eventId files, x.request = .upload eventId files)
    ∨ s.Leaves x ∧ (s.after x).shelf = s.shelf
  := by
  by_cases hupload : ∃ eventId files, x.request = .upload eventId files
  · left
    apply hupload
  · right
    have hshelf : (s.after x).shelf = s.shelf := by
      rw [after]
      cases hrequest : x.request with
      | upload eventId files => cases hupload ⟨eventId, files, hrequest⟩
      | _ => rfl
    have hrows : (s.after x).records.documents = s.records.documents
        ∧ (s.after x).records.links = s.records.links := by
      rcases s.after_cases x with hr | ⟨r, change, hr⟩
      · rw [hr]
        exact ⟨rfl, rfl⟩
      · obtain ⟨hdocuments, hlinks⟩ := documents_commit x.conditions r
        rw [hr, hdocuments, hlinks]
        obtain ⟨c, context, request⟩ := x
        cases change with
        | @upload eventId files => cases hupload ⟨eventId, files, rfl⟩
        | _ => exact ⟨rfl, rfl⟩
    refine ⟨⟨?_, hrows.1, hrows.2, ?_⟩, hshelf⟩
    · intro eventId files hrequest
      cases hupload ⟨eventId, files, hrequest⟩
    · intro _ _
      rw [hshelf]

/-- An upload whose batch is written takes its documents. -/
theorem takes_of_writeAttached {r : Records} {shelf : Shelf}
    (asked : x.request = .upload eventId files) (plain : GivesPlainIds x)
    (h : s.records.writeAttached (s.shelf.spoolAll files).2 x.conditions x.context eventId
      (s.shelf.spoolAll files).1 = .ok (r, shelf))
    (hrecords : (s.after x).records = x.conditions.commit r)
    (hfiles : (s.after x).shelf.files = shelf.files) :
  s.Takes x eventId
  := by
  obtain ⟨⟨e, hl⟩, hnew, hdistinct, rfl⟩ := Records.records_of_writeAttached h
  obtain ⟨-, hfound, -⟩ := Records.lockOpen_eq_ok_iff.mp hl
  obtain ⟨hbase, hold, -⟩ := s.shelf.spoolAll_keeps files
  have hids : (s.shelf.spoolAll files).1.map (·.documentId) = files.map (·.documentId) :=
    Shelf.map_spoolAll fun id _ _ => id
  have hrequest : x.request.files = files := by rw [asked, Request.files]
  constructor
  · rw [hrequest, asked]
  · use e
  · rwa [hrequest, ← hids]
  · rw [hrequest]
    apply (Shelf.forall_mem_spoolAll (P := fun id _ => s.records.document? id = none)).mp hnew
  · rw [hrecords, (documents_commit _ _).1, Shelf.map_document_spoolAll, hrequest]
    rfl
  · rw [hrecords, (documents_commit _ _).2, Shelf.map_link_spoolAll, hrequest]
    rfl
  · intro fresh
    obtain ⟨hadded, hreaches⟩ := Records.files_of_writeAttached
      (s.isPlainId_spoolAll asked plain) (s.place_not_mem_spoolAll asked fresh)
      Shelf.nodup_number_spoolAll h
    constructor
    · rw [hfiles, hadded, hold, hrequest]
      congr 1
      simp only [Shelf.place, hbase]
      apply Shelf.map_spoolAll fun id name bytes =>
        (s.shelf.base ++ [FileName.stored id (some name)], bytes)
    · rw [hrequest]
      apply (Shelf.forall_mem_spoolAll (P := fun id name =>
        (s.after x).shelf.Reaches (FileName.stored id (some name)))).mp
      intro u hu
      apply (s.changesAt_upload asked plain).reaches_iff.mpr (hreaches u hu)

/-- A step leaves all documents, or it takes those that it is to add. -/
theorem leaves_or_takes (s : State) (plain : GivesPlainIds x) :
  s.Leaves x ∨ ∃ eventId, s.Takes x eventId
  := by
  rcases s.upload_or_leaves x with ⟨eventId, files, asked⟩ | ⟨hleaves, -⟩
  · have hanswer := s.answer_upload asked
    have hrecords := s.records_after_upload asked
    have hfiles := (s.batch_changesAt asked []).files_eq
    rcases s.records.attach_cases x.conditions x.context eventId (s.shelf.spoolAll files).2
      (s.shelf.spoolAll files).1 with ⟨f, shelf', hr, hleft⟩ | ⟨r', shelf', hw, -, hr⟩
    · left
      rw [batch, hr] at hrecords hanswer hfiles
      refine ⟨?_, by rw [hrecords], by rw [hrecords], ?_⟩
      · intro eventId' files' _
        use f, hanswer
      · intro works fresh
        rw [hfiles, ← (s.shelf.spoolAll_keeps files).2.1]
        rcases hleft with rfl | hw
        · rfl
        · apply Records.files_of_writeAttached_error works (s.isPlainId_spoolAll asked plain)
            (s.place_not_mem_spoolAll asked fresh) hw
    · right
      use eventId
      rw [batch, hr] at hrecords hfiles
      apply takes_of_writeAttached asked plain hw hrecords hfiles
  · left
    apply hleaves

/-! ### The shelf after a step -/

/-- A step leaves the shelf alone, or spools files and changes it at their places only. -/
theorem shelf_after_cases (s : State) (plain : GivesPlainIds x) :
  (s.after x).shelf = s.shelf
    ∨ (s.shelf.spoolAll x.request.files).2.ChangesAt (s.places x) (s.after x).shelf
  := by
  rcases s.upload_or_leaves x with ⟨eventId, files, asked⟩ | ⟨-, hshelf⟩
  · right
    have hrequest : x.request.files = files := by rw [asked, Request.files]
    rw [hrequest]
    apply s.changesAt_upload asked plain
  · left
    apply hshelf

theorem base_after (s : State) (plain : GivesPlainIds x) :
  (s.after x).shelf.base = s.shelf.base
  := by
  rcases s.shelf_after_cases plain with h | h
  · rw [h]
  · rw [h.base, (s.shelf.spoolAll_keeps _).1]

/-- The directories stay, once they are made. -/
theorem isMade_after (plain : GivesPlainIds x) (h : s.shelf.isMade = true) :
  (s.after x).shelf.isMade = true
  := by
  rcases s.shelf_after_cases plain with hshelf | hshelf
  · rw [hshelf, h]
  · rw [hshelf.isMade, (s.shelf.spoolAll_keeps _).2.2.1, h, Bool.true_or]

/-- No file stays spooled, if files can be removed. -/
theorem spool_after (plain : GivesPlainIds x) (works : x.conditions.fileFaults.unlink = false)
    (h : s.shelf.spool = []) :
  (s.after x).shelf.spool = []
  := by
  rcases s.upload_or_leaves x with ⟨eventId, files, asked⟩ | ⟨-, hshelf⟩
  · have hspool := (s.changesAt_batch asked plain).spool
    rw [s.shelf_after_upload asked, Shelf.spool_foldl_discardSpooled
      (Conditions.unlink_fileFaultsOf works), List.filter_eq_nil_iff]
    intro f hf
    rcases Shelf.mem_spool_spoolAll (hspool.mem hf) with hold | hnew
    · rw [h] at hold
      cases hold
    · simpa using hnew
  · rw [hshelf, h]

/-- Files at other places than those of the step stay. -/
theorem file?_after (plain : GivesPlainIds x) {path : Path} (hpath : path ∉ s.places x) :
  (s.after x).shelf.file? path = s.shelf.file? path
  := by
  rcases s.shelf_after_cases plain with h | h
  · rw [h]
  · rw [h.file?_eq hpath, Shelf.file?, (s.shelf.spoolAll_keeps _).2.1, Shelf.file?]

/-! ### Runs with fresh ids -/

/-- Whether `P` holds of every step of a run in the state in which the step is taken. -/
def Along (P : State → Step → Prop) (s : State) : List Step → Prop
  | [] => True
  | x :: xs => P s x ∧ (s.after x).Along P xs

/-- What every step of a run keeps that satisfies `P`, the run keeps. -/
theorem run_along {P : State → Step → Prop} {Q : State → Prop} {steps : List Step} (h : Q s)
    (along : s.Along P steps) (step : ∀ t, Q t → ∀ x ∈ steps, P t x → Q (t.after x)) :
  Q (s.run steps)
  := by
  induction steps generalizing s with
  | nil => apply h
  | cons x xs ih =>
    obtain ⟨hx, hxs⟩ := along
    apply ih (step s h x List.mem_cons_self hx) hxs
    intro t ht y hy
    apply step t ht y (List.mem_cons_of_mem x hy)

/-- Whether every document that the step may add gets a plain id that no document has. -/
structure GivesFreshIds (s : State) (x : Step) : Prop where
  plain : GivesPlainIds x
  absent : ∀ f ∈ x.request.files, s.records.document? f.documentId = none

instance (s : State) (x : Step) : Decidable (s.GivesFreshIds x) :=
  decidable_of_iff
    (GivesPlainIds x ∧ ∀ f ∈ x.request.files, s.records.document? f.documentId = none)
    ⟨fun h => ⟨h.1, h.2⟩, fun h => ⟨h.plain, h.absent⟩⟩

instance decidableAlong (P : State → Step → Prop) [∀ s x, Decidable (P s x)] :
    ∀ (s : State) (steps : List Step), Decidable (s.Along P steps)
  | _, [] => inferInstanceAs (Decidable True)
  | s, x :: xs =>
    have := decidableAlong P (s.after x) xs
    inferInstanceAs (Decidable (_ ∧ _))

end State

namespace Sample

/-- Files are sent for the first event, under some conditions. -/
def sending (files : List SentFile) (conditions : Conditions) : Step where
  conditions := conditions
  context := { actor := "user" }
  request := .upload "first" files

end Sample

end Workshop
