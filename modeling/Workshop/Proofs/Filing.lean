import Workshop.Proofs.StoredNames

/-!
# Filing

Storing a file moves it from the spool to its place, and may fail on the way, half of a copy having
been written.  `Shelf.ChangesAt` says that a shelf has changed only at some paths, and
`Shelf.store_cases` in which ways storing a file can end.  `Shelf.spoolAll` gives the files of a
request numbers under which no other file is spooled.
-/

namespace Workshop

namespace Shelf

variable {s s' t : Shelf} {faults : FileFaults} {paths : List Path} {path : Path} {bytes : Bytes}
  {number : Nat} {id id' name name' : String}

/-! ### Places -/

/-- The place of the file for a document. -/
def place (s : Shelf) (id name : String) : Path :=
  s.base ++ [FileName.stored id (some name)]

/-- The places of the files of a batch. -/
def places (s : Shelf) (us : List Upload) : List Path :=
  us.map fun u => s.place u.documentId u.name

theorem id_of_place_eq (plain : FileName.IsPlainId id) (plain' : FileName.IsPlainId id')
    (h : s.place id name = s.place id' name') :
  id = id'
  := by
  simp only [place, List.append_cancel_left_eq, List.cons.injEq, and_true] at h
  apply FileName.id_of_stored_eq plain.1 plain'.1 h

/-- Whether a file of this name can stand in the documents directory. -/
structure Reaches (s : Shelf) (name : String) : Prop where
  plain : Path.IsPlainName name
  nul : '\x00' ∉ name.toList
  nonempty : name ≠ ""
  follow : s.follow s.base [name] = .ok (s.base ++ [name])

theorem Reaches.congr (hbase : s'.base = s.base) (hmade : s'.isMade = s.isMade)
    (h : s.Reaches name) :
  s'.Reaches name
  := by
  refine ⟨h.plain, h.nul, h.nonempty, ?_⟩
  rw [hbase]
  apply follow_congr h.plain.back hbase hmade h.follow

/-! ### Shelves that differ at some paths -/

/-- Whether `s'` is the shelf `s`, but for the files at some paths, and for files that are spooled
no more. -/
structure ChangesAt (s : Shelf) (paths : List Path) (s' : Shelf) : Prop where
  base : s'.base = s.base
  isMade : s'.isMade = s.isMade
  files : s'.files.filter (·.1 ∉ paths) = s.files.filter (·.1 ∉ paths)
  spool : s'.spool.Sublist s.spool

namespace ChangesAt

theorem refl :
  s.ChangesAt paths s
  := ⟨rfl, rfl, rfl, List.Sublist.refl s.spool⟩

theorem trans (h : s.ChangesAt paths s') (h' : s'.ChangesAt paths t) :
  s.ChangesAt paths t
  := ⟨h'.base.trans h.base, h'.isMade.trans h.isMade, h'.files.trans h.files,
    h'.spool.trans h.spool⟩

theorem mono {paths' : List Path} (h : s.ChangesAt paths s') (hsub : paths ⊆ paths') :
  s.ChangesAt paths' s'
  := by
  have hfilter : ∀ fs : List (Path × Bytes),
      (fs.filter (·.1 ∉ paths)).filter (·.1 ∉ paths') = fs.filter (·.1 ∉ paths') := by
    intro fs
    rw [List.filter_filter]
    apply List.filter_congr
    intro f _
    by_cases hf : f.1 ∈ paths <;> simp [hf, @hsub f.1]
  refine ⟨h.base, h.isMade, ?_, h.spool⟩
  rw [← hfilter, h.files, hfilter]

theorem place_eq (h : s.ChangesAt paths s') :
  s'.place id name = s.place id name
  := by
  rw [place, place, h.base]

theorem reaches_iff (h : s.ChangesAt paths s') :
  s'.Reaches name ↔ s.Reaches name
  := ⟨Reaches.congr h.base.symm h.isMade.symm, Reaches.congr h.base h.isMade⟩

/-- Where nothing changes at any path, the files are the same. -/
theorem files_eq (h : s.ChangesAt [] s') :
  s'.files = s.files
  := by
  simpa using h.files

/-- At other paths the same files are found. -/
theorem file?_eq (h : s.ChangesAt paths s') (hpath : path ∉ paths) :
  s'.file? path = s.file? path
  := by
  rw [file?, file?, ← lookup_filter (· ∉ paths) hpath, h.files, lookup_filter (· ∉ paths) hpath]

end ChangesAt

theorem changesAt_remove (h : path ∈ paths) :
  s.ChangesAt paths (s.remove path)
  := by
  refine ⟨rfl, rfl, ?_, List.Sublist.refl s.spool⟩
  rw [remove, List.filter_filter]
  apply List.filter_congr
  intro f _
  by_cases hf : f.1 = path <;> simp [hf, h]

theorem changesAt_write (h : path ∈ paths) (bytes : Bytes) :
  s.ChangesAt paths (s.write path bytes)
  := by
  have hremove := (changesAt_remove (s := s) h).files
  refine ⟨rfl, rfl, ?_, List.Sublist.refl s.spool⟩
  rw [write, List.filter_append, ← hremove, remove]
  simp [h]

theorem changesAt_unspool (number : Nat) :
  s.ChangesAt paths (s.unspool number)
  := ⟨rfl, rfl, rfl, List.filter_sublist⟩

theorem changesAt_discard (faults : FileFaults) (h : path ∈ paths) :
  s.ChangesAt paths (s.discard faults path)
  := by
  rw [discard]
  split
  · apply ChangesAt.refl
  · apply changesAt_remove h

theorem changesAt_discardSpooled (faults : FileFaults) (number : Nat) :
  s.ChangesAt paths (s.discardSpooled faults number)
  := by
  rw [discardSpooled]
  split
  · apply ChangesAt.refl
  · apply changesAt_unspool

/-- What every change of a list keeps, all of them keep. -/
theorem changesAt_foldl {α : Type} {g : Shelf → α → Shelf} {as : List α}
    (h : ∀ a ∈ as, ∀ t : Shelf, t.ChangesAt paths (g t a)) :
  s.ChangesAt paths (as.foldl g s)
  := by
  induction as generalizing s with
  | nil => apply ChangesAt.refl
  | cons a as ih =>
    apply (h a List.mem_cons_self s).trans
    apply ih
    intro b hb
    apply h b (List.mem_cons_of_mem a hb)

/-- Where no file stands at the path, all files stand elsewhere. -/
theorem filter_files_of_not_mem (h : path ∉ s.files.map (·.1)) :
  s.files.filter (·.1 ≠ path) = s.files
  := by
  rw [List.filter_eq_self]
  intro f hf
  simp only [ne_eq, decide_not, Bool.not_eq_true', decide_eq_false_iff_not]
  rintro rfl
  apply h (List.mem_map_of_mem hf)

/-- Where no file stands at the path, one is added. -/
theorem files_write_of_not_mem (h : path ∉ s.files.map (·.1)) (bytes : Bytes) :
  (s.write path bytes).files = s.files ++ [(path, bytes)]
  := by
  rw [write, filter_files_of_not_mem h]

/-- The files spooled under other numbers stay. -/
theorem spooled?_unspool {n : Nat} (h : n ≠ number) :
  (s.unspool number).spooled? n = s.spooled? n
  := lookup_filter (· ≠ number) h s.spool

/-! ### Files that are removed again -/

/-- A file that was written is gone once it is removed, and so is the one that it replaced. -/
theorem remove_write :
  (s.write path bytes).remove path = s.remove path
  := by
  simp [write, remove, List.filter_append, List.filter_filter]

/-- The files at none of several paths are those that are left once the file at the last path is
removed and the others are not looked at. -/
theorem filter_files_append_singleton :
  s.files.filter (·.1 ∉ paths ++ [path]) = (s.remove path).files.filter (·.1 ∉ paths)
  := by
  rw [remove, List.filter_filter]
  apply List.filter_congr
  intro f _
  by_cases hf : f.1 = path <;> simp [hf]

section

variable {faultsOf : Nat → FileFaults}

/-- Discarding files leaves the others, if each of the files can be removed. -/
theorem files_foldl_discard (works : ∀ n, (faultsOf n).unlink = false) (first : Nat) :
  ((paths.zipIdx first).foldl (fun s file => s.discard (faultsOf file.2) file.1) s).files
    = s.files.filter (·.1 ∉ paths)
  := by
  induction paths generalizing s first with
  | nil => simp
  | cons path paths ih =>
    rw [List.zipIdx_cons, List.foldl_cons, ih, discard, works]
    simp only [Bool.false_eq_true, if_false, remove, List.filter_filter]
    apply List.filter_congr
    intro f _
    by_cases hf : f.1 = path <;> simp [hf]

/-- Discarding spooled files changes nothing but the spool. -/
theorem changesAt_foldl_discardSpooled (faultsOf : Nat → FileFaults) (us : List Upload) :
  s.ChangesAt paths
    (us.zipIdx.foldl (fun s file => s.discardSpooled (faultsOf file.2) file.1.number) s)
  := by
  apply changesAt_foldl
  intro file _ shelf
  apply changesAt_discardSpooled

/-- Discarding spooled files leaves the others, if each of the files can be removed. -/
theorem spool_foldl_discardSpooled {us : List Upload} (works : ∀ n, (faultsOf n).unlink = false)
    (first : Nat) :
  ((us.zipIdx first).foldl
      (fun s file => s.discardSpooled (faultsOf file.2) file.1.number) s).spool
    = s.spool.filter (·.1 ∉ us.map (·.number))
  := by
  induction us generalizing s first with
  | nil => simp
  | cons u us ih =>
    rw [List.zipIdx_cons, List.foldl_cons, ih, discardSpooled, works]
    simp only [Bool.false_eq_true, if_false, unspool, List.filter_filter]
    apply List.filter_congr
    intro f _
    by_cases hf : f.1 = u.number <;> simp [hf]

end

/-! ### Storing a file -/

/-- A copy fails, which can change the file at the path only and leaves none there if files can be
removed, or it takes the place of a file at the path. -/
theorem copyFile_cases (s : Shelf) (faults : FileFaults) (number : Nat) (bytes : Bytes)
    (path : Path) :
  (∃ f s', s.copyFile faults number bytes path = (.error f, s') ∧ s.ChangesAt [path] s'
      ∧ (faults.unlink = false → s' = s.remove path))
    ∨ s.copyFile faults number bytes path = (.ok path, (s.write path bytes).unspool number)
  := by
  have hwrite : ∀ b, s.ChangesAt [path] (s.write path b) := changesAt_write List.mem_cons_self
  cases hcopy : faults.copy with
  | true =>
    left
    refine ⟨_, _, by rw [copyFile, if_pos hcopy], ?_, ?_⟩
    · apply (hwrite faults.remnant).trans (changesAt_discard faults List.mem_cons_self)
    · intro works
      rw [discard, if_neg (by simp [works])]
      apply remove_write
  | false =>
    cases hunlink : faults.unlink with
    | true =>
      left
      refine ⟨_, _, by rw [copyFile, if_neg (by simp [hcopy]), if_pos hunlink], hwrite bytes, ?_⟩
      rintro ⟨⟩
    | false =>
      right
      rw [copyFile, if_neg (by simp [hcopy]), if_neg (by simp [hunlink])]

/-- Storing a file under a plain name fails, which can change the file at its place in the documents
directory only and leaves none there that was not there before, if files can be removed.  Or it
moves the file to that place. -/
theorem store_cases (s : Shelf) (faults : FileFaults) (number : Nat)
    (plain : Path.IsPlainName name) :
  (∃ f s', s.store faults number name = (.error f, s') ∧ s.ChangesAt [s.base ++ [name]] s'
      ∧ (faults.unlink = false → s' = s ∨ s' = s.remove (s.base ++ [name])))
    ∨ s.Reaches name ∧ s.store faults number name = (.ok (s.base ++ [name]),
      (s.write (s.base ++ [name]) ((s.spooled? number).getD [])).unspool number)
  := by
  by_cases hnul : name.toList.contains '\x00' = true
  · left
    refine ⟨_, s, by rw [store, if_pos hnul], ChangesAt.refl, ?_⟩
    intro _
    left
    rfl
  · cases hlocate : s.locate name with
    | error problem =>
      left
      refine ⟨_, s, by rw [store, if_neg hnul, hlocate], ChangesAt.refl, ?_⟩
      intro _
      left
      rfl
    | ok path =>
      obtain ⟨hempty, rfl, hfollow⟩ := of_locate_eq_ok plain hlocate
      have hreaches : s.Reaches name := ⟨plain, by simpa using hnul, hempty, hfollow⟩
      simp only [store, hlocate]
      rw [if_neg hnul]
      cases faults.rename with
      | true =>
        rcases s.copyFile_cases faults number ((s.spooled? number).getD []) (s.base ++ [name]) with
          ⟨f, s', heq, hchanges, hremoved⟩ | heq
        · left
          refine ⟨f, s', heq, hchanges, ?_⟩
          intro works
          right
          apply hremoved works
        · right
          use hreaches
          apply heq
      | false =>
        right
        use hreaches
        rfl

/-! ### Spooling files -/

/-- A file is spooled under a number above those of the others. -/
theorem lt_of_mem_spool (s : Shelf) (bytes : Bytes) {f : Nat × Bytes} (h : f ∈ s.spool) :
  f.1 < (s.spoolFile bytes).1
  := by
  have hfold : ∀ (fs : List (Nat × Bytes)) (n : Nat),
      n ≤ fs.foldl (fun n f => max n (f.1 + 1)) n
        ∧ ∀ f ∈ fs, f.1 < fs.foldl (fun n f => max n (f.1 + 1)) n := by
    intro fs
    induction fs with
    | nil => simp
    | cons g gs ih =>
      intro n
      obtain ⟨hle, hlt⟩ := ih (max n (g.1 + 1))
      rw [List.foldl_cons]
      refine ⟨by omega, ?_⟩
      intro f hf
      rcases List.mem_cons.mp hf with rfl | hf
      · omega
      · apply hlt f hf
  apply (hfold s.spool 0).2 f h

variable {files : List SentFile}

/-- Spooling makes the directories, and changes nothing else but the spool, to which files are
added. -/
theorem spoolAll_keeps (s : Shelf) (files : List SentFile) :
  (s.spoolAll files).2.base = s.base ∧ (s.spoolAll files).2.files = s.files
    ∧ ((s.spoolAll files).2.isMade = (s.isMade || !files.isEmpty))
    ∧ s.spool <+: (s.spoolAll files).2.spool
  := by
  induction files generalizing s with
  | nil => simp [spoolAll]
  | cons f fs ih =>
    obtain ⟨hbase, hfiles, hmade, hspool⟩ := ih (s.spoolFile f.bytes).2
    refine ⟨hbase, hfiles, ?_, ?_⟩
    · apply hmade.trans
      simp [spoolFile]
    · apply List.IsPrefix.trans _ hspool
      simp [spoolFile]

/-- Files that are spooled together have numbers that are new. -/
theorem lt_number_of_mem_spoolAll {u : Upload} (hu : u ∈ (s.spoolAll files).1) :
  ∀ f ∈ s.spool, f.1 < u.number
  := by
  induction files generalizing s with
  | nil => cases hu
  | cons g gs ih =>
    intro f hf
    rcases List.mem_cons.mp hu with rfl | hu
    · apply s.lt_of_mem_spool g.bytes hf
    · apply ih hu
      apply List.mem_append_left _ hf

/-- Files that are spooled together have different numbers. -/
theorem nodup_number_spoolAll :
  ((s.spoolAll files).1.map (·.number)).Nodup
  := by
  induction files generalizing s with
  | nil => apply List.nodup_nil
  | cons f fs ih =>
    rw [spoolAll, List.map_cons, List.nodup_cons]
    refine ⟨?_, ih⟩
    intro hmem
    obtain ⟨u, hu, heq⟩ := List.mem_map.mp hmem
    have hlt := lt_number_of_mem_spoolAll hu ((s.spoolFile f.bytes).1, f.bytes)
      (by simp [spoolFile])
    apply Nat.ne_of_lt hlt heq.symm

/-- Nothing is spooled but what was before and what is now. -/
theorem mem_spool_spoolAll {f : Nat × Bytes} (h : f ∈ (s.spoolAll files).2.spool) :
  f ∈ s.spool ∨ f.1 ∈ (s.spoolAll files).1.map (·.number)
  := by
  induction files generalizing s with
  | nil =>
    left
    apply h
  | cons g gs ih =>
    rw [spoolAll, List.map_cons, List.mem_cons]
    rcases ih h with h | h
    · rcases List.mem_append.mp h with h | h
      · left
        apply h
      · right
        left
        rw [List.mem_singleton.mp h]
        rfl
    · right
      right
      apply h

/-- Every file is spooled with its own id and name, and its own bytes. -/
theorem map_spoolAll {α : Type} (g : String → String → Bytes → α) :
  (s.spoolAll files).1.map (fun u =>
      g u.documentId u.name (((s.spoolAll files).2.spooled? u.number).getD []))
    = files.map fun f => g f.documentId f.name f.bytes
  := by
  induction files generalizing s with
  | nil => rfl
  | cons f fs ih =>
    obtain ⟨-, -, -, hspool⟩ := (s.spoolFile f.bytes).2.spoolAll_keeps fs
    have hfirst : (s.spoolFile f.bytes).2.spooled? (s.spoolFile f.bytes).1 = some f.bytes := by
      rw [spooled?, List.lookup_eq_some_iff]
      refine ⟨s.spool, [], rfl, ?_⟩
      intro g hg
      simpa using (Nat.ne_of_lt (s.lt_of_mem_spool f.bytes hg)).symm
    rw [spoolAll, List.map_cons, List.map_cons]
    congr 1
    · simp only
      rw [spooled?, hspool.lookup_eq_some hfirst]
      rfl
    · apply ih

/-- What holds of the ids and names that are sent holds of those that are spooled, and the other way
round. -/
theorem forall_mem_spoolAll {P : String → String → Prop} :
  (∀ u ∈ (s.spoolAll files).1, P u.documentId u.name) ↔ ∀ f ∈ files, P f.documentId f.name
  := by
  have hmap := @map_spoolAll s files (String × String) fun id name _ => (id, name)
  have hspooled : (∀ u ∈ (s.spoolAll files).1, P u.documentId u.name)
      ↔ ∀ n ∈ (s.spoolAll files).1.map fun u => (u.documentId, u.name), P n.1 n.2 := by
    rw [List.forall_mem_map]
  rw [hspooled, hmap, List.forall_mem_map]

end Shelf

end Workshop
