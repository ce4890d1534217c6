import Workshop.Proofs.Filing

/-!
# Storing one file

A spooled file is renamed to its place; where this fails it is copied there, and the spooled file is
removed.  `Shelf.MovesOrKeeps` says that this was done, or that it failed and left both the spooled
file and the place as they were.  `Shelf.store_moves_or_keeps` shows it under the name of a document
whose id has no separators, for all operations on files that can fail together, but for two cases:
nothing is said if the copy succeeds and the spooled file cannot be removed, and if neither the
renaming, nor the copy, nor the removal of what the copy left succeeds, then this is still there.
-/

namespace Workshop

namespace FileFaults

/-- Whether a file is copied to its place, but not removed from the spool. -/
def Doubles (f : FileFaults) : Prop :=
  f.rename = true ∧ f.copy = false ∧ f.unlink = true

/-- Whether what a failing copy leaves behind is not removed. -/
def Litters (f : FileFaults) : Prop :=
  f.rename = true ∧ f.copy = true ∧ f.unlink = true

instance (f : FileFaults) : Decidable f.Doubles :=
  inferInstanceAs (Decidable (_ ∧ _ ∧ _))

instance (f : FileFaults) : Decidable f.Litters :=
  inferInstanceAs (Decidable (_ ∧ _ ∧ _))

end FileFaults

namespace Shelf

variable {s : Shelf} {path : Path} {bytes : Bytes} {number : Nat} {name : String}
  {faults : FileFaults}

/-- Whether the spooled file `number` with the given contents was moved to the path, which is
answered, or a failure was answered and the file is still spooled, with no file at the path. -/
inductive MovesOrKeeps (number : Nat) (bytes : Bytes) (path : Path) :
    Except Failure Path × Shelf → Prop where
  | moved {s' : Shelf} (stands : s'.file? path = some bytes) (gone : s'.spooled? number = none) :
      MovesOrKeeps number bytes path (.ok path, s')
  | kept {f : Failure} {s' : Shelf} (stays : s'.spooled? number = some bytes)
      (free : s'.file? path = none) :
      MovesOrKeeps number bytes path (.error f, s')

/-! ### Files that are written and removed -/

/-- What is kept of a list of pairs without a key has no value for it. -/
theorem lookup_filter_ne {α β : Type} [BEq α] [LawfulBEq α] [DecidableEq α] (xs : List (α × β))
    (key : α) :
  (xs.filter (·.1 ≠ key)).lookup key = none
  := by
  rw [List.lookup_eq_none_iff]
  intro x hx
  have hne : x.1 ≠ key := by simpa using (List.mem_filter.mp hx).2
  simpa using hne.symm

@[simp]
theorem file?_write (s : Shelf) (path : Path) (bytes : Bytes) :
  (s.write path bytes).file? path = some bytes
  := by
  rw [file?, write, List.lookup_append, lookup_filter_ne, Option.none_or, List.lookup_cons_self]

@[simp]
theorem file?_remove (s : Shelf) (path : Path) :
  (s.remove path).file? path = none
  := lookup_filter_ne s.files path

@[simp]
theorem spooled?_unspool_self (s : Shelf) (number : Nat) :
  (s.unspool number).spooled? number = none
  := lookup_filter_ne s.spool number

/-! ### Ways to the place of a file -/

/-- A name without separators that leads to a file leads to one of the documents directory. -/
theorem reaches_of_locate (separator : '/' ∉ name.toList) (nul : '\x00' ∉ name.toList)
    (h : s.locate name = .ok path) :
  s.Reaches name ∧ path = s.base ++ [name]
  := by
  have horigin : Path.origin s.base name.toList = s.base := by
    rw [Path.origin.eq_def]
    split <;> simp_all
  have hplain : Path.IsPlainName name := by
    constructor
    · apply separator
    · rintro rfl
      have hnames : Path.names ".".toList = [] := by decide
      rw [locate, horigin, hnames, follow] at h
      split_ifs at h
      simp [walk] at h
    · rintro rfl
      have hnames : Path.names "..".toList = [".."] := by decide
      rw [locate, horigin, hnames, follow] at h
      split_ifs at h
      simp [walk] at h
  obtain ⟨hempty, hpath, hfollow⟩ := of_locate_eq_ok hplain h
  exact ⟨⟨hplain, nul, hempty, hpath ▸ hfollow⟩, hpath⟩

/-- Under a name that reaches no place, a file is not stored, and nothing changes. -/
theorem store_of_not_reaches (separator : '/' ∉ name.toList) (h : ¬ s.Reaches name)
    (faults : FileFaults) (number : Nat) :
  ∃ f, s.store faults number name = (.error f, s)
  := by
  by_cases hnul : name.toList.contains '\x00' = true
  · exact ⟨_, by rw [store, if_pos hnul]⟩
  · cases hlocate : s.locate name with
    | error problem => exact ⟨_, by rw [store, if_neg hnul, hlocate]⟩
    | ok path =>
      have := reaches_of_locate separator (by simpa using hnul) hlocate
      exact absurd this.1 h

/-- Under a name that reaches a place, a file is moved to this place, or copied to it. -/
theorem store_of_reaches (h : s.Reaches name) (source : s.spooled? number = some bytes) :
  s.store faults number name =
    if faults.rename then s.copyFile faults number bytes (s.base ++ [name])
    else (.ok (s.base ++ [name]), (s.write (s.base ++ [name]) bytes).unspool number)
  := by
  have hlocate : s.locate name = .ok (s.base ++ [name]) := by
    rw [locate, h.plain.names_eq, h.plain.origin_eq, if_neg h.nonempty, h.follow]
  simp [store, hlocate, source, h.nul]

/-! ### All or nothing -/

/-- A failing copy leaves the files as they were, unless what it left cannot be removed. -/
theorem copyFile_of_copy (h : faults.copy = true) :
  s.copyFile faults number bytes path =
    (.error .fileSystem, if faults.unlink then s.write path faults.remnant else s.remove path)
  := by
  rw [copyFile, if_pos h, discard, remove_write]

/-- A spooled file is moved to the place that its name reaches, or kept with no file at this place,
or what a failing copy left is there. -/
theorem movesOrKeeps_of_reaches (h : s.Reaches name) (source : s.spooled? number = some bytes)
    (removed : ¬ faults.Doubles) :
  MovesOrKeeps number bytes (s.base ++ [name]) (s.store faults number name)
    ∨ faults.Litters ∧ s.store faults number name =
      (.error .fileSystem, s.write (s.base ++ [name]) faults.remnant)
  := by
  rw [store_of_reaches h source]
  cases hrename : faults.rename with
  | false =>
    left
    exact .moved (file?_write s _ bytes) (spooled?_unspool_self _ number)
  | true =>
    rw [if_pos rfl]
    cases hcopy : faults.copy with
    | true =>
      rw [copyFile_of_copy hcopy]
      cases hunlink : faults.unlink with
      | true =>
        right
        exact ⟨⟨hrename, hcopy, hunlink⟩, rfl⟩
      | false =>
        left
        exact .kept source (file?_remove s _)
    | false =>
      have hunlink : faults.unlink = false := by
        simpa [FileFaults.Doubles, hrename, hcopy] using removed
      left
      rw [copyFile, if_neg (by simp [hcopy]), if_neg (by simp [hunlink])]
      exact .moved (file?_write s _ bytes) (spooled?_unspool_self _ number)

/-- Whatever operations on files fail, storing a spooled file under the name for a document, where
no file stands, is all or nothing.  It is not if only the renaming and the removal of the file fail,
of which nothing is said; and if the renaming, the copy and the removal all fail, then the spooled
file is kept, but what the copy left may stand at the place. -/
theorem store_moves_or_keeps {id : String} (separator : '/' ∉ id.toList)
    (name : Option String) (source : s.spooled? number = some bytes)
    (free : s.file? (s.base ++ [FileName.stored id name]) = none) (removed : ¬ faults.Doubles) :
  MovesOrKeeps number bytes (s.base ++ [FileName.stored id name])
      (s.store faults number (FileName.stored id name))
    ∨ faults.Litters ∧ s.store faults number (FileName.stored id name) =
      (.error .fileSystem, s.write (s.base ++ [FileName.stored id name]) faults.remnant)
  := by
  by_cases h : s.Reaches (FileName.stored id name)
  · apply movesOrKeeps_of_reaches h source removed
  · left
    have hseparator := FileName.separator_not_mem_stored separator name
    obtain ⟨f, hf⟩ := store_of_not_reaches hseparator h faults number
    rw [hf]
    exact .kept source free

end Shelf

namespace Sample

/-- A shelf with one spooled file and no others. -/
def spooling : Shelf :=
  { base := ["srv", "documents"], isMade := true, spool := [(0, [37, 80, 68, 70])] }

end Sample

namespace Shelf

open Sample

/-- A copy takes the place of a renaming that fails, a file whose copy fails as well is kept, and if
nothing can be removed either, what the copy left stays. -/
theorem stores_of_spooling :
  spooling.store { rename := true } 0 "d-1.pdf"
      = (.ok ["srv", "documents", "d-1.pdf"],
        { spooling with
          files := [(["srv", "documents", "d-1.pdf"], [37, 80, 68, 70])], spool := [] })
    ∧ MovesOrKeeps 0 [37, 80, 68, 70] ["srv", "documents", "d-1.pdf"]
        (spooling.store { rename := true } 0 "d-1.pdf")
    ∧ spooling.store { rename := true, copy := true } 0 "d-1.pdf" = (.error .fileSystem, spooling)
    ∧ MovesOrKeeps 0 [37, 80, 68, 70] ["srv", "documents", "d-1.pdf"]
        (spooling.store { rename := true, copy := true } 0 "d-1.pdf")
  := by
  have hname : FileName.stored "d-1" (some "Plan.PDF") = "d-1.pdf" := by decide +kernel
  have hall : ∀ faults : FileFaults, ¬ faults.Doubles → ¬ faults.Litters →
      MovesOrKeeps 0 [37, 80, 68, 70] ["srv", "documents", "d-1.pdf"]
        (spooling.store faults 0 "d-1.pdf") := by
    intro faults hdoubles hlitters
    have source : spooling.spooled? 0 = some [37, 80, 68, 70] := rfl
    have free : spooling.file? (spooling.base ++ [FileName.stored "d-1" (some "Plan.PDF")]) = none
      := by
      rw [hname]
      rfl
    have h := store_moves_or_keeps (by decide) _ source free hdoubles
    rw [hname] at h
    apply h.resolve_right
    intro hleft
    apply hlitters hleft.1
  refine ⟨by decide +kernel, hall _ (by decide) (by decide), by decide +kernel,
    hall _ (by decide) (by decide)⟩

/-- If the renaming, the copy and the removal of what it left all fail, a file is neither moved nor
kept with no other at its place. -/
theorem neither_moves_nor_keeps :
  spooling.spooled? 0 = some [37, 80, 68, 70]
    ∧ spooling.file? (spooling.base ++ [FileName.stored "d-1" (some "Plan.PDF")]) = none
    ∧ ¬ MovesOrKeeps 0 [37, 80, 68, 70]
        (spooling.base ++ [FileName.stored "d-1" (some "Plan.PDF")])
        (spooling.store { rename := true, copy := true, unlink := true } 0
          (FileName.stored "d-1" (some "Plan.PDF")))
  := by
  have hname : FileName.stored "d-1" (some "Plan.PDF") = "d-1.pdf" := by decide +kernel
  rw [hname]
  refine ⟨rfl, rfl, ?_⟩
  have hstore : spooling.store { rename := true, copy := true, unlink := true } 0 "d-1.pdf"
      = (.error .fileSystem,
        spooling.write (spooling.base ++ ["d-1.pdf"]) ({} : FileFaults).remnant) := by
    decide +kernel
  rw [hstore]
  rintro (_ | ⟨-, hfree⟩)
  rw [file?_write] at hfree
  cases hfree

end Shelf

end Workshop
