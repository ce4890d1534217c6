import Mathlib.Logic.Relation
import Workshop.Proofs.Filing

/-!
# Confinement

Where the bytes of a document are read from, a written path is taken apart name by name.  What a
written path denotes is said here without an order in which it is read: `Path.Simplifies` removes a
name that stays where it is, a name with the two points behind it that lead back from it, or two
points at the root, and a path denotes the place that is left when nothing can be removed any more,
`Path.Denotes`.  Every path from the root denotes one place: `Path.denotes_iff`.

`Shelf.stored_names_are_confined` says of the name under which a document is stored that it is
refused exactly if the path which it makes up with the documents directory denotes no place below
that directory, and that otherwise it is read from the place which the path denotes.
-/

namespace Workshop

namespace Path

/-! ### Names that lead from a directory into it -/

/-- Whether the name leads from a directory to something that stands in it. -/
structure IsProper (name : String) : Prop extends IsPlainName name where
  nonempty : name ≠ ""

/-- Whether the path has the names of a place: none of them is empty, stays or goes back. -/
def IsPlace (path : Path) : Prop :=
  ∀ name ∈ path, IsProper name

theorem isProper_iff {name : String} :
  IsProper name ↔ '/' ∉ name.toList ∧ name ≠ "" ∧ name ≠ "." ∧ name ≠ ".."
  := ⟨fun h => ⟨h.separator, h.nonempty, h.stays, h.back⟩,
    fun ⟨hseparator, hempty, hstays, hback⟩ => ⟨⟨hseparator, hstays, hback⟩, hempty⟩⟩

instance (name : String) : Decidable (IsProper name) :=
  decidable_of_iff _ isProper_iff.symm

instance (path : Path) : Decidable path.IsPlace :=
  inferInstanceAs (Decidable (∀ name ∈ path, IsProper name))

/-- Whether the place is below the directory. -/
def IsBelow (base place : Path) : Prop :=
  ∃ inside, inside ≠ [] ∧ place = base ++ inside

/-! ### What a written path denotes -/

/-- Whether the second list is the first one, with one or two names removed that lead nowhere. -/
inductive Simplifies : List String → List String → Prop where
  | stay (front rest : List String) {name : String} (h : name = "" ∨ name = ".") :
      Simplifies (front ++ name :: rest) (front ++ rest)
  | back (front rest : List String) {name : String} (h : IsProper name) :
      Simplifies (front ++ name :: ".." :: rest) (front ++ rest)
  /-- Nothing is above the root. -/
  | top (rest : List String) : Simplifies (".." :: rest) rest

/-- Whether a path that is written from the root denotes the place. -/
def Denotes (written : List Char) (place : Path) : Prop :=
  Relation.ReflTransGen Simplifies ((Text.split '/' written).map String.ofList) place
    ∧ place.IsPlace

/-- The path of a name in the directory `base`, as it is written.  A name that begins at the root
is a path of its own. -/
def written (base : Path) (name : String) : List Char :=
  match name.toList with
  | '/' :: cs => '/' :: cs
  | cs => base.flatMap (fun n => '/' :: n.toList) ++ '/' :: cs

/-- The names that do not stay where they are. -/
def moves (names : List String) : List String :=
  names.filter fun name => name ≠ "" ∧ name ≠ "."

variable {names names' : List String} {name : String} {base place : Path}

@[simp]
theorem moves_append :
  moves (names ++ names') = moves names ++ moves names'
  := List.filter_append ..

theorem moves_cons_of_stays (h : name = "" ∨ name = ".") :
  moves (name :: names) = moves names
  := by
  rcases h with rfl | rfl <;> rfl

theorem moves_cons (hempty : name ≠ "") (hstays : name ≠ ".") :
  moves (name :: names) = name :: moves names
  := by
  simp [moves, hempty, hstays]

theorem IsPlace.moves_eq (h : place.IsPlace) :
  moves place = place
  := by
  rw [moves, List.filter_eq_self]
  intro name hname
  simp [(h name hname).nonempty, (h name hname).stays]

theorem IsPlace.foldl_step (h : place.IsPlace) (base : Path) :
  place.foldl step base = base ++ place
  := Path.foldl_step (fun name hname => (h name hname).back) base

/-- Two points lead back. -/
theorem step_back (path : Path) :
  step path ".." = path.dropLast
  := if_pos rfl

theorem IsProper.step_eq (h : IsProper name) (path : Path) :
  step path name = path ++ [name]
  := if_neg h.back

/-! ### The place that is denoted -/

/-- Whatever is removed, the names lead from the root to the same place. -/
theorem Simplifies.foldl_eq (h : Simplifies names names') :
  (moves names).foldl step [] = (moves names').foldl step []
  := by
  have hback : ∀ rest, moves (".." :: rest) = ".." :: moves rest := fun rest =>
    moves_cons (by decide) (by decide)
  cases h with
  | stay front rest h => rw [moves_append, moves_append, moves_cons_of_stays h]
  | back front rest h =>
    rw [moves_append, moves_append, moves_cons h.nonempty h.stays, hback]
    simp only [List.foldl_append, List.foldl_cons]
    rw [h.step_eq, step_back, List.dropLast_concat]
  | top rest =>
    rw [hback, List.foldl_cons, step_back]
    rfl

/-- From a place, names are removed until what is left is the place to which they lead. -/
theorem simplifies_foldl (hplace : place.IsPlace) (separators : ∀ n ∈ names, '/' ∉ n.toList) :
  Relation.ReflTransGen Simplifies (place ++ names) ((moves names).foldl step place)
    ∧ IsPlace ((moves names).foldl step place)
  := by
  induction names generalizing place with
  | nil =>
    rw [List.append_nil]
    exact ⟨.refl, hplace⟩
  | cons name names ih =>
    obtain ⟨separator, separators⟩ := List.forall_mem_cons.mp separators
    by_cases hstays : name = "" ∨ name = "."
    · obtain ⟨hsimplifies, hend⟩ := ih hplace separators
      rw [moves_cons_of_stays hstays]
      exact ⟨hsimplifies.head (.stay place names hstays), hend⟩
    · rw [not_or] at hstays
      rw [moves_cons hstays.1 hstays.2, List.foldl_cons]
      by_cases hback : name = ".."
      · rw [hback, step_back]
        rcases place.eq_nil_or_concat with rfl | ⟨front, last, rfl⟩
        · obtain ⟨hsimplifies, hend⟩ := ih hplace separators
          exact ⟨hsimplifies.head (.top names), hend⟩
        · rw [List.concat_eq_append] at *
          obtain ⟨hfront, hlast⟩ := List.forall_mem_append.mp hplace
          obtain ⟨hsimplifies, hend⟩ := ih hfront separators
          rw [List.dropLast_concat, List.append_assoc]
          exact ⟨hsimplifies.head (.back front names (hlast last (by simp))), hend⟩
      · have hproper : IsProper name := ⟨⟨separator, hstays.2, hback⟩, hstays.1⟩
        have hnext : IsPlace (place ++ [name]) :=
          List.forall_mem_append.mpr ⟨hplace, by simpa using hproper⟩
        obtain ⟨hsimplifies, hend⟩ := ih hnext separators
        rw [hproper.step_eq]
        rw [List.append_assoc] at hsimplifies
        exact ⟨hsimplifies, hend⟩

/-- A path from the root denotes the place to which its names lead, and no other. -/
theorem denotes_iff {cs : List Char} :
  Denotes cs place ↔ place = resolve [] cs
  := by
  have hresolve : resolve [] cs
      = (moves ((Text.split '/' cs).map String.ofList)).foldl step [] := by
    rw [resolve, origin.eq_def]
    split <;> rfl
  have hseparators : ∀ n ∈ (Text.split '/' cs).map String.ofList, '/' ∉ n.toList := by
    simp only [List.forall_mem_map, String.toList_ofList]
    intro part
    apply Text.not_mem_of_mem_split
  rw [hresolve]
  constructor
  · rintro ⟨hsimplifies, hplace⟩
    have hsame : (moves ((Text.split '/' cs).map String.ofList)).foldl step []
        = (moves place).foldl step [] := by
      clear hplace
      induction hsimplifies with
      | refl => rfl
      | tail _ hstep ih => rw [ih, hstep.foldl_eq]
    rw [hsame, hplace.moves_eq, hplace.foldl_step, List.nil_append]
  · rintro rfl
    have hroot : IsPlace [] := by simp [IsPlace]
    apply simplifies_foldl hroot hseparators

/-- A path whose names are written one after another is split into these names. -/
theorem split_flatMap {part : List Char} (hpart : '/' ∉ part)
    (hnames : ∀ n ∈ names, '/' ∉ n.toList) (cs : List Char) :
  Text.split '/' (part ++ (names.flatMap (fun n => '/' :: n.toList) ++ '/' :: cs))
    = part :: (names.map String.toList ++ Text.split '/' cs)
  := by
  induction names generalizing part with
  | nil => apply Text.split_append_cons hpart
  | cons name names ih =>
    obtain ⟨hname, hnames⟩ := List.forall_mem_cons.mp hnames
    rw [List.flatMap_cons, List.cons_append, List.cons_append, List.append_assoc,
      Text.split_append_cons hpart, ih hname hnames]
    rfl

/-- A name leads from a directory to what the path denotes that the two make up. -/
theorem resolve_written (hbase : base.IsPlace) (name : String) :
  resolve [] (written base name) = resolve base name.toList
  := by
  rw [written]
  split
  · rename_i heq
    rw [heq]
    rfl
  · rename_i hrelative
    have hnames : names (base.flatMap (fun n => '/' :: n.toList) ++ '/' :: name.toList)
        = base ++ names name.toList := by
      have hsplit := split_flatMap (List.not_mem_nil : '/' ∉ [])
        (fun n hn => (hbase n hn).separator) name.toList
      rw [List.nil_append] at hsplit
      change moves _ = base ++ moves _
      rw [hsplit, List.map_cons, moves_cons_of_stays (by simp), List.map_append, moves_append,
        List.map_map, List.map_congr_left (g := id) (by simp), List.map_id, hbase.moves_eq]
    have horigin : origin base name.toList = base := by
      rw [origin.eq_def]
      split
      · exact absurd ‹_› (hrelative _)
      · rfl
    have horigin' : ∀ cs, origin [] cs = [] := by
      intro cs
      rw [origin.eq_def]
      split <;> rfl
    rw [resolve, resolve, horigin, horigin', hnames, List.foldl_append, hbase.foldl_step,
      List.nil_append]

/-! ### Stored names -/

/-- What is read is the place to which the name leads, seen from the directory. -/
theorem ofStored_eq_ok_iff (nul : '\x00' ∉ name.toList) {inside : Path} :
  ofStored base name = .ok inside ↔ inside ≠ [] ∧ resolve base name.toList = base ++ inside
  := by
  have hcontains : name.toList.contains '\x00' = false := by simpa using nul
  simp only [ofStored, hcontains, Bool.false_eq_true, if_false, List.isPrefixOf_iff_prefix]
  constructor
  · intro h
    split_ifs at h with hbelow
    obtain ⟨⟨rest, hrest⟩, hne⟩ := hbelow
    simp only [Except.ok.injEq, ← hrest, List.drop_left] at h
    subst h
    refine ⟨?_, hrest.symm⟩
    rintro rfl
    apply hne
    rw [← hrest, List.append_nil]
  · rintro ⟨hne, heq⟩
    rw [heq, if_pos]
    · rw [List.drop_left]
    · simpa using hne

/-- A name that is not read is refused. -/
theorem ofStored_eq_error_iff (nul : '\x00' ∉ name.toList) :
  ofStored base name = .error (.refused .invalidPath) ↔ ∀ inside, ofStored base name ≠ .ok inside
  := by
  have hcontains : name.toList.contains '\x00' = false := by simpa using nul
  simp only [ofStored, hcontains, Bool.false_eq_true, if_false]
  split <;> simp

end Path

namespace Shelf

/-- Let the names of the documents directory be those of a place.  The name under which a document
is stored makes up a path with that directory, which denotes one place.  The name is refused exactly
if this place is not below the directory, and is read from this place otherwise, so by names below
the directory that neither stay nor go back.  A name without separators that is neither empty nor
one or two points is read from the directory itself, and this is the only place where storing the
document writes, and the one that it answers. -/
theorem stored_names_are_confined (s : Shelf) (hbase : s.base.IsPlace) {id : String}
    (nul : '\x00' ∉ id.toList) (name : Option String) :
  (∃! place, Path.Denotes (Path.written s.base (FileName.stored id name)) place)
    ∧ (Path.ofStored s.base (FileName.stored id name) = .error (.refused .invalidPath)
      ∨ ∃ inside, Path.ofStored s.base (FileName.stored id name) = .ok inside ∧ inside ≠ []
        ∧ inside.IsPlace
        ∧ Path.Denotes (Path.written s.base (FileName.stored id name)) (s.base ++ inside))
    ∧ (Path.ofStored s.base (FileName.stored id name) = .error (.refused .invalidPath)
      ↔ ∀ place, Path.Denotes (Path.written s.base (FileName.stored id name)) place →
        ¬ s.base.IsBelow place)
    ∧ (Path.IsProper (FileName.stored id name) →
      Path.ofStored s.base (FileName.stored id name) = .ok [FileName.stored id name]
        ∧ ∀ faults number,
          (∃ f s', s.store faults number (FileName.stored id name) = (.error f, s')
            ∧ s.ChangesAt [s.base ++ [FileName.stored id name]] s')
          ∨ s.store faults number (FileName.stored id name)
            = (.ok (s.base ++ [FileName.stored id name]),
              (s.write (s.base ++ [FileName.stored id name])
                ((s.spooled? number).getD [])).unspool number))
  := by
  have hnul := FileName.nul_not_mem_stored nul name
  generalize FileName.stored id name = stored at hnul
  have hok : ∀ inside, Path.ofStored s.base stored = .ok inside
      ↔ inside ≠ [] ∧ Path.resolve s.base stored.toList = s.base ++ inside :=
    fun _ => Path.ofStored_eq_ok_iff hnul
  have herror : Path.ofStored s.base stored = .error (.refused .invalidPath)
      ↔ ∀ inside, Path.ofStored s.base stored ≠ .ok inside :=
    Path.ofStored_eq_error_iff hnul
  have hdenotes : ∀ place, Path.Denotes (Path.written s.base stored) place
      ↔ place = Path.resolve s.base stored.toList := by
    intro place
    rw [Path.denotes_iff, Path.resolve_written hbase]
  refine ⟨?_, ?_, ?_, ?_⟩
  · simp only [hdenotes]
    apply existsUnique_eq
  · rw [or_iff_not_imp_left, herror]
    intro hread
    obtain ⟨inside, hread⟩ := not_forall_not.mp hread
    obtain ⟨hne, hplace⟩ := (hok inside).mp hread
    have hdenoted := (hdenotes _).mpr hplace.symm
    refine ⟨inside, hread, hne, ?_, hdenoted⟩
    intro n hn
    apply hdenoted.2 n (List.mem_append_right _ hn)
  · simp only [herror, hdenotes, forall_eq, Path.IsBelow, ne_eq, hok]
    simp
  · intro hproper
    refine ⟨hproper.ofStored_eq hproper.nonempty hnul s.base, ?_⟩
    intro faults number
    rcases s.store_cases faults number hproper.toIsPlainName with
      ⟨f, s', heq, hchanges, -⟩ | ⟨-, heq⟩
    · left
      exact ⟨f, s', heq, hchanges⟩
    · right
      apply heq

/-- A path that leaves the documents directory and comes back to it is read, one that does not come
back is refused, and a document is read from where it is stored. -/
theorem confines_of_strays :
  let s : Shelf :=
    { base := ["srv", "documents"], isMade := true, spool := [(0, [37, 80, 68, 70])] }
  (Path.ofStored s.base (FileName.stored "/srv/x/../documents//d-1" none) = .ok ["d-1"]
      ∧ Path.Denotes (Path.written s.base (FileName.stored "/srv/x/../documents//d-1" none))
        ["srv", "documents", "d-1"])
    ∧ (Path.ofStored s.base (FileName.stored "../d-1" (some "Plan.PDF"))
        = .error (.refused .invalidPath)
      ∧ ∀ place,
        Path.Denotes (Path.written s.base (FileName.stored "../d-1" (some "Plan.PDF"))) place →
        ¬ s.base.IsBelow place)
    ∧ (Path.ofStored s.base (FileName.stored "d-1" (some "Plan.PDF")) = .ok ["d-1.pdf"]
      ∧ s.store {} 0 (FileName.stored "d-1" (some "Plan.PDF"))
        = (.ok ["srv", "documents", "d-1.pdf"],
          { s with files := [(["srv", "documents", "d-1.pdf"], [37, 80, 68, 70])], spool := [] }))
  := by
  intro s
  have hbase : s.base.IsPlace := by decide
  have hpdf : FileName.stored "d-1" (some "Plan.PDF") = "d-1.pdf" := by decide +kernel
  obtain ⟨-, hread, -, -⟩ := s.stored_names_are_confined hbase
    (by decide : '\x00' ∉ "/srv/x/../documents//d-1".toList) none
  obtain ⟨-, -, hrefused, -⟩ := s.stored_names_are_confined hbase
    (by decide : '\x00' ∉ "../d-1".toList) (some "Plan.PDF")
  obtain ⟨-, -, -, hplain⟩ := s.stored_names_are_confined hbase
    (by decide : '\x00' ∉ "d-1".toList) (some "Plan.PDF")
  refine ⟨?_, ?_, ?_⟩
  · have hok : Path.ofStored s.base (FileName.stored "/srv/x/../documents//d-1" none) = .ok ["d-1"]
      := by decide +kernel
    rw [hok] at hread
    obtain ⟨inside, heq, -, -, hdenotes⟩ := hread.resolve_left (by simp)
    cases heq
    exact ⟨hok, hdenotes⟩
  · have herror : Path.ofStored s.base (FileName.stored "../d-1" (some "Plan.PDF"))
        = .error (.refused .invalidPath) := by decide +kernel
    exact ⟨herror, hrefused.mp herror⟩
  · rw [hpdf] at hplain ⊢
    obtain ⟨hok, hstore⟩ := hplain (by decide)
    refine ⟨hok, ?_⟩
    rcases hstore {} 0 with ⟨f, s', heq, -⟩ | heq
    · have hanswer : (s.store {} 0 "d-1.pdf").1 = .ok ["srv", "documents", "d-1.pdf"] := by
        decide +kernel
      rw [heq] at hanswer
      cases hanswer
    · rw [heq]
      decide +kernel

end Shelf

end Workshop
