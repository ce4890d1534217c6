import Workshop.Failure
import Workshop.Text.Split

/-!
# Paths of stored documents

A `Path` lists the names on the way from the root of the file system to a file or a directory.
`Path.resolve` takes a written path apart, where `.` stays and `..` goes back, and
`Path.ofStored` is the place of a document below the documents directory: a stored name that
leads anywhere else is refused.
-/

namespace Workshop

/-- The names on the way from the root to a file or a directory. -/
abbrev Path : Type :=
  List String

namespace Path

/-- The names of a written path, without those that stay where they are. -/
def names (cs : List Char) : List String :=
  ((Text.split '/' cs).map String.ofList).filter fun name => name ≠ "" ∧ name ≠ "."

/-- The place that is reached from `path` by one name. -/
def step (path : Path) (name : String) : Path :=
  if name = ".." then path.dropLast else path ++ [name]

/-- The place that names lead to from the root, where an empty name is a name. -/
def settle (names : List String) : Path :=
  (names.filter (· ≠ ".")).foldl step []

/-- Names that do not go back are passed one after another. -/
theorem foldl_step {names : List String} (h : ∀ name ∈ names, name ≠ "..") (path : Path) :
  names.foldl step path = path ++ names
  := by
  induction names generalizing path with
  | nil => simp
  | cons name names ih =>
    rw [List.foldl_cons, step, if_neg (h name (by simp)), ih fun n hn => h n (by simp [hn])]
    simp

/-- Names that neither stay nor go back are the place. -/
theorem settle_of_forall_ne {names : List String}
    (h : ∀ name ∈ names, name ≠ "." ∧ name ≠ "..") :
  settle names = names
  := by
  rw [settle, List.filter_eq_self.2 (by simpa using fun name hn => (h name hn).1),
    foldl_step fun name hn => (h name hn).2]
  rfl

/-- Where a written path starts: at the root if it begins with a separator, else at `base`. -/
def origin (base : Path) : List Char → Path
  | '/' :: _ => []
  | _ => base

/-- The place that a written path leads to from the directory `base`. -/
def resolve (base : Path) (cs : List Char) : Path :=
  (names cs).foldl step (origin base cs)

/-- The place of a stored name relative to the documents directory `base`.  A name that does not
lead below that directory is refused. -/
def ofStored (base : Path) (name : String) : Except Failure Path :=
  if name.toList.contains '\x00' then .error .invalidPath
  else
    let path := resolve base name.toList
    if base.isPrefixOf path ∧ path ≠ base then .ok (path.drop base.length)
    else .error (.refused .invalidPath)

/-- A path as it is written. -/
def toText (path : Path) : String :=
  "/".intercalate path

end Path

end Workshop
