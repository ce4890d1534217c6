import Workshop.Conditions
import Workshop.Document.Path
import Workshop.Sorting

/-!
# The shelf of files

A `Shelf` holds files: those stored under paths, and those that are spooled until they are moved to
their place.  `Shelf.store` moves a spooled file, or copies it where it cannot be moved, and
`Shelf.discard` removes a file if that can be done.
-/

namespace Workshop

/-- Stored and spooled files. -/
structure Shelf where
  /-- The documents directory. -/
  base : Path
  /-- Whether the documents directory and that of spooled files are there, which are made when the
  first file is spooled. -/
  isMade : Bool := false
  files : List (Path × Bytes) := []
  /-- The spooled files, by number. -/
  spool : List (Nat × Bytes) := []
deriving DecidableEq, Repr, Inhabited

/-- Why a written path leads to no file. -/
inductive Path.Problem where
  /-- A directory on the way, or the file itself, does not exist. -/
  | missing
  /-- A file stands where a directory is needed. -/
  | notDirectory
  /-- The path or one of its names has too many bytes. -/
  | tooLong
  /-- The path leads to a directory. -/
  | isDirectory
deriving DecidableEq, Repr, Inhabited

/-- The failure that a problem with a path leads to. -/
def Path.Problem.failure : Path.Problem → Failure
  | missing => .noSuchFile
  | notDirectory => .notDirectory
  | tooLong => .fileSystem
  | isDirectory => .isDirectory

namespace Shelf

/-- The name of the directory of spooled files. -/
def spoolName : String :=
  "incoming"

/-- Whether there is a directory at the path: those above the documents directory, and, once they
are made, the documents directory and that of spooled files in it. -/
def isDirectory (s : Shelf) (path : Path) : Bool :=
  path.isPrefixOf s.base.dropLast || s.isMade && (path == s.base || path == s.base ++ [spoolName])

/-- The contents of the file at the path. -/
def file? (s : Shelf) (path : Path) : Option Bytes :=
  s.files.lookup path

/-- The most bytes of a name. -/
def nameLimit : Nat :=
  255

/-- The bytes of a path: those of the names, and a separator in front of each. -/
def pathSize (path : Path) : Nat :=
  path.foldl (fun n name => n + name.utf8ByteSize + 1) 0

/-- A path must have fewer bytes than this. -/
def pathLimit : Nat :=
  4096

/-- The place that names lead to from the directory `here`, passing through directories only. -/
def walk (s : Shelf) (here : Path) : List String → Except Path.Problem Path
  | [] => .error .isDirectory
  | ".." :: names => walk s here.dropLast names
  | name :: names =>
    let next := here ++ [name]
    if nameLimit < name.utf8ByteSize then .error .tooLong
    else if s.isDirectory next then walk s next names
    else if names.isEmpty then .ok next
    else if (s.file? next).isSome then .error .notDirectory
    else .error .missing

/-- The place that names lead to from `here`, which must be a directory, unless they make too long
a path. -/
def follow (s : Shelf) (here names : Path) : Except Path.Problem Path :=
  if pathLimit ≤ pathSize (here ++ names) then .error .tooLong
  else if s.isDirectory here then s.walk here names
  else .error .missing

/-- The place of a file with a written path, read from the documents directory. -/
def locate (s : Shelf) (name : String) : Except Path.Problem Path :=
  s.follow (Path.origin s.base name.toList) (Path.names name.toList)

/-- Writes a file, in the place of an earlier one at the same path. -/
def write (s : Shelf) (path : Path) (bytes : Bytes) : Shelf :=
  { s with files := s.files.filter (·.1 ≠ path) ++ [(path, bytes)] }

/-- Removes the file at the path. -/
def remove (s : Shelf) (path : Path) : Shelf :=
  { s with files := s.files.filter (·.1 ≠ path) }

/-- Spools a file, and answers its number. -/
def spoolFile (s : Shelf) (bytes : Bytes) : Nat × Shelf :=
  let number := s.spool.foldl (fun n f => max n (f.1 + 1)) 0
  (number, { s with isMade := true, spool := s.spool ++ [(number, bytes)] })

/-- The contents of a spooled file. -/
def spooled? (s : Shelf) (number : Nat) : Option Bytes :=
  s.spool.lookup number

/-- Removes a spooled file. -/
def unspool (s : Shelf) (number : Nat) : Shelf :=
  { s with spool := s.spool.filter (·.1 ≠ number) }

/-- Removes a stored file, if it is there and can be removed. -/
def discard (s : Shelf) (f : FileFaults) (path : Path) : Shelf :=
  if f.unlink then s else s.remove path

/-- Removes a spooled file, if it is there and can be removed. -/
def discardSpooled (s : Shelf) (f : FileFaults) (number : Nat) : Shelf :=
  if f.unlink then s else s.unspool number

/-- Copies a spooled file to the path and removes it from the spool.  If the copy fails, what it
left behind is discarded. -/
def copyFile (s : Shelf) (f : FileFaults) (number : Nat) (bytes : Bytes) (path : Path) :
    Except Failure Path × Shelf :=
  if f.copy then (.error .fileSystem, (s.write path f.remnant).discard f path)
  else if f.unlink then (.error .fileSystem, s.write path bytes)
  else (.ok path, (s.write path bytes).unspool number)

/-- Moves a spooled file to the place that the stored name leads to, or copies it there if it
cannot be moved. -/
def store (s : Shelf) (f : FileFaults) (number : Nat) (name : String) :
    Except Failure Path × Shelf :=
  if name.toList.contains '\x00' then (.error .invalidPath, s)
  else
    match s.locate name with
    | .error problem => (.error problem.failure, s)
    | .ok path =>
      let bytes := (s.spooled? number).getD []
      if f.rename then s.copyFile f number bytes path
      else (.ok path, (s.write path bytes).unspool number)

/-- The file at a place below the documents directory, if there is one. -/
def fetch (s : Shelf) (relative : Path) : Except Failure (Option Bytes) :=
  match s.follow s.base relative with
  | .ok path => .ok (s.file? path)
  | .error .tooLong => .error .fileSystem
  | .error _ => .ok none

/-- Deletes the file with a written path. -/
def delete (s : Shelf) (name : String) : Except Failure Unit × Shelf :=
  if name.toList.contains '\x00' then (.error .invalidPath, s)
  else
    match s.locate name with
    | .error problem => (.error problem.failure, s)
    | .ok path =>
      if (s.file? path).isSome then (.ok (), s.remove path) else (.error .noSuchFile, s)

/-- The files that stand in the documents directory itself, by name. -/
def listing (s : Shelf) : List (String × Bytes) :=
  sortBy (fun a b => a.1 ≤ b.1) <|
    s.files.filterMap fun (path, bytes) =>
      match path.getLast? with
      | some name => if path = s.base ++ [name] then some (name, bytes) else none
      | none => none

/-- How many files stand in the directory of spooled files. -/
def spoolCount (s : Shelf) : Nat :=
  s.spool.length + (s.files.filter fun f => f.1.dropLast = s.base ++ [spoolName]).length

end Shelf

end Workshop
