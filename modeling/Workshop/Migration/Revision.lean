import Workshop.Storage.Cell
import Workshop.Storage.Layout
import Workshop.Storage.Violation

/-!
# The revision

There is one revision, which makes the tables of planning.  A name stands for that revision, for
nothing, or for a `Station` that counting steps leads to, which can also be below the revision or
off the line: `Station.up` and `Station.down` count.  A `Problem` is the reason for which a command
on a database under migration fails.  Such a database keeps the ids of the revisions that have been
applied in a table of its own, which `Version.layout` describes.
-/

namespace Workshop.Migration

open Storage

/-! ### Why commands fail -/

/-- Why a command fails. -/
inductive Problem where
  /-- What the command names is unknown, or cannot be gone to from here. -/
  | refused
  /-- A revision is needed, and what is named is none. -/
  | noRevision
  /-- The id of a revision is needed, and what is named has none. -/
  | withoutId
  /-- A record is to be taken back that is not there. -/
  | noRecord
  /-- A number of steps has too many digits. -/
  | tooManyDigits
  /-- A script names more than two ends. -/
  | surplusEnd
  /-- A table or a column is missing, or is there already. -/
  | noSuchObject
  /-- A value cannot be handed to the storage. -/
  | misfit (misfit : Misfit)
  | violated (violation : Violation)
  /-- The layouts differ from those that are expected. -/
  | differs
deriving DecidableEq, Repr, Inhabited

/-! ### Stations -/

/-- The id of the revision. -/
def revision : String :=
  "0001"

/-- Where counting steps can lead. -/
inductive Station where
  /-- Off the line; a first step from there, in either direction, meets the revision. -/
  | outside
  | revision
  /-- Below the revision, where there is nothing more to undo. -/
  | bottom
deriving DecidableEq, Repr, Inhabited

namespace Station

/-- The station one step up, if there is one. -/
def above? : Station → Option Station
  | outside => some revision
  | revision => none
  | bottom => none

/-- The station one step down, if there is one. -/
def below? : Station → Option Station
  | outside => some revision
  | revision => some bottom
  | bottom => none

/-- So many steps, each as `step` takes it; where there is no further step they lead off the
line. -/
def walk (step : Station → Option Station) : Nat → Station → Station
  | 0, s => s
  | n + 1, s =>
    match step s with
    | some t => walk step n t
    | none => outside

/-- So many steps up. -/
def up : Nat → Station → Station :=
  walk above?

/-- So many steps down. -/
def down : Nat → Station → Station :=
  walk below?

end Station

/-! ### The record of revisions -/

namespace Version

/-- The column of the id. -/
def column : String :=
  "version_num"

/-- The layout of the table. -/
def layout : Layout where
  name := "alembic_version"
  columns := [{ name := column, type := .varchar 32, nullable := false }]
  key := [column]

end Version

end Workshop.Migration
