import Workshop.Text.Basic

/-!
# Violations of constraints

A `Violation` is the report of a storage that has refused a statement because of a constraint:
the state codes that some storages give, and a message.  `Violation.meaning?` recognises the two
kinds of violations that requests can answer for.
-/

namespace Workshop.Storage

/-- The report of a violated constraint. -/
structure Violation where
  /-- The code that one kind of driver reports. -/
  pgcode : Option String
  /-- The code that the other kind of driver reports. -/
  sqlstate : Option String
  message : String
deriving DecidableEq, Repr, Inhabited

namespace Violation

/-- A report without codes. -/
def ofMessage (message : String) : Violation :=
  ⟨none, none, message⟩

/-- The columns `columns` of the table `table`, as messages name them. -/
def columnList (table : String) (columns : List String) : String :=
  ", ".intercalate (columns.map fun c => table ++ "." ++ c)

/-- Another row has the same values in the columns. -/
def unique (table : String) (columns : List String) : Violation :=
  ofMessage ("UNIQUE constraint failed: " ++ columnList table columns)

/-- The column must hold a value. -/
def notNull (table column : String) : Violation :=
  ofMessage ("NOT NULL constraint failed: " ++ columnList table [column])

/-- The check called `name` refuses the row. -/
def check (name : String) : Violation :=
  ofMessage ("CHECK constraint failed: " ++ name)

/-- An integer key holds something else than an integer. -/
def mismatch : Violation :=
  ofMessage "datatype mismatch"

/-- The state code: that of the first kind, or else that of the second; an empty code is none. -/
def code (v : Violation) : Option String :=
  match v.pgcode.filter (· ≠ "") with
  | some c => some c
  | none => v.sqlstate.filter (· ≠ "")

/-- The two kinds of violations that requests can answer for. -/
inductive Meaning where
  /-- The row overlaps another one that holds the same resource. -/
  | overlap
  /-- The row is there already. -/
  | duplicate
deriving DecidableEq, Repr, Inhabited

/-- The state code of an overlap. -/
def overlapCode : String :=
  "23P01"

/-- The state code of a duplicate. -/
def duplicateCode : String :=
  "23505"

/-- What a violation means, told by its code, or by its message if that names a repeated value. -/
def meaning? (v : Violation) : Option Meaning :=
  if v.code = some overlapCode then some .overlap
  else if v.code = some duplicateCode || Text.contains v.message "UNIQUE constraint failed" then
    some .duplicate
  else none

end Violation

end Workshop.Storage
