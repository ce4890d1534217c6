import Workshop.Migration.Target
import Workshop.Migration.Revision
import Workshop.Storage.Dialect
import Workshop.Text.Split

/-!
# Scripts of migrations

A script lists the statements that apply the revision or undo it, for a storage that is not at
hand.  `Script.write` writes it for what a command names.
-/

namespace Workshop.Migration

open Storage

/-- The two directions of a migration. -/
inductive Direction where
  | up
  | down
deriving DecidableEq, Repr, Inhabited

namespace Script

/-- The statement that makes the table of the record. -/
def createVersionTable (d : Dialect) : String :=
  Dialect.createTableOf Version.layout.name <|
    Version.layout.columns.map d.column
      ++ ["CONSTRAINT " ++ Version.layout.name ++ "_pkc PRIMARY KEY "
        ++ parenthesized Version.layout.key]

/-- The statement that records the revision. -/
def recordRevision (d : Dialect) : String :=
  let returned := match d with
    | .sqlite => Version.column
    | .postgresql => Version.layout.name ++ "." ++ Version.column
  "INSERT INTO " ++ Version.layout.name ++ " " ++ parenthesized [Version.column] ++ " VALUES "
    ++ parenthesized [quoted revision] ++ " RETURNING " ++ returned

/-- The statement that takes the record of the revision back. -/
def eraseRevision : String :=
  "DELETE FROM " ++ Version.layout.name ++ " WHERE "
    ++ Version.layout.name ++ "." ++ Version.column ++ " = " ++ quoted revision

/-- The types of a table that need a statement of their own, in a dialect that has them. -/
def namedTypes (d : Dialect) (t : Layout) : List ColumnType :=
  match d with
  | .sqlite => []
  | .postgresql => (t.columns.map (·.type)).filter fun type => type.create?.isSome

/-- The statements that make a table: its types, the table and its indexes. -/
def createTable (d : Dialect) (t : Layout) : List String :=
  (namedTypes d t).filterMap ColumnType.create? ++ [d.createTable t]
    ++ t.indexes.map (Dialect.createIndex t)

/-- The statements that make the exclusion rules, in a dialect that has them. -/
def createExclusions (d : Dialect) : List String :=
  match d with
  | .sqlite => []
  | .postgresql =>
    "CREATE EXTENSION IF NOT EXISTS btree_gist"
      :: Exclusion.all.map (Dialect.createExclusion Tables.planningEvents)

/-- The statements that make the tables of planning. -/
def createAll (d : Dialect) : List String :=
  Tables.owned.flatMap fun t =>
    createTable d t ++ if t.name = Tables.planningEvents.name then createExclusions d else []

/-- The statements that remove the tables of planning, and then their types. -/
def dropAll (d : Dialect) : List String :=
  (Tables.owned.reverse.map Dialect.dropTable)
    ++ ((Tables.owned.flatMap (namedTypes d)).reverse.filterMap ColumnType.drop?)

/-- The statements with a remark in front of the first one. -/
def remarked (remark : String) : List String → List String
  | [] => []
  | s :: ss => ("-- " ++ remark ++ " " ++ s) :: ss

/-- The statements that apply the revision. -/
def apply (d : Dialect) : List String :=
  createVersionTable d :: remarked ("Running upgrade -> " ++ revision) (createAll d)
    ++ [recordRevision d]

/-- The statements that undo the revision. -/
def undo (d : Dialect) : List String :=
  remarked ("Running downgrade " ++ revision ++ " ->") (dropAll d) ++ [eraseRevision]

/-- The statements as one transaction, in a dialect that makes tables within transactions. -/
def enclosed (d : Dialect) (statements : List String) : List String :=
  match d with
  | .sqlite => statements
  | .postgresql => "BEGIN" :: statements ++ ["COMMIT"]

/-- The two ends that a command names, the first of them only if there is a colon. -/
def ends (s : List Char) : Except Problem (Option (List Char) × List Char) :=
  match Text.split ':' s with
  | [target] => .ok (none, target)
  | [source, target] => .ok (some source, target)
  | _ => .error .surplusEnd

/-- What a database records from which a script starts: nothing, unless a revision is named. -/
def source (name : Option (List Char)) : Except Problem Recorded :=
  match name with
  | none => .ok []
  | some cs =>
    if cs = "base".toList then .ok []
    else do
      let s ← (Name.ofChars cs).single
      if s = .outside then .error .withoutId else return [revision.toList]

/-- The script for what a command names.  Going up may start from the beginning of the line by
itself; going down must name where it starts. -/
def write (d : Dialect) (direction : Direction) (s : String) :
    Except Problem (List String) := do
  let (sourceName, targetName) ← ends s.toList
  match direction with
  | .up =>
    let source ← source sourceName
    return enclosed d (if ← Target.applies source targetName then apply d else [])
  | .down =>
    if sourceName.isNone then .error .refused
    else
      let source ← source sourceName
      return enclosed d (if ← Target.undoes source targetName then undo d else [])

end Script

end Workshop.Migration
