import Workshop.Json
import Workshop.Migration.Target
import Workshop.Migration.Revision
import Workshop.Sorting
import Workshop.Storage.Dialect

/-!
# Databases under migration

A `Database` holds tables with their layouts and rows, among them the table that records which
revision has been applied.  Its commands apply the revision or undo it (`upgrade`, `downgrade`),
change the record only (`stamp`), compare the database with the layouts that the application expects
(`check`), lay out what the application misses (`startup`), or add a row (`insert`).  A command that
fails changes nothing, except that the table of the record is made by each of the first four,
whether they fail or not, and that tables which have been removed do not come back if the record is
missing.
-/

namespace Workshop.Migration

open Storage

/-- A stored row: the cells by column. -/
abbrev StoredRow : Type :=
  List (String × Cell)

/-- A stored row as a function of the column. -/
def StoredRow.row (r : StoredRow) : Row :=
  fun column => (r.lookup column).getD .null

/-- A table with its rows. -/
structure Table where
  layout : Layout
  rows : List StoredRow := []
deriving DecidableEq, Repr, Inhabited

/-- Tables, and the table that records which revision has been applied, once it is there. -/
structure Database where
  tables : List Table := []
  versions? : Option Table := none
deriving DecidableEq, Repr, Inhabited

namespace Database

/-- The table with the given name. -/
def table? (db : Database) (name : String) : Option Table :=
  (db.tables ++ db.versions?.toList).find? fun t => SameName t.layout.name name

/-- The database with another table in the place of the one with the same name. -/
def replace (db : Database) (t : Table) : Database :=
  let put (u : Table) : Table := if u.layout.name = t.layout.name then t else u
  ⟨db.tables.map put, db.versions?.map put⟩

/-- The names of the tables. -/
def names (db : Database) : List String :=
  sortBy (fun a b => a ≤ b) (db.tables.map (·.layout.name))

/-- Adds tables that are not there yet. -/
def create (db : Database) (layouts : List Layout) : Except Problem Database :=
  if layouts.any fun t => (db.table? t.name).isSome then .error .noSuchObject
  else .ok { db with tables := db.tables ++ layouts.map fun t => { layout := t } }

/-- Removes tables that are there. -/
def drop (db : Database) (layouts : List Layout) : Except Problem Database :=
  if layouts.all fun t => (db.table? t.name).isSome then
    let gone := layouts.map (·.name)
    .ok { db with tables := db.tables.filter fun t => !gone.contains t.layout.name }
  else .error .noSuchObject

/-- The rows of the record. -/
def records (db : Database) : List StoredRow :=
  db.versions?.toList.flatMap (·.rows)

/-- The name in a row of the record. -/
def recordedName (r : StoredRow) : List Char :=
  match r.row Version.column with
  | .text name => name.toList
  | _ => []

/-- The names that are recorded. -/
def recorded (db : Database) : Recorded :=
  db.records.map recordedName

/-- The id of the revision, if it is recorded. -/
def current? (db : Database) : Except Problem (Option String) := do
  return if ← db.recorded.hasRevision then some revision else none

/-- The database with other rows of the record. -/
def withRecords (db : Database) (rows : List StoredRow) : Database :=
  { db with versions? := some ⟨Version.layout, rows⟩ }

/-- The database with the table of the record. -/
def withVersions (db : Database) : Database :=
  db.withRecords db.records

/-- Adds the id of the revision to the record. -/
def recordRevision (db : Database) : Database :=
  db.withRecords (db.records ++ [[(Version.column, .text revision)]])

/-- Takes the id of the revision off the record, if it is there; another name does not do. -/
def eraseRevision? (db : Database) : Option Database :=
  if db.recorded.contains revision.toList then
    some (db.withRecords (db.records.filter fun r => recordedName r ≠ revision.toList))
  else none

/-- Succeeds with a database. -/
def done (db : Database) : Except Problem Unit × Database :=
  (.ok (), db)

/-- Fails, and leaves a database behind. -/
def failed (db : Database) (e : Problem) : Except Problem Unit × Database :=
  (.error e, db)

/-- Applies the revision. -/
def apply (db : Database) : Except Problem Unit × Database :=
  match db.create Tables.owned with
  | .ok db => db.recordRevision.done
  | .error e => db.failed e

/-- Undoes the revision.  The tables are removed before the record is looked at. -/
def undo (db : Database) : Except Problem Unit × Database :=
  match db.drop Tables.owned with
  | .ok db =>
    match db.eraseRevision? with
    | some db => db.done
    | none => db.failed .noRevision
  | .error e => db.failed e

/-- Changes the record. -/
def mark (db : Database) : Marking → Except Problem Unit × Database
  | .keep => db.done
  | .addRevision => db.recordRevision.done
  | .eraseRevision =>
    match db.eraseRevision? with
    | some db => db.done
    | none => db.failed .noRecord

/-- Goes up to what is named, which must not be a range. -/
def upgrade (db : Database) (name : String) : Except Problem Unit × Database :=
  if name.toList.contains ':' then db.failed .refused
  else
    let db := db.withVersions
    match Target.applies db.recorded name.toList with
    | .ok true => db.apply
    | .ok false => db.done
    | .error e => db.failed e

/-- Goes down to what is named, which must not be a range. -/
def downgrade (db : Database) (name : String) : Except Problem Unit × Database :=
  if name.toList.contains ':' then db.failed .refused
  else
    let db := db.withVersions
    match Target.undoes db.recorded name.toList with
    | .ok true => db.undo
    | .ok false => db.done
    | .error e => db.failed e

/-- Says that the database is at what is named. -/
def stamp (db : Database) (name : String) : Except Problem Unit × Database :=
  let db := db.withVersions
  match Target.marking db.recorded name.toList with
  | .ok marking => db.mark marking
  | .error e => db.failed e

/-- Whether the table is there with the layout that is expected. -/
def hasLayout (db : Database) (t : Layout) : Bool :=
  match db.table? t.name with
  | some table => table.layout.Agrees t
  | none => false

/-- Succeeds if the revision is recorded and nothing else is, and the tables are those of
planning. -/
def requireCurrent (db : Database) : Except Problem Unit := do
  let stations ← db.recorded.stations
  if stations.isEmpty ∨ stations.any (· ≠ .revision) then .error .refused
  else if Tables.owned.all db.hasLayout then .ok ()
  else .error .differs

/-- Compares the database with the end of the line of revisions. -/
def check (db : Database) : Except Problem Unit × Database :=
  (db.withVersions.requireCurrent, db.withVersions)

/-- What a check that succeeds says. -/
def checkMessage : String :=
  "No new upgrade operations detected."

/-- Lays out the tables that the application misses. -/
def startup (db : Database) : Database :=
  let missing := Tables.all.filter fun t => (db.table? t.name).isNone
  { db with tables := db.tables ++ missing.map fun t => { layout := t } }

/-- How many rows the table has. -/
def count (db : Database) (name : String) : Except Problem Nat :=
  match db.table? name with
  | some t => .ok t.rows.length
  | none => .error .noSuchObject

end Database

namespace Table

/-- The integer in a cell. -/
def integer? : Cell → Option Int
  | .int n => some n
  | _ => none

/-- The value of the key that the storage chooses: the integer after the greatest one, or 1 in an
empty table. -/
def nextKey (t : Table) (key : String) : Int :=
  match (t.rows.filterMap fun r => integer? (r.row key)).max? with
  | some n => n + 1
  | none => 1

/-- What a default stores. -/
def defaultCell : Default → Cell
  | .literal s => .text s
  | .falsity => .bool false
  | .currentTime => .null

/-- The cell of a column in a new row that gives the values `given`. -/
def cell (given : List (String × Cell)) (c : Column) : Cell :=
  c.type.store <|
    match given.find? fun v => SameName v.1 c.name with
    | some (_, v) => v
    | none => (c.default?.map defaultCell).getD .null

/-- Hands values to the storage, in order. -/
def handOver (given : List (String × Json)) : Except Problem (List (String × Cell)) :=
  given.mapM fun (column, v) =>
    match Cell.ofJson v with
    | .ok c => .ok (column, c)
    | .error m => .error (.misfit m)

/-- The row with its integer key, if the table has one: given or chosen by the storage. -/
def withKey (t : Table) (row : StoredRow) : Except Problem StoredRow :=
  match t.layout.hasIntegerKey, t.layout.key with
  | true, [key] =>
    match row.row key with
    | .null =>
      .ok (row.map fun (c, v) => if c = key then (c, .int (t.nextKey key)) else (c, v))
    | v => if (integer? v).isSome then .ok row else .error (.violated .mismatch)
  | _, _ => .ok row

/-- The row that is stored for the given values.  There must be one, they must belong to columns and
be handed over, and violate no constraint: first those on the row alone, then those against the
other rows. -/
def accept (t : Table) (given : List (String × Json)) : Except Problem StoredRow := do
  if given.isEmpty || given.any fun v => !t.layout.columns.any fun c => SameName v.1 c.name then
    .error .noSuchObject
  let given ← handOver given
  let row ← t.withKey (t.layout.columns.map fun c => (c.name, cell given c))
  match t.layout.defect? row.row with
  | some v => .error (.violated v)
  | none =>
    match t.layout.duplicate? (t.rows.map StoredRow.row) row.row with
    | some v => .error (.violated v)
    | none => return row

end Table

namespace Database

/-- Adds a row to a table, and answers it as it is stored. -/
def insert (db : Database) (name : String) (given : List (String × Json)) :
    Except Problem (StoredRow × Database) :=
  match db.table? name with
  | none => .error .noSuchObject
  | some t => do
    let row ← t.accept given
    return (row, db.replace { t with rows := t.rows ++ [row] })

/-- Adds rows to tables, one after another. -/
def insertAll (db : Database) : List (String × List (String × Json)) → Except Problem Database
  | [] => .ok db
  | (name, given) :: rows => do (← db.insert name given).2.insertAll rows

/-! ## Descriptions -/

/-- The record in which a stored row is shown. -/
def showRow (row : StoredRow) : Json :=
  .obj (row.map fun (column, v) => (column, v.toJson))

/-- The record that describes a column. -/
def showColumn (c : Column) : Json :=
  .obj
    [ ("name", .str c.name),
      ("type", .str (c.type.written .sqlite)),
      ("nullable", .bool c.nullable),
      ("default", .optStr (c.default?.map fun d => d.written .sqlite)) ]

/-- The record that describes an index. -/
def showIndex (i : Index) : Json :=
  .obj
    [ ("name", .str i.name),
      ("columns", .arr (i.columns.map .str)),
      ("unique", .bool false) ]

/-- The record that describes a check. -/
def showCheck (c : Check) : Json :=
  .obj [("name", .str c.name), ("sql", .str c.condition.text)]

/-- The record that describes a reference. -/
def showReference (r : Reference) : Json :=
  .obj
    [ ("columns", .arr [.str r.column]),
      ("table", .str r.table),
      ("references", .arr [.str r.target]) ]

/-- The record that describes a layout: the columns in the order of the table, everything else in
the order of names. -/
def showLayout (t : Layout) : Json :=
  .obj
    [ ("columns", .arr (t.columns.map showColumn)),
      ("primary_key", .arr (t.key.map .str)),
      ("indexes", .arr ((sortBy (fun a b => a.name ≤ b.name) t.indexes).map showIndex)),
      ("checks", .arr ((sortBy (fun a b => a.name ≤ b.name) t.checks).map showCheck)),
      ("foreign_keys",
        .arr ((sortBy (fun a b => a.column ≤ b.column) t.references).map showReference)) ]

/-- The record that describes all tables. -/
def describe (db : Database) : Json :=
  .obj (db.tables.map fun t => (t.layout.name, showLayout t.layout))

end Database

end Workshop.Migration
