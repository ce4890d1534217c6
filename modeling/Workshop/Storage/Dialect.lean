import Workshop.Storage.Tables

/-!
# Writing layouts as statements

A `Dialect` is a way to write the statements that define tables.  `Dialect.createTable`,
`Dialect.createIndex` and `Dialect.createExclusion` write the statements that lay out a table, its
indexes and its exclusion rules, and `ColumnType.written` and `Default.written` the types and the
defaults in them.
-/

namespace Workshop.Storage

/-- The dialects in which statements are written. -/
inductive Dialect where
  | sqlite
  | postgresql
deriving DecidableEq, Repr, Inhabited

/-- A literal text in a statement. -/
def quoted (s : String) : String :=
  "'" ++ s ++ "'"

/-- Items in parentheses, with commas between them. -/
def parenthesized (items : List String) : String :=
  "(" ++ ", ".intercalate items ++ ")"

namespace ColumnType

/-- The type as a statement names it.  A dialect without enumerations makes room for the longest
word. -/
def written (d : Dialect) : ColumnType → String
  | varchar limit => "VARCHAR(" ++ toString limit ++ ")"
  | .text => "TEXT"
  | integer => "INTEGER"
  | boolean => "BOOLEAN"
  | timestamp =>
    match d with
    | .sqlite => "DATETIME"
    | .postgresql => "TIMESTAMP WITH TIME ZONE"
  | date => "DATE"
  | json => "JSON"
  | enumeration name values =>
    match d with
    | .sqlite =>
      "VARCHAR(" ++ toString (values.foldl (fun n v => max n v.length) 0) ++ ")"
    | .postgresql => name

/-- The statement that defines the type, if it needs one. -/
def create? : ColumnType → Option String
  | enumeration name values =>
    some ("CREATE TYPE " ++ name ++ " AS ENUM " ++ parenthesized (values.map quoted))
  | _ => none

/-- The statement that removes the type, if it needed one to define it. -/
def drop? : ColumnType → Option String
  | enumeration name _ => some ("DROP TYPE " ++ name)
  | _ => none

end ColumnType

/-- The default as a statement names it. -/
def Default.written (d : Dialect) : Default → String
  | literal s => quoted s
  | falsity =>
    match d with
    | .sqlite => "0"
    | .postgresql => "false"
  | currentTime => "CURRENT_TIMESTAMP"

namespace Dialect

/-- The definition of a column. -/
def column (d : Dialect) (c : Column) : String :=
  c.name ++ " " ++ c.type.written d
    ++ (c.default?.elim "" fun v => " DEFAULT " ++ v.written d)
    ++ (if c.nullable then "" else " NOT NULL")

/-- The definition of a reference. -/
def reference (r : Reference) : String :=
  "FOREIGN KEY" ++ parenthesized [r.column] ++ " REFERENCES " ++ r.table ++ " "
    ++ parenthesized [r.target]

/-- The definition of a check. -/
def check (c : Check) : String :=
  "CONSTRAINT " ++ c.name ++ " CHECK (" ++ c.condition.text ++ ")"

/-- The statement that makes a table from the definitions of its columns and constraints. -/
def createTableOf (name : String) (definitions : List String) : String :=
  "CREATE TABLE " ++ name ++ " ( " ++ ", ".intercalate definitions ++ " )"

/-- The statement that makes a table. -/
def createTable (d : Dialect) (t : Layout) : String :=
  createTableOf t.name <|
    t.columns.map d.column
      ++ ["PRIMARY KEY " ++ parenthesized t.key]
      ++ t.checks.map check
      ++ t.references.map reference
      ++ t.unique.map fun columns => "UNIQUE " ++ parenthesized columns

/-- The statement that removes a table. -/
def dropTable (t : Layout) : String :=
  "DROP TABLE " ++ t.name

/-- The statement that makes an index. -/
def createIndex (t : Layout) (i : Index) : String :=
  "CREATE INDEX " ++ i.name ++ " ON " ++ t.name ++ " " ++ parenthesized i.columns

/-- The statement that makes an exclusion rule of a table. -/
def createExclusion (t : Layout) (x : Exclusion) : String :=
  "ALTER TABLE " ++ t.name ++ " ADD CONSTRAINT " ++ x.name ++ " EXCLUDE USING gist "
    ++ parenthesized
      [x.column ++ " WITH =", "tstzrange(start_time_utc, end_time_utc, '[)') WITH &&"]
    ++ " WHERE (" ++ x.guard.text ++ ")"

end Dialect

end Workshop.Storage
