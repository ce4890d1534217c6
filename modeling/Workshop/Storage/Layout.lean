import Workshop.Storage.Condition
import Workshop.Storage.Real
import Workshop.Storage.Violation
import Workshop.Text.Basic

/-!
# Layouts of tables

A `Layout` says which columns a table has, which of them form its key, and which constraints and
indexes it carries.  `Layout.defect?` is the first constraint on single rows that a row violates,
and `Layout.duplicate?` the first uniqueness constraint that it violates against the other rows.
-/

namespace Workshop.Storage

/-- Whether two names are those of the same table or column: whether they agree up to the case of
the letters of ASCII. -/
def SameName (a b : String) : Prop :=
  a.map Char.toLower = b.map Char.toLower

instance (a b : String) : Decidable (SameName a b) :=
  inferInstanceAs (Decidable (_ = _))

/-- The type of a column. -/
inductive ColumnType where
  /-- Text of limited length. -/
  | varchar (limit : Nat)
  | text
  | integer
  | boolean
  | timestamp
  | date
  | json
  /-- One of the listed words; the type has a name of its own. -/
  | enumeration (name : String) (values : List String)
deriving DecidableEq, Repr, Inhabited

/-- What a column holds when an inserted row does not mention it. -/
inductive Default where
  | literal (text : String)
  | falsity
  | currentTime
deriving DecidableEq, Repr, Inhabited

/-- A column of a table. -/
structure Column where
  name : String
  type : ColumnType
  nullable : Bool := true
  default? : Option Default := none
deriving DecidableEq, Repr, Inhabited

/-- A named check on single rows. -/
structure Check where
  name : String
  condition : Condition
deriving DecidableEq, Repr, Inhabited

/-- A column whose values are keys of another table. -/
structure Reference where
  column : String
  table : String
  target : String
deriving DecidableEq, Repr, Inhabited

/-- An index on some columns of a table. -/
structure Index where
  name : String
  columns : List String
deriving DecidableEq, Repr, Inhabited

/-- The layout of a table. -/
structure Layout where
  name : String
  columns : List Column
  key : List String
  /-- The lists of columns whose values may not repeat, besides the key. -/
  unique : List (List String) := []
  checks : List Check := []
  references : List Reference := []
  indexes : List Index := []
deriving DecidableEq, Repr, Inhabited

namespace ColumnType

/-- Whether columns of this type hold texts. -/
def isTextual : ColumnType → Bool
  | varchar _ => true
  | text => true
  | enumeration _ _ => true
  | _ => false

/-- The number that a text denotes, blanks at its ends aside, as a column for numbers stores it: as
an integer if it is written as one and has at most 64 bits, and otherwise in double precision. -/
def readNumber? (s : String) : Option Cell := do
  let n ← Numeral.read? (Text.trimBy Text.isAsciiBlank s).toList
  if n.isWhole ∧ Storable n.toInt then return .int n.toInt
  else
    match Real.read? n with
    | some x => return .ofReal x
    | none => return .infinite n.negative

/-- What a column of this type stores for a value: a textual column stores a number as a text, and
any other column stores a text that denotes a number as that number. -/
def store (t : ColumnType) (cell : Cell) : Cell :=
  match cell with
  | .int n => if t.isTextual then .text (toString n) else cell
  | .real x => if t.isTextual then .text (Real.text x) else .ofReal x
  | .infinite negative => if t.isTextual then .text (if negative then "-Inf" else "Inf") else cell
  | .text s => if t.isTextual then cell else (readNumber? s).getD cell
  | _ => cell

end ColumnType

namespace Layout

/-- Whether the key is a single integer, which the storage can choose itself. -/
def hasIntegerKey (t : Layout) : Bool :=
  match t.key with
  | [k] => t.columns.any fun c => c.name == k && c.type == .integer
  | _ => false

/-- The first constraint on single rows that the row violates: the columns without a value in the
order of the table, then the checks. -/
def defect? (t : Layout) (row : Row) : Option Violation :=
  match t.columns.find? fun c => !c.nullable && row c.name == .null with
  | some c => some (.notNull t.name c.name)
  | none =>
    match t.checks.find? fun c => c.condition.Refuses row with
    | some c => some (.check c.name)
    | none => none

/-- The lists of columns whose values may not repeat, in the order in which they are checked: the
last declared first, and the key last unless it is an integer. -/
def uniqueLists (t : Layout) : List (List String) :=
  if t.hasIntegerKey then t.key :: t.unique.reverse else t.unique.reverse ++ [t.key]

/-- The first uniqueness constraint that the row violates against the rows `rows`. -/
def duplicate? (t : Layout) (rows : List Row) (row : Row) : Option Violation :=
  let clashes (columns : List String) : Bool :=
    rows.any fun other => columns.all fun c => row c ≠ .null && row c == other c
  (t.uniqueLists.find? clashes).map (.unique t.name)

/-- The layout without any default. -/
def withoutDefaults (t : Layout) : Layout :=
  { t with columns := t.columns.map fun c => { c with default? := none } }

/-- Whether two layouts have the same columns up to defaults, the same key, the same indexes in
any order, and the same references. -/
def Agrees (t u : Layout) : Prop :=
  t.withoutDefaults.columns = u.withoutDefaults.columns ∧ t.key = u.key ∧ t.unique = u.unique
    ∧ t.references = u.references
    ∧ (∀ i ∈ t.indexes, i ∈ u.indexes) ∧ ∀ i ∈ u.indexes, i ∈ t.indexes

instance (t u : Layout) : Decidable (t.Agrees u) :=
  inferInstanceAs (Decidable (_ ∧ _ ∧ _ ∧ _ ∧ _ ∧ _))

end Layout

end Workshop.Storage
