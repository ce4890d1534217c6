import Workshop.Storage.Cell

/-!
# Conditions on a row

A `Condition` is what a table constraint demands of one row.  `Condition.eval` evaluates it in the
three-valued logic of storage, where a comparison with nothing is neither true nor false, and
`Condition.text` writes it as it stands in a table definition.
-/

namespace Workshop.Storage

/-- A row, as a function from column names to cells. -/
abbrev Row : Type :=
  String → Cell

/-- A condition on the columns of a row. -/
inductive Condition where
  /-- The first column comes before the second. -/
  | before (first second : String)
  | isNull (column : String)
  | isNotNull (column : String)
  | isNotTrue (column : String)
  | both (left right : Condition)
  | either (left right : Condition)
deriving DecidableEq, Repr, Inhabited

namespace Condition

/-- Conjunction where either side may be undecided. -/
def andThen : Option Bool → Option Bool → Option Bool
  | some false, _ => some false
  | _, some false => some false
  | some true, some true => some true
  | _, _ => none

/-- Disjunction where either side may be undecided. -/
def orElse : Option Bool → Option Bool → Option Bool
  | some true, _ => some true
  | _, some true => some true
  | some false, some false => some false
  | _, _ => none

/-- Whether the condition holds of the row, if that is decided. -/
def eval (row : Row) : Condition → Option Bool
  | before a b => (row a).before? (row b)
  | isNull c => some (row c = .null)
  | isNotNull c => some (row c ≠ .null)
  | isNotTrue c => some (!(row c).isTrue)
  | both p q => andThen (p.eval row) (q.eval row)
  | either p q => orElse (p.eval row) (q.eval row)

/-- A check refuses the rows of which the condition is decidedly false. -/
def Refuses (p : Condition) (row : Row) : Prop :=
  p.eval row = some false

/-- A filter selects the rows of which the condition is decidedly true. -/
def Selects (p : Condition) (row : Row) : Prop :=
  p.eval row = some true

instance (p : Condition) (row : Row) : Decidable (p.Refuses row) :=
  inferInstanceAs (Decidable (_ = _))

instance (p : Condition) (row : Row) : Decidable (p.Selects row) :=
  inferInstanceAs (Decidable (_ = _))

/-- Whether the condition is a conjunction or a disjunction. -/
def isCompound : Condition → Bool
  | both _ _ => true
  | either _ _ => true
  | _ => false

/-- The condition as it stands in a table definition; the compound sides of a disjunction stand in
parentheses. -/
def text : Condition → String
  | before a b => a ++ " < " ++ b
  | isNull c => c ++ " IS NULL"
  | isNotNull c => c ++ " IS NOT NULL"
  | isNotTrue c => c ++ " IS NOT TRUE"
  | both p q => p.text ++ " AND " ++ q.text
  | either p q =>
    let side (r : Condition) (t : String) : String := if r.isCompound then "(" ++ t ++ ")" else t
    side p p.text ++ " OR " ++ side q q.text

end Condition

end Workshop.Storage
