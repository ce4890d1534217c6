import Workshop.Binary64
import Workshop.Instant
import Workshop.Json

/-!
# Cells of a table

A `Cell` is a value stored in one column of one row: nothing, an integer, a number of double
precision or an infinite value, a text or an instant.  Cells are compared as the storage compares
them: nothing compares with nothing, numbers come before texts, and texts are ordered by code
points.  `Cell.ofJson` hands a value to the storage, which takes neither lists nor records nor
integers of more than 64 bits.
-/

namespace Workshop.Storage

/-- Whether the storage can hold the integer, which it does in 64 bits with a sign. -/
def Storable (n : Int) : Prop :=
  -9223372036854775808 ≤ n ∧ n ≤ 9223372036854775807

instance (n : Int) : Decidable (Storable n) :=
  inferInstanceAs (Decidable (_ ∧ _))

/-- A stored value. -/
inductive Cell where
  | null
  | int (value : Int)
  /-- A number of double precision. -/
  | real (value : Rat)
  | infinite (negative : Bool)
  | text (value : String)
  | moment (value : Instant)
deriving DecidableEq, Repr, Inhabited

/-- Why a value cannot be handed to the storage. -/
inductive Misfit where
  /-- The value is a list or a record. -/
  | composite
  /-- The value is an integer of more than 64 bits. -/
  | tooLarge
deriving DecidableEq, Repr, Inhabited

namespace Cell

/-- A truth value, stored as 1 or 0. -/
def bool (b : Bool) : Cell :=
  int (if b then 1 else 0)

/-- The number `x` as a column for numbers stores it: as an integer, if it is one of at most 64
bits. -/
def ofReal (x : Rat) : Cell :=
  match Binary64.toInt? x with
  | some n => if n.natAbs < 9223372036854775808 then int n else real x
  | none => real x

/-- A value that may be absent. -/
def ofOption {α : Type} (cell : α → Cell) : Option α → Cell
  | none => null
  | some a => cell a

/-- Whether the first cell comes before the second, if both hold values that compare. -/
def before? : Cell → Cell → Option Bool
  | null, _ => none
  | _, null => none
  | int m, int n => some (m < n)
  | int m, real y => some (m < y)
  | real x, int n => some (x < n)
  | real x, real y => some (x < y)
  | infinite a, infinite b => some (a && !b)
  | infinite a, int _ => some a
  | infinite a, real _ => some a
  | int _, infinite b => some (!b)
  | real _, infinite b => some (!b)
  | int _, _ => some true
  | real _, _ => some true
  | infinite _, _ => some true
  | _, int _ => some false
  | _, real _ => some false
  | _, infinite _ => some false
  | text a, text b => some (a < b)
  | moment a, moment b => some (a < b)
  | text _, moment _ => none
  | moment _, text _ => none

/-- Whether the cell holds the truth value true. -/
def isTrue : Cell → Bool
  | int n => n ≠ 0
  | real x => x ≠ 0
  | infinite _ => true
  | _ => false

/-- The value as it is handed to the storage, which has nothing for what is not a number. -/
def ofJson : Json → Except Misfit Cell
  | .null => .ok null
  | .bool b => .ok (bool b)
  | .int n => if Storable n then .ok (int n) else .error .tooLarge
  | .float x => .ok (real x)
  | .negativeZero => .ok (real 0)
  | .nonFinite (.infinite negative) => .ok (infinite negative)
  | .nonFinite .notANumber => .ok null
  | .str s => .ok (text s)
  | .arr _ => .error .composite
  | .obj _ => .error .composite

/-- The stored value as a structured value. -/
def toJson : Cell → Json
  | null => .null
  | int n => .int n
  | real x => .float x
  | infinite negative => .nonFinite (.infinite negative)
  | text s => .str s
  | moment _ => .null

@[simp]
theorem isTrue_bool (b : Bool) :
  (bool b).isTrue = b
  := by
  cases b <;> rfl

/-- Cells that are shown are handed back unchanged, integers if they fit. -/
theorem ofJson_toJson {c : Cell} (hi : ∀ n, c = int n → Storable n)
    (hm : ∀ i, c ≠ moment i) :
  ofJson c.toJson = .ok c
  := by
  cases c with
  | null => rfl
  | int n => simp [toJson, ofJson, hi n rfl]
  | real x => rfl
  | infinite negative => rfl
  | text s => rfl
  | moment i => exact absurd rfl (hm i)

end Cell

end Workshop.Storage
