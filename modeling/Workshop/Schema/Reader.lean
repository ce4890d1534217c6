import Workshop.Instant.Reader
import Workshop.Schema.Checked
import Workshop.Schema.IntegerText
import Workshop.Storage.Cell
import Workshop.Text.Basic
import Workshop.Word

/-!
# Readers of values

A `Reader α` reads a value of type `α` from a structured value or says what is wrong with it.
Readers are lenient: integers, truth values and instants are also read from texts that denote
them.  `required`, `optional` and `present?` apply a reader to a field of a record.
-/

namespace Workshop.Schema

/-- Why a value cannot be read. -/
inductive Flaw where
  | defect (defect : Defect)
  /-- The conversion of an instant to UTC leaves the years 1 to 9999. -/
  | outOfRange
deriving DecidableEq, Repr, Inhabited

/-- A way to read values of type `α`. -/
abbrev Reader (α : Type) : Type :=
  Json → Except Flaw α

/-- The fields of a record. -/
abbrev Fields : Type :=
  List (String × Json)

namespace Reader

variable {α : Type}

/-- The flaw of a value with the given defect. -/
def reject (d : Defect) : Except Flaw α :=
  .error (.defect d)

/-- Reads null as nothing. -/
def nullable (r : Reader α) : Reader (Option α)
  | .null => .ok none
  | v => (r v).map some

/-- Reads a text. -/
def text : Reader String
  | .str s => .ok s
  | _ => reject .notText

/-- Reads a text with no less than `least` and no more than `most` characters. -/
def textWithin (least most : Nat) : Reader String := fun v => do
  let s ← text v
  if s.length < least then reject .textTooShort
  else if most < s.length then reject .textTooLong
  else return s

/-- Reads a text without the blanks at its ends, and then as `r` does. -/
def trimmed (r : Reader α) : Reader α
  | .str s => r (.str (Text.trim s))
  | v => r v

/-- Reads one of the words for the values of a type. -/
def word [Worded α] : Reader α
  | .str s =>
    match Worded.read? s with
    | some a => .ok a
    | none => reject .notWord
  | _ => reject .notWord

/-- The integer that a number of double precision is: it must lie strictly between `-2 ^ 63` and
`2 ^ 63`. -/
def integerOfFloat (x : Rat) : Except Defect Int :=
  match Binary64.toInt? x with
  | some n => if n.natAbs < 9223372036854775808 then .ok n else .error .integerTooLarge
  | none => .error .fraction

/-- Reads an integer. -/
def integer : Reader Int
  | .bool b => .ok (if b then 1 else 0)
  | .int n => .ok n
  | .float x => (integerOfFloat x).mapError .defect
  | .negativeZero => .ok 0
  | .nonFinite _ => reject .notFinite
  | .str s => (IntegerText.read s).mapError .defect
  | _ => reject .notInteger

/-- Reads a positive integer. -/
def positive : Reader Int := fun v => do
  let n ← integer v
  if 0 < n then return n else reject .notPositive

/-- The texts that denote the truth value true, in small letters. -/
def affirmations : List String :=
  ["1", "t", "true", "y", "yes", "on"]

/-- The texts that denote the truth value false, in small letters. -/
def denials : List String :=
  ["0", "f", "false", "n", "no", "off"]

/-- The truth value that an integer of at most 64 bits denotes. -/
def booleanOfInteger (n : Int) : Except Flaw Bool :=
  if n = 1 then .ok true
  else if n = 0 then .ok false
  else if Storage.Storable n then reject .notBooleanText
  else reject .notBoolean

/-- Reads a truth value. -/
def boolean : Reader Bool
  | .bool b => .ok b
  | .int n => booleanOfInteger n
  | .float x =>
    match integerOfFloat x with
    | .ok n => booleanOfInteger n
    | .error _ => reject .notBoolean
  | .negativeZero => .ok false
  | .str s =>
    if affirmations.contains (Text.lower s) then .ok true
    else if denials.contains (Text.lower s) then .ok false
    else reject .notBooleanText
  | _ => reject .notBoolean

/-- The outcome of reading an instant. -/
def ofInstant : Except Instant.Defect Instant → Except Flaw Instant
  | .ok i => .ok i
  | .error .malformed => reject .notInstantText
  | .error .noSuchYear => reject .noSuchYear
  | .error .outOfRange => .error .outOfRange

/-- Reads an instant from a date-time text or from a number, which must not exceed double
precision. -/
def instant : Reader Instant
  | .str s => ofInstant (Instant.read s)
  | .int n =>
    if (Binary64.nearest? n).isSome then ofInstant (Instant.ofCount n) else reject .notInstant
  | .float x => ofInstant (Instant.ofFloat x)
  | .negativeZero => ofInstant (Instant.ofFloat 0)
  | .nonFinite _ => reject .noSuchYear
  | _ => reject .notInstant

/-- Reads an instant that need not be in range. -/
def farInstant : Reader (Option Instant) := fun v =>
  match instant v with
  | .ok i => .ok (some i)
  | .error .outOfRange => .ok none
  | .error (.defect d) => reject d

end Reader

namespace Checked

variable {α : Type}

/-- The outcome of reading one value. -/
def ofReading : Except Flaw α → Checked α
  | .ok a => valid a
  | .error (.defect d) => invalid [⟨[], d⟩]
  | .error .outOfRange => outOfRange

end Checked

variable {α : Type}

/-- Reads the field called `name`, which must be there. -/
def required (name : String) (r : Reader α) (fields : Fields) : Checked α :=
  match fields.lookup name with
  | some v => (Checked.ofReading (r v)).below name
  | none => .invalid [⟨[.name name], .missing⟩]

/-- Reads the field called `name`, or takes `default` if it is not there. -/
def optional (name : String) (r : Reader α) (default : α) (fields : Fields) : Checked α :=
  match fields.lookup name with
  | some v => (Checked.ofReading (r v)).below name
  | none => .valid default

/-- Reads the field called `name`, if it is there. -/
def present? (name : String) (r : Reader α) (fields : Fields) : Checked (Option α) :=
  match fields.lookup name with
  | some v => ((Checked.ofReading (r v)).below name).map some
  | none => .valid none

/-- Refuses all fields but those called `known`. -/
def noOthers (known : List String) (fields : Fields) : Checked Unit :=
  let others := fields.filter fun f => !known.contains f.1
  if others.isEmpty then .valid () else .invalid (others.map fun f => ⟨[.name f.1], .unknownField⟩)

/-- Reads a record; any other value has the defect `d`. -/
def record (d : Defect) (read : Fields → Checked α) : Json → Checked α
  | .obj fields => read fields
  | _ => .invalid [⟨[], d⟩]

end Workshop.Schema
