import Workshop.Binary64

/-!
# Structured values

`Json` is the type of the values that requests carry and answers show: null, booleans, numbers,
texts, lists, and records of named values in a fixed order.  A number is an integer of any size, or
a number of double precision, in the place of which a value that is not finite may stand.
-/

namespace Workshop

/-- A structured value. -/
inductive Json where
  | null
  | bool (value : Bool)
  | int (value : Int)
  /-- A number of double precision. -/
  | float (value : Rat)
  /-- The zero of double precision with a minus sign. -/
  | negativeZero
  | nonFinite (value : Binary64.NonFinite)
  | str (value : String)
  | arr (items : List Json)
  | obj (fields : List (String × Json))
deriving Inhabited, Repr

namespace Json

/-- A value that may be absent, absence being shown as null. -/
def ofOption {α : Type} (show_ : α → Json) : Option α → Json
  | none => null
  | some a => show_ a

/-- A text that may be absent. -/
def optStr : Option String → Json :=
  ofOption str

/-- An integer that may be absent. -/
def optInt : Option Int → Json :=
  ofOption int

/-- Whether all numbers in the value are finite. -/
def isFinite : Json → Bool
  | nonFinite _ => false
  | arr items => items.attach.all fun item => item.1.isFinite
  | obj fields => fields.attach.all fun field => field.1.2.isFinite
  | _ => true
termination_by v => sizeOf v
decreasing_by
  · have := List.sizeOf_lt_of_mem item.2
    simp only [arr.sizeOf_spec]
    omega
  · have := List.sizeOf_lt_of_mem field.2
    obtain ⟨⟨name, v⟩, h⟩ := field
    simp only [obj.sizeOf_spec, Prod.mk.sizeOf_spec] at *
    omega

end Json

end Workshop
