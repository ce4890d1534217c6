import Workshop.Binary64
import Workshop.Text.Digits

/-!
# Decimal numerals

A `Numeral` is what a written number says: a sign, digits, where the decimal point stands among
them, and a power of ten.  `Numeral.read?` reads one, `Numeral.value` is the number that it denotes,
and `Numeral.double?` the number of double precision that is nearest to it.
-/

namespace Workshop

/-- A written number. -/
structure Numeral where
  negative : Bool
  /-- The number that the digits denote without regard to the point. -/
  digits : Nat
  /-- How many of the digits stand behind the point, if there is a point. -/
  places : Option Nat
  /-- The power of ten by which the digits are multiplied, if one is written. -/
  exponent : Option Int
deriving DecidableEq, Repr, Inhabited

namespace Numeral

/-- Reads a sign, which may be missing; whether it is a minus. -/
def readSign : List Char → Bool × List Char
  | '-' :: cs => (true, cs)
  | '+' :: cs => (false, cs)
  | cs => (false, cs)

/-- The integer with the given absolute value and sign. -/
def signed (negative : Bool) (n : Nat) : Int :=
  if negative then -(n : Int) else n

/-- Reads an integer: a sign or none, and digits. -/
def readInt? (cs : List Char) : Option Int :=
  let (negative, digits) := readSign cs
  if !digits.isEmpty && digits.all Char.isDigit then
    some (signed negative (Text.Digits.valueFrom 0 digits))
  else none

/-- Reads the point and the digits behind it, if there is a point. -/
def readFraction : List Char → Option (List Char) × List Char
  | '.' :: cs => (some (cs.takeWhile Char.isDigit), cs.dropWhile Char.isDigit)
  | cs => (none, cs)

/-- Reads the power of ten at the end of a numeral, if there is one. -/
def readExponent : List Char → Option (Option Int)
  | [] => some none
  | c :: cs => if c = 'e' ∨ c = 'E' then (readInt? cs).map some else none

/-- Reads a sign or none, digits with a point or none among them or at either end, and a power of
ten or none.  There must be a digit. -/
def read? (cs : List Char) : Option Numeral := do
  let (negative, body) := readSign cs
  let whole := body.takeWhile Char.isDigit
  let (fraction, rest) := readFraction (body.dropWhile Char.isDigit)
  let digits := whole ++ fraction.getD []
  let exponent ← readExponent rest
  if digits.isEmpty then none
  else
    some
      { negative, digits := Text.Digits.valueFrom 0 digits, places := fraction.map List.length,
        exponent }

/-- Whether the numeral has neither a point nor a power of ten. -/
def isWhole (n : Numeral) : Bool :=
  n.places.isNone && n.exponent.isNone

/-- The integer that the digits and the sign denote. -/
def toInt (n : Numeral) : Int :=
  signed n.negative n.digits

/-- The power of ten by which that integer is multiplied. -/
def scale (n : Numeral) : Int :=
  n.exponent.getD 0 - n.places.getD 0

/-- The number that the numeral denotes. -/
def value (n : Numeral) : Rat :=
  n.toInt * 10 ^ n.scale

/-- The number of double precision that is nearest to the numeral, if the numeral is not too large
for that.  The two limits settle, before the power of ten is formed, what is too large and what is
too small to differ from zero. -/
def double? (n : Numeral) : Option Rat :=
  if n.digits = 0 ∨ n.scale < -(400 + n.digits.log2) then some 0
  else if 400 < n.scale then none
  else Binary64.nearest? n.value

/-- Without a point and a power of ten, the digits denote the number. -/
theorem value_of_isWhole {n : Numeral} (h : n.isWhole = true) :
  n.value = n.toInt
  := by
  simp only [isWhole, Bool.and_eq_true, Option.isNone_iff_eq_none] at h
  simp only [value, scale, h.1, h.2, Option.getD_none]
  simp

end Numeral

end Workshop
