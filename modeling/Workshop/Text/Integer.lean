import Workshop.Numeral
import Workshop.Text.Basic
import Workshop.Text.Digits
import Workshop.Text.Split

/-!
# Integers in texts

The scripts of Unicode write the ten decimal digits with characters of their own, which follow one
another from zero to nine.  `DecimalDigit.value?` is the number from 0 to 9 that a character stands
for, and `DecimalDigit.valueOf` the number that several of them denote.

`Integer.read?` reads an integer: a sign or none, and decimal digits, which single underscores may
join.  Blanks at the ends of the text are left out.
-/

namespace Workshop.Text.DecimalDigit

/-- The code points of the characters that stand for zero. -/
def zeros : List Nat :=
  [ 0x0030, 0x0660, 0x06F0, 0x07C0, 0x0966, 0x09E6, 0x0A66, 0x0AE6, 0x0B66, 0x0BE6, 0x0C66, 0x0CE6,
    0x0D66, 0x0DE6, 0x0E50, 0x0ED0, 0x0F20, 0x1040, 0x1090, 0x17E0, 0x1810, 0x1946, 0x19D0, 0x1A80,
    0x1A90, 0x1B50, 0x1BB0, 0x1C40, 0x1C50, 0xA620, 0xA8D0, 0xA900, 0xA9D0, 0xA9F0, 0xAA50, 0xABF0,
    0xFF10, 0x104A0, 0x10D30, 0x11066, 0x110F0, 0x11136, 0x111D0, 0x112F0, 0x11450, 0x114D0,
    0x11650, 0x116C0, 0x11730, 0x118E0, 0x11950, 0x11C50, 0x11D50, 0x11DA0, 0x16A60, 0x16AC0,
    0x16B50, 0x1D7CE, 0x1D7D8, 0x1D7E2, 0x1D7EC, 0x1D7F6, 0x1E140, 0x1E2F0, 0x1E950, 0x1FBF0 ]

/-- The number from 0 to 9 that the character stands for, if it is a decimal digit. -/
def value? (c : Char) : Option Nat :=
  (zeros.find? fun z => z ≤ c.toNat ∧ c.toNat < z + 10).map fun z => c.toNat - z

/-- Whether the character is a decimal digit. -/
def isDecimal (c : Char) : Bool :=
  (value? c).isSome

/-- The number that decimal digits denote. -/
def valueOf (cs : List Char) : Nat :=
  cs.foldl (fun n c => n * 10 + (value? c).getD 0) 0

/-- The digits of ASCII stand for themselves. -/
theorem value?_of_isDigit {c : Char} (h : c.isDigit = true) :
  value? c = some (Digits.value c)
  := by
  simp only [Char.isDigit, Bool.and_eq_true, decide_eq_true_eq] at h
  have hl : 48 ≤ c.toNat := h.1
  have hu : c.toNat ≤ 57 := h.2
  simp only [value?, zeros, List.find?_cons]
  rw [decide_eq_true (by omega)]
  rfl

end Workshop.Text.DecimalDigit

namespace Workshop.Text.Integer

/-- The most digits of an integer. -/
abbrev digitLimit : Nat :=
  4300

/-- The digits that the text consists of, without the underscores that join them. -/
def digits? (cs : List Char) : Option (List Char) :=
  let groups := split '_' cs
  if groups.all fun g => !g.isEmpty && g.all DecimalDigit.isDecimal then some groups.flatten
  else none

/-- Reads an integer. -/
def read? (cs : List Char) : Option Int :=
  let (negative, body) := Numeral.readSign (trimChars isBlank cs)
  ((digits? body).filter fun digits => digits.length ≤ digitLimit).map fun digits =>
    Numeral.signed negative (DecimalDigit.valueOf digits)

end Workshop.Text.Integer
