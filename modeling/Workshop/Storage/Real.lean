import Workshop.Numeral
import Workshop.Text.Digits

/-!
# Numbers in columns

The storage turns numbers of double precision into texts, and texts into such numbers, in extended
precision, where a number has 64 binary digits.  `Binary80.round` is the number of extended
precision nearest to a rational number, `Binary80.mul` and `Binary80.div` round what they answer,
and `Binary80.powerOfTen` is a power of ten that is made by repeated squaring and rounded at each
step.

A column of texts stores a number as a text of at most fifteen significant digits, `Real.text`.  The
number is scaled to lie between 1 and 10, half a unit of the last digit is added, and the digits are
taken off one after another.  At least one digit stands behind the point.  A number below a
ten-thousandth, or with more than fifteen digits in front of the point, is written with a power of
ten.

A column of numbers stores the number that a numeral denotes, as `Real.read?` works it out.  The
digits of the numeral are read as an integer until there are enough of them, and the others are left
out.  That integer is multiplied by the power of ten, or divided by it, and the result is rounded to
double precision.
-/

namespace Workshop.Binary80

/-! ### Extended precision -/

/-- The number nearest to `q` with 64 binary digits; of two that are equally near, the one whose
last digit is even. -/
def round (q : Rat) : Rat :=
  if q = 0 then 0 else Binary64.roundAt (Binary64.binaryExponent q.abs - 63) q

/-- The rounded product. -/
def mul (x y : Rat) : Rat :=
  round (x * y)

/-- The rounded quotient. -/
def div (x y : Rat) : Rat :=
  round (x / y)

/-- The number `result` times the `n`-th power of `square`, rounded at each step of repeated
squaring. -/
def powerFrom (square result : Rat) (n : Nat) : Rat :=
  if n = 0 then result
  else powerFrom (mul square square) (if n % 2 = 1 then mul result square else result) (n / 2)
termination_by n

/-- The `n`-th power of ten. -/
def powerOfTen (n : Nat) : Rat :=
  powerFrom 10 1 n

end Workshop.Binary80

namespace Workshop.Storage.Real

/-! ### Texts of numbers -/

/-- How many significant digits the text of a number has at most. -/
abbrev digitCount : Nat :=
  15

/-- A number as a product of a number, which is to lie between 1 and 10, and a power of ten. -/
structure Scaled where
  significand : Rat
  exponent : Int
deriving DecidableEq, Repr, Inhabited

/-- The greatest product of `scale` and a power of `factor` that does not exceed `x`, with the
exponent of ten that goes with it: `factor` is the power of ten with the exponent `places`. -/
def climb (x factor : Rat) (places : Int) : Nat → Rat → Int → Rat × Int
  | 0, scale, exponent => (scale, exponent)
  | fuel + 1, scale, exponent =>
    let next := Binary80.mul factor scale
    if next ≤ x then climb x factor places fuel next (exponent + places) else (scale, exponent)

/-- The number multiplied by `factor`, the power of ten with the exponent `places`, as long as it
lies below `limit`. -/
def Scaled.raise (limit factor : Rat) (places : Int) : Nat → Scaled → Scaled
  | 0, s => s
  | fuel + 1, s =>
    if s.significand < limit then
      raise limit factor places fuel ⟨Binary80.mul s.significand factor, s.exponent - places⟩
    else s

/-- The number `x` above zero, scaled to lie between 1 and 10. -/
def scaled (x : Rat) : Scaled :=
  let (scale, exponent) := climb x (Binary64.round (10 ^ (100 : Int))) 100 4 1 0
  let (scale, exponent) := climb x (10 ^ (10 : Int)) 10 10 scale exponent
  let (scale, exponent) := climb x 10 1 10 scale exponent
  let s : Scaled := ⟨Binary80.div x scale, exponent⟩
  (s.raise (Binary64.round (10 ^ (-8 : Int))) (10 ^ (8 : Int)) 8 50).raise 1 10 1 10

/-- Half a unit of the last digit of a number between 1 and 10. -/
def halfUnit : Rat :=
  Binary64.round (Binary64.round (5 * 10 ^ (-5 : Int)) * Binary64.round (10 ^ (-10 : Int)))

/-- The number with half a unit of the last digit added. -/
def Scaled.rounded (s : Scaled) : Scaled :=
  let x := Binary80.round (s.significand + halfUnit)
  if x < 10 then ⟨x, s.exponent⟩
  else ⟨Binary80.mul x (Binary64.round (1 / 10)), s.exponent + 1⟩

/-- The first digits of a number below 10. -/
def digits : Nat → Rat → List Char
  | 0, _ => []
  | count + 1, x =>
    let first := x.floor.toNat
    Text.Digits.digit first :: digits count (Binary80.mul (x - first) 10)

/-- The digits without the zeros at their end. -/
def dropZeros (digits : List Char) : List Char :=
  (digits.reverse.dropWhile (· = '0')).reverse

/-- The digits, or a zero if there are none. -/
def orZero (digits : List Char) : List Char :=
  if digits.isEmpty then ['0'] else digits

/-- A power of ten, with a sign and at least two digits. -/
def exponentChars (exponent : Int) : List Char :=
  let digits := (toString exponent.natAbs).toList
  'e' :: (if exponent < 0 then '-' else '+')
    :: (List.replicate (2 - digits.length) '0' ++ digits)

/-- The text of a number above zero, given its digits and the exponent of the first of them. -/
def chars (digits : List Char) (exponent : Int) : List Char :=
  if exponent < -4 ∨ (digitCount : Int) ≤ exponent then
    digits.take 1 ++ '.' :: orZero (dropZeros (digits.drop 1)) ++ exponentChars exponent
  else if exponent < 0 then
    '0' :: '.' :: List.replicate (exponent.natAbs - 1) '0' ++ dropZeros digits
  else
    let whole := exponent.toNat + 1
    digits.take whole ++ '.' :: orZero (dropZeros (digits.drop whole))

/-- The text of a number in a column of texts. -/
def text (x : Rat) : String :=
  if x = 0 then "0.0"
  else
    let s := (scaled x.abs).rounded
    let written := chars (digits digitCount s.significand) s.exponent
    String.ofList (if x < 0 then '-' :: written else written)

/-! ### Numbers of texts -/

/-- The integer from which on no more digits are read. -/
abbrev enough : Nat :=
  922337203685477579

/-- The integer that is read of the digits of a numeral, and how many of them are left out when
`left` of them are left out already. -/
def shorten (digits left : Nat) : Nat × Nat :=
  if enough ≤ digits / 10 then shorten (digits / 10) (left + 1) else (digits, left)
termination_by digits
decreasing_by
  have : 0 < enough := by decide
  omega

/-- The power of ten of a numeral, of which no more than five digits are read. -/
def readExponent (exponent : Int) : Int :=
  if exponent.natAbs < 100000 then exponent else exponent.sign * 10000

/-- Multiplies an integer by ten, as often as `exponent` says, as long as it remains small.  What is
left of the exponent goes with it. -/
def multiply (integer : Nat) : Nat → Nat × Nat
  | 0 => (integer, 0)
  | exponent + 1 =>
    if integer ≤ enough then multiply (integer * 10) exponent else (integer, exponent + 1)

/-- Divides an integer by ten, as often as `exponent` says, as long as its last digit is zero.  What
is left of the exponent goes with it. -/
def cancel (integer : Nat) : Nat → Nat × Nat
  | 0 => (integer, 0)
  | exponent + 1 =>
    if integer % 10 = 0 then cancel (integer / 10) exponent else (integer, exponent + 1)

/-- The greatest power of ten that is taken in one step. -/
abbrev step : Nat :=
  308

/-- The exponent from which on powers of ten are too large. -/
abbrev tooLarge : Nat :=
  342

/-- The number of double precision that stands for the power of ten of one step. -/
def stepFactor : Rat :=
  Binary64.round (10 ^ (step : Int))

/-- An integer times a power of ten, if it is not too large. -/
def enlarged? (integer exponent : Nat) : Option Rat :=
  if exponent = 0 then Binary64.nearest? integer
  else if exponent < step then
    Binary64.nearest? (Binary80.mul integer (Binary80.powerOfTen exponent))
  else if exponent < tooLarge then do
    let part ← Binary64.nearest? (Binary80.mul integer (Binary80.powerOfTen (exponent - step)))
    Binary64.nearest? (part * stepFactor)
  else none

/-- An integer divided by a power of ten. -/
def reduced (integer exponent : Nat) : Rat :=
  if exponent = 0 then Binary64.round integer
  else if exponent < step then
    Binary64.round (Binary80.div integer (Binary80.powerOfTen exponent))
  else if exponent < tooLarge then
    let part := Binary64.round (Binary80.div integer (Binary80.powerOfTen (exponent - step)))
    Binary64.round (part / stepFactor)
  else 0

/-- The absolute value of the number that a numeral denotes, if it is not too large. -/
def magnitude? (n : Numeral) : Option Rat :=
  let (integer, left) := shorten n.digits 0
  let exponent : Int := readExponent (n.exponent.getD 0) - n.places.getD 0 + left
  if integer = 0 then some 0
  else if 0 ≤ exponent then
    let (integer, exponent) := multiply integer exponent.toNat
    enlarged? integer exponent
  else
    let (integer, exponent) := cancel integer exponent.natAbs
    some (reduced integer exponent)

/-- The number of double precision that a numeral denotes, if it is not too large. -/
def read? (n : Numeral) : Option Rat :=
  (magnitude? n).map fun x => if n.negative then -x else x

end Workshop.Storage.Real
