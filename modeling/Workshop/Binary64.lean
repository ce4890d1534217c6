/-!
# Numbers of double precision

A number of double precision has 53 binary digits, the last of which stands for a power of two not
below `2 ^ (-1074)`.  `Binary64.round` is the multiple of that power that is nearest to a rational
number, and `Binary64.nearest?` leaves out the numbers that are too large, in the place of which
`NonFinite` values stand.  `Binary64.significant` writes a number with a given count of decimal
digits, and `Binary64.shortest` with the fewest that read back as the same number.  Main statement:
`roundEven` moves a number by no more than a half.
-/

namespace Workshop.Binary64

/-- The values of double precision that are no numbers. -/
inductive NonFinite where
  | infinite (negative : Bool)
  | notANumber
deriving DecidableEq, Repr, Inhabited

/-- The exponent `k` with `2 ^ k ≤ q < 2 ^ (k + 1)`, for a number `q` above zero. -/
def binaryExponent (q : Rat) : Int :=
  let guess : Int := q.num.natAbs.log2 - q.den.log2
  if q < 2 ^ guess then guess - 1 else guess

/-- The exponent of the last binary digit of a number of the size of `q`. -/
def lastPlace (q : Rat) : Int :=
  max (-1074) (binaryExponent q.abs - 52)

/-- The integer nearest to a number; of two that are equally near, the even one. -/
def roundEven (q : Rat) : Int :=
  let below := q.floor
  if q - below < 1 / 2 then below
  else if 1 / 2 < q - below then below + 1
  else if below % 2 = 0 then below
  else below + 1

/-- The integer nearest to a number; of two that are equally near, the greater one. -/
def roundUp (q : Rat) : Int :=
  (q + 1 / 2).floor

/-- The multiple of `2 ^ place` that is nearest to `q`; of two that are equally near, the even
one. -/
def roundAt (place : Int) (q : Rat) : Rat :=
  roundEven (q / 2 ^ place) * 2 ^ place

/-- The number nearest to `q` with 53 binary digits; of two that are equally near, the one whose
last digit is even. -/
def round (q : Rat) : Rat :=
  if q = 0 then 0 else roundAt (lastPlace q) q

/-- The number of double precision that is nearest to `q`, if `q` is not too large for that. -/
def nearest? (q : Rat) : Option Rat :=
  let nearest := round q
  if nearest.abs < 2 ^ (1024 : Int) then some nearest else none

/-- The integer that the number is, if its fraction is zero. -/
def toInt? (q : Rat) : Option Int :=
  if q.den = 1 then some q.num else none

/-- The exponent `k` with `10 ^ k ≤ q < 10 ^ (k + 1)`, for a number `q` above zero. -/
def decimalExponent (q : Rat) : Int :=
  let guess := (binaryExponent q * 30103) / 100000
  if q < 10 ^ guess then guess - 1
  else if q < 10 ^ (guess + 1) then guess
  else guess + 1

/-- The number `q` above zero with `count` decimal digits: the integer that the digits denote, and
the exponent of the first digit. -/
def significant (count : Nat) (q : Rat) : Nat × Int :=
  let first := decimalExponent q
  let digits := (roundUp (q / 10 ^ (first - count + 1))).toNat
  if (digits : Rat) < 10 ^ (count : Int) then (digits, first) else (digits / 10, first + 1)

/-- The fewest decimal digits, but no fewer than `count` and no more than `count + fuel`, that read
back as the number `q` above zero, with the exponent of the last digit. -/
def shortestFrom (q : Rat) (count : Nat) : Nat → Nat × Int
  | 0 =>
    let (digits, first) := significant count q
    (digits, first - count + 1)
  | fuel + 1 =>
    let (digits, first) := significant count q
    let last := first - count + 1
    if round (digits * 10 ^ last) = q then (digits, last) else shortestFrom q (count + 1) fuel

/-- The fewest decimal digits that read back as the number, with a sign, and the exponent of the
last of them.  Seventeen digits always do. -/
def shortest (q : Rat) : Int × Int :=
  if q = 0 then (0, 0)
  else
    let (digits, last) := shortestFrom q.abs 1 16
    (if q < 0 then -(digits : Int) else digits, last)

theorem floor_le_lt (q : Rat) :
  (q.floor : Rat) ≤ q ∧ q < q.floor + 1
  := by
  have h := Rat.lt_floor_add_one q
  simp only [Rat.intCast_add, Rat.intCast_one] at h
  exact ⟨Rat.floor_le q, h⟩

/-- Rounding to an integer moves a number by no more than a half. -/
theorem roundEven_le_ge (q : Rat) :
  q - 1 / 2 ≤ roundEven q ∧ (roundEven q : Rat) ≤ q + 1 / 2
  := by
  have h := floor_le_lt q
  simp only [roundEven]
  split
  · grind
  · split
    · simp only [Rat.intCast_add, Rat.intCast_one]
      grind
    · split
      · grind
      · simp only [Rat.intCast_add, Rat.intCast_one]
        grind

/-- An integer is the nearest integer to itself. -/
@[simp]
theorem roundEven_intCast (n : Int) :
  roundEven n = n
  := by
  have h : (n : Rat) - (n : Rat) < 1 / 2 := by grind
  simp only [roundEven, Rat.floor_intCast, h, if_true]

/-- An integer has no fraction. -/
@[simp]
theorem toInt?_intCast (n : Int) :
  toInt? n = some n
  := by
  simp [toInt?]

end Workshop.Binary64
