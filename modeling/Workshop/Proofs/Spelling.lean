import Mathlib.Algebra.Order.Floor.Semifield
import Mathlib.Data.List.Induction
import Mathlib.Data.Rat.Floor
import Mathlib.Tactic.Positivity
import Workshop.Instant.Printer
import Workshop.Instant.Reader

/-!
# Spellings of instants

A `Spelling` is a date, alone or with a time of day, in one of the forms in which it can be written:
with or without seconds and a fraction of them of any number of digits, and with an offset from
Coordinated Universal Time in one of several forms.  `Spelling.text` is what is written, and
`Spelling.moment` is the point on the line of time that it stands for, in microseconds since the
beginning of year 1, as an exact number.  `Spelling.stamp` is what it says to the microsecond, and
by `Spelling.point_stamp` this is the microsecond in which the moment lies.
-/

namespace Workshop

open Text

/-! ### Digits -/

namespace Text.Digits

variable {cs : List Char} {acc : Nat}

/-- A digit is written for its value. -/
theorem digit_value {c : Char} (h : c.isDigit = true) :
  value c < 10 ∧ digit (value c) = c
  := by
  simp only [Char.isDigit, Bool.and_eq_true, decide_eq_true_eq] at h
  have hlower : 48 ≤ c.toNat := h.1
  have hupper : c.toNat ≤ 57 := h.2
  constructor
  · rw [value]
    omega
  · rw [digit, value, Nat.add_sub_cancel' hlower, Char.ofNat_toNat]

theorem valueFrom_append_singleton (c : Char) :
  valueFrom acc (cs ++ [c]) = valueFrom acc cs * 10 + value c
  := by
  simp [valueFrom]

/-- Digits are what is written for their value. -/
theorem write_valueFrom (h : ∀ c ∈ cs, c.isDigit = true) :
  valueFrom 0 cs < 10 ^ cs.length ∧ write cs.length (valueFrom 0 cs) = cs
  := by
  induction cs using List.reverseRecOn with
  | nil => exact ⟨by decide, rfl⟩
  | append_singleton cs c ih =>
    obtain ⟨hcs, hc⟩ := List.forall_mem_append.mp h
    obtain ⟨hlt, hwrite⟩ := ih hcs
    obtain ⟨hvalue, hdigit⟩ := digit_value (hc c (by simp))
    have hdiv : (valueFrom 0 cs * 10 + value c) / 10 = valueFrom 0 cs := by omega
    have hmod : (valueFrom 0 cs * 10 + value c) % 10 = value c := by omega
    rw [valueFrom_append_singleton, List.length_append, List.length_singleton]
    constructor
    · rw [pow_succ]
      omega
    · rw [write, hdiv, hmod, hwrite, hdigit]

/-- Digits in front count for as much more as there are digits behind them. -/
theorem valueFrom_append (cs' : List Char) :
  valueFrom acc (cs ++ cs') = valueFrom acc cs * 10 ^ cs'.length + valueFrom 0 cs'
  := by
  induction cs' using List.reverseRecOn with
  | nil => simp [valueFrom]
  | append_singleton cs' c ih =>
    rw [← List.append_assoc, valueFrom_append_singleton, ih, valueFrom_append_singleton,
      List.length_append, List.length_singleton, pow_succ]
    ring

/-- The first digits of a number are what is left of it once the others are cut off. -/
theorem valueFrom_take (h : ∀ c ∈ cs, c.isDigit = true) (k : Nat) :
  valueFrom 0 (cs.take k) = valueFrom 0 cs / 10 ^ (cs.length - k)
  := by
  have hdrop : ∀ c ∈ cs.drop k, c.isDigit = true := fun c hc => h c (List.mem_of_mem_drop hc)
  have hlt := (write_valueFrom hdrop).1
  rw [List.length_drop] at hlt
  conv_rhs => rw [← List.take_append_drop k cs, valueFrom_append, List.length_drop]
  rw [List.take_append_drop, mul_comm, Nat.mul_add_div (by positivity), Nat.div_eq_of_lt hlt,
    Nat.add_zero]

end Text.Digits

/-! ### What is written -/

namespace Spelling

/-- A point or a comma, and digits of a fraction behind it. -/
structure Fraction where
  mark : Char
  digits : List Char
  mark_mem : mark ∈ ['.', ','] := by decide
  nonempty : digits ≠ [] := by decide
  isDigit : ∀ c ∈ digits, c.isDigit = true

/-- Seconds, with a fraction or without one. -/
structure Seconds where
  second : Nat
  fraction : Option Fraction := none
  second_le : second ≤ 59 := by decide

/-- A mark of the offset from Coordinated Universal Time. -/
inductive Zone where
  /-- Nothing is written, and the offset is none. -/
  | unsaid
  /-- A letter that stands for no offset. -/
  | letter (letter : Char) (letter_mem : letter ∈ ['Z', 'z'])
  /-- The offset is written in hours and minutes. -/
  | offset (sign : Char) (hour minute : Nat) (colon : Bool)
      (sign_mem : sign ∈ ['+', '-', '−']) (hour_le : hour ≤ 23) (minute_le : minute ≤ 59)

/-- A time of day. -/
structure Clock where
  separator : Char
  hour : Nat
  minute : Nat
  seconds : Option Seconds := none
  zone : Zone := .unsaid
  separator_mem : separator ∈ ['T', 't', '_', ' '] := by decide
  hour_le : hour ≤ 23 := by decide
  minute_le : minute ≤ 59 := by decide

end Spelling

/-- A date of the years 1 to 9999, alone or with a time of day. -/
structure Spelling where
  date : Date
  clock : Option Spelling.Clock := none
  date_exists : date.Exists := by decide
  year_pos : 0 < date.year := by decide
  year_lt : date.year < 10000 := by decide

namespace Spelling

/-- The characters of a fraction. -/
def Fraction.chars (f : Fraction) : List Char :=
  f.mark :: f.digits

/-- The characters of seconds. -/
def Seconds.chars (s : Seconds) : List Char :=
  ':' :: Digits.write 2 s.second ++ s.fraction.elim [] Fraction.chars

/-- The characters of the mark of an offset. -/
def Zone.chars : Zone → List Char
  | unsaid => []
  | letter c _ => [c]
  | offset sign hour minute colon .. =>
    sign :: Digits.write 2 hour ++ (if colon then [':'] else []) ++ Digits.write 2 minute

/-- The characters of a time of day. -/
def Clock.chars (c : Clock) : List Char :=
  c.separator :: Digits.write 2 c.hour ++ ':' :: Digits.write 2 c.minute
    ++ c.seconds.elim [] Seconds.chars ++ c.zone.chars

/-- The characters of a spelling. -/
def chars (w : Spelling) : List Char :=
  Instant.dateChars w.date ++ w.clock.elim [] Clock.chars

/-- The text of a spelling. -/
def text (w : Spelling) : String :=
  String.ofList w.chars

/-! ### What it stands for -/

/-- The part of a second for which a fraction stands. -/
def Fraction.value (f : Fraction) : ℚ :=
  Digits.valueFrom 0 f.digits / 10 ^ f.digits.length

/-- The microseconds for which seconds stand. -/
def Seconds.micros (s : Seconds) : ℚ :=
  1000000 * (s.second + s.fraction.elim 0 Fraction.value)

/-- The offset, in minutes. -/
def Zone.minutes : Zone → Int
  | unsaid => 0
  | letter .. => 0
  | offset sign hour minute .. =>
    if sign = '+' then hour * 60 + minute else -(hour * 60 + minute)

/-- The microseconds since the beginning of the day. -/
def Clock.micros (c : Clock) : ℚ :=
  3600000000 * c.hour + 60000000 * c.minute + c.seconds.elim 0 Seconds.micros

/-- The microseconds from the beginning of year 1 to the moment at which clocks with the offset of
the spelling show its date and time. -/
def moment (w : Spelling) : ℚ :=
  w.date.toDays * Instant.dayLength
    + w.clock.elim 0 fun c => c.micros - c.zone.minutes * 60000000

/-- The microseconds of the day in which the time lies. -/
def Clock.timeOfDay (c : Clock) : Nat :=
  ⌊c.micros⌋₊

/-- What a spelling says, to the microsecond. -/
def stamp (w : Spelling) : Stamp where
  date := w.date
  timeOfDay := w.clock.elim 0 Clock.timeOfDay
  offset := w.clock.elim 0 (·.zone.minutes)

/-! ### Microseconds -/

theorem Fraction.value_nonneg (f : Fraction) :
  0 ≤ f.value
  := by
  rw [value]
  positivity

theorem Seconds.micros_nonneg (s : Seconds) :
  0 ≤ s.micros
  := by
  have hfraction : 0 ≤ s.fraction.elim 0 Fraction.value := by
    cases s.fraction with
    | none => apply le_refl
    | some f => apply f.value_nonneg
  rw [micros]
  positivity

theorem Clock.micros_nonneg (c : Clock) :
  0 ≤ c.micros
  := by
  have hseconds : 0 ≤ c.seconds.elim 0 Seconds.micros := by
    cases c.seconds with
    | none => apply le_refl
    | some s => apply s.micros_nonneg
  rw [micros]
  positivity

/-- Of a fraction six digits count, which are zeros where there are fewer. -/
theorem Fraction.floor_value (f : Fraction) :
  ⌊1000000 * f.value⌋₊ = Digits.valueFrom 0 ((f.digits ++ List.replicate 6 '0').take 6)
  := by
  have hdigits : ∀ c ∈ f.digits ++ List.replicate 6 '0', c.isDigit = true :=
    List.forall_mem_append.mpr ⟨f.isDigit, fun c hc => List.eq_of_mem_replicate hc ▸ rfl⟩
  have hzeros : Digits.valueFrom 0 (List.replicate 6 '0') = 0 := by decide
  have hvalue : 1000000 * f.value
      = ((Digits.valueFrom 0 f.digits * 10 ^ 6 : ℕ) : ℚ) / ((10 ^ f.digits.length : ℕ) : ℚ) := by
    rw [value]
    push_cast
    ring
  rw [hvalue, Nat.floor_div_eq_div, Digits.valueFrom_take hdigits, Digits.valueFrom_append, hzeros,
    List.length_append, List.length_replicate, Nat.add_sub_cancel, Nat.add_zero]

theorem Seconds.floor_micros (s : Seconds) :
  ⌊s.micros⌋₊ = s.second * 1000000 + s.fraction.elim 0 fun f => ⌊1000000 * f.value⌋₊
  := by
  cases h : s.fraction with
  | none =>
    have hmicros : s.micros = ((s.second * 1000000 : ℕ) : ℚ) := by
      simp only [micros, h, Option.elim_none]
      push_cast
      ring
    rw [hmicros, Nat.floor_natCast, Option.elim_none, Nat.add_zero]
  | some f =>
    have hmicros : s.micros = 1000000 * f.value + ((s.second * 1000000 : ℕ) : ℚ) := by
      simp only [micros, h, Option.elim_some]
      push_cast
      ring
    rw [hmicros, Nat.floor_add_natCast (mul_nonneg (by decide) f.value_nonneg), Nat.add_comm,
      Option.elim_some]

theorem Clock.timeOfDay_eq (c : Clock) :
  c.timeOfDay = c.hour * 3600000000 + c.minute * 60000000
    + c.seconds.elim 0 fun s => ⌊s.micros⌋₊
  := by
  rw [timeOfDay]
  cases h : c.seconds with
  | none =>
    have hmicros : c.micros = ((c.hour * 3600000000 + c.minute * 60000000 : ℕ) : ℚ) := by
      simp only [micros, h, Option.elim_none]
      push_cast
      ring
    rw [hmicros, Nat.floor_natCast, Option.elim_none, Nat.add_zero]
  | some s =>
    have hmicros : c.micros
        = s.micros + ((c.hour * 3600000000 + c.minute * 60000000 : ℕ) : ℚ) := by
      simp only [micros, h, Option.elim_some]
      push_cast
      ring
    rw [hmicros, Nat.floor_add_natCast s.micros_nonneg, Nat.add_comm,
      Option.elim_some]

/-- A spelling says the microsecond in which its moment lies. -/
theorem point_stamp (w : Spelling) :
  w.stamp.point = ⌊w.moment⌋
  := by
  cases h : w.clock with
  | none =>
    have hmoment : w.moment = ((w.date.toDays * Instant.dayLength : ℕ) : ℚ) := by
      simp only [moment, h, Option.elim_none]
      push_cast
      ring
    rw [hmoment, Int.floor_natCast]
    simp [Stamp.point, stamp, h]
  | some c =>
    have hmoment : w.moment = c.micros
        + ((w.date.toDays * Instant.dayLength - c.zone.minutes * 60000000 : ℤ) : ℚ) := by
      simp only [moment, h, Option.elim_some]
      push_cast
      ring
    rw [hmoment, Int.floor_add_intCast, ← Int.natCast_floor_eq_floor c.micros_nonneg]
    simp only [Stamp.point, stamp, h, Option.elim_some, Clock.timeOfDay]
    ring

end Spelling

end Workshop
