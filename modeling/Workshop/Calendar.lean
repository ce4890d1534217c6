/-!
# The civil calendar

A `Date` is a year, a month and a day.  `Date.toDays` counts the days from 1 January of year 1 to
a date of the Gregorian calendar, and `Date.ofDays` finds the date that a count of days leads to.
Main statements: `Date.ofDays` answers a date that exists, and `Date.toDays` takes it back to the
count it was found from.
-/

namespace Workshop

/-- A year, a month and a day. -/
structure Date where
  year : Nat
  month : Nat
  day : Nat
deriving DecidableEq, Repr, Inhabited

namespace Date

/-- Whether February has 29 days in the year `y`. -/
def isLeap (y : Nat) : Bool :=
  y % 4 = 0 && (y % 100 ≠ 0 || y % 400 = 0)

/-- The lengths of the twelve months of a year. -/
def monthLengths (leap : Bool) : List Nat :=
  [31, if leap then 29 else 28, 31, 30, 31, 30, 31, 31, 30, 31, 30, 31]

/-- Whether the date exists. -/
def Exists (d : Date) : Prop :=
  1 ≤ d.month ∧ 1 ≤ d.day ∧ ∃ n ∈ (monthLengths (isLeap d.year))[d.month - 1]?, d.day ≤ n

instance (d : Date) : Decidable d.Exists :=
  match h : (monthLengths (isLeap d.year))[d.month - 1]? with
  | none => isFalse (by simp [Exists, h])
  | some n =>
    if hd : 1 ≤ d.month ∧ 1 ≤ d.day ∧ d.day ≤ n then isTrue (by simp [Exists, h, hd])
    else isFalse (by simpa [Exists, h] using hd)

/-- The days of the years 1 to `y - 1`. -/
def daysBeforeYear (y : Nat) : Nat :=
  (y - 1) * 365 + (y - 1) / 4 - (y - 1) / 100 + (y - 1) / 400

/-- The days of months of the given lengths. -/
def daysOf : List Nat → Nat
  | [] => 0
  | length :: rest => length + daysOf rest

/-- The days from 1 January of year 1 to the date, for dates from year 1 on. -/
def toDays (d : Date) : Nat :=
  daysBeforeYear d.year + daysOf ((monthLengths (isLeap d.year)).take (d.month - 1)) + (d.day - 1)

/-- The year in which day `n` lies, and the number of the day in that year from 0.  A cycle of
400 years has 146097 days, a century but the last of a cycle 36524, and four years but the last
of a century 1461. -/
def yearOfDays (n : Nat) : Nat × Nat :=
  let inCycle := n % 146097
  let century := min (inCycle / 36524) 3
  let inCentury := inCycle - century * 36524
  let inFour := inCentury % 1461
  let year := min (inFour / 365) 3
  (n / 146097 * 400 + century * 100 + inCentury / 1461 * 4 + year + 1, inFour - year * 365)

/-- The month and the day, both from 1, of the day with number `n` from 0, when the months have
the lengths `lengths` and the first of them is month `month`. -/
def monthOfDays : List Nat → Nat → Nat → Nat × Nat
  | [], month, n => (month, n + 1)
  | length :: rest, month, n =>
    if n < length then (month, n + 1) else monthOfDays rest (month + 1) (n - length)

/-- The date `n` days after 1 January of year 1. -/
def ofDays (n : Nat) : Date :=
  let (year, inYear) := yearOfDays n
  let (month, day) := monthOfDays (monthLengths (isLeap year)) 1 inYear
  ⟨year, month, day⟩

/-- The days of a year. -/
def yearLength (leap : Bool) : Nat :=
  if leap then 366 else 365

theorem daysOf_monthLengths (leap : Bool) :
  daysOf (monthLengths leap) = yearLength leap
  := by
  cases leap <;> rfl

/-- The days before a year, counted by cycles, centuries, groups of four years and years. -/
theorem daysBeforeYear_parts {cycle century four year : Nat} (hc : century ≤ 3) (hf : four ≤ 24)
    (hy : year ≤ 3) :
  daysBeforeYear (cycle * 400 + century * 100 + four * 4 + year + 1)
    = cycle * 146097 + century * 36524 + four * 1461 + year * 365
  := by
  have h4 : (cycle * 400 + century * 100 + four * 4 + year) / 4
      = cycle * 100 + century * 25 + four := by
    omega
  have h100 : (cycle * 400 + century * 100 + four * 4 + year) / 100 = cycle * 4 + century := by
    omega
  have h400 : (cycle * 400 + century * 100 + four * 4 + year) / 400 = cycle := by
    omega
  simp only [daysBeforeYear, Nat.add_sub_cancel, h4, h100, h400]
  omega

/-- The last year of a group of four is a leap year, unless it ends a century that does not end
a cycle. -/
theorem isLeap_parts {cycle century four : Nat} (hf : four ≤ 24)
    (h : four ≠ 24 ∨ century = 3) :
  isLeap (cycle * 400 + century * 100 + four * 4 + 3 + 1) = true
  := by
  simp only [isLeap, Bool.and_eq_true, Bool.or_eq_true, decide_eq_true_eq, ne_eq]
  omega

/-- The year found for a day is from year 1 on and holds the day. -/
theorem yearOfDays_spec (n : Nat) :
  1 ≤ (yearOfDays n).1
    ∧ daysBeforeYear (yearOfDays n).1 + (yearOfDays n).2 = n
    ∧ (yearOfDays n).2 < yearLength (isLeap (yearOfDays n).1)
  := by
  simp only [yearOfDays]
  generalize hcyc : n / 146097 = cycle
  generalize hin : n % 146097 = inCycle
  generalize hcen : min (inCycle / 36524) 3 = century
  generalize hic : inCycle - century * 36524 = inCentury
  generalize hfour : inCentury / 1461 = four
  generalize hif : inCentury % 1461 = inFour
  generalize hyear : min (inFour / 365) 3 = year
  have hn : n = cycle * 146097 + inCycle := by omega
  have hlt : inCycle < 146097 := by omega
  have hc3 : century ≤ 3 := by omega
  have hsplit : inCycle = century * 36524 + inCentury := by omega
  have hcb : inCentury ≤ 36524 ∧ (century ≠ 3 → inCentury < 36524) := by omega
  have hf24 : four ≤ 24 := by omega
  have hsplit4 : inCentury = four * 1461 + inFour := by omega
  have hy3 : year ≤ 3 := by omega
  have hle : year * 365 ≤ inFour := by omega
  refine ⟨by omega, ?_, ?_⟩
  · rw [daysBeforeYear_parts hc3 hf24 hy3]
    omega
  · by_cases h3 : year = 3
    · subst h3
      by_cases hl : four ≠ 24 ∨ century = 3
      · rw [isLeap_parts hf24 hl]
        simp only [yearLength, if_true]
        omega
      · simp only [yearLength]
        split <;> omega
    · simp only [yearLength]
      split <;> omega

/-- The month found for a day is one of the months and holds the day. -/
theorem monthOfDays_spec (lengths : List Nat) (month : Nat) {n : Nat}
    (h : n < daysOf lengths) :
  ∃ i, (monthOfDays lengths month n).1 = month + i
    ∧ 1 ≤ (monthOfDays lengths month n).2
    ∧ (∃ length ∈ lengths[i]?, (monthOfDays lengths month n).2 ≤ length)
    ∧ daysOf (lengths.take i) + ((monthOfDays lengths month n).2 - 1) = n
  := by
  induction lengths generalizing month n with
  | nil => simp [daysOf] at h
  | cons length rest ih =>
    by_cases hn : n < length
    · refine ⟨0, ?_⟩
      simp only [monthOfDays, hn, if_true, List.getElem?_cons_zero, List.take_zero, daysOf]
      exact ⟨rfl, by omega, ⟨length, rfl, by omega⟩, by omega⟩
    · have hr : n - length < daysOf rest := by
        simp only [daysOf] at h
        omega
      obtain ⟨i, hm, hd, hl, hs⟩ := ih (month + 1) hr
      refine ⟨i + 1, ?_⟩
      simp only [monthOfDays, hn, if_false, List.getElem?_cons_succ, List.take_succ_cons,
        daysOf]
      exact ⟨by omega, hd, hl, by omega⟩

/-- The date found for a day exists. -/
theorem exists_ofDays (n : Nat) :
  (ofDays n).Exists
  := by
  obtain ⟨-, -, hy⟩ := yearOfDays_spec n
  rw [← daysOf_monthLengths] at hy
  obtain ⟨i, hm, hd, hl, -⟩ := monthOfDays_spec _ 1 hy
  simp only [Exists, ofDays, hm]
  refine ⟨by omega, hd, ?_⟩
  simpa [Nat.add_sub_cancel_left] using hl

/-- The date found for a day is that many days after 1 January of year 1. -/
theorem toDays_ofDays (n : Nat) :
  (ofDays n).toDays = n
  := by
  obtain ⟨-, he, hy⟩ := yearOfDays_spec n
  rw [← daysOf_monthLengths] at hy
  obtain ⟨i, hm, hd, -, hs⟩ := monthOfDays_spec _ 1 hy
  simp only [toDays, ofDays, hm, Nat.add_sub_cancel_left]
  omega

end Date

end Workshop
