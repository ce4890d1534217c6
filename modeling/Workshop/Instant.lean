import Workshop.Binary64
import Workshop.Calendar

/-!
# Instants

An `Instant` is a moment of Coordinated Universal Time in the years 1 to 9999, kept as the number
of microseconds since the beginning of year 1.  `Instant.succ?` is the next instant, and
`Instant.next?` the stamp that follows an earlier stamp when the clock shows a given instant.
-/

namespace Workshop

/-- A moment of the years 1 to 9999, in microseconds since the beginning of year 1. -/
structure Instant where
  micros : Nat
  micros_lt : micros < 315537897600000000
deriving DecidableEq, Repr

namespace Instant

/-- The microseconds of a day. -/
abbrev dayLength : Nat :=
  86400000000

/-- The microseconds from the beginning of year 1 to the beginning of 1970. -/
abbrev unixEpoch : Nat :=
  719162 * dayLength

instance : LT Instant := ⟨fun a b => a.micros < b.micros⟩
instance : LE Instant := ⟨fun a b => a.micros ≤ b.micros⟩
instance (a b : Instant) : Decidable (a < b) := inferInstanceAs (Decidable (a.micros < b.micros))
instance (a b : Instant) : Decidable (a ≤ b) := inferInstanceAs (Decidable (a.micros ≤ b.micros))
instance : Inhabited Instant := ⟨⟨0, by decide⟩⟩

/-- The instant that lies `n` microseconds after the beginning of year 1, if it lies in the years
1 to 9999. -/
def ofInt? (n : Int) : Option Instant :=
  if h : 0 ≤ n ∧ n.toNat < 315537897600000000 then some ⟨n.toNat, h.2⟩ else none

/-- The instant one microsecond later, if it still lies in year 9999. -/
def succ? (i : Instant) : Option Instant :=
  ofInt? (i.micros + 1)

/-- The stamp that follows the stamp `previous` when the clock shows `now`: the clock, or one
microsecond after `previous` if the clock has not passed it.  Absent if there is no instant after
`previous`. -/
def next? (previous now : Instant) : Option Instant :=
  previous.succ?.map fun floor => if now < floor then floor else now

/-- The stamp that follows the stamp `previous`, if there is one, when the clock shows `now`. -/
def following? (previous : Option Instant) (now : Instant) : Option Instant :=
  match previous with
  | some p => next? p now
  | none => some now

/-- The greatest number that counts seconds; numbers further from zero count milliseconds. -/
abbrev secondsLimit : Nat :=
  20000000000

/-- The microseconds of one second, or of one millisecond. -/
def unitOf (countsSeconds : Bool) : Int :=
  if countsSeconds then 1000000 else 1000

/-- The microseconds since the beginning of year 1, `n` seconds or milliseconds after the beginning
of 1970. -/
def microsOfInt (n : Int) : Int :=
  unixEpoch + n * unitOf (n.natAbs ≤ secondsLimit)

/-- The microseconds since the beginning of year 1, for a count of seconds or milliseconds of double
precision.  The fraction of the count and the microseconds that it makes up are of double precision
too, and the latter are rounded to an integer. -/
def microsOfFloat (x : Rat) : Int :=
  let unit := unitOf (x.abs ≤ secondsLimit)
  let fraction := Binary64.round (x - x.floor)
  unixEpoch + x.floor * unit + Binary64.roundUp (Binary64.round (fraction * unit))

theorem lt_iff {a b : Instant} :
  a < b ↔ a.micros < b.micros
  := Iff.rfl

theorem le_iff {a b : Instant} :
  a ≤ b ↔ a.micros ≤ b.micros
  := Iff.rfl

/-- An instant is determined by its microseconds. -/
@[ext]
theorem ext {a b : Instant} (h : a.micros = b.micros) :
  a = b
  := by
  cases a
  cases b
  simpa using h

@[simp]
theorem ofInt?_micros (i : Instant) :
  ofInt? i.micros = some i
  := by
  simp [ofInt?, i.micros_lt]

theorem micros_of_ofInt? {n : Int} {i : Instant} (h : ofInt? n = some i) :
  (i.micros : Int) = n
  := by
  simp only [ofInt?] at h
  split at h
  · simp only [Option.some.injEq] at h
    subst h
    simp only
    omega
  · simp at h

/-- The stamp that follows an earlier stamp is later than it, and not before the clock. -/
theorem lt_of_next? {previous now i : Instant} (h : next? previous now = some i) :
  previous < i ∧ now ≤ i
  := by
  simp only [next?, succ?, Option.map_eq_some_iff] at h
  obtain ⟨floor, hf, rfl⟩ := h
  have := micros_of_ofInt? hf
  simp only [lt_iff, le_iff]
  split <;> omega

end Instant

end Workshop
