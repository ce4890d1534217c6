import Workshop.Instant.Reader

/-!
# Intervals of time

An `Interval` runs from its start up to but not including its stop.  Two intervals overlap if each
starts before the other stops, so intervals that only touch do not overlap.  `Stamp.Overlap` says
the same of spans between stamps, which may lie outside the years 1 to 9999.
-/

namespace Workshop

/-- The instants from `start` up to but not including `stop`. -/
structure Interval where
  start : Instant
  stop : Instant
deriving DecidableEq, Repr, Inhabited

namespace Interval

/-- Whether the interval holds an instant. -/
def IsProper (a : Interval) : Prop :=
  a.start < a.stop

instance (a : Interval) : Decidable a.IsProper :=
  inferInstanceAs (Decidable (_ < _))

/-- Whether each interval starts before the other stops. -/
def Overlaps (a b : Interval) : Prop :=
  a.start < b.stop ∧ b.start < a.stop

instance (a b : Interval) : Decidable (a.Overlaps b) :=
  inferInstanceAs (Decidable (_ ∧ _))

/-- Overlapping is symmetric. -/
theorem overlaps_comm {a b : Interval} :
  a.Overlaps b ↔ b.Overlaps a
  := And.comm

/-- Intervals that only touch do not overlap. -/
theorem not_overlaps_of_le {a b : Interval} (h : a.stop ≤ b.start) :
  ¬ a.Overlaps b
  := by
  simp only [Overlaps, Instant.lt_iff, Instant.le_iff] at *
  omega

/-- Two proper intervals overlap if and only if they share an instant. -/
theorem overlaps_iff_exists {a b : Interval} (ha : a.IsProper) (hb : b.IsProper) :
  a.Overlaps b ↔ ∃ i, (a.start ≤ i ∧ i < a.stop) ∧ (b.start ≤ i ∧ i < b.stop)
  := by
  simp only [Overlaps, IsProper, Instant.lt_iff, Instant.le_iff] at *
  constructor
  · intro h
    by_cases hs : a.start.micros ≤ b.start.micros
    · exact ⟨b.start, by omega⟩
    · exact ⟨a.start, by omega⟩
  · rintro ⟨i, hi⟩
    omega

end Interval

namespace Stamp

/-- Whether two spans, each from its first stamp up to its second, overlap. -/
def Overlap (a b : Stamp × Stamp) : Prop :=
  a.1.point < b.2.point ∧ b.1.point < a.2.point

instance (a b : Stamp × Stamp) : Decidable (Overlap a b) :=
  inferInstanceAs (Decidable (_ ∧ _))

/-- Spans between stamps that stand for instants overlap as the intervals of these instants do. -/
theorem overlap_iff {a b : Stamp × Stamp} {i j : Interval}
    (ha : a.1.instant? = some i.start ∧ a.2.instant? = some i.stop)
    (hb : b.1.instant? = some j.start ∧ b.2.instant? = some j.stop) :
  Overlap a b ↔ i.Overlaps j
  := by
  have h₁ := Instant.micros_of_ofInt? ha.1
  have h₂ := Instant.micros_of_ofInt? ha.2
  have h₃ := Instant.micros_of_ofInt? hb.1
  have h₄ := Instant.micros_of_ofInt? hb.2
  simp only [Overlap, Interval.Overlaps, Instant.lt_iff]
  omega

end Stamp

end Workshop
