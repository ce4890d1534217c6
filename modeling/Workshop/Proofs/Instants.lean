import Mathlib.Data.List.TakeWhile
import Workshop.Proofs.Spelling

/-!
# Reading instants

What is read as an instant is the spellings and nothing else, but for numbers that count from 1970.
Each part of a spelling is read where it is written, whatever stands behind it, and what is read as
such a part was written so.  From this, `Instant.read_text_eq_ok_iff` says what a spelling is read
as, `Instant.spelling_of_read` that what is read is spelt, and `Instant.read_eq_outOfRange_iff`
which texts lead out of the years 1 to 9999.

An instant is itself written in one of the spellings, so that no instant is lost in answers,
`Instant.read_toText`, or in the audit trail, `Instant.read_toAuditText`.
-/

namespace Workshop

open Text

/-! ### Digits and dates -/

namespace Text.Digits

variable {cs rest : List Char} {k n acc : Nat}

/-- Digits are read only where they stand. -/
theorem exists_of_readFrom (h : readFrom k acc cs = some (n, rest)) :
  ∃ digits, digits.length = k ∧ (∀ c ∈ digits, c.isDigit = true) ∧ cs = digits ++ rest
    ∧ n = valueFrom acc digits
  := by
  induction k generalizing acc cs with
  | zero =>
    cases h
    exact ⟨[], rfl, by simp, rfl, rfl⟩
  | succ k ih =>
    cases cs with
    | nil => cases h
    | cons c cs =>
      simp only [readFrom] at h
      split_ifs at h with hc
      obtain ⟨digits, hlength, hdigits, rfl, rfl⟩ := ih h
      exact ⟨c :: digits, by simp [hlength], List.forall_mem_cons.mpr ⟨hc, hdigits⟩, rfl, rfl⟩

/-- A number is read where it is written. -/
theorem read_eq_some_iff :
  read k cs = some (n, rest) ↔ n < 10 ^ k ∧ cs = write k n ++ rest
  := by
  constructor
  · intro h
    obtain ⟨digits, rfl, hdigits, rfl, rfl⟩ := exists_of_readFrom h
    obtain ⟨hlt, hwrite⟩ := write_valueFrom hdigits
    exact ⟨hlt, by rw [hwrite]⟩
  · rintro ⟨hlt, rfl⟩
    apply read_write k hlt

end Text.Digits

/-- The years 1 to 9999 have 3652059 days. -/
theorem Date.year_ofDays_lt {n : Nat} (h : n < 3652059) :
  (ofDays n).year < 10000
  := by
  obtain ⟨-, hdays, -⟩ := yearOfDays_spec n
  simp only [daysBeforeYear] at hdays
  simp only [ofDays]
  omega

/-- The month and the day of a date have two digits at most. -/
theorem Date.Exists.lt {d : Date} (h : d.Exists) :
  d.month < 100 ∧ d.day < 100
  := by
  obtain ⟨-, -, n, hn, hday⟩ := h
  have hlengths : ∀ leap, ∀ n ∈ monthLengths leap, n ≤ 31 := by decide
  have hlength := hlengths _ n (List.mem_of_getElem? hn)
  have hmonth := (List.getElem?_eq_some_iff.mp hn).1
  simp only [monthLengths, List.length_cons, List.length_nil] at hmonth
  omega

namespace Spelling

/-! ### Reading what is written -/

/-- Whether the characters do not go on with a time of day. -/
def Stops (cs : List Char) : Prop :=
  ∀ c ∈ cs.head?, c.isDigit = false ∧ c ≠ '.' ∧ c ≠ ',' ∧ c ≠ ':'

theorem Zone.stops (z : Zone) :
  Stops z.chars
  := by
  cases z with
  | unsaid => simp [Stops, chars]
  | letter c hc =>
    have hletter : c = 'Z' ∨ c = 'z' := by simpa using hc
    rintro _ ⟨⟩
    rcases hletter with rfl | rfl <;> decide
  | offset sign hour minute colon hsign =>
    have hsign' : sign = '+' ∨ sign = '-' ∨ sign = '−' := by simpa using hsign
    rintro _ ⟨⟩
    rcases hsign' with rfl | rfl | rfl <;> decide

variable {cs rest : List Char} {n : Nat}

theorem Stops.takeWhile_append (h : Stops rest) (hcs : ∀ c ∈ cs, c.isDigit = true) :
  (cs ++ rest).takeWhile Char.isDigit = cs ∧ (cs ++ rest).dropWhile Char.isDigit = rest
  := by
  rw [List.takeWhile_append_of_pos hcs, List.dropWhile_append_of_pos hcs]
  cases rest with
  | nil => simp
  | cons c rest =>
    have hc := (h c rfl).1
    simp [hc]

theorem Fraction.readFraction_eq (f : Fraction) (h : Stops rest) :
  Stamp.readFraction (f.digits ++ rest) = some (⌊1000000 * f.value⌋₊, rest)
  := by
  obtain ⟨htake, hdrop⟩ := h.takeWhile_append f.isDigit
  have hne : f.digits.isEmpty = false := by simpa using f.nonempty
  simp only [Stamp.readFraction, htake, hdrop, hne, Bool.false_eq_true, if_false, f.floor_value]

theorem readChar_eq_some_iff {c : Char} :
  Stamp.readChar c cs = some rest ↔ cs = c :: rest
  := by
  cases cs with
  | nil => simp [Stamp.readChar]
  | cons d cs => simp [Stamp.readChar]

/-- Reading a date. -/
theorem readDate_eq_some_iff {d : Date} :
  Stamp.readDate cs = some (d, rest)
    ↔ d.Exists ∧ d.year < 10000 ∧ cs = Instant.dateChars d ++ rest
  := by
  simp only [Stamp.readDate, Option.bind_eq_bind, Option.bind_eq_some_iff, Prod.exists,
    Digits.read_eq_some_iff, readChar_eq_some_iff, Option.ite_none_right_eq_some,
    Option.some.injEq, Prod.mk.injEq, Instant.dateChars]
  constructor
  · rintro ⟨year, _, ⟨hyear, rfl⟩, _, rfl, month, _, ⟨-, rfl⟩, _, rfl, day, _, ⟨-, rfl⟩, hexists,
      rfl, rfl⟩
    exact ⟨hexists, hyear, by simp⟩
  · rintro ⟨hexists, hyear, rfl⟩
    obtain ⟨hmonth, hday⟩ := hexists.lt
    exact ⟨d.year, _, ⟨hyear, by simp⟩, _, rfl, d.month, _, ⟨by omega, rfl⟩, _, rfl, d.day, _,
      ⟨by omega, rfl⟩, hexists, rfl, rfl⟩

/-- Reading seconds, which may be missing. -/
theorem readSeconds_eq (s : Option Seconds) (h : Stops rest) :
  Stamp.readSeconds (s.elim [] Seconds.chars ++ rest)
    = some (s.elim 0 fun s => ⌊s.micros⌋₊, rest)
  := by
  cases s with
  | none =>
    rw [Option.elim_none, Option.elim_none, List.nil_append, Stamp.readSeconds.eq_def]
    split
    · exact absurd rfl (h _ rfl).2.2.2
    · rfl
  | some s =>
    have hlt : s.second < 10 ^ 2 := by have := s.second_le; omega
    simp only [Option.elim_some, Seconds.chars, List.cons_append, List.append_assoc,
      Stamp.readSeconds, Digits.read_write 2 hlt, Option.bind_eq_bind, Option.bind_some,
      s.second_le, if_true, s.floor_micros]
    cases s.fraction with
    | none =>
      cases rest with
      | nil => simp
      | cons c rest =>
        have hc := h c rfl
        simp [hc]
    | some f =>
      have hmark : f.mark = '.' ∨ f.mark = ',' := by simpa using f.mark_mem
      simp [Fraction.chars, hmark, f.readFraction_eq h]

/-- Reading the time of day. -/
theorem Clock.readTime_eq (c : Clock) (h : Stops rest) :
  Stamp.readTime (Digits.write 2 c.hour ++ ':' :: Digits.write 2 c.minute
      ++ c.seconds.elim [] Seconds.chars ++ rest)
    = some (c.timeOfDay, rest)
  := by
  have hhour : c.hour < 10 ^ 2 := by have := c.hour_le; omega
  have hminute : c.minute < 10 ^ 2 := by have := c.minute_le; omega
  simp only [Stamp.readTime, List.append_assoc, List.cons_append, Digits.read_write 2 hhour,
    Digits.read_write 2 hminute, Stamp.readChar, if_true, Option.bind_eq_bind, Option.bind_some,
    readSeconds_eq c.seconds h, c.hour_le, c.minute_le, and_self, c.timeOfDay_eq]

/-- Reading hours and minutes of an offset. -/
theorem readOffset_eq_some_iff {minutes : Int} :
  Stamp.readOffset cs = some minutes ↔ ∃ hour minute : Nat, ∃ colon : Bool,
    hour ≤ 23 ∧ minute ≤ 59 ∧ minutes = hour * 60 + minute
      ∧ cs = Digits.write 2 hour ++ (if colon then [':'] else []) ++ Digits.write 2 minute
  := by
  simp only [Stamp.readOffset, Option.bind_eq_bind, Option.bind_eq_some_iff, Prod.exists,
    Digits.read_eq_some_iff, Option.ite_none_right_eq_some, Option.some.injEq]
  constructor
  · rintro ⟨hour, rest, ⟨-, rfl⟩, minute, rest', ⟨-, hrest⟩, ⟨hhour, hminute, rfl⟩, rfl⟩
    rw [List.append_nil] at hrest
    split at hrest
    · exact ⟨hour, minute, true, hhour, hminute, rfl, by simp [hrest]⟩
    · exact ⟨hour, minute, false, hhour, hminute, rfl, by simp [hrest]⟩
  · rintro ⟨hour, minute, colon, hhour, hminute, rfl, rfl⟩
    refine ⟨hour, _, ⟨by omega, List.append_assoc ..⟩, minute, [], ⟨by omega, ?_⟩,
      ⟨hhour, hminute, rfl⟩, rfl⟩
    rw [List.append_nil]
    cases colon with
    | true => rfl
    | false =>
      -- no digit is a colon
      have hdigit := Digits.isDigit_of_mem_write (k := 2) (n := minute) (c := ':')
      split
      · rename_i heq
        have hmem : ':' ∈ Digits.write 2 minute := by simp_all
        exact absurd (hdigit hmem) (by decide)
      · rfl

/-- Reading an offset behind its sign. -/
theorem readZone_cons {sign : Char} (hsign : sign ∈ ['+', '-', '−']) (cs : List Char) :
  Stamp.readZone (sign :: cs)
    = (Stamp.readOffset cs).map fun minutes => if sign = '+' then minutes else -minutes
  := by
  simp only [List.mem_cons, List.not_mem_nil, or_false] at hsign
  rcases hsign with rfl | rfl | rfl <;> simp [Stamp.readZone]

/-- Reading the mark of an offset. -/
theorem readZone_eq_some_iff {minutes : Int} :
  Stamp.readZone cs = some minutes ↔ ∃ z : Zone, cs = z.chars ∧ minutes = z.minutes
  := by
  constructor
  · intro hread
    have hsigned : ∀ sign ∈ ['+', '-', '−'], ∀ tail, cs = sign :: tail →
        ∃ z : Zone, cs = z.chars ∧ minutes = z.minutes := by
      rintro sign hsign tail rfl
      rw [readZone_cons hsign, Option.map_eq_some_iff] at hread
      obtain ⟨offset, hoffset, rfl⟩ := hread
      obtain ⟨hour, minute, colon, hhour, hminute, rfl, rfl⟩ := readOffset_eq_some_iff.mp hoffset
      exact ⟨.offset sign hour minute colon hsign hhour hminute, by simp [Zone.chars], rfl⟩
    have h := hread
    rw [Stamp.readZone.eq_def] at h
    split at h
    · cases h
      exact ⟨.unsaid, rfl, rfl⟩
    · cases h
      exact ⟨.letter 'Z' (by decide), rfl, rfl⟩
    · cases h
      exact ⟨.letter 'z' (by decide), rfl, rfl⟩
    · exact hsigned '+' (by decide) _ rfl
    · exact hsigned '-' (by decide) _ rfl
    · exact hsigned '−' (by decide) _ rfl
    · cases h
  · rintro ⟨z, rfl, rfl⟩
    cases z with
    | unsaid => rfl
    | letter c hc =>
      have hletter : c = 'Z' ∨ c = 'z' := by simpa using hc
      rcases hletter with rfl | rfl <;> rfl
    | offset sign hour minute colon hsign hhour hminute =>
      have hoffset := readOffset_eq_some_iff.mpr ⟨hour, minute, colon, hhour, hminute, rfl, rfl⟩
      simp only [Zone.chars, Zone.minutes, List.cons_append, readZone_cons hsign, hoffset,
        Option.map_some]

/-! ### What is read was written -/

/-- What is read behind a mark as a fraction is one. -/
theorem exists_of_readFraction {mark : Char} (hmark : mark ∈ ['.', ','])
    (h : Stamp.readFraction cs = some (n, rest)) :
  ∃ f : Fraction, mark :: cs = f.chars ++ rest ∧ n = ⌊1000000 * f.value⌋₊
  := by
  simp only [Stamp.readFraction] at h
  split_ifs at h with hempty
  cases h
  refine ⟨⟨mark, cs.takeWhile Char.isDigit, hmark, by simpa using hempty,
    fun _ => List.mem_takeWhile_imp⟩, ?_, ?_⟩
  · rw [Fraction.chars, List.cons_append, List.takeWhile_append_dropWhile]
  · rw [Fraction.floor_value]

/-- What is read as seconds is that, or there are none. -/
theorem exists_of_readSeconds (h : Stamp.readSeconds cs = some (n, rest)) :
  ∃ s : Option Seconds, cs = s.elim [] Seconds.chars ++ rest ∧ n = s.elim 0 fun s => ⌊s.micros⌋₊
  := by
  rw [Stamp.readSeconds.eq_def] at h
  split at h
  · simp only [Option.bind_eq_bind, Option.bind_eq_some_iff, Prod.exists,
      Digits.read_eq_some_iff] at h
    obtain ⟨second, tail, ⟨-, rfl⟩, h⟩ := h
    split_ifs at h with hsecond
    have hplain : tail = rest → n = second * 1000000 →
        ∃ s : Option Seconds, ':' :: (Digits.write 2 second ++ tail)
          = s.elim [] Seconds.chars ++ rest ∧ n = s.elim 0 fun s => ⌊s.micros⌋₊ := by
      rintro rfl rfl
      refine ⟨some ⟨second, none, hsecond⟩, by simp [Seconds.chars], ?_⟩
      simp [Seconds.floor_micros]
    split at h
    · split_ifs at h with hmark
      · obtain ⟨⟨fraction, tail⟩, hfraction, h⟩ := Option.bind_eq_some_iff.mp h
        cases h
        obtain ⟨f, heq, rfl⟩ := exists_of_readFraction (by simpa using hmark) hfraction
        refine ⟨some ⟨second, some f, hsecond⟩, by simp [Seconds.chars, heq], ?_⟩
        simp [Seconds.floor_micros]
      · cases h
        apply hplain rfl rfl
    · cases h
      apply hplain rfl rfl
  · cases h
    exact ⟨none, rfl, rfl⟩

/-- What is read as a time of day is one. -/
theorem exists_of_readTime (h : Stamp.readTime cs = some (n, rest)) :
  ∃ hour minute, ∃ s : Option Seconds, hour ≤ 23 ∧ minute ≤ 59
    ∧ cs = Digits.write 2 hour ++ ':' :: Digits.write 2 minute ++ s.elim [] Seconds.chars ++ rest
    ∧ n = hour * 3600000000 + minute * 60000000 + s.elim 0 fun s => ⌊s.micros⌋₊
  := by
  simp only [Stamp.readTime, Option.bind_eq_bind, Option.bind_eq_some_iff, Prod.exists,
    Digits.read_eq_some_iff, Option.ite_none_right_eq_some, Option.some.injEq, Prod.mk.injEq,
    readChar_eq_some_iff] at h
  obtain ⟨hour, _, ⟨-, rfl⟩, _, rfl, minute, _, ⟨-, rfl⟩, micros, _, hseconds, ⟨hhour, hminute⟩,
    rfl, rfl⟩ := h
  obtain ⟨s, rfl, rfl⟩ := exists_of_readSeconds hseconds
  exact ⟨hour, minute, s, hhour, hminute, by simp, rfl⟩

/-! ### Dates with times -/

/-- Reading a spelling. -/
theorem read?_chars (w : Spelling) :
  Stamp.read? w.chars = some w.stamp
  := by
  have hdate : ∀ rest, Stamp.readDate (Instant.dateChars w.date ++ rest) = some (w.date, rest) :=
    fun _ => readDate_eq_some_iff.mpr ⟨w.date_exists, w.year_lt, rfl⟩
  cases h : w.clock with
  | none =>
    have hread := hdate []
    rw [List.append_nil] at hread
    simp [Stamp.read?, chars, stamp, h, hread]
  | some c =>
    have hseparator : Stamp.isSeparator c.separator = true := by
      simpa [Stamp.isSeparator, or_assoc] using c.separator_mem
    have htime := c.readTime_eq c.zone.stops
    have hzone := readZone_eq_some_iff.mpr ⟨c.zone, rfl, rfl⟩
    simp only [List.append_assoc, List.cons_append] at htime
    simp [Stamp.read?, chars, Clock.chars, stamp, h, hdate, hseparator, htime, hzone]

/-- What is read as a date of the year 1 or later, with a time of day or without, is spelt. -/
theorem exists_of_read? {stamp : Stamp} (h : Stamp.read? cs = some stamp)
    (hyear : stamp.date.year ≠ 0) :
  ∃ w : Spelling, cs = w.chars ∧ stamp = w.stamp
  := by
  simp only [Stamp.read?, Option.bind_eq_bind, Option.bind_eq_some_iff, Prod.exists,
    readDate_eq_some_iff] at h
  obtain ⟨d, tail, ⟨hexists, hlt, rfl⟩, h⟩ := h
  split at h
  · cases h
    exact ⟨⟨d, none, hexists, Nat.pos_of_ne_zero hyear, hlt⟩, rfl, rfl⟩
  · rename_i separator tail
    split_ifs at h with hseparator
    simp only [Option.bind_eq_some_iff, Prod.exists, readZone_eq_some_iff, Option.some.injEq] at h
    obtain ⟨_, _, htime, _, ⟨z, rfl, rfl⟩, rfl⟩ := h
    obtain ⟨hour, minute, seconds, hhour, hminute, rfl, rfl⟩ := exists_of_readTime htime
    have hmem : separator ∈ ['T', 't', '_', ' '] := by
      simpa [Stamp.isSeparator, or_assoc] using hseparator
    let c : Clock := ⟨separator, hour, minute, seconds, z, hmem, hhour, hminute⟩
    refine ⟨⟨d, some c, hexists, Nat.pos_of_ne_zero hyear, hlt⟩, rfl, ?_⟩
    simp [stamp, c, Clock.timeOfDay_eq]

/-- Whether the moment lies in the years 1 to 9999 of Coordinated Universal Time, which have 3652059
days. -/
def InCalendar (w : Spelling) : Prop :=
  0 ≤ w.moment ∧ w.moment < 3652059 * Instant.dayLength

end Spelling

namespace Instant

variable {s : String} {i : Instant} {n : Int}

theorem ofInt?_eq_some_iff :
  ofInt? n = some i ↔ n = i.micros
  := ⟨fun h => (micros_of_ofInt? h).symm, fun h => h ▸ ofInt?_micros i⟩

theorem ofInt?_eq_none_iff :
  ofInt? n = none ↔ ¬ (0 ≤ n ∧ n < 3652059 * dayLength)
  := by
  simp only [ofInt?, dayLength]
  split_ifs with h
  · simp only [false_iff, not_not]
    omega
  · simp only [true_iff]
    omega

/-- A spelling is read as the microsecond in which its moment lies, if this is one of the years 1
to 9999. -/
theorem read_text (w : Spelling) :
  read w.text = (ofInt? ⌊w.moment⌋).elim (.error .outOfRange) .ok
  := by
  have hyear : w.stamp.date.year ≠ 0 := Nat.pos_iff_ne_zero.mp w.year_pos
  rw [read, Spelling.text, String.toList_ofList, w.read?_chars]
  simp only [hyear, if_false, Stamp.instant?, w.point_stamp]
  cases ofInt? ⌊w.moment⌋ <;> rfl

theorem read_text_eq_ok_iff (w : Spelling) :
  read w.text = .ok i ↔ ⌊w.moment⌋ = i.micros
  := by
  rw [read_text, ← ofInt?_eq_some_iff]
  cases ofInt? ⌊w.moment⌋ <;> simp

theorem read_text_eq_outOfRange_iff (w : Spelling) :
  read w.text = .error .outOfRange ↔ ¬ w.InCalendar
  := by
  have hnone : ofInt? ⌊w.moment⌋ = none ↔ ¬ w.InCalendar := by
    rw [ofInt?_eq_none_iff, Int.floor_nonneg, Int.floor_lt, Spelling.InCalendar]
    norm_num
  rw [read_text, ← hnone]
  cases ofInt? ⌊w.moment⌋ <;> simp

/-- A number that counts from 1970 does not lead out of the years 1 to 9999 by an offset. -/
theorem ofMicros_cases (n : Int) :
  (∃ i : Instant, n = i.micros ∧ ofMicros n = .ok i)
    ∨ ofMicros n = .error .noSuchYear ∨ ofMicros n = .error .malformed
  := by
  rw [ofMicros]
  cases h : ofInt? n with
  | some i =>
    left
    exact ⟨i, ofInt?_eq_some_iff.mp h, rfl⟩
  | none =>
    right
    simp only
    split_ifs <;> simp

/-- A text that is no spelling is read as a number that counts from 1970, or not at all. -/
theorem read_of_forall_ne (h : ∀ w : Spelling, s ≠ w.text) :
  read s ≠ .error .outOfRange
    ∧ (read s = .ok i → countedMicros? s.toList = some (i.micros : Int))
  := by
  rw [read]
  cases hread : Stamp.read? s.toList with
  | none =>
    cases hcounted : countedMicros? s.toList with
    | none => simp
    | some n =>
      rcases ofMicros_cases n with ⟨j, rfl, hok⟩ | herror | herror <;> simp_all
  | some stamp =>
    have hyear : stamp.date.year = 0 := by
      by_contra hyear
      obtain ⟨w, hchars, -⟩ := Spelling.exists_of_read? hread hyear
      apply h w
      rw [Spelling.text, ← hchars, String.ofList_toList]
    simp [hyear]

/-- What is read as an instant is a spelling of a moment in that microsecond, or no spelling, but a
number that counts to the instant. -/
theorem spelling_of_read (h : read s = .ok i) :
  (∃ w : Spelling, s = w.text ∧ ⌊w.moment⌋ = i.micros)
    ∨ (∀ w : Spelling, s ≠ w.text) ∧ countedMicros? s.toList = some (i.micros : Int)
  := by
  by_cases hspelt : ∃ w : Spelling, s = w.text
  · obtain ⟨w, rfl⟩ := hspelt
    left
    exact ⟨w, rfl, (read_text_eq_ok_iff w).mp h⟩
  · rw [not_exists] at hspelt
    right
    exact ⟨hspelt, (read_of_forall_ne hspelt).2 h⟩

/-- What leads out of the years 1 to 9999 is a spelling of a moment there. -/
theorem read_eq_outOfRange_iff :
  read s = .error .outOfRange ↔ ∃ w : Spelling, s = w.text ∧ ¬ w.InCalendar
  := by
  constructor
  · intro h
    by_cases hspelt : ∃ w : Spelling, s = w.text
    · obtain ⟨w, rfl⟩ := hspelt
      exact ⟨w, rfl, (read_text_eq_outOfRange_iff w).mp h⟩
    · rw [not_exists] at hspelt
      exact absurd h (read_of_forall_ne (i := default) hspelt).1
  · rintro ⟨w, rfl, hfar⟩
    apply (read_text_eq_outOfRange_iff w).mpr hfar

/-! ### Written instants -/

variable (i : Instant)

theorem year_date_lt :
  i.date.year < 10000
  := by
  have hmicros := i.micros_lt
  apply Date.year_ofDays_lt
  simp only [dayLength]
  omega

/-- The microseconds of a second, which are written only if they are not zero. -/
def writtenFraction (micros : Nat) : Option Spelling.Fraction :=
  if micros = 0 then none
  else
    some
      { mark := '.'
        digits := Digits.write 6 micros
        nonempty := List.ne_nil_of_length_pos (by rw [Digits.length_write]; decide)
        isDigit := fun _ => Digits.isDigit_of_mem_write }

/-- The spelling of an instant, with a mark of the offset. -/
def spelling (zone : Spelling.Zone) : Spelling where
  date := i.date
  clock := some
    { separator := 'T'
      hour := i.timeOfDay / 3600000000
      minute := i.timeOfDay / 60000000 % 60
      seconds := some
        { second := i.timeOfDay / 1000000 % 60
          fraction := writtenFraction (i.timeOfDay % 1000000)
          second_le := by omega }
      zone := zone
      hour_le := by
        have htime : i.timeOfDay < dayLength := Nat.mod_lt _ (by decide)
        simp only [dayLength] at htime
        omega
      minute_le := by omega }
  date_exists := Date.exists_ofDays _
  year_pos := (Date.yearOfDays_spec _).1
  year_lt := i.year_date_lt

theorem chars_spelling (zone : Spelling.Zone) :
  (i.spelling zone).chars = i.chars ++ zone.chars
  := by
  simp only [Spelling.chars, spelling, Option.elim_some, Spelling.Clock.chars,
    Spelling.Seconds.chars, writtenFraction, chars, timeChars]
  split <;> simp [Spelling.Fraction.chars]

theorem value_writtenFraction {micros : Nat} (h : micros < 1000000) :
  (writtenFraction micros).elim 0 Spelling.Fraction.value = (micros : ℚ) / 1000000
  := by
  have hpow : Nat.pow 10 6 = 1000000 := rfl
  rw [writtenFraction]
  split_ifs with hzero
  · simp [hzero]
  · simp only [Option.elim_some, Spelling.Fraction.value, Digits.length_write,
      Digits.valueFrom_write 6 0 h, Nat.zero_mul, Nat.zero_add]
    norm_num

theorem micros_clock (zone : Spelling.Zone) :
  (i.spelling zone).clock.elim 0 Spelling.Clock.micros = i.timeOfDay
  := by
  have hparts : 3600000000 * (i.timeOfDay / 3600000000) + 60000000 * (i.timeOfDay / 60000000 % 60)
      + 1000000 * (i.timeOfDay / 1000000 % 60) + i.timeOfDay % 1000000 = i.timeOfDay := by
    have htime : i.timeOfDay < dayLength := Nat.mod_lt _ (by decide)
    simp only [dayLength] at htime
    omega
  have hfraction := value_writtenFraction (Nat.mod_lt i.timeOfDay (by decide : 0 < 1000000))
  simp only [spelling, Option.elim_some, Spelling.Clock.micros, Spelling.Seconds.micros, hfraction]
  conv_rhs => rw [← hparts]
  push_cast
  ring

/-- The spelling of an instant with a mark of no offset stands for the instant. -/
theorem moment_spelling {zone : Spelling.Zone} (h : zone.minutes = 0) :
  (i.spelling zone).moment = i.micros
  := by
  have hdays : i.date.toDays * dayLength + i.timeOfDay = i.micros := by
    rw [date, timeOfDay, Date.toDays_ofDays]
    apply Nat.div_add_mod'
  have hclock := i.micros_clock zone
  simp only [spelling, Option.elim_some] at hclock
  simp only [Spelling.moment, spelling, Option.elim_some, h, hclock]
  rw [← hdays]
  push_cast
  ring

/-- No instant is lost where it is written with a mark of no offset. -/
theorem read_chars (zone : Spelling.Zone) (h : zone.minutes = 0) :
  read (String.ofList (i.chars ++ zone.chars)) = .ok i
  := by
  rw [← i.chars_spelling, ← Spelling.text, read_text_eq_ok_iff, i.moment_spelling h,
    Int.floor_natCast]

/-- No instant is lost in answers. -/
theorem read_toText :
  read i.toText = .ok i
  := i.read_chars (.letter 'Z' (by decide)) rfl

/-- No instant is lost in the audit trail. -/
theorem read_toAuditText :
  read i.toAuditText = .ok i
  := i.read_chars (.offset '+' 0 0 true (by decide) (by decide) (by decide)) rfl

end Instant

end Workshop
