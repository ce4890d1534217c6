import Workshop.Instant
import Workshop.Numeral
import Workshop.Text.Digits

/-!
# Reading instants

A `Stamp` is what a date-time text says: a date, a time of day and an offset from UTC, and
`Stamp.read?` reads it.  `Instant.read` accepts a stamp, a plain date, or a number that counts from
the beginning of 1970, and otherwise says why the text denotes no instant.  A stamp may lie outside
the years 1 to 9999 of UTC; `Stamp.point` is its place on the line of time all the same.
-/

namespace Workshop

open Text

/-- A date, a time of day in microseconds, and the offset from UTC in minutes. -/
structure Stamp where
  date : Date
  timeOfDay : Nat
  offset : Int
deriving DecidableEq, Repr

namespace Stamp

/-- The microseconds from the beginning of year 1 to the moment at which clocks with this offset
show this date and time. -/
def point (s : Stamp) : Int :=
  s.date.toDays * Instant.dayLength + s.timeOfDay - s.offset * 60000000

/-- The instant at which clocks with this offset show this date and time, if it lies in the years
1 to 9999 of UTC. -/
def instant? (s : Stamp) : Option Instant :=
  Instant.ofInt? s.point

/-- The instant at which clocks of UTC show this date and time, whatever the offset is. -/
def face? (s : Stamp) : Option Instant :=
  { s with offset := 0 }.instant?

/-- Reads the character `c`. -/
def readChar (c : Char) : List Char → Option (List Char)
  | [] => none
  | d :: cs => if d = c then some cs else none

/-- Reads a date that exists, the year 0 included. -/
def readDate (cs : List Char) : Option (Date × List Char) := do
  let (year, cs) ← Digits.read 4 cs
  let cs ← readChar '-' cs
  let (month, cs) ← Digits.read 2 cs
  let cs ← readChar '-' cs
  let (day, cs) ← Digits.read 2 cs
  if Date.Exists ⟨year, month, day⟩ then some (⟨year, month, day⟩, cs) else none

/-- Reads the digits of a fraction of a second, at least one, and cuts it to microseconds. -/
def readFraction (cs : List Char) : Option (Nat × List Char) :=
  let digits := cs.takeWhile Char.isDigit
  if digits.isEmpty then none
  else
    let six := (digits ++ List.replicate 6 '0').take 6
    some (Digits.valueFrom 0 six, cs.dropWhile Char.isDigit)

/-- Reads seconds behind a colon, and a fraction behind a point or a comma, if they are there. -/
def readSeconds : List Char → Option (Nat × List Char)
  | ':' :: cs => do
    let (second, cs) ← Digits.read 2 cs
    if second ≤ 59 then
      match cs with
      | c :: rest =>
        if c = '.' ∨ c = ',' then do
          let (fraction, rest) ← readFraction rest
          some (second * 1000000 + fraction, rest)
        else some (second * 1000000, c :: rest)
      | [] => some (second * 1000000, [])
    else none
  | cs => some (0, cs)

/-- Reads a time of day. -/
def readTime (cs : List Char) : Option (Nat × List Char) := do
  let (hour, cs) ← Digits.read 2 cs
  let cs ← readChar ':' cs
  let (minute, cs) ← Digits.read 2 cs
  let (rest, cs) ← readSeconds cs
  if hour ≤ 23 ∧ minute ≤ 59 then some (hour * 3600000000 + minute * 60000000 + rest, cs) else none

/-- Reads the hours and the minutes of an offset, with or without a colon between them, up to the
end of the text. -/
def readOffset (cs : List Char) : Option Int := do
  let (hour, cs) ← Digits.read 2 cs
  let cs := match cs with
    | ':' :: rest => rest
    | _ => cs
  let (minute, cs) ← Digits.read 2 cs
  if hour ≤ 23 ∧ minute ≤ 59 ∧ cs = [] then some (hour * 60 + minute) else none

/-- Reads the end of a stamp: nothing or the letter `Z`, which both stand for UTC, or an offset
behind a plus, a hyphen or the minus sign U+2212. -/
def readZone : List Char → Option Int
  | [] => some 0
  | ['Z'] => some 0
  | ['z'] => some 0
  | '+' :: cs => readOffset cs
  | '-' :: cs => (readOffset cs).map (-·)
  | '−' :: cs => (readOffset cs).map (-·)
  | _ => none

/-- Whether the character may stand between the date and the time. -/
def isSeparator (c : Char) : Bool :=
  c == 'T' || c == 't' || c == '_' || c == ' '

/-- Reads a date, or a date and a time of day with an offset. -/
def read? (cs : List Char) : Option Stamp := do
  let (date, cs) ← readDate cs
  match cs with
  | [] => some ⟨date, 0, 0⟩
  | c :: cs =>
    if isSeparator c then do
      let (time, cs) ← readTime cs
      let offset ← readZone cs
      some ⟨date, time, offset⟩
    else none

end Stamp

namespace Instant

/-- Why a value denotes no instant. -/
inductive Defect where
  /-- The text is neither a date, nor a date with a time, nor a number that counts to an
  instant. -/
  | malformed
  /-- The year is 0, or a number leads outside the years 1 to 9999. -/
  | noSuchYear
  /-- The conversion to UTC leads outside the years 1 to 9999. -/
  | outOfRange
deriving DecidableEq, Repr

/-- The microseconds from the beginning of year 0 to that of year 1. -/
abbrev yearZeroLength : Nat :=
  366 * dayLength

/-- The instant that lies `n` microseconds after the beginning of year 1. -/
def ofMicros (n : Int) : Except Defect Instant :=
  match ofInt? n with
  | some i => .ok i
  | none => .error (if -(yearZeroLength : Int) ≤ n ∧ n < 0 then .noSuchYear else .malformed)

/-- The microseconds since the beginning of year 1 to which a written number counts: an integer, or
a number with a decimal point. -/
def countedMicros? (cs : List Char) : Option Int := do
  let n ← Numeral.read? cs
  if n.isWhole then some (microsOfInt n.toInt)
  else if n.places.isSome then n.double?.map microsOfFloat
  else none

/-- Reads an instant from a text. -/
def read (s : String) : Except Defect Instant :=
  match Stamp.read? s.toList with
  | some stamp =>
    if stamp.date.year = 0 then .error .noSuchYear
    else
      match stamp.instant? with
      | some i => .ok i
      | none => .error .outOfRange
  | none =>
    match countedMicros? s.toList with
    | some n => ofMicros n
    | none => .error .malformed

/-- Reads an instant from an integer. -/
def ofCount (n : Int) : Except Defect Instant :=
  (ofMicros (microsOfInt n)).mapError fun _ => .noSuchYear

/-- Reads an instant from a number of double precision. -/
def ofFloat (x : Rat) : Except Defect Instant :=
  (ofMicros (microsOfFloat x)).mapError fun _ => .noSuchYear

end Instant

end Workshop
