import Workshop.Instant
import Workshop.Text.Digits

/-!
# Writing instants

`Instant.text` writes the date, the letter `T`, the time of day to the second, and six digits of
microseconds unless they are zero.  Answers add the letter `Z` to it and the audit trail adds the
offset `+00:00`.
-/

namespace Workshop.Instant

open Text

/-- The date on which the instant falls. -/
def date (i : Instant) : Date :=
  Date.ofDays (i.micros / dayLength)

/-- The microseconds since the beginning of the day. -/
def timeOfDay (i : Instant) : Nat :=
  i.micros % dayLength

/-- A date as year, month and day, of four, two and two digits. -/
def dateChars (d : Date) : List Char :=
  Digits.write 4 d.year ++ '-' :: Digits.write 2 d.month ++ '-' :: Digits.write 2 d.day

/-- A time of day in microseconds as hours, minutes and seconds of two digits each, and the
microseconds of the second unless they are zero. -/
def timeChars (t : Nat) : List Char :=
  Digits.write 2 (t / 3600000000) ++ ':' :: Digits.write 2 (t / 60000000 % 60)
    ++ ':' :: Digits.write 2 (t / 1000000 % 60)
    ++ (if t % 1000000 = 0 then [] else '.' :: Digits.write 6 (t % 1000000))

/-- The characters of an instant without any mark of the offset. -/
def chars (i : Instant) : List Char :=
  dateChars i.date ++ 'T' :: timeChars i.timeOfDay

/-- The text of an instant in answers. -/
def toText (i : Instant) : String :=
  String.ofList (i.chars ++ ['Z'])

/-- The text of an instant in the audit trail. -/
def toAuditText (i : Instant) : String :=
  String.ofList (i.chars ++ ['+', '0', '0', ':', '0', '0'])

end Workshop.Instant
