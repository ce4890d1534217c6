import Workshop.Text.Charset.Page

/-!
# Punycode

A text whose characters of ASCII come first, up to the last dash.  Distances behind them tell where
the other characters stand: all places for one character come before those for the next one, and a
distance says how many of them are left free.  Main statement: a text of ASCII and a dash is read as
the text.
-/

namespace Workshop.Text.Charset

namespace Punycode

/-- The value of a digit. -/
def digit? (b : UInt8) : Option Nat :=
  let n := b.toNat
  if 0x41 ≤ n ∧ n ≤ 0x5A then some (n - 0x41)
  else if 0x61 ≤ n ∧ n ≤ 0x7A then some (n - 0x61)
  else if 0x30 ≤ n ∧ n ≤ 0x39 then some (n - 0x30 + 26)
  else none

/-- The least value of a digit behind which the number goes on, for the digit in place `i`. -/
def threshold (bias i : Nat) : Nat :=
  min 26 (max 1 (36 * (i + 1) - bias))

/-- The bias that a distance of such a size suggests. -/
def settle (delta : Nat) : Nat :=
  if 455 < delta then settle (delta / 35) + 36 else 36 * delta / (delta + 38)
termination_by delta

/-- The bias behind a distance, given how many characters there are with the new one. -/
def adapt (isFirst : Bool) (delta count : Nat) : Nat :=
  let delta := if isFirst then delta / 700 else delta / 2
  settle (delta + delta / count)

/-- What has been read. -/
structure Progress where
  /-- The numbers of the characters. -/
  chars : List Nat
  /-- The number of the last character that was put in, and the place behind it. -/
  number : Nat := 0x80
  place : Nat := 0
  bias : Nat := 72
  isFirst : Bool := true
deriving DecidableEq, Repr, Inhabited

/-- Puts in the character at a distance, if there is one with such a number. -/
def Progress.insert? (p : Progress) (delta : Nat) : Option Progress :=
  let count := p.chars.length + 1
  let number := p.number + (p.place + delta) / count
  let place := (p.place + delta) % count
  if number < 0x110000 then
    some
      { chars := p.chars.take place ++ number :: p.chars.drop place
        number
        place := place + 1
        bias := adapt p.isFirst delta count
        isFirst := false }
  else none

/-- The digits of a distance up to now. -/
structure Digits where
  count : Nat := 0
  value : Nat := 0
  /-- What the next digit is worth. -/
  weight : Nat := 1
deriving DecidableEq, Repr, Inhabited

/-- Reads distances behind what has been read. -/
def readFrom? (p : Progress) (d : Digits) : List UInt8 → Option (List Nat)
  | [] => if d.count = 0 then some p.chars else none
  | b :: bytes => do
    let digit ← digit? b
    let least := threshold p.bias d.count
    let value := d.value + digit * d.weight
    if digit < least then readFrom? (← p.insert? value) {} bytes
    else readFrom? p ⟨d.count + 1, value, d.weight * (36 - least)⟩ bytes

/-- The bytes before the last dash, if there is one, and those behind it. -/
def split (bytes : List UInt8) : Option (List UInt8) × List UInt8 :=
  let behind := (bytes.reverse.takeWhile (· ≠ 0x2D)).reverse
  if behind.length < bytes.length then
    (some (bytes.take (bytes.length - behind.length - 1)), behind)
  else (none, behind)

/-- Reads bytes.  They must belong to ASCII, and the numbers must be those of characters. -/
def decode (bytes : List UInt8) : Except Misreading (List Nat) :=
  if bytes.any (0x80 ≤ ·) then .error .unreadable
  else
    let (before?, behind) := split bytes
    match readFrom? ⟨(before?.getD []).map UInt8.toNat, 0x80, 0, 72, true⟩ {} behind with
    | some ns => .ok ns
    | none => .error .refused

/-- The characters of ASCII may be the only ones. -/
theorem decode_append_dash {bytes : List UInt8} (h : ∀ b ∈ bytes, b < 0x80) :
  decode (bytes ++ [0x2D]) = .ok (bytes.map UInt8.toNat)
  := by
  have hn : (bytes ++ [0x2D]).any (0x80 ≤ ·) = false := by
    simp only [List.any_append, Bool.or_eq_false_iff, List.any_eq_false]
    exact ⟨fun b hb => by simpa using h b hb, by simp⟩
  have hs : split (bytes ++ [0x2D]) = (some bytes, []) := by simp [split]
  rw [decode, hn, hs]
  rfl

end Punycode

end Workshop.Text.Charset
