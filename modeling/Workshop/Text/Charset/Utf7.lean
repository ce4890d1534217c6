import Workshop.Text.Wide

/-!
# UTF-7

A text of ASCII in which a plus sign begins a block of digits of six bits.  The bits are those of
units of two bytes, and a byte that is no digit ends the block; a dash that ends it is left out.
-/

namespace Workshop.Text.Charset

namespace Utf7

/-- The value of a digit of six bits. -/
def digit? (b : UInt8) : Option Nat :=
  let n := b.toNat
  if 0x41 ≤ n ∧ n ≤ 0x5A then some (n - 0x41)
  else if 0x61 ≤ n ∧ n ≤ 0x7A then some (n - 0x61 + 26)
  else if 0x30 ≤ n ∧ n ≤ 0x39 then some (n - 0x30 + 52)
  else if n = 0x2B then some 62
  else if n = 0x2F then some 63
  else none

/-- What has been read of a block of digits. -/
structure Block where
  /-- How many bits are left for the next unit, and the number that they denote. -/
  bits : Nat := 0
  number : Nat := 0
  /-- The first half of a pair whose second half is to come. -/
  half? : Option Nat := none
deriving DecidableEq, Repr, Inhabited

/-- Two to the power of `n`. -/
def power : Nat → Nat
  | 0 => 1
  | n + 1 => 2 * power n

/-- The numbers that are complete with a unit, and the first half of a pair that is begun. -/
def Block.unit (half? : Option Nat) (n : Nat) : List Nat × Option Nat :=
  let begun := if 0xD800 ≤ n ∧ n < 0xDC00 then ([], some n) else ([n], none)
  match half? with
  | none => begun
  | some m =>
    if 0xDC00 ≤ n ∧ n < 0xE000 then
      ([0x10000 + (m - 0xD800) * 0x400 + (n - 0xDC00)], none)
    else (m :: begun.1, begun.2)

/-- The block with a digit more, and the numbers that are complete with it. -/
def Block.push (k : Block) (digit : Nat) : List Nat × Block :=
  let bits := k.bits + 6
  let number := k.number * 64 + digit
  if 16 ≤ bits then
    let (ns, half?) := Block.unit k.half? (number / power (bits - 16))
    (ns, ⟨bits - 16, number % power (bits - 16), half?⟩)
  else ([], ⟨bits, number, k.half?⟩)

/-- Whether a block may end: no digit is begun, and the bits that are left are zeros. -/
def Block.isComplete (k : Block) : Bool :=
  k.bits < 6 && k.number = 0

/-- Reads bytes, in a block or outside. -/
def decode? : Option Block → List UInt8 → Option (List Nat)
  | none, [] => some []
  | some k, [] => if k.isComplete && k.half?.isNone then some [] else none
  | none, [0x2B] => decode? (some {}) []
  | none, 0x2B :: b :: bytes =>
    if b = 0x2D then (decode? none bytes).map (0x2B :: ·)
    else
      match digit? b with
      | some digit =>
        let (ns, k) := Block.push {} digit
        (decode? (some k) bytes).map (ns ++ ·)
      | none => none
  | none, b :: bytes =>
    if b.toNat < 0x80 then (decode? none bytes).map (b.toNat :: ·) else none
  | some k, b :: bytes =>
    match digit? b with
    | some digit =>
      let (ns, k) := k.push digit
      (decode? (some k) bytes).map (ns ++ ·)
    | none =>
      if k.isComplete && b.toNat < 0x80 then
        let ends := k.half?.toList ++ if b = 0x2D then [] else [b.toNat]
        (decode? none bytes).map (ends ++ ·)
      else none

end Utf7

end Workshop.Text.Charset
