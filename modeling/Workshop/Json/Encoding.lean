import Workshop.Json.Reader
import Workshop.Text.Percent
import Workshop.Text.Wide

/-!
# Structured values in bytes

`Json.ofBytes` reads a structured value from bytes.  The characters are written in units of one, two
or four bytes; which ones, a mark at the beginning says, or the zeros among the first bytes where
there is no mark.  The halves of a pair may be written as if they were characters.
-/

namespace Workshop.Json

/-- How the characters of a text are written in bytes. -/
inductive Encoding where
  | utf8
  | utf16 (bigEndian : Bool)
  | utf32 (bigEndian : Bool)
deriving DecidableEq, Repr, Inhabited

namespace Encoding

/-- The encoding that a mark at the beginning says, and the bytes behind it. -/
def marked? : List UInt8 → Option (Encoding × List UInt8)
  | 0x00 :: 0x00 :: 0xFE :: 0xFF :: bytes => some (utf32 true, bytes)
  | 0xFF :: 0xFE :: 0x00 :: 0x00 :: bytes => some (utf32 false, bytes)
  | 0xFE :: 0xFF :: bytes => some (utf16 true, bytes)
  | 0xFF :: 0xFE :: bytes => some (utf16 false, bytes)
  | 0xEF :: 0xBB :: 0xBF :: bytes => some (utf8, bytes)
  | _ => none

/-- The encoding of bytes without a mark, of which the first two characters belong to ASCII. -/
def guess : List UInt8 → Encoding
  | [a, b] => if a = 0 then utf16 true else if b = 0 then utf16 false else utf8
  | a :: b :: c :: d :: _ =>
    if a = 0 then if b = 0 then utf32 true else utf16 true
    else if b = 0 then if c = 0 ∧ d = 0 then utf32 false else utf16 false
    else utf8
  | _ => utf8

/-- The bytes of the character with a number.  Half of a pair has bytes like any other. -/
def bytesOf (n : Nat) : List UInt8 :=
  if 0xD800 ≤ n ∧ n < 0xE000 then
    [0xED, UInt8.ofNat (0x80 + n / 0x40 % 0x40), UInt8.ofNat (0x80 + n % 0x40)]
  else String.utf8EncodeChar (Char.ofNat n)

/-- The bytes in units of one byte, if there are characters that they stand for. -/
def narrow? (bytes : List UInt8) : Encoding → Option (List UInt8)
  | utf8 => some bytes
  | utf16 bigEndian => (Text.Wide.pairs? bigEndian bytes).map fun ns => ns.flatMap bytesOf
  | utf32 bigEndian =>
    ((Text.Wide.quadruples? bigEndian bytes).filter fun ns => ns.all (· < 0x110000)).map fun ns =>
      ns.flatMap bytesOf

/-- The bytes with each half of a pair spelled by a backslash and its number.  One behind a
backslash cannot be spelled, and is replaced. -/
def spellHalves (isEscaped : Bool) : List UInt8 → List UInt8
  | 0xED :: b :: c :: bytes =>
    if 0xA0 ≤ b ∧ b < 0xC0 ∧ 0x80 ≤ c ∧ c < 0xC0 then
      let n := 0xD000 + (b.toNat - 0x80) * 0x40 + (c.toNat - 0x80)
      let digits := [n / 0x1000, n / 0x100 % 16, n / 0x10 % 16, n % 16].map Text.Percent.hexDigit
      let spelled := if isEscaped then ['\ufffd'] else '\\' :: 'u' :: digits
      spelled.flatMap String.utf8EncodeChar ++ spellHalves false bytes
    else 0xED :: spellHalves false (b :: c :: bytes)
  | b :: bytes => b :: spellHalves (b = 0x5C && !isEscaped) bytes
  | [] => []

/-- The characters that the bytes are those of, if there are any such. -/
def decode? (bytes : List UInt8) (e : Encoding) : Option (List Char) :=
  (e.narrow? bytes).bind fun bytes =>
    (Text.Utf8.decode? (spellHalves false bytes)).map String.toList

end Encoding

/-- Reads a structured value from bytes. -/
def ofBytes (bytes : List UInt8) : Except Misreading Json :=
  let (encoding, bytes) := (Encoding.marked? bytes).getD (Encoding.guess bytes, bytes)
  match encoding.decode? bytes with
  | some cs => read cs
  | none => .error .notText

end Workshop.Json
