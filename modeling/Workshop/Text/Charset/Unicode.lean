import Workshop.Text.Utf8
import Workshop.Text.Wide

/-!
# Units of Unicode

Texts of Unicode are written in units of one, two or four bytes.  A mark in front of the text may
say in which order the bytes of a unit stand.
-/

namespace Workshop.Text.Charset

namespace Unicode

/-- Reads units of one byte. -/
def utf8? (bytes : List UInt8) : Option (List Nat) :=
  (Utf8.decode? bytes).map fun s => s.toList.map Char.toNat

/-- Reads units of one byte, perhaps behind a mark. -/
def utf8Marked? : List UInt8 → Option (List Nat)
  | 0xEF :: 0xBB :: 0xBF :: bytes => utf8? bytes
  | bytes => utf8? bytes

/-- Reads units of two bytes. -/
def utf16? (bigEndian : Bool) (bytes : List UInt8) : Option (List Nat) :=
  (Wide.pairs? bigEndian bytes).bind Wide.points?

/-- Reads units of two bytes, perhaps behind a mark. -/
def utf16Marked? : List UInt8 → Option (List Nat)
  | 0xFE :: 0xFF :: bytes => utf16? true bytes
  | 0xFF :: 0xFE :: bytes => utf16? false bytes
  | bytes => utf16? false bytes

/-- Reads units of four bytes. -/
def utf32? (bigEndian : Bool) (bytes : List UInt8) : Option (List Nat) :=
  (Wide.quadruples? bigEndian bytes).filter fun ns =>
    ns.all fun n => n < 0x110000 && !Wide.isHalf n

/-- Reads units of four bytes, perhaps behind a mark. -/
def utf32Marked? : List UInt8 → Option (List Nat)
  | 0x00 :: 0x00 :: 0xFE :: 0xFF :: bytes => utf32? true bytes
  | 0xFF :: 0xFE :: 0x00 :: 0x00 :: bytes => utf32? false bytes
  | bytes => utf32? false bytes

end Unicode

end Workshop.Text.Charset
