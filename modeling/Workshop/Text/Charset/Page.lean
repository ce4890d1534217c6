/-!
# Code pages

A code page gives each byte a character of its own, or none.  `Page.decode?` reads bytes by a code
page.  Main statement: a text has as many characters as bytes.

Bytes need not be written in the character set that they are read by.  A `Misreading` is the reason
for which they give no text.
-/

namespace Workshop.Text.Charset

/-! ### Misreadings -/

/-- Why bytes give no text. -/
inductive Misreading where
  /-- There is no such character set, or the bytes are not written in it. -/
  | unreadable
  /-- The bytes are written in the character set, but what they say is out of place. -/
  | refused
deriving DecidableEq, Repr, Inhabited

/-- What is read, or that there is nothing to be read. -/
def Misreading.ofOption {α : Type} : Option α → Except Misreading α
  | some a => .ok a
  | none => .error unreadable

/-! ### Code pages -/

/-- The character that stands in tables where there is none. -/
def hole : Char :=
  '\ufffd'

/-- A code page.  The characters of the table belong to the bytes from the first one on; every other
byte stands for the character with its number. -/
structure Page where
  name : String
  /-- The other names of the code page. -/
  aliases : List String := []
  first : Nat := 0x80
  table : String
deriving DecidableEq, Repr, Inhabited

namespace Page

/-- The character that a byte stands for. -/
def char? (p : Page) (b : UInt8) : Option Char :=
  let n := b.toNat
  if n < p.first then some (Char.ofNat n)
  else (some ((p.table.toList[n - p.first]?).getD (Char.ofNat n))).filter (· ≠ hole)

/-- The characters that bytes stand for, if each stands for one. -/
def decode? (p : Page) (bytes : List UInt8) : Option (List Char) :=
  bytes.mapM p.char?

/-- Each byte gives one character. -/
theorem length_of_decode? {p : Page} {bytes : List UInt8} {cs : List Char}
    (h : p.decode? bytes = some cs) :
  cs.length = bytes.length
  := by
  induction bytes generalizing cs with
  | nil => simp_all [decode?]
  | cons b bytes ih =>
    simp only [decode?, List.mapM_cons, Option.bind_eq_bind, Option.bind_eq_some_iff] at h
    obtain ⟨c, _, rest, hr, heq⟩ := h
    obtain rfl := Option.some.inj heq
    simp [ih hr]

end Page

end Workshop.Text.Charset
