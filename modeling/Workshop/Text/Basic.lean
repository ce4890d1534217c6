import Workshop.Text.Split

/-!
# Texts

`isBlank` is the Unicode property White_Space, and `trim` removes the blanks at both ends of
a text.  `trimBy p` does the same for an arbitrary class `p` of characters.

`lower` replaces the capital letters whose small form is an ASCII letter: `A` to `Z`, and the
Kelvin sign U+212A, whose small form is `k`.  Every other character is kept.  Texts are lowered
only to be compared with ASCII words, and no other capital has a small form made of ASCII
characters alone, so keeping the others changes no comparison.

A text that is present and not empty counts as `given`: an empty id asks for nothing.
-/

namespace Workshop.Text

/-! ### Blanks -/

/-- The characters with the Unicode property White_Space. -/
def isBlank (c : Char) : Bool :=
  let n := c.toNat
  (0x09 ≤ n && n ≤ 0x0D) || n == 0x20 || n == 0x85 || n == 0xA0 || n == 0x1680
    || (0x2000 ≤ n && n ≤ 0x200A) || n == 0x2028 || n == 0x2029 || n == 0x202F || n == 0x205F
    || n == 0x3000

/-- The blanks and the four information separators U+001C to U+001F. -/
def isSeparator (c : Char) : Bool :=
  isBlank c || (0x1C ≤ c.toNat && c.toNat ≤ 0x1F)

/-- The blanks of ASCII. -/
def isAsciiBlank (c : Char) : Bool :=
  (0x09 ≤ c.toNat && c.toNat ≤ 0x0D) || c == ' '

/-- The characters `cs` without those of class `p` at either end. -/
def trimChars (p : Char → Bool) (cs : List Char) : List Char :=
  ((cs.dropWhile p).reverse.dropWhile p).reverse

/-- The text `s` without the characters of class `p` at either end. -/
def trimBy (p : Char → Bool) (s : String) : String :=
  String.ofList (trimChars p s.toList)

/-- The text `s` without the blanks at either end. -/
def trim (s : String) : String :=
  trimBy isBlank s

/-! ### Small letters -/

/-- The small form of a character, when that is an ASCII letter, and the character otherwise. -/
def lowerChar (c : Char) : Char :=
  if c = '\u212a' then 'k' else c.toLower

/-- The text `s` with the characters replaced by their small forms. -/
def lower (s : String) : String :=
  s.map lowerChar

/-- Whether the text `part` occurs in the text `whole`. -/
def contains (whole part : String) : Bool :=
  occursIn part.toList whole.toList

end Workshop.Text

namespace Workshop

/-! ### Given texts -/

/-- The text, if it is present and not empty. -/
def given (text : Option String) : Option String :=
  text.filter (· ≠ "")

@[simp]
theorem given_none :
  given none = none
  := rfl

theorem given_eq_some {text : Option String} {s : String} :
  given text = some s ↔ text = some s ∧ s ≠ ""
  := by
  simp [given, Option.filter_eq_some_iff]

end Workshop
