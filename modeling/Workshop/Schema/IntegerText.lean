import Workshop.Numeral
import Workshop.Schema.Issue
import Workshop.Text.Basic
import Workshop.Text.Split

/-!
# Texts that denote integers

`IntegerText.read` reads an integer from a text.  An integer in its usual form is read as it stands,
unless it has more than 4300 digits.  In any other text a plus in front, the zeros and underscores
in front of the first other digit, a fraction of zeros, and single underscores between digits are
left out first, and what remains must be an integer in its usual form.
-/

namespace Workshop.Schema.IntegerText

/-- The text without a plus in front.  No other sign may follow it. -/
def withoutPlus : List Char → Option (List Char)
  | '+' :: '-' :: _ => none
  | '+' :: cs => some cs
  | cs => some cs

/-- What begins with the first character that is neither a zero nor an underscore.  A point keeps
the character `last` in front of it, and nothing but that character remains of zeros alone. -/
def skipZeros (last : Char) : List Char → Option (List Char)
  | [] => some [last]
  | c :: cs =>
    if c = '0' ∨ c = '_' then skipZeros c cs
    else if c.isDigit ∨ c = '-' then some (c :: cs)
    else if c = '.' then some (last :: c :: cs)
    else none

/-- The text without the zeros in front. -/
def withoutZeros : List Char → Option (List Char)
  | [] => none
  | c :: cs =>
    if c = '0' then skipZeros c cs
    else if c.isDigit ∨ c = '-' then some (c :: cs)
    else none

/-- The text without a fraction of zeros. -/
def withoutFraction (cs : List Char) : List Char :=
  match cs.dropWhile (· ≠ '.') with
  | _ :: zeros =>
    if !zeros.isEmpty && zeros.all (· = '0') then cs.takeWhile (· ≠ '.') else cs
  | [] => cs

/-- The text without the underscores, if each of them stands alone and between others. -/
def withoutUnderscores (cs : List Char) : List Char :=
  let groups := Text.split '_' cs
  if groups.all fun g => !g.isEmpty then groups.flatten else cs

/-- The text without a plus, without the zeros in front of its digits, without a fraction of zeros,
and without underscores between digits.  A minus in front stays. -/
def cleaned (cs : List Char) : Option (List Char) := do
  let body ←
    match ← withoutPlus cs with
    | '-' :: rest => (withoutZeros rest).map ('-' :: ·)
    | unsigned => withoutZeros unsigned
  return withoutUnderscores (withoutFraction body)

/-- The most digits of an integer. -/
abbrev limit : Nat :=
  4300

/-- The integer that is written in its usual form: a minus or none, and digits that begin with a
zero only if there is no other. -/
def usual (cs : List Char) : Except Defect Int :=
  let (negative, body) := match cs with
    | '-' :: body => (true, body)
    | body => (false, body)
  let digits := body.takeWhile Char.isDigit
  if digits.isEmpty ∨ digits.head? = some '0' ∧ digits ≠ ['0'] then .error .notIntegerText
  else if limit < digits.length then .error .integerTooLarge
  else if (body.dropWhile Char.isDigit).isEmpty then
    .ok (Numeral.signed negative (Text.Digits.valueFrom 0 digits))
  else .error .notIntegerText

/-- The integer in its usual form that remains of a text. -/
def remaining (cs : List Char) : Except Defect Int :=
  match (cleaned cs).map usual with
  | some (.ok n) => .ok n
  | _ => .error .notIntegerText

/-- Reads an integer. -/
def read (s : String) : Except Defect Int :=
  let cs := (Text.trim s).toList
  match usual cs with
  | .error .notIntegerText => remaining cs
  | outcome => outcome

end Workshop.Schema.IntegerText
