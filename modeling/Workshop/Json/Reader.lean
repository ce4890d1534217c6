import Workshop.Json
import Workshop.Numeral

/-!
# Reading structured values

`Json.read` reads a structured value from a text in the notation of JSON, in which `NaN`, `Infinity`
and `-Infinity` may stand for numbers.  A number with neither a fraction nor a power of ten is an
integer.  Of the fields of a record that have one name, the last says the value.  Each reader of
a part reads it at the front of a text, and returns the text behind it as well.  Main statement: a
text of characters that need no backslash is read as it stands.
-/

namespace Workshop.Json

/-- Why something is no structured value. -/
inductive Misreading where
  /-- The bytes are not those of a text. -/
  | notText
  /-- The text does not keep to the notation. -/
  | malformed
  /-- An integer has too many digits. -/
  | tooManyDigits
  /-- Too many lists and records hold one another. -/
  | tooDeep
deriving DecidableEq, Repr, Inhabited

/-- Whether the character may stand between values. -/
def isGap (c : Char) : Bool :=
  c == ' ' || c == '\t' || c == '\n' || c == '\r'

/-- The text without what may stand between values at its front. -/
def skipGap (cs : List Char) : List Char :=
  cs.dropWhile isGap

/-- Reads a word that stands for a value. -/
def readWord (word : String) (v : Json) (cs : List Char) :
    Except Misreading (Json × List Char) :=
  if word.toList.isPrefixOf cs then .ok (v, cs.drop word.length) else .error .malformed

/-! ## Numbers -/

/-- The most digits of an integer. -/
abbrev digitLimit : Nat :=
  4300

/-- The digits at the front, of which the first is a zero only if it is the only one. -/
def wholePart : List Char → List Char
  | '0' :: _ => ['0']
  | cs => cs.takeWhile Char.isDigit

/-- The point at the front and the digits behind it, if there are any. -/
def fractionPart : List Char → List Char
  | '.' :: cs =>
    let digits := cs.takeWhile Char.isDigit
    if digits.isEmpty then [] else '.' :: digits
  | _ => []

/-- The power of ten at the front. -/
def exponentPart : List Char → List Char
  | [] => []
  | c :: cs =>
    let sign := (cs.take 1).filter fun s => s == '+' || s == '-'
    let digits := (cs.drop sign.length).takeWhile Char.isDigit
    if (c = 'e' ∨ c = 'E') ∧ !digits.isEmpty then c :: sign ++ digits else []

/-- The number that a numeral stands for: an integer, or the nearest number of double precision. -/
def ofNumeral (n : Numeral) : Except Misreading Json :=
  if n.isWhole then .ok (int n.toInt)
  else
    match n.double? with
    | some x => .ok (if x = 0 ∧ n.negative then negativeZero else float x)
    | none => .ok (nonFinite (.infinite n.negative))

/-- Reads a number. -/
def readNumber (cs : List Char) : Except Misreading (Json × List Char) :=
  let sign := (cs.take 1).filter (· = '-')
  let unsigned := cs.drop sign.length
  let whole := wholePart unsigned
  let fraction := fractionPart (unsigned.drop whole.length)
  let exponent := exponentPart (unsigned.drop (whole.length + fraction.length))
  let digits := whole ++ fraction ++ exponent
  match Numeral.read? (sign ++ digits) with
  | some n =>
    if whole.isEmpty then .error .malformed
    else if n.isWhole ∧ digitLimit < whole.length then .error .tooManyDigits
    else (ofNumeral n).map fun v => (v, unsigned.drop digits.length)
  | none => .error .malformed

/-! ## Texts -/

/-- The value of a hexadecimal digit. -/
def hexDigit? (c : Char) : Option Nat :=
  if c.isDigit then some (c.toNat - '0'.toNat)
  else if 'a' ≤ c ∧ c ≤ 'f' then some (c.toNat - 'a'.toNat + 10)
  else if 'A' ≤ c ∧ c ≤ 'F' then some (c.toNat - 'A'.toNat + 10)
  else none

/-- The number of four hexadecimal digits. -/
def hexNumber? (cs : List Char) : Option Nat :=
  cs.foldlM (fun n c => (hexDigit? c).map (n * 16 + ·)) 0

/-- The character that a character behind a backslash stands for. -/
def escaped? : Char → Option Char
  | '"' => some '"'
  | '\\' => some '\\'
  | '/' => some '/'
  | 'b' => some '\x08'
  | 'f' => some '\x0c'
  | 'n' => some '\n'
  | 'r' => some '\r'
  | 't' => some '\t'
  | _ => none

/-- The numbers of the characters in front of a quotation mark, behind those in reverse that were
read before. -/
def readNumbers (before : List Nat) : List Char → Except Misreading (List Nat × List Char)
  | [] => .error .malformed
  | '"' :: cs => .ok (before.reverse, cs)
  | '\\' :: 'u' :: a :: b :: c :: d :: cs =>
    match hexNumber? [a, b, c, d] with
    | some n => readNumbers (n :: before) cs
    | none => .error .malformed
  | '\\' :: c :: cs =>
    match escaped? c with
    | some meant => readNumbers (meant.toNat :: before) cs
    | none => .error .malformed
  | c :: cs => if c.toNat < 0x20 then .error .malformed else readNumbers (c.toNat :: before) cs

/-- The character with a number.  Half of a pair by itself is shown as the replacement character. -/
def character (n : Nat) : Char :=
  if 0xD800 ≤ n ∧ n < 0xE000 then '\ufffd' else Char.ofNat n

/-- The characters with the given numbers, two halves of a pair together. -/
def characters : List Nat → List Char
  | [] => []
  | [n] => [character n]
  | m :: n :: ns =>
    if 0xD800 ≤ m ∧ m < 0xDC00 ∧ 0xDC00 ≤ n ∧ n < 0xE000 then
      Char.ofNat (0x10000 + (m - 0xD800) * 0x400 + (n - 0xDC00)) :: characters ns
    else character m :: characters (n :: ns)

/-- Reads a text behind its first quotation mark. -/
def readText (cs : List Char) : Except Misreading (String × List Char) :=
  (readNumbers [] cs).map fun (ns, cs) => (String.ofList (characters ns), cs)

/-- The characters that need no backslash in a text. -/
def IsPlain (c : Char) : Prop :=
  c ≠ '"' ∧ c ≠ '\\' ∧ 0x20 ≤ c.toNat

theorem character_toNat (c : Char) :
  character c.toNat = c
  := by
  have hv : c.toNat < 0xD800 ∨ (0xDFFF < c.toNat ∧ c.toNat < 0x110000) := c.valid
  rw [character, if_neg (by omega), Char.ofNat_toNat]

theorem characters_map_toNat (cs : List Char) :
  characters (cs.map Char.toNat) = cs
  := by
  induction cs with
  | nil => rfl
  | cons c cs ih =>
    have hv : c.toNat < 0xD800 ∨ (0xDFFF < c.toNat ∧ c.toNat < 0x110000) := c.valid
    cases cs with
    | nil => simp [characters, character_toNat]
    | cons d cs =>
      simp only [List.map_cons] at ih ⊢
      rw [characters, if_neg (by omega), ih, character_toNat]

theorem readNumbers_append {cs : List Char} (h : ∀ c ∈ cs, IsPlain c) (before : List Nat)
    (rest : List Char) :
  readNumbers before (cs ++ '"' :: rest) = .ok (before.reverse ++ cs.map Char.toNat, rest)
  := by
  induction cs generalizing before with
  | nil => simp [readNumbers]
  | cons c cs ih =>
    obtain ⟨hq, hb, hc⟩ := h c List.mem_cons_self
    rw [List.cons_append, readNumbers]
    · rw [if_neg (by omega), ih fun d hd => h d (List.mem_cons_of_mem c hd)]
      simp
    all_goals simp_all

/-- A text of characters that need no backslash is read as it stands. -/
theorem readText_append {cs : List Char} (h : ∀ c ∈ cs, IsPlain c) (rest : List Char) :
  readText (cs ++ '"' :: rest) = .ok (String.ofList cs, rest)
  := by
  rw [readText, readNumbers_append h]
  simp [Except.map, characters_map_toNat]

/-! ## Values -/

/-- The fields, the last one first, with one more, which replaces the value of a field of that
name. -/
def put (fields : List (String × Json)) (name : String) (v : Json) : List (String × Json) :=
  if fields.any (·.1 == name) then
    fields.map fun (k, old) => if k == name then (k, v) else (k, old)
  else (name, v) :: fields

/-- The most lists and records that may hold one another. -/
abbrev depthLimit : Nat :=
  988

mutual

/-- Reads a value, in which so many lists and records may hold one another.  The first argument
bounds how many steps it takes. -/
def readValue : Nat → Nat → List Char → Except Misreading (Json × List Char)
  | 0, _, _ => .error .malformed
  | steps + 1, depth, cs =>
    match cs with
    | '"' :: cs => (readText cs).map fun (s, cs) => (str s, cs)
    | '[' :: cs =>
      match depth, skipGap cs with
      | 0, _ => .error .tooDeep
      | _ + 1, ']' :: cs => .ok (arr [], cs)
      | depth + 1, cs => readItems steps depth [] cs
    | '\x7b' :: cs =>
      match depth, skipGap cs with
      | 0, _ => .error .tooDeep
      | _ + 1, '\x7d' :: cs => .ok (obj [], cs)
      | depth + 1, cs => readFields steps depth [] cs
    | 't' :: _ => readWord "true" (bool true) cs
    | 'f' :: _ => readWord "false" (bool false) cs
    | 'n' :: _ => readWord "null" null cs
    | 'N' :: _ => readWord "NaN" (nonFinite .notANumber) cs
    | 'I' :: _ => readWord "Infinity" (nonFinite (.infinite false)) cs
    | '-' :: 'I' :: _ => readWord "-Infinity" (nonFinite (.infinite true)) cs
    | cs => readNumber cs

/-- Reads the items of a list, behind those in reverse that were read before. -/
def readItems : Nat → Nat → List Json → List Char → Except Misreading (Json × List Char)
  | 0, _, _, _ => .error .malformed
  | steps + 1, depth, before, cs => do
    let (v, cs) ← readValue steps depth cs
    match skipGap cs with
    | ',' :: cs => readItems steps depth (v :: before) (skipGap cs)
    | ']' :: cs => return (arr (v :: before).reverse, cs)
    | _ => .error .malformed

/-- Reads the fields of a record, behind those in reverse that were read before. -/
def readFields :
    Nat → Nat → List (String × Json) → List Char → Except Misreading (Json × List Char)
  | 0, _, _, _ => .error .malformed
  | steps + 1, depth, before, '"' :: cs => do
    let (name, cs) ← readText cs
    match skipGap cs with
    | ':' :: cs =>
      let (v, cs) ← readValue steps depth (skipGap cs)
      match skipGap cs with
      | ',' :: cs => readFields steps depth (put before name v) (skipGap cs)
      | '\x7d' :: cs => return (obj (put before name v).reverse, cs)
      | _ => .error .malformed
    | _ => .error .malformed
  | _ + 1, _, _, _ => .error .malformed

end

/-- Reads a structured value.  No step is taken more often than twice for one character. -/
def read (cs : List Char) : Except Misreading Json := do
  let (v, rest) ← readValue (2 * cs.length + 2) depthLimit (skipGap cs)
  if (skipGap rest).isEmpty then return v else .error .malformed

end Workshop.Json
