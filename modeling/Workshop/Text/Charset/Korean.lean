import Workshop.Text.Charset.Grid.Ksx1001
import Workshop.Text.Charset.Grid
import Workshop.Text.Charset.Step

/-!
# Korean character sets

A Korean syllable is composed of a leading consonant, a vowel and perhaps a trailing consonant.  The
standard KS X 1001 holds the syllables that are in use: the others are spelled by their letters, or
follow in cells of their own (`codePage949`), or all syllables are spelled by bits (`johab`).
-/

namespace Workshop.Text.Charset

namespace Korean

/-- The leading consonants. -/
def leads : List Char :=
  "ㄱㄲㄴㄷㄸㄹㅁㅂㅃㅅㅆㅇㅈㅉㅊㅋㅌㅍㅎ".toList

/-- The vowels. -/
def vowels : List Char :=
  "ㅏㅐㅑㅒㅓㅔㅕㅖㅗㅘㅙㅚㅛㅜㅝㅞㅟㅠㅡㅢㅣ".toList

/-- The trailing consonants. -/
def tails : List Char :=
  "ㄱㄲㄳㄴㄵㄶㄷㄹㄺㄻㄼㄽㄾㄿㅀㅁㅂㅄㅅㅆㅇㅈㅊㅋㅌㅍㅎ".toList

/-- The syllable with the given letters, of which the last may be missing. -/
def syllable? (lead vowel : Char) (tail? : Option Char) : Option Char := do
  let i ← leads.idxOf? lead
  let j ← vowels.idxOf? vowel
  let k ← match tail? with
    | some tail => (tails.idxOf? tail).map (· + 1)
    | none => some 0
  return Char.ofNat (0xAC00 + (i * 21 + j) * 28 + k)

/-! ## KS X 1001 -/

/-- The letter in the cell that is named by 0xA4 and a byte. -/
def letter? (b : Nat) : Option Char :=
  if 0xA1 ≤ b ∧ b ≤ 0xD3 then some (Char.ofNat (0x3131 + (b - 0xA1))) else none

/-- KS X 1001 with rows and cells plus 0xA0.  Behind the filler in the row of letters, three letters
spell a syllable, and another filler stands for a missing one. -/
def eucKr : Step
  | 0xA4 :: 0xD4 :: rest =>
    match rest with
    | 0xA4 :: i :: 0xA4 :: j :: 0xA4 :: k :: rest => do
      let lead ← letter? i.toNat
      let vowel ← letter? j.toNat
      let tail? ← if k = 0xD4 then some none else (letter? k.toNat).map some
      (syllable? lead vowel tail?).map fun c => ([c], rest)
    | _ => none
  | bytes =>
    Step.pair (fun a b => (Grid.ksx1001.char? (a - 0xA0) (b - 0xA0)).map ([·])) bytes

/-! ## Code page 949 -/

/-- The syllables that KS X 1001 does not hold. -/
def otherSyllables : Array Char :=
  Grid.ksx1001.others 0xAC00 11172

/-- The place of a second byte among those that letters and high bytes make. -/
def trail949? (b : Nat) : Option Nat :=
  if 0x41 ≤ b ∧ b ≤ 0x5A then some (b - 0x41)
  else if 0x61 ≤ b ∧ b ≤ 0x7A then some (b - 0x61 + 26)
  else if 0x81 ≤ b ∧ b ≤ 0xFE then some (b - 0x81 + 52)
  else none

/-- The place of a syllable among the others: the first rows have 178 cells and the last ones 84. -/
def place949? (a b : Nat) : Option Nat := do
  let trail ← trail949? b
  if 0x81 ≤ a ∧ a ≤ 0xA0 then some ((a - 0x81) * 178 + trail)
  else if 0xA1 ≤ a ∧ trail < 84 then some (32 * 178 + (a - 0xA1) * 84 + trail)
  else none

/-- KS X 1001 and the other syllables. -/
def codePage949 : Step :=
  Step.pair fun a b =>
    ((Grid.ksx1001.char? (a - 0xA0) (b - 0xA0)).or
      ((place949? a b).bind fun n => otherSyllables[n]?)).map ([·])

/-! ## Syllables in bits -/

/-- The letter with a number of five bits in a list that begins with the number `first`. -/
def numbered? (letters : String) (first n : Nat) : Option Char :=
  if first ≤ n then (letters.toList[n - first]?).filter (· ≠ hole) else none

/-- The character that three numbers of five bits spell.  A single letter stands between fillers. -/
def spelled? (i j k : Nat) : Option Char :=
  let lead? := numbered? "ㄱㄲㄴㄷㄸㄹㅁㅂㅃㅅㅆㅇㅈㅉㅊㅋㅌㅍㅎ" 2 i
  let vowel? := numbered? "ㅏㅐㅑㅒㅓ��ㅔㅕㅖㅗㅘㅙ��ㅚㅛㅜㅝㅞㅟ��ㅠㅡㅢㅣ" 3 j
  let tail? := numbered? "ㄱㄲㄳㄴㄵㄶㄷㄹㄺㄻㄼㄽㄾㄿㅀㅁ�ㅂㅄㅅㅆㅇㅈㅊㅋㅌㅍㅎ" 2 k
  match lead?, vowel?, tail? with
  | some lead, some vowel, some tail => syllable? lead vowel (some tail)
  | some lead, some vowel, none => if k = 1 then syllable? lead vowel none else none
  | some lead, none, none => if j = 2 ∧ k = 1 then some lead else none
  | none, some vowel, none => if i = 1 ∧ k = 1 then some vowel else none
  | none, none, some tail => if i = 1 ∧ j = 2 then some tail else none
  | none, none, none => if i = 1 ∧ j = 2 ∧ k = 1 then some '\u3000' else none
  | _, _, _ => none

/-- The character of KS X 1001 behind the syllables.  The row of letters is left out. -/
def behindSyllables? (a b : Nat) : Option Char := do
  let trail ←
    if 0x31 ≤ b ∧ b ≤ 0x7E then some (b - 0x31)
    else if 0x91 ≤ b ∧ b ≤ 0xFE then some (b - 0x43)
    else none
  let row ←
    if 0xD9 ≤ a ∧ a ≤ 0xDE then some (2 * (a - 0xD9) + 1)
    else if 0xE0 ≤ a ∧ a ≤ 0xF9 then some (2 * (a - 0xE0) + 42)
    else none
  if a = 0xDA ∧ 0xA1 ≤ b ∧ b ≤ 0xD3 then none
  else Grid.ksx1001.char? (row + trail / 94) (trail % 94 + 1)

/-- Syllables in bits, and the other characters of KS X 1001. -/
def johab : Step :=
  Step.pair fun a b =>
    let found :=
      if a < 0xD8 then spelled? (a / 4 % 32) (a % 4 * 8 + b / 32) (b % 32) else behindSyllables? a b
    found.map ([·])

end Korean

end Workshop.Text.Charset
