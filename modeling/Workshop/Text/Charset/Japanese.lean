import Workshop.Text.Charset.Grid.Jisx0208
import Workshop.Text.Charset.Grid.Jisx0212
import Workshop.Text.Charset.Grid.Jisx0213
import Workshop.Text.Charset.Step

/-!
# Japanese character sets

Japanese is written in bytes in two ways.  One adds 0xA0 to the row and the cell of a character.
The other shifts them about, so that a second byte may look like ASCII and the letters of half width
have one byte.  Each way comes with the standard JIS X 0208 alone, or with one of its extensions.
-/

namespace Workshop.Text.Charset

namespace Japanese

/-- The letter of half width with the number of a byte. -/
def kana? (b : Nat) : Option Char :=
  if 0xA1 ≤ b ∧ b ≤ 0xDF then some (Char.ofNat (0xFEC0 + b)) else none

/-- The editions of JIS X 0213. -/
inductive Edition where
  | first
  | second
deriving DecidableEq, Repr, Inhabited

/-- The cells of the first plane that only the second edition fills. -/
def laterCells : List (Nat × Nat) :=
  [ (14, 1), (15, 94), (47, 52), (47, 94), (84, 7), (94, 90), (94, 91), (94, 92), (94, 93),
    (94, 94) ]

/-- The character in a cell of the first plane, with the mark on it. -/
def firstPlane? (e : Edition) (row cell : Nat) : Option (List Char) :=
  if e = .first ∧ laterCells.contains (row, cell) then none
  else
    ((Grid.jisx0208.char? row cell).or (Grid.jisx0213.char? row cell)).map fun c =>
      c :: (Grid.jisx0213Marks.char? row cell).toList

/-- The character in a cell of the second plane, of which the second edition changed one. -/
def secondPlane? (e : Edition) (row cell : Nat) : Option Char :=
  if e = .first ∧ (row, cell) = (93, 27) then some '\u9b1d' else Grid.jisx0213Second.char? row cell

/-! ## Rows and cells plus 0xA0 -/

/-- The step that reads ASCII, letters of half width behind 0x8E, characters of further rows behind
0x8F, and characters of the main rows. -/
def extended (main? further? : Nat → Nat → Option (List Char)) : Step
  | 0x8E :: b :: rest => (kana? b.toNat).map fun c => ([c], rest)
  | 0x8F :: a :: b :: rest =>
    (further? (a.toNat - 0xA0) (b.toNat - 0xA0)).map fun cs => (cs, rest)
  | bytes => Step.pair (fun a b => main? (a - 0xA0) (b - 0xA0)) bytes

/-- JIS X 0208 and JIS X 0212. -/
def eucJp : Step :=
  extended (fun row cell => (Grid.jisx0208.char? row cell).map ([·]))
    fun row cell => (Grid.jisx0212.char? row cell).map ([·])

/-- An edition of JIS X 0213, and JIS X 0212. -/
def eucJis (e : Edition) : Step :=
  extended (firstPlane? e) fun row cell =>
    ((secondPlane? e row cell).or (Grid.jisx0212.char? row cell)).map ([·])

/-! ## Rows and cells shifted about -/

/-- The row and the cell that two bytes name: each first byte names two rows. -/
def shifted? (a b : Nat) : Option (Nat × Nat) := do
  let lead ←
    if 0x81 ≤ a ∧ a ≤ 0x9F then some (a - 0x81)
    else if 0xE0 ≤ a ∧ a ≤ 0xFC then some (a - 0xC1)
    else none
  let trail ←
    if 0x40 ≤ b ∧ b ≤ 0x7E then some (b - 0x40)
    else if 0x80 ≤ b ∧ b ≤ 0xFC then some (b - 0x41)
    else none
  return (2 * lead + trail / 94 + 1, trail % 94 + 1)

/-- The step that reads characters of one byte and characters in cells. -/
def shifting (single? : Nat → Option Char) (char? : Nat → Nat → Option (List Char)) : Step
  | [] => none
  | a :: rest =>
    match single? a.toNat, rest with
    | some c, rest => some ([c], rest)
    | none, b :: rest => do
      let (row, cell) ← shifted? a.toNat b.toNat
      (char? row cell).map fun cs => (cs, rest)
    | none, [] => none

/-- The characters of ASCII and the letters of half width. -/
def narrow? (b : Nat) : Option Char :=
  if b < 0x80 then some (Char.ofNat b) else kana? b

/-- JIS X 0208. -/
def shiftJis : Step :=
  shifting narrow? fun row cell => (Grid.jisx0208.char? row cell).map ([·])

/-- The characters of one byte that stand in the place of those of ASCII. -/
def roman (b : Nat) : Char :=
  if b = 0x5C then '¥' else if b = 0x7E then '‾' else Char.ofNat b

/-- The rows of the second plane, in the order in which bytes name them. -/
def secondRows : List Nat :=
  [1, 8, 3, 4, 5, 12, 13, 14, 15] ++ (List.range 17).map (78 + ·)

/-- The characters of ASCII that stand in cells, since others have taken their bytes. -/
def displaced : Grid :=
  [⟨1, 32, "\\"⟩, ⟨2, 18, "~"⟩]

/-- An edition of JIS X 0213. -/
def shiftJis0213 (e : Edition) : Step :=
  shifting (fun b => if b < 0x80 then some (roman b) else kana? b) fun row cell =>
    if row ≤ 94 then ((displaced.char? row cell).map ([·])).or (firstPlane? e row cell)
    else (secondRows[row - 95]?).bind fun row => (secondPlane? e row cell).map ([·])

/-- The characters of one byte of code page 932. -/
def single932? (b : Nat) : Option Char :=
  if b ≤ 0x80 then some (Char.ofNat b)
  else if b = 0xA0 then some '\uf8f0'
  else if 0xFD ≤ b then some (Char.ofNat (0xF8F1 + (b - 0xFD)))
  else kana? b

/-- Code page 932, in which some rows are for private use. -/
def codePage932 : Step :=
  shifting single932? fun row cell =>
    let found :=
      if 95 ≤ row ∧ row ≤ 114 then some (Char.ofNat (0xE000 + (row - 95) * 94 + (cell - 1)))
      else (Grid.codePage932.char? row cell).or (Grid.jisx0208.char? row cell)
    found.map ([·])

end Japanese

end Workshop.Text.Charset
