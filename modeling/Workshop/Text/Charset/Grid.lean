import Workshop.Text.Charset.Page

/-!
# Grids of characters

The great character sets arrange their characters in rows of cells, and bytes name a row and a cell.
A `Grid` lists the stretches of characters that stand side by side, and `Grid.char?` finds the
character in a cell.  `Run` is a stretch of characters whose numbers follow each other.

Some sets put those characters of a script that a grid does not hold into further cells, in the
order of their numbers: `Grid.others` are these characters.
-/

namespace Workshop.Text.Charset

/-- Characters side by side in a row, from a cell on. -/
structure Stretch where
  row : Nat
  cell : Nat
  text : String
deriving DecidableEq, Repr, Inhabited

/-- Rows of cells.  Where two stretches hold a cell, the first one counts. -/
abbrev Grid : Type :=
  List Stretch

/-- The character in a cell, if there is one. -/
def Grid.char? (g : Grid) (row cell : Nat) : Option Char :=
  g.findSome? fun s =>
    if s.row = row ∧ s.cell ≤ cell then (s.text.toList[cell - s.cell]?).filter (· ≠ hole) else none

/-- Characters side by side in a row, so many from a cell on, whose numbers begin with `number`. -/
structure Run where
  row : Nat
  cell : Nat
  count : Nat
  number : Nat
deriving DecidableEq, Repr, Inhabited

/-- The character in a cell, if one of the runs holds the cell. -/
def Run.char? (runs : List Run) (row cell : Nat) : Option Char :=
  (runs.find? fun r => r.row = row ∧ r.cell ≤ cell ∧ cell < r.cell + r.count).map fun r =>
    Char.ofNat (r.number + (cell - r.cell))

/-- A character in a cell stands in one of the stretches. -/
theorem Grid.exists_of_char? {g : Grid} {row cell : Nat} {c : Char}
    (h : g.char? row cell = some c) :
  ∃ s ∈ g, s.row = row ∧ c ∈ s.text.toList
  := by
  obtain ⟨s, hs, h⟩ := List.exists_of_findSome?_eq_some h
  split at h
  · rename_i hr
    exact ⟨s, hs, hr.1, List.mem_of_getElem? (Option.filter_eq_some_iff.1 h).1⟩
  · simp at h

/-- For each of so many characters with the numbers from `first` on, whether the grid holds it. -/
def Grid.holds (g : Grid) (first count : Nat) : Array Bool :=
  g.foldl
    (fun held s =>
      s.text.toList.foldl
        (fun held c => if first ≤ c.toNat then held.setIfInBounds (c.toNat - first) true else held)
        held)
    (Array.replicate count false)

/-- Those of so many characters with the numbers from `first` on that the grid does not hold. -/
def Grid.others (g : Grid) (first count : Nat) : Array Char :=
  let held := g.holds first count
  (((List.range count).filter fun n => held[n]? = some false).map fun n =>
    Char.ofNat (first + n)).toArray

end Workshop.Text.Charset
