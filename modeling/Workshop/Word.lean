/-!
# Words for the values of a type

A type is `Worded` if it has finitely many values and each of them is called by a word.
`Worded.read?` finds the value that a word stands for, and `Worded.read?_word` says that the word
of a value stands for that value again, if no two values share a word.
-/

namespace Workshop

/-- A type with a list of values and a word for each of them. -/
class Worded (α : Type) where
  /-- The values, in their usual order. -/
  values : List α
  /-- The word for a value. -/
  word : α → String

namespace Worded

variable {α : Type} [Worded α]

/-- The value that a word stands for. -/
def read? (s : String) : Option α :=
  values.find? fun a => word a == s

theorem word_of_read? {s : String} {a : α} (h : read? s = some a) :
  word a = s
  := by
  simpa using List.find?_some h

/-- The word of a value stands for that value, if no two values share a word. -/
theorem read?_word (hw : ∀ a b : α, word a = word b → a = b) {a : α} (ha : a ∈ values) :
  read? (word a) = some a
  := by
  cases h : read? (α := α) (word a) with
  | none =>
    have := List.find?_eq_none.1 h a ha
    simp at this
  | some b => rw [hw b a (word_of_read? h)]

end Worded

end Workshop
