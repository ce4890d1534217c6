import Workshop.Schema.Issue

/-!
# Checked values

`Checked α` is the outcome of checking a request: a value, or all its issues in order, or the
failure of an instant that leaves the years 1 to 9999 when it is converted.  Outcomes of several
parts are combined with `<*>`, which collects the issues of all parts; the failure outweighs them.
-/

namespace Workshop.Schema

/-- The outcome of checking. -/
inductive Checked (α : Type) where
  | valid (value : α)
  | invalid (issues : List Issue)
  | outOfRange
deriving DecidableEq, Repr, Inhabited

namespace Checked

variable {α β : Type}

/-- The outcome with another value. -/
def map (f : α → β) : Checked α → Checked β
  | valid a => valid (f a)
  | invalid issues => invalid issues
  | outOfRange => outOfRange

/-- The outcome of two parts. -/
def ap : Checked (α → β) → Checked α → Checked β
  | valid f, valid a => valid (f a)
  | outOfRange, _ => outOfRange
  | _, outOfRange => outOfRange
  | invalid issues, invalid more => invalid (issues ++ more)
  | invalid issues, valid _ => invalid issues
  | valid _, invalid issues => invalid issues

instance : Applicative Checked where
  pure := valid
  map := map
  seq f a := ap f (a ())

/-- The outcome of checking what stands below `name`. -/
def below (name : String) : Checked α → Checked α
  | valid a => valid a
  | invalid issues => invalid (issues.map (Issue.below name))
  | outOfRange => outOfRange

/-- The outcome of a further check of a valid value. -/
def andThen (f : α → Checked β) : Checked α → Checked β
  | valid a => f a
  | invalid issues => invalid issues
  | outOfRange => outOfRange

/-- Two parts are valid together if and only if each is. -/
theorem ap_eq_valid {f : Checked (α → β)} {x : Checked α} {b : β} :
  ap f x = valid b ↔ ∃ g a, f = valid g ∧ x = valid a ∧ g a = b
  := by
  cases f <;> cases x <;> simp [ap]

theorem seq_eq_valid {f : Checked (α → β)} {x : Checked α} {b : β} :
  f <*> x = valid b ↔ ∃ g a, f = valid g ∧ x = valid a ∧ g a = b
  := ap_eq_valid

theorem map_eq_valid {f : α → β} {x : Checked α} {b : β} :
  f <$> x = valid b ↔ ∃ a, x = valid a ∧ f a = b
  := by
  change map f x = valid b ↔ _
  cases x <;> simp [map]

theorem below_eq_valid {name : String} {x : Checked α} {a : α} :
  x.below name = valid a ↔ x = valid a
  := by
  cases x <;> simp [below]

theorem map_ne_valid {f : α → β} {x : Checked α} {b : β} (h : ∀ a, f a ≠ b) :
  f <$> x ≠ valid b
  := by
  intro heq
  obtain ⟨a, -, hb⟩ := map_eq_valid.mp heq
  apply h a hb

theorem seq_ne_valid {γ : Type} {f : α → β → γ} {x : Checked α} {y : Checked β} {c : γ}
    (h : ∀ a b, f a b ≠ c) :
  f <$> x <*> y ≠ valid c
  := by
  intro heq
  obtain ⟨g, b, hg, -, hc⟩ := seq_eq_valid.mp heq
  obtain ⟨a, -, rfl⟩ := map_eq_valid.mp hg
  apply h a b hc

end Checked

end Workshop.Schema
