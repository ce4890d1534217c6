/-!
# Splitting texts

`split separator` takes a text apart at every occurrence of a character, and `join separator` puts
the parts together again.  `occursIn` searches a text for another one.  Texts are lists here, of
characters or of bytes.
-/

namespace Workshop.Text

variable {α : Type}

/-- The parts with a separator between any two of them. -/
def join (separator : α) : List (List α) → List α
  | [] => []
  | [part] => part
  | part :: parts => part ++ separator :: join separator parts

/-- Joining adds nothing but separators. -/
theorem mem_of_mem_join {separator c : α} {parts : List (List α)}
    (h : c ∈ join separator parts) :
  c = separator ∨ ∃ part ∈ parts, c ∈ part
  := by
  match parts with
  | [] => simp [join] at h
  | [part] => exact .inr ⟨part, by simp, h⟩
  | part :: q :: parts =>
    rw [join, List.mem_append, List.mem_cons] at h
    · rcases h with h | h | h
      · exact .inr ⟨part, by simp, h⟩
      · exact .inl h
      · rcases mem_of_mem_join h with h | ⟨r, hr, hc⟩
        · exact .inl h
        · exact .inr ⟨r, List.mem_cons_of_mem part hr, hc⟩
    · simp

variable [DecidableEq α]

/-- The parts of a text between the separators. -/
def split (separator : α) : List α → List (List α)
  | [] => [[]]
  | c :: cs =>
    match split separator cs with
    | [] => [[c]]
    | part :: parts => if c = separator then [] :: part :: parts else (c :: part) :: parts

/-- Whether `part` occurs in a text as a block that is not interrupted. -/
def occursIn (part : List α) : List α → Bool
  | [] => part.isEmpty
  | c :: cs => part.isPrefixOf (c :: cs) || occursIn part cs

theorem split_ne_nil (separator : α) (cs : List α) :
  split separator cs ≠ []
  := by
  cases cs with
  | nil => simp [split]
  | cons c cs =>
    simp only [split]
    split
    · simp
    · split <;> simp

/-- Nothing but separators is lost. -/
theorem join_split (separator : α) (cs : List α) :
  join separator (split separator cs) = cs
  := by
  induction cs with
  | nil => rfl
  | cons c cs ih =>
    simp only [split]
    cases h : split separator cs with
    | nil => exact absurd h (split_ne_nil separator cs)
    | cons part parts =>
      rw [h] at ih
      by_cases hc : c = separator
      · simp [hc, join, ih]
      · cases parts with
        | nil => simpa [hc, join] using ih
        | cons q qs => simpa [hc, join] using ih

/-- A part without separators is split off before the first separator. -/
theorem split_append_cons {separator : α} {part : List α} (h : separator ∉ part)
    (cs : List α) :
  split separator (part ++ separator :: cs) = part :: split separator cs
  := by
  induction part with
  | nil =>
    cases hs : split separator cs with
    | nil => exact absurd hs (split_ne_nil separator cs)
    | cons q qs => simp [split, hs]
  | cons c part ih =>
    simp only [List.mem_cons, not_or] at h
    simp [split, ih h.2, Ne.symm h.1]

/-- A text without separators is one part. -/
theorem split_of_not_mem {separator : α} {cs : List α} (h : separator ∉ cs) :
  split separator cs = [cs]
  := by
  induction cs with
  | nil => rfl
  | cons c cs ih =>
    simp only [List.mem_cons, not_or] at h
    simp [split, ih h.2, Ne.symm h.1]

/-- Parts without separators are found again. -/
theorem split_join {separator : α} {parts : List (List α)} (hne : parts ≠ [])
    (h : ∀ part ∈ parts, separator ∉ part) :
  split separator (join separator parts) = parts
  := by
  match parts with
  | [part] => exact split_of_not_mem (h part (by simp))
  | part :: q :: parts =>
    rw [join, split_append_cons (h part (by simp)) (join separator (q :: parts)),
      split_join (by simp) fun r hr => h r (by simp_all)]
    · simp

/-- The parts hold no separator. -/
theorem not_mem_of_mem_split {separator : α} {cs part : List α}
    (h : part ∈ split separator cs) :
  separator ∉ part
  := by
  induction cs generalizing part with
  | nil => simp_all [split]
  | cons c cs ih =>
    simp only [split] at h
    cases hs : split separator cs with
    | nil => exact absurd hs (split_ne_nil separator cs)
    | cons q qs =>
      rw [hs] at h ih
      by_cases hc : c = separator
      · simp only [hc, if_true, List.mem_cons] at h
        rcases h with rfl | h
        · simp
        · exact ih (List.mem_cons.2 h)
      · simp only [hc, if_false, List.mem_cons] at h
        rcases h with rfl | h
        · simp [Ne.symm hc, ih List.mem_cons_self]
        · exact ih (List.mem_cons_of_mem q h)

end Workshop.Text
