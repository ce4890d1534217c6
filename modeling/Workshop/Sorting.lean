/-!
# Sorted lists

`sortBy le` sorts a list by insertion, keeping the order of elements that `le` does not tell
apart.  Main statements: it permutes the list, its result is in order if `le` is transitive and
total, and it commutes with filtering and keeps parts of lists parts.
-/

namespace Workshop

variable {α : Type} (le : α → α → Bool)

/-- Puts an element before the first one that it may precede. -/
def insertBy (a : α) : List α → List α
  | [] => [a]
  | b :: l => if le a b then a :: b :: l else b :: insertBy a l

/-- The list in the order of `le`. -/
def sortBy : List α → List α
  | [] => []
  | a :: l => insertBy le a (sortBy l)

theorem insertBy_perm (a : α) (l : List α) :
  (insertBy le a l).Perm (a :: l)
  := by
  induction l with
  | nil => exact .refl _
  | cons b l ih =>
    simp only [insertBy]
    split
    · exact .refl _
    · exact (ih.cons b).trans (.swap a b l)

/-- Sorting permutes a list. -/
theorem sortBy_perm (l : List α) :
  (sortBy le l).Perm l
  := by
  induction l with
  | nil => exact .refl _
  | cons a l ih => exact (insertBy_perm le a _).trans (ih.cons a)

@[simp]
theorem mem_sortBy {a : α} {l : List α} :
  a ∈ sortBy le l ↔ a ∈ l
  := (sortBy_perm le l).mem_iff

@[simp]
theorem length_sortBy (l : List α) :
  (sortBy le l).length = l.length
  := (sortBy_perm le l).length_eq

theorem pairwise_insertBy (trans : ∀ a b c, le a b → le b c → le a c)
    (total : ∀ a b, le a b ∨ le b a) (a : α) {l : List α}
    (h : l.Pairwise fun x y => le x y) :
  (insertBy le a l).Pairwise fun x y => le x y
  := by
  induction l with
  | nil => simp [insertBy]
  | cons b l ih =>
    rw [List.pairwise_cons] at h
    simp only [insertBy]
    split
    · rename_i hab
      rw [List.pairwise_cons, List.pairwise_cons]
      refine ⟨?_, h⟩
      intro c hc
      rcases List.mem_cons.1 hc with rfl | hc
      · exact hab
      · exact trans a b c hab (h.1 c hc)
    · rename_i hab
      have hba := (total a b).resolve_left hab
      rw [List.pairwise_cons]
      refine ⟨?_, ih h.2⟩
      intro c hc
      rcases List.mem_cons.1 ((insertBy_perm le a l).mem_iff.1 hc) with rfl | hc
      · exact hba
      · exact h.1 c hc

/-- A sorted list is in order. -/
theorem pairwise_sortBy (trans : ∀ a b c, le a b → le b c → le a c)
    (total : ∀ a b, le a b ∨ le b a) (l : List α) :
  (sortBy le l).Pairwise fun x y => le x y
  := by
  induction l with
  | nil => exact .nil
  | cons a l ih => exact pairwise_insertBy le trans total a ih

theorem filter_insertBy (trans : ∀ a b c, le a b → le b c → le a c) (p : α → Bool) (a : α)
    {l : List α}
    (h : l.Pairwise fun x y => le x y) :
  (insertBy le a l).filter p = if p a then insertBy le a (l.filter p) else l.filter p
  := by
  induction l with
  | nil => cases hp : p a <;> simp [insertBy, hp]
  | cons b l ih =>
    rw [List.pairwise_cons] at h
    simp only [insertBy]
    by_cases hab : le a b
    · simp only [hab, if_true]
      have front : ∀ c ∈ (b :: l).filter p, le a c := by
        intro c hc
        rcases List.mem_cons.1 (List.mem_filter.1 hc).1 with rfl | hc
        · exact hab
        · exact trans a b c hab (h.1 c hc)
      cases hp : p a
      · simp [hp]
      · cases hl : (b :: l).filter p with
        | nil => simp [insertBy, hp, hl]
        | cons c m => simp [insertBy, hp, hl, front c (by simp [hl])]
    · cases hb : p b <;> cases hp : p a <;> simp [insertBy, hab, hb, hp, ih h.2]

/-- Sorting commutes with filtering. -/
theorem filter_sortBy (trans : ∀ a b c, le a b → le b c → le a c)
    (total : ∀ a b, le a b ∨ le b a) (p : α → Bool) (l : List α) :
  (sortBy le l).filter p = sortBy le (l.filter p)
  := by
  induction l with
  | nil => rfl
  | cons a l ih =>
    simp only [sortBy, filter_insertBy le trans p a (pairwise_sortBy le trans total l), ih]
    cases hp : p a <;> simp [hp, sortBy]

theorem sublist_insertBy_self (a : α) (l : List α) :
  l.Sublist (insertBy le a l)
  := by
  induction l with
  | nil => exact List.nil_sublist _
  | cons b l ih =>
    simp only [insertBy]
    split
    · exact List.sublist_cons_self a (b :: l)
    · exact ih.cons_cons b

/-- An element is put into part of a list in front of the same elements as into the whole. -/
theorem sublist_insertBy (trans : ∀ a b c, le a b → le b c → le a c) (a : α) {l m : List α}
    (h : l.Sublist m) (ordered : m.Pairwise fun x y => le x y) :
  (insertBy le a l).Sublist (insertBy le a m)
  := by
  induction h with
  | slnil => exact .refl _
  | @cons l m b h ih =>
    rw [List.pairwise_cons] at ordered
    simp only [insertBy]
    split
    · rename_i hab
      -- what is in front of all of the list is in front of all of the part
      have hfront : insertBy le a l = a :: l := by
        cases l with
        | nil => rfl
        | cons c l =>
          have hac := trans a b c hab (ordered.1 c (h.subset List.mem_cons_self))
          simp [insertBy, hac]
      rw [hfront]
      exact (h.cons b).cons_cons a
    · exact (ih ordered.2).cons b
  | @cons_cons l m b h ih =>
    rw [List.pairwise_cons] at ordered
    simp only [insertBy]
    split
    · exact (h.cons_cons b).cons_cons a
    · exact (ih ordered.2).cons_cons b

/-- Part of a list stays part of it when both are sorted. -/
theorem sublist_sortBy (trans : ∀ a b c, le a b → le b c → le a c)
    (total : ∀ a b, le a b ∨ le b a) {l m : List α} (h : l.Sublist m) :
  (sortBy le l).Sublist (sortBy le m)
  := by
  induction h with
  | slnil => exact .refl _
  | cons a _ ih => exact ih.trans (sublist_insertBy_self le a _)
  | cons_cons a _ ih =>
    exact sublist_insertBy le trans a ih (pairwise_sortBy le trans total _)

end Workshop
