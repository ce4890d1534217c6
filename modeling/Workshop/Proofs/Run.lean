import Workshop.Proofs.Change

/-!
# Runs

A `Step` is a request together with those who make it and the conditions that it meets, and
`State.run` is the state that a list of steps leads to.  Requests of any number of clients, in
any order, make up such a list, since each of them is carried out as a whole.  `run_records` is
the induction by which properties of the records are proved: what the changes and the commits of
a run keep, the run keeps.
-/

namespace Workshop

/-- A request, with those who make it and the conditions that it meets. -/
structure Step where
  conditions : Conditions
  context : Audit.Context
  request : Request
deriving DecidableEq, Repr, Inhabited

/-! ### Commits -/

namespace Conditions

/-- Where no other client deletes anything, a commit stores the records as they are. -/
theorem commit_of_stays {c : Conditions} (h : c.vanishes = false) (r : Records) :
  c.commit r = r
  := by
  simp [commit, h]

/-- Where an event is found behind a commit, this has stored the records as they are. -/
theorem commit_of_event? {c : Conditions} {r : Records} {id : String} {e : Event}
    (h : (c.commit r).event? id = some e) :
  c.commit r = r
  := by
  cases hv : c.vanishes with
  | false => apply commit_of_stays hv
  | true => simp [commit, hv, Records.event?] at h

/-- A commit adds no events. -/
theorem mem_of_mem_commit {c : Conditions} {r : Records} {e : Event}
    (h : e ∈ (c.commit r).events) :
  e ∈ r.events
  := by
  simp only [commit] at h
  split at h
  · cases h
  · apply h

end Conditions

namespace State

/-! ### Steps and runs -/

/-- What a step is answered. -/
def answer (s : State) (x : Step) : Except Failure Answer :=
  (s.perform x.conditions x.context x.request).1

/-- The state after a step. -/
def after (s : State) (x : Step) : State :=
  (s.perform x.conditions x.context x.request).2

/-- The state after some steps. -/
def run (s : State) (steps : List Step) : State :=
  steps.foldl after s

@[simp]
theorem run_nil (s : State) :
  s.run [] = s
  := rfl

@[simp]
theorem run_cons (s : State) (x : Step) (xs : List Step) :
  s.run (x :: xs) = (s.after x).run xs
  := rfl

@[simp]
theorem run_append (s : State) (xs ys : List Step) :
  s.run (xs ++ ys) = (s.run xs).run ys
  := List.foldl_append

/-- No step changes the catalog. -/
@[simp]
theorem catalog_after (s : State) (x : Step) :
  (s.after x).catalog = s.catalog
  := by
  simp only [after]
  cases x.request <;> rfl

@[simp]
theorem catalog_run (s : State) (steps : List Step) :
  (s.run steps).catalog = s.catalog
  := by
  induction steps generalizing s with
  | nil => rfl
  | cons x xs ih => rw [run_cons, ih, catalog_after]

/-- A step leaves the records alone or commits a change. -/
theorem after_cases (s : State) (x : Step) :
  (s.after x).records = s.records
    ∨ ∃ r, s.Change x.conditions x.context x.request r
      ∧ (s.after x).records = x.conditions.commit r
  := by
  rcases s.perform_cases x.conditions x.context x.request with ⟨-, h⟩ | ⟨f, -, h⟩ | h
  · left
    rw [after, h]
  · left
    apply h
  · right
    apply h

/-- What holds of the records and is kept by every change and every commit of a run holds of the
records after the run. -/
theorem run_records {s : State} {steps : List Step} {P : Records → Prop} (h : P s.records)
    (change : ∀ (t : State) (r : Records), t.catalog = s.catalog → P t.records → ∀ x ∈ steps,
      t.Change x.conditions x.context x.request r → P r)
    (commit : ∀ (r : Records), P r → ∀ x ∈ steps, P (x.conditions.commit r)) :
  P (s.run steps).records
  := by
  induction steps generalizing s with
  | nil => apply h
  | cons x xs ih =>
    have hx : P (s.after x).records := by
      rcases s.after_cases x with hr | ⟨r, hr, hc⟩
      · rw [hr]
        apply h
      · rw [hc]
        apply commit r _ x List.mem_cons_self
        apply change s r rfl h x List.mem_cons_self hr
    apply ih hx
    · intro t r ht hP y hy
      rw [catalog_after] at ht
      apply change t r ht hP y (List.mem_cons_of_mem x hy)
    · intro r hP y hy
      apply commit r hP y (List.mem_cons_of_mem x hy)

/-- Where a property holds of the records after a step exactly when the step does not break it, it
holds all along a run exactly when no step breaks it. -/
theorem run_prefixes_iff {s : State} {P : Records → Prop} {Breaks : State → Step → Prop}
    (h : P s.records)
    (after : ∀ (t : State) (x : Step), t.catalog = s.catalog → P t.records →
      (P (t.after x).records ↔ ¬ Breaks t x)) (steps : List Step) :
  (∀ xs, xs <+: steps → P (s.run xs).records)
    ↔ ∀ xs x, xs ++ [x] <+: steps → ¬ Breaks (s.run xs) x
  := by
  constructor
  · intro hP xs x hx
    have hxs := hP xs (List.IsPrefix.trans (List.prefix_append xs [x]) hx)
    apply (after (s.run xs) x (catalog_run s xs) hxs).mp
    have hafter := hP (xs ++ [x]) hx
    rw [run_append] at hafter
    apply hafter
  -- from the end of the prefix, as a step is judged by the state that it finds
  · intro hB xs
    induction xs using List.reverseRecOn with
    | nil =>
      intro
      apply h
    | append_singleton xs x ih =>
      intro hx
      have hxs := ih (List.IsPrefix.trans (List.prefix_append xs [x]) hx)
      rw [run_append]
      apply (after (s.run xs) x (catalog_run s xs) hxs).mpr (hB xs x hx)

end State

/-! ### A small workshop -/

namespace Sample

/-- The instant so many hours after the beginning of some day, counted up to a thousand. -/
def hour (n : Nat) : Instant :=
  ⟨63900000000000000 + n % 1000 * 3600000000, by omega⟩

/-- One lathe, and two orders, the first of which has an operation on the lathe. -/
def catalog : Catalog where
  machines := [⟨"lathe", "L1", "Lathe", "turning", "active", true, none⟩]
  orders := [⟨1, "MO-1", none, none⟩, ⟨2, "MO-2", none, none⟩]
  operations := [⟨⟨1, some 10, "Shaft", some "lathe", none⟩, "turn"⟩]

/-- A workshop where nothing is planned yet. -/
def state : State where
  catalog := catalog
  shelf := { base := ["documents"] }

/-- An event that books the lathe. -/
def event (id : String) (start stop : Nat) : Event where
  id := id
  machineId := some "lathe"
  title := "Shaft"
  start := hour start
  stop := hour stop
  createdAt := hour 0
  updatedAt := hour 0

/-- A workshop with one event. -/
def opened : State :=
  { state with records := { events := [event "first" 8 12] } }

/-- A draft that asks for the lathe. -/
def draft (start stop : Nat) : EventDraft where
  machineId := some "lathe"
  start := hour start
  stop := hour stop

/-- A request made by one user, where nothing fails. -/
def step (now : Nat) (request : Request) : Step where
  conditions := { now := hour now }
  context := { actor := "user" }
  request := request

end Sample

end Workshop
