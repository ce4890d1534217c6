import Mathlib
import Workshop.State

/-!
# When statements go through

A statement on the records goes through exactly when every check in it passes, and then it leaves
the records that it is meant to leave.  The statements below are those of which the requests are
made; a request that comes as far as its last statement commits.
-/

namespace Workshop

open Storage

/-! ### Computations that may fail -/

/-- A computation that continues another one has a result exactly when the other one has a result
from which it does. -/
theorem bind_eq_ok_iff {ε α β : Type} {x : Except ε α} {f : α → Except ε β} {b : β} :
  x >>= f = .ok b ↔ ∃ a, x = .ok a ∧ f a = .ok b
  := by
  cases x with
  | error e => simp [bind, Except.bind]
  | ok a => simp [bind, Except.bind]

/-- A computation behind a check has a result exactly when the check passes and it does. -/
theorem check_bind_eq_ok_iff {ε β : Type} {x : Except ε Unit} {f : Unit → Except ε β} {b : β} :
  x >>= f = .ok b ↔ x = .ok () ∧ f () = .ok b
  := by
  rw [bind_eq_ok_iff]
  constructor
  · rintro ⟨⟨⟩, hx, hf⟩
    use hx
  · rintro ⟨hx, hf⟩
    use ()

/-- A computation fails as another one does that begins alike, if it does so behind the common
beginning. -/
theorem bind_eq_error_of_bind {ε α β γ : Type} {x : Except ε α} {f : α → Except ε β}
    {g : α → Except ε γ} {e : ε} (h : x >>= f = .error e)
    (hfg : ∀ a, f a = .error e → g a = .error e) :
  x >>= g = .error e
  := by
  cases x with
  | error _ =>
    cases h
    rfl
  | ok a => apply hfg a h

theorem return_eq_ok_iff {ε α : Type} {a b : α} :
  (return a : Except ε α) = .ok b ↔ b = a
  := by
  constructor
  · rintro ⟨⟩
    rfl
  · rintro rfl
    rfl

theorem mapError_eq_ok_iff {ε δ α : Type} {x : Except ε α} {f : ε → δ} {a : α} :
  x.mapError f = .ok a ↔ x = .ok a
  := by
  cases x <;> simp [Except.mapError]

theorem map_eq_ok_iff {ε α β : Type} {x : Except ε α} {f : α → β} {b : β} :
  x.map f = .ok b ↔ ∃ a, x = .ok a ∧ f a = b
  := by
  cases x <;> simp [Except.map]

theorem map_eq_error_iff {ε α β : Type} {x : Except ε α} {f : α → β} {e : ε} :
  x.map f = .error e ↔ x = .error e
  := by
  cases x <;> simp [Except.map]

theorem forM_eq_ok_iff {ε α : Type} {f : α → Except ε Unit} {as : List α} :
  as.forM f = .ok () ↔ ∀ a ∈ as, f a = .ok ()
  := by
  induction as with
  | nil => simp [pure, Except.pure]
  | cons a as ih =>
    rw [List.forall_mem_cons, ← ih]
    apply check_bind_eq_ok_iff

/-- Whether the computation, if it fails, fails with an error that satisfies `P`. -/
structure FailsAs {ε α : Type} (P : ε → Prop) (x : Except ε α) : Prop where
  of_error : ∀ e, x = .error e → P e

section

variable {ε δ α β : Type} {P : ε → Prop} {x : Except ε α}

theorem failsAs_ok {a : α} :
  FailsAs P (.ok a)
  := by
  constructor
  rintro e ⟨⟩

theorem failsAs_error {e : ε} (h : P e) :
  FailsAs P (.error e : Except ε α)
  := by
  constructor
  rintro e ⟨⟩
  apply h

theorem FailsAs.mono {Q : ε → Prop} (hx : FailsAs P x) (h : ∀ e, P e → Q e) :
  FailsAs Q x
  := by
  constructor
  intro e he
  apply h e (hx.of_error e he)

theorem failsAs_bind {f : α → Except ε β} (hx : FailsAs P x)
    (hf : ∀ a, x = .ok a → FailsAs P (f a)) :
  FailsAs P (x >>= f)
  := by
  cases x with
  | ok a => apply hf a rfl
  | error e => apply failsAs_error (hx.of_error e rfl)

theorem failsAs_ite {p : Prop} [Decidable p] {y : Except ε α} (hx : FailsAs P x)
    (hy : FailsAs P y) :
  FailsAs P (if p then x else y)
  := by
  split
  · apply hx
  · apply hy

theorem failsAs_mapError {f : δ → ε} {y : Except δ α} (h : ∀ e, y = .error e → P (f e)) :
  FailsAs P (y.mapError f)
  := by
  cases y with
  | ok a => apply failsAs_ok
  | error e => apply failsAs_error (h e rfl)

end

/-! ### Lookups -/

/-- What is found under a key does not depend on entries with other keys. -/
theorem lookup_filter {α β : Type} [BEq α] [LawfulBEq α] {key : α} (p : α → Prop)
    [DecidablePred p] (h : p key) (entries : List (α × β)) :
  (entries.filter fun e => p e.1).lookup key = entries.lookup key
  := by
  induction entries with
  | nil => rfl
  | cons e es ih =>
    by_cases he : key = e.1
    · rw [List.filter_cons_of_pos (by simpa [← he] using h), List.lookup, List.lookup]
      simp [he]
    · have hne : (key == e.1) = false := by simpa using he
      rw [List.filter_cons]
      split <;> simp only [List.lookup, hne, ih]

/-! ### Checks -/

theorem requireStorable_eq_ok_iff {n : Option Int} :
  requireStorable n = .ok () ↔ ∀ i ∈ n, Storable i
  := by
  simp only [requireStorable]
  split <;> simp_all

theorem requireNone_eq_ok_iff {v : Option Violation} :
  requireNone v = .ok () ↔ v = none
  := by
  cases v <;> simp [requireNone]

theorem requireUnused_eq_ok_iff {taken : Bool} {v : Violation} :
  requireUnused taken v = .ok () ↔ taken = false
  := by
  cases taken <;> simp [requireUnused]

theorem Event.requireCountable_eq_ok_iff {e : Event} :
  e.requireCountable = .ok () ↔ e.version ≠ lastVersion
  := by
  simp only [requireCountable]
  split <;> simp_all

theorem Event.nextStamp_eq_ok_iff {e : Event} {now stamp : Instant} :
  e.nextStamp now = .ok stamp ↔ Instant.next? e.updatedAt now = some stamp
  := by
  simp only [nextStamp]
  split <;> simp_all

namespace Records

variable {r r' : Records} {c : Conditions}

/-! ### Reading -/

theorem mem_of_event? {id : String} {e : Event} (h : r.event? id = some e) :
  e ∈ r.events
  := List.mem_of_find?_eq_some h

theorem id_of_event? {id : String} {e : Event} (h : r.event? id = some e) :
  e.id = id
  := by
  simpa using List.find?_some h

theorem lock_eq_ok_iff {id : String} {e : Event} :
  r.lock c id = .ok e ↔ (c.during .lock).attempt .eventSelect = .ok () ∧ r.event? id = some e
  := by
  simp only [lock, check_bind_eq_ok_iff]
  cases r.event? id <;> simp [pure, Except.pure]

theorem lockOpen_eq_ok_iff {id : String} {e : Event} :
  r.lockOpen c id = .ok e ↔
    (c.during .lock).attempt .eventSelect = .ok () ∧ r.event? id = some e ∧ e.archivedAt = none
  := by
  simp only [lockOpen, bind_eq_ok_iff, lock_eq_ok_iff, Event.isArchived]
  constructor
  · rintro ⟨a, ⟨hc, ha⟩, h⟩
    cases hn : a.archivedAt with
    | none =>
      simp only [hn, Option.isSome_none, Bool.false_eq_true, if_false, return_eq_ok_iff] at h
      subst h
      use hc, ha, hn
    | some i => simp [hn] at h
  · rintro ⟨hc, he, hn⟩
    use e, ⟨hc, he⟩
    simp [hn, return_eq_ok_iff]

theorem findClashes_eq_ok_iff {catalog : Catalog} {resource : Resource} {span : Interval}
    {exclude : Option String} {found : List Clash} :
  r.findClashes c catalog resource span exclude = .ok found ↔
    c.attempt .eventSelect = .ok () ∧ found = r.clashes catalog resource span exclude
  := by
  simp only [findClashes, check_bind_eq_ok_iff, return_eq_ok_iff]

theorem listComments_eq_ok_iff {catalog : Catalog} {id : String} {found : List CommentView} :
  r.listComments c catalog id = .ok found ↔
    c.attempt .commentSelect = .ok () ∧ found = r.commentsOf catalog id
  := by
  simp only [listComments, check_bind_eq_ok_iff, return_eq_ok_iff]

theorem reloadComment_eq_ok_iff {catalog : Catalog} {id : String} {v : CommentView} :
  r.reloadComment c catalog id = .ok v ↔
    c.attempt .commentSelect = .ok () ∧ ∃ m, r.comment? id = some m ∧ v = catalog.viewComment m
  := by
  simp only [reloadComment, check_bind_eq_ok_iff]
  cases r.comment? id <;> simp [return_eq_ok_iff]

theorem listDocuments_eq_ok_iff {id : String} {found : List Document} :
  r.listDocuments c id = .ok found ↔
    c.attempt .documentSelect = .ok () ∧ found = r.documentsOf id
  := by
  simp only [listDocuments, check_bind_eq_ok_iff, return_eq_ok_iff]

/-- A detail is made of the view of an event, its comments and its documents, which are all read. -/
theorem detail_eq_ok_iff {catalog : Catalog} {id : String} {d : EventDetail} :
  r.detail c catalog id = .ok d ↔
    r.view c catalog id = .ok (some d.event)
      ∧ (c.attempt .commentSelect = .ok () ∧ d.comments = r.commentsOf catalog id)
      ∧ c.attempt .documentSelect = .ok () ∧ d.documents = r.documentsOf id
  := by
  rw [detail, bind_eq_ok_iff]
  constructor
  · rintro ⟨_ | v, hv, hd⟩
    · cases hd
    · simp only [bind_eq_ok_iff, listComments_eq_ok_iff, listDocuments_eq_ok_iff,
        return_eq_ok_iff] at hd
      obtain ⟨_, ⟨hc, rfl⟩, _, ⟨hd, rfl⟩, rfl⟩ := hd
      exact ⟨hv, ⟨hc, rfl⟩, hd, rfl⟩
  · rintro ⟨hv, hcomments, hdocuments⟩
    use some d.event, hv
    simp only [bind_eq_ok_iff, listComments_eq_ok_iff, listDocuments_eq_ok_iff]
    exact ⟨_, hcomments, _, hdocuments, rfl⟩

theorem mem_blockers_iff {resource : Resource} {span : Interval} {exclude : Option String}
    {e : Event} :
  e ∈ r.blockers resource span exclude ↔
    e ∈ r.events ∧ e.Blocks resource span ∧ given exclude ≠ some e.id
  := by
  simp only [blockers, mem_sortBy, List.mem_filter, decide_eq_true_eq]

/-- A report of no clashes means that no event stands in the way, as a report leaves out events
only behind the first. -/
theorem clashes_eq_nil_iff {catalog : Catalog} {resource : Resource} {span : Interval}
    {exclude : Option String} :
  r.clashes catalog resource span exclude = [] ↔ r.blockers resource span exclude = []
  := by
  simp [clashes, clashLimit]

/-- A booking is free exactly when nothing is checked, or it allows overlaps, or the events in its
way are looked for and there are none. -/
theorem requireFree_eq_ok_iff {catalog : Catalog} {resource : Resource} {span : Interval}
    {allowOverlap : Bool} {exclude : Option String} :
  r.requireFree c catalog resource span allowOverlap exclude = .ok () ↔
    (c.skipsCheck = true ∨ allowOverlap = true)
      ∨ (c.during .check).attempt .eventSelect = .ok () ∧ r.blockers resource span exclude = []
  := by
  simp only [requireFree, Bool.or_eq_true]
  split
  · simp_all
  · rename_i h
    simp only [h, bind_eq_ok_iff, findClashes_eq_ok_iff, false_or]
    constructor
    · rintro ⟨found, ⟨hc, rfl⟩, hf⟩
      use hc
      rw [← @clashes_eq_nil_iff r catalog]
      simpa using hf
    · rintro ⟨hc, hb⟩
      use [], ⟨hc, (clashes_eq_nil_iff.mpr hb).symm⟩
      rfl

/-! ### Rows in place of others -/

/-- An event of the records in which `e` has replaced another one is `e` or one with another id. -/
theorem mem_replaceEvent {a e : Event} (h : a ∈ (r.replaceEvent e).events) :
  a = e ∨ a ∈ r.events ∧ a.id ≠ e.id
  := by
  obtain ⟨old, hold, rfl⟩ := List.mem_map.mp h
  split
  · left
    rfl
  · rename_i hne
    right
    use hold

/-- Under its own id the event `e` is found if one was found before, and under any other id what
was found before. -/
theorem event?_replaceEvent {e : Event} {id : String} :
  (r.replaceEvent e).event? id = if id = e.id then (r.event? id).map fun _ => e else r.event? id
  := by
  simp only [event?, replaceEvent]
  induction r.events with
  | nil => simp
  | cons a as ih =>
    rw [List.map_cons, List.find?_cons, List.find?_cons, ih]
    by_cases ha : a.id = e.id <;> by_cases hid : id = e.id <;> grind

/-- An event that replaces the one found under an id is found under it. -/
theorem event?_replaceEvent_of_found {e old : Event} {id : String}
    (found : r.event? id = some old) (hid : e.id = old.id) :
  (r.replaceEvent e).event? id = some e
  := by
  rw [event?_replaceEvent, hid, id_of_event? found, if_pos rfl, found]
  rfl

/-- Where something holds of all events, it holds of all of them after one is replaced exactly when
it holds of the new one. -/
theorem forall_mem_replaceEvent_iff {P : Event → Prop} {e old : Event} {id : String}
    (h : ∀ a ∈ r.events, P a) (found : r.event? id = some old) (hid : e.id = old.id) :
  (∀ a ∈ (r.replaceEvent e).events, P a) ↔ P e
  := by
  constructor
  · intro hr
    apply hr e (mem_of_event? (event?_replaceEvent_of_found found hid))
  · intro he a ha
    rcases mem_replaceEvent ha with rfl | ⟨ha, -⟩
    · apply he
    · apply h a ha

/-! ### Writing -/

theorem insertEvent_eq_ok_iff {e : Event} :
  r.insertEvent c e = .ok r' ↔
    c.attempt .eventInsert = .ok () ∧ (∀ i ∈ e.orderId, Storable i) ∧ e.defect? = none
      ∧ r.event? e.id = none ∧ r' = { r with events := r.events ++ [e] }
  := by
  simp only [insertEvent, check_bind_eq_ok_iff, requireStorable_eq_ok_iff, requireNone_eq_ok_iff,
    requireUnused_eq_ok_iff, return_eq_ok_iff, Option.isSome_eq_false_iff,
    Option.isNone_iff_eq_none]

theorem insertComment_eq_ok_iff {m : Comment} :
  r.insertComment c m = .ok r' ↔
    c.attempt .commentInsert = .ok () ∧ r.comment? m.id = none
      ∧ r' = { r with comments := r.comments ++ [m] }
  := by
  simp only [insertComment, check_bind_eq_ok_iff, requireUnused_eq_ok_iff,
    return_eq_ok_iff, Option.isSome_eq_false_iff, Option.isNone_iff_eq_none]

theorem insertDocument_eq_ok_iff {d : Document} :
  r.insertDocument c d = .ok r' ↔
    c.attempt .documentInsert = .ok () ∧ r.document? d.id = none
      ∧ r' = { r with documents := r.documents ++ [d] }
  := by
  simp only [insertDocument, check_bind_eq_ok_iff, requireUnused_eq_ok_iff,
    return_eq_ok_iff, Option.isSome_eq_false_iff, Option.isNone_iff_eq_none]

theorem insertLink_eq_ok_iff {l : DocumentLink} :
  r.insertLink c l = .ok r' ↔
    c.attempt .linkInsert = .ok () ∧ r.isLinked l.eventId l.documentId = false
      ∧ r' = { r with links := r.links ++ [l] }
  := by
  simp only [insertLink, check_bind_eq_ok_iff, requireUnused_eq_ok_iff, return_eq_ok_iff,
    isLinked]

/-- The records with one more entry in the audit trail. -/
def audited (r : Records) (context : Audit.Context) (action : Audit.Action) (id : String)
    (time : Instant) : Records :=
  { r with audit := r.audit ++ [⟨context, action, id, time⟩] }

@[simp]
theorem event?_audited {context : Audit.Context} {action : Audit.Action} {id id' : String}
    {time : Instant} :
  (r.audited context action id time).event? id' = r.event? id'
  := rfl

/-- An entry in the audit trail makes a difference. -/
theorem audited_ne {context : Audit.Context} {action : Audit.Action} {id : String}
    {time : Instant} (h : r'.audit = r.audit) :
  r'.audited context action id time ≠ r
  := by
  intro heq
  have := congrArg (fun r => r.audit.length) heq
  simp [audited, h] at this

theorem conclude_eq_ok_iff {context : Audit.Context} {id : String} {action : Audit.Action} :
  r.conclude c context id action = .ok r' ↔
    (c.attempt .auditInsert = .ok () ∧ c.attempt .commit = .ok ())
      ∧ r' = r.audited context action id c.now
  := by
  simp only [conclude, check_bind_eq_ok_iff, return_eq_ok_iff, audited, and_assoc]

theorem updatePatched_eq_ok_iff {p : EventPatch} {tokens : Event.Tokens} {current e : Event} :
  r.updatePatched c p tokens current e = .ok r' ↔
    c.attempt .eventUpdate = .ok () ∧ (∀ i ∈ p.orderId.join, Storable i)
      ∧ (∀ i ∈ tokens.version, Storable i) ∧ tokens.Fresh current ∧ e.defect? = none
      ∧ r' = r.replaceEvent e
  := by
  simp only [updatePatched, check_bind_eq_ok_iff, requireStorable_eq_ok_iff]
  by_cases h : tokens.Fresh current
  · simp only [h, if_true, check_bind_eq_ok_iff, requireNone_eq_ok_iff, return_eq_ok_iff,
      true_and]
  · simp [h]

end Records

end Workshop
