import Workshop.Proofs.Instants
import Workshop.Proofs.Ledger
import Workshop.Proofs.Placed
import Workshop.Schema.Reader

/-!
# The audit trail replays to the stored events

`Account.replay` reads the entries of an event one after the other, and gives an account of the
event from who made them, the names of their actions and the details alone.  Along a run that
starts without events and entries the account agrees with the event that is stored:
`State.audit_replays`.  For this the details are read back with the readers of requests, so that the
texts of instants matter, and the values that an entry of a patch shows must be those that the patch
stores.
-/

namespace Workshop

open Schema

/-- What the audit trail tells of an event. -/
structure Account where
  kind : EventKind
  status : EventStatus
  priority : EventPriority
  title : String
  booking : Event.Snapshot
  createdBy : Option String
  updatedBy : Option String
  archivedBy : Option String
deriving DecidableEq, Repr, Inhabited

/-- What the audit trail is to tell of the event. -/
def Event.account (e : Event) : Account where
  kind := e.kind
  status := e.status
  priority := e.priority
  title := e.title
  booking := e.snapshot
  createdBy := e.createdBy
  updatedBy := e.updatedBy
  archivedBy := e.archivedBy

/-! ### Reading details -/

/-- What `r` reads from the value that a record holds under a name. -/
def Json.read? {α : Type} (v : Json) (name : String) (r : Reader α) : Option α :=
  (v.field? name).bind fun w => (r w).toOption

/-- Reads the values that matter to a booking. -/
def Event.Snapshot.read? (v : Json) : Option Event.Snapshot := do
  let orderId ← v.read? "order_id" (.nullable .integer)
  let operationId ← v.read? "operation_id" (.nullable .text)
  let machineId ← v.read? "machine_id" (.nullable .text)
  let workstationId ← v.read? "workstation_id" (.nullable .text)
  let start ← v.read? "start_time_utc" .instant
  let stop ← v.read? "end_time_utc" .instant
  let allowOverlap ← v.read? "allow_overlap" .boolean
  return { orderId, operationId, machineId, workstationId, start, stop, allowOverlap }

namespace Account

/-- The account of an event that `actor` has made. -/
def create? (actor : String) (details : Json) : Option Account := do
  let kind ← details.read? "kind" .word
  let status ← details.read? "status" .word
  let priority ← details.read? "priority" .word
  let title ← details.read? "title" .text
  let booking ← Event.Snapshot.read? details
  return {
    kind, status, priority, title, booking
    createdBy := some actor
    updatedBy := some actor
    archivedBy := none }

/-- The account after a patch by `actor`. -/
def update? (a : Account) (actor : String) (details : Json) : Option Account := do
  let patch ← details.field? "patch"
  let next ← details.field? "next"
  let booking ← Event.Snapshot.read? next
  return { a with
    kind := (patch.read? "kind" .word).getD a.kind
    status := (patch.read? "status" .word).getD a.status
    priority := (patch.read? "priority" .word).getD a.priority
    title := (patch.read? "title" .text).getD a.title
    booking
    updatedBy := some actor }

/-- The account after the archival by `actor`. -/
def archive (a : Account) (actor : String) : Account :=
  { a with status := .cancelled, updatedBy := some actor, archivedBy := some actor }

/-- The account after one more entry: who made it, the name of its action, and its details. -/
def enter (account : Option Account) (actor name : String) (details : Json) : Option Account :=
  if name = "planning.events.create" then create? actor details
  else if name = "planning.events.update" then account.bind fun a => a.update? actor details
  else if name = "planning.events.archive" then account.map fun a => a.archive actor
  else account

/-- The account that the entries of an event give. -/
def replay (entries : List Audit.Entry) : Option Account :=
  entries.foldl (fun a x => enter a x.context.actor x.action.name x.action.details) none

/-- How many entries are of the creation, of a patch or of the archival. -/
def revisions (entries : List Audit.Entry) : Nat :=
  entries.countP fun x =>
    x.action.name ∈
      ["planning.events.create", "planning.events.update", "planning.events.archive"]

end Account

/-- Whether the entries tell of the event, and count its versions. -/
def Event.IsTold (e : Event) (entries : List Audit.Entry) : Prop :=
  Account.replay entries = some e.account ∧ e.version = Account.revisions entries

/-! ### Reading back what was written -/

/-- A type of which every word stands for the value that it is the word of. -/
class LawfulWorded (α : Type) [Worded α] : Prop where
  read?_word : ∀ a : α, Worded.read? (Worded.word a) = some a

instance : LawfulWorded EventKind :=
  ⟨by rintro ⟨⟩ <;> rfl⟩

instance : LawfulWorded EventStatus :=
  ⟨by rintro ⟨⟩ <;> rfl⟩

instance : LawfulWorded EventPriority :=
  ⟨by rintro ⟨⟩ <;> rfl⟩

instance : LawfulWorded Event.Field :=
  ⟨by rintro ⟨⟩ <;> rfl⟩

/-- No two values share a word. -/
theorem Worded.word_inj {α : Type} [Worded α] [LawfulWorded α] {a b : α} :
  word a = word b ↔ a = b
  := by
  constructor
  · intro h
    have hread := LawfulWorded.read?_word a
    rw [h, LawfulWorded.read?_word] at hread
    cases hread
    rfl
  · rintro rfl
    rfl

namespace Schema.Reader

theorem nullable_integer_optInt (n : Option Int) :
  nullable integer (.optInt n) = .ok n
  := by
  cases n <;> rfl

theorem nullable_text_optStr (s : Option String) :
  nullable text (.optStr s) = .ok s
  := by
  cases s <;> rfl

theorem text_str (s : String) :
  text (.str s) = .ok s
  := rfl

theorem boolean_bool (b : Bool) :
  boolean (.bool b) = .ok b
  := rfl

theorem instant_toAuditText (i : Instant) :
  instant (.str i.toAuditText) = .ok i
  := by
  rw [instant, i.read_toAuditText]
  rfl

theorem word_word {α : Type} [Worded α] [LawfulWorded α] (a : α) :
  word (.str (Worded.word a)) = .ok a
  := by
  rw [word, LawfulWorded.read?_word]

end Schema.Reader

/-- A value is read back, or is absent, if it is written so that `r` reads it back. -/
theorem Json.read?_of_field {α : Type} {v : Json} {name : String} {r : Reader α} {f : α → Json}
    {o : Option α} (hr : ∀ a, r (f a) = .ok a) (h : v.field? name = o.map f) :
  v.read? name r = o
  := by
  rw [read?, h]
  cases o with
  | none => rfl
  | some a => simp [hr, Except.toOption]

/-- A record that holds the values of a snapshot is read as the snapshot. -/
theorem Event.Snapshot.read?_of_field {v : Json} {s : Event.Snapshot}
    (h : ∀ x ∈ s.entries, v.field? x.1 = some x.2) :
  read? v = some s
  := by
  simp only [entries, List.forall_mem_cons] at h
  obtain ⟨horder, hoperation, hmachine, hworkstation, hstart, hstop, hoverlap, -⟩ := h
  have hid := Reader.nullable_text_optStr
  have hinstant := Reader.instant_toAuditText
  rw [read?, Json.read?_of_field (o := some s.orderId) Reader.nullable_integer_optInt horder,
    Json.read?_of_field (o := some s.operationId) hid hoperation,
    Json.read?_of_field (o := some s.machineId) hid hmachine,
    Json.read?_of_field (o := some s.workstationId) hid hworkstation,
    Json.read?_of_field (o := some s.start) hinstant hstart,
    Json.read?_of_field (o := some s.stop) hinstant hstop,
    Json.read?_of_field (o := some s.allowOverlap) Reader.boolean_bool hoverlap]
  rfl

/-! ### The record of a patch -/

/-- Looking up a name among values that may be absent, where no two have the same name. -/
theorem lookup_filterMap {l : List (String × Option Json)} (h : (l.map (·.1)).Nodup)
    (name : String) :
  (l.filterMap fun x => x.2.map fun v => (x.1, v)).lookup name = (l.lookup name).join
  := by
  induction l with
  | nil => rfl
  | cons x xs ih =>
    obtain ⟨key, value⟩ := x
    rw [List.map_cons, List.nodup_cons] at h
    have hxs := ih h.2
    by_cases heq : name = key
    · subst heq
      cases value with
      | none =>
        have hnone : xs.lookup name = none := by
          rw [List.lookup_eq_none_iff]
          intro y hy
          have hne : name ≠ y.1 := by
            rintro rfl
            apply h.1
            apply List.mem_map_of_mem hy
          simpa using hne
        simp [hxs, hnone]
      | some v => simp
    · have hbeq : (name == key) = false := by simpa using heq
      cases value <;> simp [List.lookup_cons, hbeq, hxs]

theorem EventPatch.lookup_entries (time : Instant → String) (p : EventPatch) :
  (p.entries time).lookup "kind" = p.kind.map (fun a => .str (Worded.word a))
    ∧ (p.entries time).lookup "status" = p.status.map (fun a => .str (Worded.word a))
    ∧ (p.entries time).lookup "priority" = p.priority.map (fun a => .str (Worded.word a))
    ∧ (p.entries time).lookup "title" = p.title.map .str
  := by
  simp only [entries]
  refine ⟨?_, ?_, ?_, ?_⟩
  all_goals
    rw [lookup_filterMap]
    · rfl
    · simp only [List.map_cons, List.map_nil]
      decide

theorem Event.Tokens.lookup_entries {time : Instant → String} {t : Event.Tokens} {name : String}
    (h : name ∉ ["expected_updated_at", "expected_version"]) :
  (t.entries time).lookup name = none
  := by
  simp only [List.mem_cons, List.not_mem_nil, or_false, not_or] at h
  have hupdated : (name == "expected_updated_at") = false := by simpa using h.1
  have hversion : (name == "expected_version") = false := by simpa using h.2
  obtain ⟨updatedAt, version⟩ := t
  cases updatedAt <;> cases version <;> simp [entries, List.lookup_cons, hupdated, hversion]

/-! ### Entries of each kind -/

namespace Account

theorem create?_details (actor : String) (e : Event) :
  create? actor (Audit.Action.ofCreated e).details =
    some { e.account with
      createdBy := some actor
      updatedBy := some actor
      archivedBy := none }
  := by
  have hbooking : Event.Snapshot.read? (Audit.Action.ofCreated e).details = some e.snapshot := by
    apply Event.Snapshot.read?_of_field
    simp only [Event.Snapshot.entries, List.forall_mem_cons]
    exact ⟨rfl, rfl, rfl, rfl, rfl, rfl, rfl, by simp⟩
  rw [create?, hbooking, Json.read?_of_field (o := some e.kind) Reader.word_word rfl,
    Json.read?_of_field (o := some e.status) Reader.word_word rfl,
    Json.read?_of_field (o := some e.priority) Reader.word_word rfl,
    Json.read?_of_field (o := some e.title) Reader.text_str rfl]
  rfl

theorem update?_details (a : Account) (actor : String) (p : EventPatch) (tokens : Event.Tokens)
    (next : Event.Snapshot) :
  a.update? actor (Audit.Action.update p tokens next).details =
    some { a with
      kind := p.kind.getD a.kind
      status := p.status.getD a.status
      priority := p.priority.getD a.priority
      title := p.title.getD a.title
      booking := next
      updatedBy := some actor }
  := by
  have hnext : Event.Snapshot.read? (.obj next.entries) = some next := by
    apply Event.Snapshot.read?_of_field
    simp only [Event.Snapshot.entries, List.forall_mem_cons]
    exact ⟨rfl, rfl, rfl, rfl, rfl, rfl, rfl, by simp⟩
  -- what the client remembers stands behind the values that the patch sets, under other names
  have hfield : ∀ name, name ∉ ["expected_updated_at", "expected_version"] →
      Json.field? (.obj (p.entries Instant.toAuditText ++ tokens.entries Instant.toAuditText)) name
        = (p.entries Instant.toAuditText).lookup name := by
    intro name hname
    rw [Json.field?, List.lookup_append, Event.Tokens.lookup_entries hname, Option.or_none]
  obtain ⟨hkind, hstatus, hpriority, htitle⟩ := p.lookup_entries Instant.toAuditText
  rw [← hfield _ (by decide)] at hkind hstatus hpriority htitle
  change (Event.Snapshot.read? (.obj next.entries)).bind _ = _
  rw [hnext, Option.bind_some, Json.read?_of_field Reader.word_word hkind,
    Json.read?_of_field Reader.word_word hstatus,
    Json.read?_of_field Reader.word_word hpriority, Json.read?_of_field Reader.text_str htitle]
  rfl

variable {entries : List Audit.Entry} {x : Audit.Entry}

theorem replay_append_singleton :
  replay (entries ++ [x])
    = enter (replay entries) x.context.actor x.action.name x.action.details
  := by
  simp only [replay, List.foldl_append, List.foldl_cons, List.foldl_nil]

theorem revisions_append_singleton :
  revisions (entries ++ [x]) = revisions entries + revisions [x]
  := List.countP_append

end Account

/-! ### What the entries tell -/

namespace Event

variable {e e' : Event} {entries : List Audit.Entry} {context : Audit.Context} {id : String}
  {time : Instant}

theorem isTold_create (h : e.IsNew context.actor time) :
  e.IsTold [⟨context, .ofCreated e, id, time⟩]
  := by
  constructor
  · rw [← List.nil_append [_], Account.replay_append_singleton]
    apply (Account.create?_details context.actor e).trans
    rw [account, h.createdBy, h.updatedBy, h.archivedBy]
  · apply h.version

/-- The account of a patched event. -/
theorem account_apply {p : EventPatch} {catalog : Catalog} {b : Booking}
    (resolved : p.resolve catalog e = .ok b) (placed : e.IsPlaced catalog) (actor : String)
    (stamp : Instant) :
  (p.apply e b.event actor stamp).account =
    { e.account with
      kind := p.kind.getD e.kind
      status := p.status.getD e.status
      priority := p.priority.getD e.priority
      title := p.title.getD e.title
      booking := b.event.snapshot
      updatedBy := some actor }
  := by
  obtain ⟨-, -, -, -, -, hb⟩ := EventPatch.of_resolve resolved
  rw [account, EventPatch.snapshot_apply resolved placed, EventPatch.apply_of_resolve resolved, hb]
  rfl

namespace IsTold

theorem patch {p : EventPatch} {tokens : Tokens} {catalog : Catalog} {b : Booking}
    {stamp : Instant} (h : e.IsTold entries) (resolved : p.resolve catalog e = .ok b)
    (placed : e.IsPlaced catalog) (paced : e.IsPaced) :
  (p.apply e b.event context.actor stamp).IsTold
    (entries ++ [⟨context, .update p tokens b.event.snapshot, id, time⟩])
  := by
  obtain ⟨haccount, hversion⟩ := h
  constructor
  · rw [Account.replay_append_singleton, haccount, account_apply resolved placed]
    apply Account.update?_details
  · rw [Account.revisions_append_singleton, Nat.cast_add, ← hversion]
    exact paced.nextVersion_eq

theorem archive {stamp : Instant} (h : e.IsTold entries) (paced : e.IsPaced) :
  (e.archive context.actor stamp).IsTold (entries ++ [⟨context, .archive, id, time⟩])
  := by
  obtain ⟨haccount, hversion⟩ := h
  constructor
  · rw [Account.replay_append_singleton, haccount]
    rfl
  · rw [Account.revisions_append_singleton, Nat.cast_add, ← hversion]
    exact paced.nextVersion_eq

/-- Other entries say nothing of the event. -/
theorem append {x : Audit.Entry} (h : e.IsTold entries)
    (hx : x.action.name ∉
      ["planning.events.create", "planning.events.update", "planning.events.archive"]) :
  e.IsTold (entries ++ [x])
  := by
  obtain ⟨haccount, hversion⟩ := h
  constructor
  · simp only [List.mem_cons, List.not_mem_nil, or_false, not_or] at hx
    simp only [Account.replay_append_singleton, haccount, Account.enter, hx, if_false]
  · have hzero : Account.revisions [x] = 0 := by
      simpa [Account.revisions] using hx
    rw [Account.revisions_append_singleton, hzero, hversion]
    rfl

end IsTold

end Event

namespace Dossier

/-- Whether the entries of the dossier tell of its event.  The rest of what is required is what
makes them go on to do so. -/
structure IsTold (d : Dossier) (catalog : Catalog) : Prop where
  untold : d.event = none → d.audit = []
  told : ∀ e ∈ d.event, e.IsTold d.audit ∧ e.IsPlaced catalog ∧ e.IsPaced

namespace IsTold

variable {d d' : Dossier} {catalog : Catalog}

theorem of_empty (event : d.event = none) (audit : d.audit = []) :
  d.IsTold catalog
  := by
  constructor
  · intro _
    apply audit
  · intro e he
    rw [event] at he
    cases he

/-- Entries that say nothing of the event are made only where there is an event. -/
theorem append {x : Audit.Entry} (h : d.IsTold catalog) (found : d.event ≠ none)
    (event : d'.event = d.event) (entered : d'.audit = d.audit ++ [x])
    (hx : x.action.name ∉
      ["planning.events.create", "planning.events.update", "planning.events.archive"]) :
  d'.IsTold catalog
  := by
  constructor
  · intro hnone
    rw [event] at hnone
    contradiction
  · intro e he
    rw [event] at he
    obtain ⟨htold, hkept⟩ := h.told e he
    rw [entered]
    use htold.append hx

/-- What one commit adds to a dossier is told by what it enters. -/
theorem next {c : Conditions} {context : Audit.Context} {id : String} (h : d.IsTold catalog)
    (next : Dossier.Next catalog c context id d d') :
  d'.IsTold catalog
  := by
  cases next with
  | other => exact ⟨h.untold, h.told⟩
  | @create draft b absent resolved =>
    have hnew := EventDraft.isNew_of_resolve resolved
    refine ⟨nofun, ?_⟩
    rintro e ⟨⟩
    simp only [enter, h.untold absent, List.nil_append]
    exact ⟨Event.isTold_create hnew, EventDraft.isPlaced_of_resolve resolved, .of_isNew hnew⟩
  | @patch p tokens e b stamp found isOpen resolved stamped =>
    obtain ⟨htold, hplaced, hpaced⟩ := h.told e found
    refine ⟨nofun, ?_⟩
    rintro e' ⟨⟩
    refine ⟨htold.patch resolved hplaced hpaced, EventPatch.isPlaced_apply resolved hplaced _ _, ?_⟩
    exact hpaced.of_next? stamped (EventPatch.createdAt_apply ..) rfl rfl
  | @archive e stamp found isOpen stamped =>
    obtain ⟨htold, hplaced, hpaced⟩ := h.told e found
    refine ⟨nofun, ?_⟩
    rintro e' ⟨⟩
    exact ⟨htold.archive hpaced, hplaced.archive _ _, hpaced.of_next? stamped rfl rfl rfl⟩
  | comment found => exact h.append (by simp [found]) rfl rfl (by simp [Audit.Action.name])
  | upload found => exact h.append (by simp [found]) rfl rfl (by simp [Audit.Action.name])

end IsTold

end Dossier

/-! ### Runs -/

/-- The audit trail replays to the stored events.  Along a run that starts without events and
without entries, and as long as no other client deletes rows, the entries of every stored event
give the account of it, and count its versions. -/
theorem State.audit_replays {s : State} {steps : List Step} {e : Event}
    (events : s.records.events = []) (audit : s.records.audit = [])
    (stays : ∀ x ∈ steps, x.conditions.vanishes = false)
    (he : e ∈ (s.run steps).records.events) :
  e.IsTold ((s.run steps).records.dossier e.id).audit
  := by
  have htold : ((s.run steps).records.dossier e.id).IsTold s.catalog := by
    apply run_dossier (P := fun d => d.IsTold s.catalog) _ stays
    · intro x _ d d' hd next
      apply hd.next next
    · apply Dossier.IsTold.of_empty
      · simp [Records.dossier, Records.event?, events]
      · simp [Records.dossier, audit]
  apply (htold.told e _).1
  apply (run_isKeyed events steps).event?_of_mem he

namespace Sample

/-- The event at the end of its career. -/
def retired : Event :=
  { event "first" 7 12 with
    status := .cancelled
    title := "Planning"
    version := 3
    createdAt := hour 1
    createdBy := some "user"
    updatedAt := hour 6
    updatedBy := some "user"
    archivedAt := some (hour 6)
    archivedBy := some "user" }

end Sample

/-- The event is told of in three of its five entries. -/
theorem State.replays_career :
  Sample.retired ∈ (Sample.state.run Sample.career).records.events
    ∧ Sample.retired.IsTold ((Sample.state.run Sample.career).records.dossier "first").audit
  := by
  have stays : ∀ x ∈ Sample.career, x.conditions.vanishes = false := by decide
  have he : Sample.retired ∈ (Sample.state.run Sample.career).records.events := by decide +kernel
  exact ⟨he, audit_replays rfl rfl stays he⟩

end Workshop
