import Workshop.Proofs.Atomic
import Workshop.Proofs.Patchable
import Workshop.Proofs.Replay

/-!
# What a patch writes

A patch that is carried out leaves the records as they are, but for one entry in the audit trail and
for the event, which becomes `EventPatch.patched`: `State.patch_leaves_the_rest`.  The fields are
written one by one, each with its columns, and it does not matter in which order.
-/

namespace Workshop

/-! ### Columns -/

namespace Event

/-- The event `e` with the columns of some fields taken from `next`, and with the version, the stamp
and the author of the change. -/
def rewritten (e next : Event) (fields : List Field) (version : Int) (actor : String)
    (stamp : Instant) : Event :=
  { e.assign next fields with
    version := version
    updatedAt := stamp
    updatedBy := some actor }

variable {e next : Event} {fields fields' : List Field} {version : Int} {actor : String}
  {stamp : Instant} {time : Instant → String}

/-- What is written depends on which fields there are, but not on their order. -/
theorem rewritten_congr (h : ∀ f, f ∈ fields ↔ f ∈ fields') :
  e.rewritten next fields version actor stamp = e.rewritten next fields' version actor stamp
  := by
  have hcolumns : ∀ f, f ∈ fields.flatMap Field.columns ↔ f ∈ fields'.flatMap Field.columns := by
    simp [h]
  simp only [rewritten, assign, EventPatch.foldl_copyColumn, hcolumns]

namespace Field

/-- The column of the event, among its named values. -/
def valueIn (f : Field) (time : Instant → String) (e : Event) : Json :=
  ((e.entries time).lookup (Worded.word f)).getD .null

theorem lookup_entries (f : Field) :
  (e.entries time).lookup (Worded.word f) = some (f.valueIn time e)
  := by
  cases f <;> rfl

theorem lookup_map_word {l : List Field} {f : Field} {value : Field → Json} :
  (l.map fun g => (Worded.word g, value g)).lookup (Worded.word f)
    = if f ∈ l then some (value f) else none
  := by
  induction l with
  | nil => rfl
  | cons g l ih =>
    rw [List.map_cons, List.lookup_cons, ih]
    by_cases h : f = g
    · simp [h]
    · have hword : (Worded.word f == Worded.word g) = false := by
        rw [beq_eq_false_iff_ne, ne_eq, Worded.word_inj]
        apply h
      simp [h, hword]

/-- The columns are listed with their values in the event that they are taken from. -/
theorem assignments?_eq :
  assignments? (fields.map Worded.word) (next.entries time)
    = some ((fields.flatMap columns).eraseDups.map fun f => (Worded.word f, f.valueIn time next))
  := by
  have hread : (fields.map Worded.word).mapM (Worded.read? (α := Field)) = some fields := by
    rw [List.mapM_map]
    simp only [Function.comp_def, LawfulWorded.read?_word]
    rw [← Option.pure_def, List.mapM_pure, List.map_id']
    rfl
  simp only [assignments?, hread, lookup_entries]
  apply List.mapM_pure

theorem valueIn_rewritten (f : Field) :
  f.valueIn time (e.rewritten next fields version actor stamp)
    = if f ∈ fields.flatMap columns then f.valueIn time next else f.valueIn time e
  := by
  rw [rewritten, assign, EventPatch.foldl_copyColumn]
  by_cases h : f ∈ fields.flatMap columns
  · rw [if_pos h]
    cases f <;> simp only [h, if_true] <;> rfl
  · rw [if_neg h]
    cases f <;> simp only [h, if_false] <;> rfl

/-- Whether no update writes the column. -/
def Leaves (column : String) : Prop :=
  column ∉ (Worded.values : List Field).map Worded.word ++ ["version", "updated_at", "updated_by"]

instance : DecidablePred Leaves :=
  fun _ => inferInstanceAs (Decidable (_ ∉ _))

theorem filter_leaves_rewritten :
  (entries time (e.rewritten next fields version actor stamp)).filter (fun pair => Leaves pair.1)
    = (e.entries time).filter fun pair => Leaves pair.1
  := by
  rw [rewritten, assign, EventPatch.foldl_copyColumn]
  rfl

theorem exists_update? :
  ∃ listed,
    update? (fields.map Worded.word) (next.entries Instant.toText) actor stamp = some listed
  := by
  rw [update?, assignments?_eq]
  exact ⟨_, rfl⟩

/-- The update that is listed for the fields, in any order, is the one that is carried out: but for
the version, which is counted up besides, every column has the value that is listed for it, or else
the one that it had. -/
theorem lookup_update? {listed : List (String × Json)}
    (h : update? (fields.map Worded.word) (next.entries Instant.toText) actor stamp = some listed)
    {name : String} (hname : name ≠ "version") :
  ((e.rewritten next fields version actor stamp).entries Instant.toText).lookup name
    = (listed.lookup name).or ((e.entries Instant.toText).lookup name)
  := by
  rw [update?, assignments?_eq] at h
  cases h
  rw [List.lookup_append]
  by_cases hfield : ∃ f : Field, name = Worded.word f
  · obtain ⟨f, rfl⟩ := hfield
    have hstamps : [("updated_at", Json.str stamp.toText), ("updated_by", Json.str actor)].lookup
        (Worded.word f) = none := by
      cases f <;> rfl
    rw [lookup_map_word, lookup_entries, lookup_entries, hstamps, valueIn_rewritten]
    simp only [List.mem_eraseDups]
    split <;> rfl
  -- the other columns are those of the stamp, and those that no update writes
  · have hlisted : ∀ l : List Field,
        (l.map fun f => (Worded.word f, f.valueIn Instant.toText next)).lookup name = none := by
      intro l
      rw [List.lookup_eq_none_iff]
      intro pair hpair
      obtain ⟨f, -, rfl⟩ := List.mem_map.mp hpair
      rw [bne_iff_ne]
      rintro rfl
      exact hfield ⟨f, rfl⟩
    rw [hlisted, Option.none_or]
    by_cases hat : name = "updated_at"
    · subst hat
      rfl
    · by_cases hby : name = "updated_by"
      · subst hby
        rfl
      · have hstamps :
            [("updated_at", Json.str stamp.toText), ("updated_by", Json.str actor)].lookup name
              = none := by
          simp [hat, hby]
        have hleft : Leaves name := by
          simp only [Leaves, List.mem_append, List.mem_map]
          rintro (⟨f, -, rfl⟩ | hlast)
          · exact hfield ⟨f, rfl⟩
          · simp [hname, hat, hby] at hlast
        rw [hstamps, Option.none_or, ← lookup_filter Leaves hleft, filter_leaves_rewritten,
          lookup_filter Leaves hleft]

end Field

end Event

/-- The values that matter to a booking are among the named values of its event. -/
theorem Event.entries_snapshot (e : Event) :
  e.snapshot.entries = (e.entries Instant.toAuditText).filter fun pair => pair.1 ∈
    ["order_id", "operation_id", "machine_id", "workstation_id", "start_time_utc", "end_time_utc",
      "allow_overlap"]
  := rfl

/-! ### The event that a patch makes -/

theorem Instant.micros_of_next? {previous now stamp : Instant}
    (h : next? previous now = some stamp) :
  stamp.micros = max now.micros (previous.micros + 1)
  := by
  simp only [next?, succ?, Option.map_eq_some_iff] at h
  obtain ⟨floor, hfloor, rfl⟩ := h
  have := micros_of_ofInt? hfloor
  simp only [lt_iff]
  split <;> omega

namespace EventPatch

/-- The event that a patch makes of the event `e`: with the values that it sets, and with the
resource, if it sets any; in its next version, with a new stamp and a new author. -/
def patched (p : EventPatch) (e : Event) (resource : Resource) (actor : String)
    (stamp : Instant) : Event :=
  { e with
    kind := p.kind.getD e.kind
    status := p.status.getD e.status
    priority := p.priority.getD e.priority
    orderId := p.orderId.getD e.orderId
    operationId := p.operationId.getD e.operationId
    machineId :=
      if p.machineId ≠ none ∨ p.workstationId ≠ none then resource.machineId? else e.machineId
    workstationId :=
      if p.machineId ≠ none ∨ p.workstationId ≠ none then resource.workstationId?
      else e.workstationId
    title := p.title.getD e.title
    description := p.description.getD e.description
    start := p.start.getD e.start
    stop := p.stop.getD e.stop
    allowOverlap := p.allowOverlap.getD e.allowOverlap
    version := e.version + 1
    updatedAt := stamp
    updatedBy := some actor }

variable {p : EventPatch} {catalog : Catalog} {e : Event} {b : Booking} {actor : String}
  {stamp : Instant}

theorem apply_eq_patched (h : p.resolve catalog e = .ok b) (paced : e.IsPaced) :
  p.apply e b.event actor stamp = p.patched e b.resource actor stamp
  := by
  rw [apply_of_resolve h, (resolve_eq_ok_iff.mp h).2, paced.nextVersion_eq]
  simp only [setsResource_iff]
  rfl

theorem rewritten_eq_patched {fields : List Event.Field}
    (h : p.resolve catalog e = .ok b) (paced : e.IsPaced)
    (all : ∀ f, f ∈ fields ↔ p.sets f = true) :
  e.rewritten b.event fields (e.version + 1) actor stamp = p.patched e b.resource actor stamp
  := by
  have hfields : ∀ f, f ∈ fields ↔ f ∈ p.fields := by
    intro f
    rw [all, mem_fields]
  rw [Event.rewritten_congr hfields, ← apply_eq_patched h paced, apply, paced.nextVersion_eq]
  rfl

end EventPatch

/-- A patch touches nothing but what it sets.  After a run that starts without events, a patch that
is answered finds an event that it suits, for some resource, and makes of it the event that this
resource and the values of the patch make of it, stamped with the clock, or one microsecond after
the old stamp if the clock has not passed it.  This is also what comes of writing the listed columns
of its fields, in any order.  All else stays as it is, but for an entry in the audit trail, which
shows the columns that are stored. -/
theorem State.patch_leaves_the_rest {s : State} {steps : List Step} {x : Step} {id : String}
    {p : EventPatch} {tokens : Event.Tokens} {a : Answer} (empty : s.records.events = [])
    (asked : x.request = .patch id p tokens) (answered : (s.run steps).answer x = .ok a) :
  ∃ e resource stamp e' action before after,
    (s.run steps).records.events = before ++ e :: after ∧ e.id = id
      ∧ p.Suits s.catalog e resource
      ∧ stamp.micros = max x.conditions.now.micros (e.updatedAt.micros + 1)
      ∧ e' = p.patched e resource x.context.actor stamp
      ∧ a = .event (s.catalog.view e')
      ∧ (s.run steps).after x = { s.run steps with
          records := { (s.run steps).records with
            events := before ++ e' :: after
            audit := (s.run steps).records.audit
              ++ [⟨x.context, action, id, x.conditions.now⟩] } }
      ∧ action.details = .obj
          [ ("patch", .obj
              (p.entries Instant.toAuditText ++ tokens.entries Instant.toAuditText)),
            ("next", .obj ((e'.entries Instant.toAuditText).filter fun pair => pair.1 ∈
              ["order_id", "operation_id", "machine_id", "workstation_id", "start_time_utc",
                "end_time_utc", "allow_overlap"])) ]
      ∧ ∀ fields : List Event.Field, (∀ f, f ∈ fields ↔ p.sets f = true) →
        ∃ listed, Event.Field.update? (fields.map Worded.word)
            ((p.completed e resource).entries Instant.toText) x.context.actor stamp = some listed
          ∧ ∀ name, name ≠ "version" → (e'.entries Instant.toText).lookup name
            = (listed.lookup name).or ((e.entries Instant.toText).lookup name)
  := by
  have keyed := run_isKeyed empty steps
  have sound := run_isSound empty steps
  have placed := run_isPlaced empty steps
  obtain ⟨c, context, request⟩ := x
  subst asked
  simp only [answer, after, perform, withRecords, map_eq_ok_iff, catalog_run] at *
  obtain ⟨v, hv, rfl⟩ := answered
  obtain ⟨e, b, stamp, found, -, -, hb, -, stamped, rfl, hafter⟩ := Records.of_patch_ok hv
  have hmem := Records.mem_of_event? found
  have paced := (sound e hmem).2
  obtain ⟨hsuits, hevent⟩ := EventPatch.resolve_eq_ok_iff.mp hb
  have hid := EventPatch.id_apply hb context.actor stamp
  have hsnapshot := EventPatch.snapshot_apply hb (placed e hmem) context.actor stamp
  obtain ⟨before, after, hbefore, hexchanged⟩ :=
    (Records.exchanges_replaceEvent found hid).single keyed
  rw [EventPatch.apply_eq_patched hb paced] at hafter hsnapshot hexchanged ⊢
  refine ⟨e, b.resource, stamp, _, .update p tokens b.event.snapshot, before, after, hbefore,
    Records.id_of_event? found, hsuits, Instant.micros_of_next? stamped, rfl, rfl, ?_, ?_, ?_⟩
  · rw [hafter, ← hexchanged]
    rfl
  · rw [← hsnapshot, ← Event.entries_snapshot]
    rfl
  · intro fields all
    rw [← hevent]
    obtain ⟨listed, hlisted⟩ := @Event.Field.exists_update? b.event fields context.actor stamp
    use listed, hlisted
    intro name hname
    rw [← EventPatch.rewritten_eq_patched hb paced all]
    apply Event.Field.lookup_update? hlisted hname

namespace Sample

/-- The first booking gets another title and a later end, while the clock is set back. -/
def retitling : EventPatch where
  title := some "Axle"
  stop := some (hour 13)

end Sample

/-- The first booking has what it is given, one microsecond after it was made, and the second has
what it had. -/
theorem State.patches_retitling :
  ((Sample.state.run Sample.bookings).after
        (Sample.step 0 (.patch "first" Sample.retitling {}))).records.events.map
      (fun e => (e.id, e.title, e.stop, e.version)) =
      [("first", "Axle", Sample.hour 13, 2), ("second", "Planning", Sample.hour 16, 1)]
    ∧ ∃ e ∈ (Sample.state.run Sample.bookings).records.events, ∃ resource stamp,
      stamp.micros = e.updatedAt.micros + 1
        ∧ Sample.retitling.patched e resource "user" stamp
          ∈ ((Sample.state.run Sample.bookings).after
              (Sample.step 0 (.patch "first" Sample.retitling {}))).records.events
  := by
  constructor
  · decide +kernel
  · obtain ⟨e, resource, stamp, e', action, before, after, hbefore, -, -, hstamp, rfl, -, hafter,
      -⟩ := @patch_leaves_the_rest Sample.state Sample.bookings
        (Sample.step 0 (.patch "first" Sample.retitling {})) "first" Sample.retitling {} _ rfl rfl
        rfl
    have dated : ∀ e ∈ (Sample.state.run Sample.bookings).records.events,
        (Sample.hour 0).micros ≤ e.updatedAt.micros := by decide +kernel
    have hmem : e ∈ (Sample.state.run Sample.bookings).records.events := by simp [hbefore]
    refine ⟨e, hmem, resource, stamp, ?_, ?_⟩
    · rw [hstamp]
      apply max_eq_right
      apply Nat.le_succ_of_le (dated e hmem)
    · rw [hafter]
      simp [Sample.step]

end Workshop
