import Workshop.Proofs.Dossier

/-!
# The audit trail is a complete ledger

The entries of an event tell when it was made and archived, `Dossier.IsChronicled`, and they account
for its comments and its links, `Dossier.IsTallied`.  As every change of a dossier enters what was
done, and nothing else is entered, both hold of all dossiers along a run that starts without
records: `State.audit_is_ledger`.
-/

namespace Workshop

/-- The value that a record holds under a name. -/
def Json.field? (v : Json) (name : String) : Option Json :=
  match v with
  | .obj fields => fields.lookup name
  | _ => none

namespace Dossier

variable {d d' : Dossier} {x : Audit.Entry}

/-- The entries of one kind of action. -/
def entries (d : Dossier) (name : String) : List Audit.Entry :=
  d.audit.filter (·.action.name == name)

/-- Whether the event is archived. -/
def IsArchived (d : Dossier) : Prop :=
  ∃ e ∈ d.event, e.archivedAt ≠ none

/-- Whether the entries tell that the event was made, before all else and once, and that it was
archived, after all else and once. -/
structure IsChronicled (d : Dossier) : Prop where
  entered : d.audit ≠ [] ↔ d.event ≠ none
  /-- The entry of the creation is the first one. -/
  created : d.entries "planning.events.create" = d.audit.head?.toList
  /-- The entry of the archival is the last one. -/
  archived : d.IsArchived → d.entries "planning.events.archive" = d.audit.getLast?.toList
  unarchived : ¬ d.IsArchived → d.entries "planning.events.archive" = []

/-- Whether the entries list the comments on the event, and count its links. -/
structure IsTallied (d : Dossier) : Prop where
  commented :
    (d.entries "planning.events.comment.create").map (·.action.details.field? "comment_id")
      = d.comments.map fun m => some (.str m.id)
  distinct : (d.comments.map (·.id)).Nodup
  uploaded : ∃ counts : List Nat,
    (d.entries "planning.events.documents.upload").map (·.action.details.field? "count")
      = counts.map (fun n => some (.int n))
      ∧ counts.sum = d.links.length

theorem entries_of_enter (entered : d'.audit = d.audit ++ [x]) (name : String) :
  d'.entries name = d.entries name ++ if x.action.name = name then [x] else []
  := by
  simp only [entries, entered, List.filter_append, List.filter_singleton, cond_eq_ite, beq_iff_eq]

theorem not_isArchived_of_isOpen {e : Event} (found : d.event = some e)
    (isOpen : e.archivedAt = none) :
  ¬ d.IsArchived
  := by
  rintro ⟨e', he', harchived⟩
  rw [found] at he'
  cases he'
  contradiction

/-! ### Creation and archival -/

namespace IsChronicled

/-- Without an event there are no entries, and the first one is that of the creation. -/
theorem create {e : Event} (h : d.IsChronicled) (absent : d.event = none)
    (made : d'.event = some e) (isOpen : e.archivedAt = none)
    (entered : d'.audit = d.audit ++ [x]) (hx : x.action.name = "planning.events.create") :
  d'.IsChronicled
  := by
  have hempty : d.audit = [] := by
    by_contra hne
    apply h.entered.mp hne absent
  rw [hempty, List.nil_append] at entered
  have hopen := not_isArchived_of_isOpen made isOpen
  constructor
  · simp [entered, made]
  · rw [entries, entered, List.filter_singleton, hx]
    rfl
  · intro harchived
    contradiction
  · intro _
    rw [entries, entered, List.filter_singleton, hx]
    rfl

/-- The entry of the creation stays the first one. -/
theorem created_of_enter {e : Event} (h : d.IsChronicled) (found : d.event = some e)
    (entered : d'.audit = d.audit ++ [x]) (hx : x.action.name ≠ "planning.events.create") :
  d'.entries "planning.events.create" = d'.audit.head?.toList
  := by
  have hne : d.audit ≠ [] := by
    apply h.entered.mpr
    simp [found]
  rw [entries_of_enter entered, if_neg hx, List.append_nil, h.created, entered,
    List.head?_append_of_ne_nil _ hne]

/-- Other entries are made only while the event is not archived. -/
theorem keep {e e' : Event} (h : d.IsChronicled) (found : d.event = some e)
    (isOpen : e.archivedAt = none) (kept : d'.event = some e') (staysOpen : e'.archivedAt = none)
    (entered : d'.audit = d.audit ++ [x])
    (hx : x.action.name ∉ ["planning.events.create", "planning.events.archive"]) :
  d'.IsChronicled
  := by
  simp only [List.mem_cons, List.not_mem_nil, or_false, not_or] at hx
  have hopen := not_isArchived_of_isOpen kept staysOpen
  constructor
  · simp [entered, kept]
  · apply h.created_of_enter found entered hx.1
  · intro harchived
    contradiction
  · intro _
    rw [entries_of_enter entered, if_neg hx.2, List.append_nil]
    apply h.unarchived
    apply not_isArchived_of_isOpen found isOpen

/-- The entry of the archival is the last one when it is made. -/
theorem archive {e e' : Event} (h : d.IsChronicled) (found : d.event = some e)
    (isOpen : e.archivedAt = none) (kept : d'.event = some e') (closed : e'.archivedAt ≠ none)
    (entered : d'.audit = d.audit ++ [x]) (hx : x.action.name = "planning.events.archive") :
  d'.IsChronicled
  := by
  have hnone := h.unarchived (not_isArchived_of_isOpen found isOpen)
  constructor
  · simp [entered, kept]
  · apply h.created_of_enter found entered
    rw [hx]
    decide
  · intro _
    rw [entries_of_enter entered, if_pos hx, hnone, entered]
    simp
  · intro hopen
    absurd hopen
    use e', kept

theorem next {catalog : Catalog} {c : Conditions} {context : Audit.Context} {id : String}
    (h : d.IsChronicled) (next : Dossier.Next catalog c context id d d') :
  d'.IsChronicled
  := by
  cases next with
  | other => exact ⟨h.entered, h.created, h.archived, h.unarchived⟩
  | create absent resolved =>
    exact h.create absent rfl (EventDraft.isNew_of_resolve resolved).archivedAt rfl rfl
  | patch found isOpen resolved stamped =>
    refine h.keep found isOpen rfl ?_ rfl (by simp [Audit.Action.name])
    rw [EventPatch.archivedAt_apply]
    apply isOpen
  | archive found isOpen stamped =>
    exact h.archive found isOpen rfl (Option.some_ne_none _) rfl rfl
  | comment found isOpen absent =>
    exact h.keep found isOpen found isOpen rfl (by simp [Audit.Action.name])
  | upload found isOpen grown =>
    exact h.keep found isOpen found isOpen rfl (by simp [Audit.Action.name])

end IsChronicled

/-! ### Comments and links -/

namespace IsTallied

/-- Other entries leave comments and links alone. -/
theorem keep (h : d.IsTallied) (comments : d'.comments = d.comments) (links : d'.links = d.links)
    (entered : d'.audit = d.audit ++ [x])
    (hx : x.action.name ∉
      ["planning.events.comment.create", "planning.events.documents.upload"]) :
  d'.IsTallied
  := by
  simp only [List.mem_cons, List.not_mem_nil, or_false, not_or] at hx
  constructor
  · rw [entries_of_enter entered, if_neg hx.1, List.append_nil, comments]
    apply h.commented
  · rw [comments]
    apply h.distinct
  · rw [entries_of_enter entered, if_neg hx.2, List.append_nil, links]
    apply h.uploaded

theorem comment {m : Comment} (h : d.IsTallied) (absent : ∀ old ∈ d.comments, old.id ≠ m.id)
    (comments : d'.comments = d.comments ++ [m]) (links : d'.links = d.links)
    (entered : d'.audit = d.audit ++ [x]) (hx : x.action = .comment m.id) :
  d'.IsTallied
  := by
  have hname : x.action.name = "planning.events.comment.create" := by
    rw [hx]
    rfl
  have hid : x.action.details.field? "comment_id" = some (.str m.id) := by
    rw [hx]
    rfl
  constructor
  · rw [entries_of_enter entered, if_pos hname, comments, List.map_append, List.map_append,
      h.commented, List.map_singleton, List.map_singleton, hid]
  · rw [comments, List.map_append, List.map_singleton, ← List.concat_eq_append,
      List.nodup_concat]
    refine ⟨?_, h.distinct⟩
    intro hmem
    obtain ⟨old, hold, heq⟩ := List.mem_map.mp hmem
    apply absent old hold heq
  · rw [entries_of_enter entered, if_neg (by rw [hname]; decide), List.append_nil, links]
    apply h.uploaded

theorem upload {added : List DocumentLink} (h : d.IsTallied) (comments : d'.comments = d.comments)
    (links : d'.links = d.links ++ added) (entered : d'.audit = d.audit ++ [x])
    (hx : x.action = .upload added.length) :
  d'.IsTallied
  := by
  have hname : x.action.name = "planning.events.documents.upload" := by
    rw [hx]
    rfl
  have hcount : x.action.details.field? "count" = some (.int added.length) := by
    rw [hx]
    rfl
  constructor
  · rw [entries_of_enter entered, if_neg (by rw [hname]; decide), List.append_nil, comments]
    apply h.commented
  · rw [comments]
    apply h.distinct
  · obtain ⟨counts, hcounts, hsum⟩ := h.uploaded
    use counts ++ [added.length]
    constructor
    · rw [entries_of_enter entered, if_pos hname, List.map_append, List.map_append, hcounts,
        List.map_singleton, List.map_singleton, hcount]
    · rw [links, List.sum_append, List.length_append, hsum, List.sum_singleton]

theorem next {catalog : Catalog} {c : Conditions} {context : Audit.Context} {id : String}
    (h : d.IsTallied) (next : Dossier.Next catalog c context id d d') :
  d'.IsTallied
  := by
  cases next with
  | other => exact ⟨h.commented, h.distinct, h.uploaded⟩
  | create => exact h.keep rfl rfl rfl (by simp [Audit.Action.name, Audit.Action.ofCreated])
  | patch => exact h.keep rfl rfl rfl (by simp [Audit.Action.name])
  | archive => exact h.keep rfl rfl rfl (by simp [Audit.Action.name])
  | @comment e commentId body _ _ absent =>
    exact h.comment (m := ⟨commentId, id, body, some context.actor, c.now⟩) absent rfl rfl rfl rfl
  | upload =>
    refine h.upload rfl rfl rfl ?_
    rw [List.length_map]

end IsTallied

end Dossier

/-! ### Runs -/

/-- The audit trail is a complete ledger.  Along a run that starts without records, and as long as
no other client deletes rows, the entries of every event tell whether there is an event with this id
and whether it is archived, list its comments and count its links. -/
theorem State.audit_is_ledger {s : State} {steps : List Step} (h : s.records = {})
    (stays : ∀ x ∈ steps, x.conditions.vanishes = false) (id : String) :
  ((s.run steps).records.dossier id).IsChronicled
    ∧ ((s.run steps).records.dossier id).IsTallied
  := by
  apply run_dossier (P := fun d => d.IsChronicled ∧ d.IsTallied) _ stays
  · rintro x - d d' ⟨hchronicled, htallied⟩ next
    exact ⟨hchronicled.next next, htallied.next next⟩
  · rw [h]
    constructor
    · exact ⟨by simp [Records.dossier, Records.event?], rfl, fun _ => rfl, fun _ => rfl⟩
    · exact ⟨rfl, List.nodup_nil, [], rfl, rfl⟩

namespace Sample

/-- A file with the given id. -/
def file (id : String) : SentFile where
  documentId := id
  name := "shaft.pdf"
  bytes := []

/-- An event is made, noted on, moved and archived, and files are sent for it.  One note is lost, as
it cannot be entered in the audit trail, and one comes too late. -/
def career : List Step :=
  [ step 1 (.create "first" (draft 8 12)),
    step 2 (.comment "first" "note" "Bring coolant"),
    { step 3 (.comment "first" "lost" "And a bucket") with
      conditions := { now := hour 3, fault := some (.auditInsert, .outage) } },
    step 4 (.upload "first" [file "drawing", file "sketch"]),
    step 5 (.patch "first" { start := some (hour 7) } {}),
    step 6 (.archive "first"),
    step 7 (.comment "first" "plea" "Still needed"),
    step 8 (.archive "first") ]

end Sample

/-- Nothing is entered that did not happen, and what happened is entered once. -/
theorem State.ledger_of_career :
  ((Sample.state.run Sample.career).records.dossier "first").audit.map (·.action.name)
      = [ "planning.events.create", "planning.events.comment.create",
          "planning.events.documents.upload", "planning.events.update", "planning.events.archive" ]
    ∧ ((Sample.state.run Sample.career).records.dossier "first").comments.map (·.id) = ["note"]
    ∧ ((Sample.state.run Sample.career).records.dossier "first").IsChronicled
    ∧ ((Sample.state.run Sample.career).records.dossier "first").IsTallied
  := by
  have stays : ∀ x ∈ Sample.career, x.conditions.vanishes = false := by decide
  have hledger := @audit_is_ledger Sample.state Sample.career rfl stays "first"
  exact ⟨by decide +kernel, by decide +kernel, hledger⟩

end Workshop
