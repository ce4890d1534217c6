import Workshop.Proofs.History

/-!
# All or nothing

A request that changes the records writes all of its rows, together with one entry of the audit
trail, or none of them.  `State.Completes` says what records a request leads to if it writes all,
and `State.all_or_nothing` that no failure of any statement leads to other ones.  An answer that
fails leaves the records alone, unless nothing fails but the reading behind the commit of what was
written: `State.FailsToReload` says which this is.
-/

namespace Workshop

open Storage

/-! ### The rows of a request -/

namespace SentFile

/-- The document that a file becomes. -/
def document (f : SentFile) (now : Instant) : Document :=
  ⟨f.documentId, f.name,
    if FileName.isPdf (some f.name) f.mediaType then some "PDF" else f.mediaType, now⟩

/-- The link of the document to the event. -/
def link (f : SentFile) (eventId actor : String) (now : Instant) : DocumentLink :=
  ⟨eventId, f.documentId, if FileName.isPdf (some f.name) f.mediaType then some "PDF" else none,
    some actor, now⟩

end SentFile

namespace Shelf

variable {shelf : Shelf} {files : List SentFile} {eventId actor : String} {now : Instant}

theorem map_document_spoolAll :
  (shelf.spoolAll files).1.map (·.document now) = files.map (·.document now)
  := by
  induction files generalizing shelf with
  | nil => rfl
  | cons f fs ih =>
    simp only [spoolAll, List.map_cons, ih]
    rfl

theorem map_link_spoolAll :
  (shelf.spoolAll files).1.map (·.link eventId actor now) = files.map (·.link eventId actor now)
  := by
  induction files generalizing shelf with
  | nil => rfl
  | cons f fs ih =>
    simp only [spoolAll, List.map_cons, ih]
    rfl

end Shelf

/-- Where no two events share an id, putting an event in the place of those with one id changes a
single row. -/
theorem Event.map_exchange {before after : List Event} {e e' : Event}
    (keyed : ((before ++ e :: after).map (·.id)).Nodup) :
  (before ++ e :: after).map (fun old => if old.id = e.id then e' else old)
    = before ++ e' :: after
  := by
  rw [List.map_append, List.map_cons, List.nodup_middle, List.nodup_cons,
    ← List.map_append] at keyed
  have hkept : ∀ a ∈ before ++ after, (if a.id = e.id then e' else a) = a := by
    intro a ha
    rw [if_neg]
    intro heq
    apply keyed.1
    rw [← heq]
    apply List.mem_map_of_mem ha
  rw [List.map_append, List.map_cons, if_pos rfl,
    List.map_congr_left fun a ha => hkept a (List.mem_append_left after ha),
    List.map_congr_left fun a ha => hkept a (List.mem_append_right before ha), List.map_id',
    List.map_id']

/-- Whether `r'` are the records `r` with the event `e'` in the place of the event `e` of the same
id, which is a single row where no two events share an id. -/
structure Records.Exchanges (r r' : Records) (e e' : Event) : Prop where
  found : r.event? e.id = some e
  id : e'.id = e.id
  records : r' = { r with events := r.events.map fun old => if old.id = e.id then e' else old }
  single : r.IsKeyed →
    ∃ before after, r.events = before ++ e :: after ∧ r'.events = before ++ e' :: after

theorem Records.exchanges_replaceEvent {r : Records} {id : String} {e e' : Event}
    (found : r.event? id = some e) (hid : e'.id = e.id) :
  r.Exchanges (r.replaceEvent e') e e'
  := by
  constructor
  · rw [id_of_event? found]
    apply found
  · apply hid
  · rw [replaceEvent, hid]
  · intro keyed
    obtain ⟨before, after, hsplit⟩ := List.append_of_mem (mem_of_event? found)
    rw [IsKeyed, hsplit] at keyed
    use before, after, hsplit
    simp only [replaceEvent, hsplit, hid, Event.map_exchange keyed]

/-- The event that a request is about, if the request may change the records. -/
def Request.subject? : Request → Option String
  | .create id _ => some id
  | .patch id _ _ => some id
  | .archive id => some id
  | .comment id _ _ => some id
  | .upload id _ => some id
  | _ => none

/-- The name under which a request is entered in the audit trail, if it may change the records. -/
def Request.actionName? : Request → Option String
  | .create .. => some "planning.events.create"
  | .patch .. => some "planning.events.update"
  | .archive .. => some "planning.events.archive"
  | .comment .. => some "planning.events.comment.create"
  | .upload .. => some "planning.events.documents.upload"
  | _ => none

/-- `s.Writes x r` says that the records `r` are those of the state `s` with all rows that the step
`x` is to write, but for the entry in the audit trail: one event that is added, one event that is
changed, one comment, or one document and one link for each file. -/
inductive State.Writes (s : State) (x : Step) : Records → Prop where
  | create {id : String} {d : EventDraft} {b : Booking} (asked : x.request = .create id d)
      (resolved : d.resolve s.catalog id x.context.actor x.conditions.now = .ok b)
      (absent : s.records.event? id = none) :
    Writes s x { s.records with events := s.records.events ++ [b.event] }
  | patch {id : String} {p : EventPatch} {tokens : Event.Tokens} {e : Event} {b : Booking}
      {stamp : Instant} {r : Records} (asked : x.request = .patch id p tokens)
      (found : s.records.event? id = some e) (resolved : p.resolve s.catalog e = .ok b)
      (stamped : Instant.next? e.updatedAt x.conditions.now = some stamp)
      (exchanges : s.records.Exchanges r e (p.apply e b.event x.context.actor stamp)) :
    Writes s x r
  | archive {id : String} {e : Event} {stamp : Instant} {r : Records}
      (asked : x.request = .archive id) (found : s.records.event? id = some e)
      (stamped : Instant.next? e.updatedAt x.conditions.now = some stamp)
      (exchanges : s.records.Exchanges r e (e.archive x.context.actor stamp)) :
    Writes s x r
  | comment {eventId id body : String} (asked : x.request = .comment eventId id body)
      (absent : s.records.comment? id = none) :
    Writes s x
      { s.records with
        comments := s.records.comments
          ++ [⟨id, eventId, body, some x.context.actor, x.conditions.now⟩] }
  | upload {eventId : String} {files : List SentFile} (asked : x.request = .upload eventId files)
      (nonempty : files ≠ []) :
    Writes s x
      { s.records with
        documents := s.records.documents ++ files.map (·.document x.conditions.now)
        links := s.records.links
          ++ files.map (·.link eventId x.context.actor x.conditions.now) }

/-- Whether the records `r` are those of the state `s` with all that the step `x` is to write: all
of its rows, and one entry of the audit trail that names those who asked for it, what was done and
the event to which it was done. -/
def State.Completes (s : State) (x : Step) (r : Records) : Prop :=
  ∃ rows entry, s.Writes x rows ∧ r = { rows with audit := s.records.audit ++ [entry] }
    ∧ entry.context = x.context ∧ x.request.actionName? = some entry.action.name
    ∧ x.request.subject? = some entry.eventId

/-- Whether the step is to archive an event that is archived already. -/
def State.IsSettled (s : State) (x : Step) : Prop :=
  ∃ id e, x.request = .archive id ∧ s.records.event? id = some e ∧ e.archivedAt ≠ none

/-- A change writes all that the step is to write, but nothing where an archived event is to be
archived. -/
theorem State.Change.completes {s : State} {x : Step} {r : Records}
    (change : s.Change x.conditions x.context x.request r) :
  s.Completes x r ∨ r = s.records ∧ s.IsSettled x
  := by
  obtain ⟨c, context, request⟩ := x
  cases change with
  | @create id d b resolved _ _ absent =>
    obtain ⟨-, -, -, -, -, -, hid, -⟩ := EventDraft.of_resolve resolved
    rw [hid] at absent
    left
    refine ⟨_, _, .create rfl resolved absent, rfl, rfl, rfl, ?_⟩
    rw [hid]
    rfl
  | @patch id p tokens e b stamp _ found _ resolved _ stamped =>
    have hid := EventPatch.id_apply resolved context.actor stamp
    left
    refine ⟨_, _, .patch rfl found resolved stamped (Records.exchanges_replaceEvent found hid),
      rfl, rfl, rfl, ?_⟩
    rw [Records.id_of_event? found]
    rfl
  | @archive id e stamp found _ stamped =>
    left
    refine ⟨_, _, .archive rfl found stamped (Records.exchanges_replaceEvent found rfl), rfl, rfl,
      rfl, ?_⟩
    rw [Records.id_of_event? found]
    rfl
  | @archiveAgain id e found archived =>
    right
    exact ⟨rfl, id, e, rfl, found, archived⟩
  | comment _ _ absent =>
    left
    exact ⟨_, _, .comment rfl absent, rfl, rfl, rfl, rfl⟩
  | @upload eventId files us e spooled nonempty =>
    have hfiles : files ≠ [] := by
      rintro rfl
      apply nonempty spooled
    left
    refine ⟨_, ⟨context, .upload us.length, eventId, c.now⟩, .upload rfl hfiles, ?_, rfl, rfl, rfl⟩
    rw [spooled, Shelf.map_document_spoolAll, Shelf.map_link_spoolAll]
    rfl

/-! ### Answers that fail -/

namespace Records

variable {r : Records} {c : Conditions} {catalog : Catalog} {context : Audit.Context}
  {id : String} {f : Failure}

/-- Where the event is there, reading it again fails only if its view cannot be read. -/
theorem view_of_reload_error (found : r.event? id ≠ none)
    (h : r.reload c catalog id = .error f) :
  r.view (c.during .reload) catalog id = .error f
  := by
  cases hv : r.view (c.during .reload) catalog id with
  | error f' =>
    simp only [reload, hv] at h
    cases h
    rfl
  | ok v =>
    have hfound : v ≠ none := by
      simp only [view, check_bind_eq_ok_iff, return_eq_ok_iff] at hv
      simpa [hv.2.2] using found
    obtain ⟨w, rfl⟩ := Option.ne_none_iff_exists'.mp hfound
    simp only [reload, hv] at h
    cases h

/-- Where the comment is there, reading it again fails only if comments cannot be read. -/
theorem attempt_of_reloadComment_error (found : r.comment? id ≠ none)
    (h : r.reloadComment c catalog id = .error f) :
  c.attempt .commentSelect = .error f
  := by
  obtain ⟨m, hm⟩ := Option.ne_none_iff_exists'.mp found
  cases ha : c.attempt .commentSelect with
  | error g =>
    rw [reloadComment, ha] at h
    cases h
    rfl
  | ok _ =>
    rw [reloadComment, ha, hm] at h
    cases h

theorem attempt_of_listDocuments_error (h : r.listDocuments c id = .error f) :
  c.attempt .documentSelect = .error f
  := by
  cases ha : c.attempt .documentSelect with
  | error g =>
    rw [listDocuments, ha] at h
    cases h
    rfl
  | ok _ =>
    rw [listDocuments, ha] at h
    cases h

end Records

/-- Whether the answer to the request shows the event with the given id as it is after the
commit. -/
def Request.Reloads (id : String) : Request → Prop
  | .create id' _ => id' = id
  | .patch id' _ _ => id' = id
  | _ => False

/-- `s.FailsToReload x f` says that the step `x` ends in the failure `f` because what it has stored
cannot be read again: the event that it has created or patched, the comment that it has added, or
the documents of the event to which it has added some. -/
inductive State.FailsToReload (s : State) (x : Step) (f : Failure) : Prop where
  | event {id : String} (asked : x.request.Reloads id)
      (fails : (s.after x).records.view (x.conditions.during .reload) s.catalog id = .error f) :
    FailsToReload s x f
  | comment {eventId id body : String} (asked : x.request = .comment eventId id body)
      (fails : x.conditions.attempt .commentSelect = .error f) :
    FailsToReload s x f
  | documents {eventId : String} {files : List SentFile} (asked : x.request = .upload eventId files)
      (fails : x.conditions.attempt .documentSelect = .error f) :
    FailsToReload s x f

namespace State

variable {s : State} {x : Step} {f : Failure}

/-- A step that fails leaves the records alone, unless it fails to read again what it has stored. -/
theorem of_answer_error (stays : x.conditions.vanishes = false) (h : s.answer x = .error f) :
  (s.after x).records = s.records ∨ s.FailsToReload x f
  := by
  obtain ⟨c, context, request⟩ := x
  have hcommit := Conditions.commit_of_stays stays
  simp only [answer, after] at *
  cases request with
  | create id d =>
    rcases s.records.create_cases c context id s.catalog d with ⟨f', hr⟩ | ⟨b, r', hb, hw, hr⟩
    · left
      simp only [perform, withRecords, hr]
    · right
      simp only [perform, withRecords, hr, hcommit, map_eq_error_iff] at h
      obtain ⟨-, -, -, -, -, -, hid, -⟩ := EventDraft.of_resolve hb
      obtain ⟨-, -, -, rfl⟩ := Records.writeCreated_eq_ok_iff.mp hw
      refine .event (show Request.Reloads id _ from rfl) ?_
      simp only [after, perform, withRecords, hr, hcommit]
      apply Records.view_of_reload_error _ h
      simp [Records.event?, Records.audited, hid]
  | patch id p tokens =>
    rcases s.records.patch_cases c context id s.catalog p tokens with
      ⟨f', hr⟩ | ⟨e, b, r', -, hl, hb, hw, hr⟩
    · left
      simp only [perform, withRecords, hr]
    · right
      simp only [perform, withRecords, hr, hcommit, map_eq_error_iff] at h
      obtain ⟨-, found, -⟩ := Records.lockOpen_eq_ok_iff.mp hl
      obtain ⟨-, stamp, -, -, -, rfl⟩ := Records.writePatched_eq_ok_iff.mp hw
      refine .event (show Request.Reloads id _ from rfl) ?_
      simp only [after, perform, withRecords, hr, hcommit]
      apply Records.view_of_reload_error _ h
      rw [Records.event?_audited, Records.event?_replaceEvent, found]
      split <;> simp
  | archive id =>
    rcases s.records.archive_cases c context id with
      ⟨f', hr⟩ | ⟨e, -, -, hr⟩ | ⟨e, r', -, -, -, hr⟩
    · left
      simp only [perform, withRecords, hr]
    · simp [perform, withRecords, hr, Except.map] at h
    · simp [perform, withRecords, hr, Except.map] at h
  | comment eventId id body =>
    rcases s.records.comment_cases c context id s.catalog eventId body with
      ⟨f', hr⟩ | ⟨r', hw, hr⟩
    · left
      simp only [perform, withRecords, hr]
    · right
      simp only [perform, withRecords, hr, hcommit, map_eq_error_iff] at h
      apply FailsToReload.comment rfl
      apply Records.attempt_of_reloadComment_error _ h
      simp [Records.comment?_of_writeComment hw]
  | upload eventId files =>
    rcases s.records.attach_cases c context eventId (s.shelf.spoolAll files).2
      (s.shelf.spoolAll files).1 with ⟨f', shelf', hr, -⟩ | ⟨r', shelf', -, -, hr⟩
    · left
      simp only [perform, upload, hr]
    · right
      simp only [perform, upload, hr, map_eq_error_iff] at h
      apply FailsToReload.documents rfl (Records.attempt_of_listDocuments_error h)
  | detail _ => exact .inl rfl
  | list _ => exact .inl rfl
  | resources _ => exact .inl rfl
  | document _ _ => exact .inl rfl
  | clashes _ _ _ => exact .inl rfl

/-- All or nothing.  Whatever fails, as long as no other client deletes rows, a step leaves the
records alone or writes all that it is to write.  It leaves them alone where it is answered with a
failure, unless it fails only to read again what it has stored.  It writes everything where it is
answered otherwise, unless it only reads or is to archive an archived event. -/
theorem all_or_nothing (stays : x.conditions.vanishes = false) :
  ((s.after x).records = s.records ∨ s.Completes x (s.after x).records)
    ∧ (∀ f, s.answer x = .error f → (s.after x).records = s.records ∨ s.FailsToReload x f)
    ∧ ∀ a, s.answer x = .ok a → s.Completes x (s.after x).records
      ∨ (s.after x).records = s.records ∧ (x.request.IsReading ∨ s.IsSettled x)
  := by
  have hcommit := Conditions.commit_of_stays stays
  refine ⟨?_, fun f => of_answer_error stays, ?_⟩
  · rcases s.after_cases x with hr | ⟨r, change, hr⟩
    · left
      apply hr
    · rw [hr, hcommit]
      rcases change.completes with h | ⟨h, -⟩
      · right
        apply h
      · left
        apply h
  · intro a ha
    rcases s.perform_cases x.conditions x.context x.request with
      ⟨hreading, hr⟩ | ⟨f, hf, -⟩ | ⟨r, change, hr⟩
    · right
      rw [after, hr]
      exact ⟨rfl, .inl hreading⟩
    · rw [answer, hf] at ha
      cases ha
    · rw [after, hr, hcommit]
      rcases change.completes with h | ⟨h, hsettled⟩
      · left
        apply h
      · right
        exact ⟨h, .inr hsettled⟩

end State

namespace Sample

/-- An event that cannot be read again once it is stored. -/
def blinded : Step :=
  { step 1 (.create "first" (draft 8 12)) with
    conditions := { now := hour 1, fault := some (.eventSelect, .outage), stage := some .reload } }

/-- A comment that cannot be read again once it is stored. -/
def remarking : Step :=
  { step 1 (.comment "first" "remark" "Check the bearings") with
    conditions := { now := hour 1, fault := some (.commentSelect, .outage) } }

/-- A file whose document cannot be read again once it is stored. -/
def filing : Step :=
  { step 1 (.upload "first" [{ documentId := "plan", name := "plan.pdf", bytes := [37] }]) with
    conditions := { now := hour 1, fault := some (.documentSelect, .outage) } }

end Sample

/-- The event is stored, and entered in the audit trail, though it cannot be shown. -/
theorem State.completes_blinded :
  Sample.state.answer Sample.blinded = .error .unavailable
    ∧ Sample.state.Completes Sample.blinded (Sample.state.after Sample.blinded).records
    ∧ Sample.state.FailsToReload Sample.blinded .unavailable
  := by
  have hanswer : Sample.state.answer Sample.blinded = .error .unavailable := by decide
  have hchanged : (Sample.state.after Sample.blinded).records ≠ Sample.state.records := by decide
  obtain ⟨hrows, hfailure, -⟩ := @all_or_nothing Sample.state Sample.blinded rfl
  exact ⟨hanswer, hrows.resolve_left hchanged, (hfailure _ hanswer).resolve_left hchanged⟩

/-- It is not only the event whose reading can fail when everything is stored already: the comment
and the document stay, and so do their entries in the audit trail, though both requests are answered
with a failure and neither is to read the event again. -/
theorem State.stores_unread :
  (Sample.remarking.conditions.vanishes = false ∧ (¬ ∃ id, Sample.remarking.request.Reloads id)
      ∧ Sample.opened.answer Sample.remarking = .error .unavailable
      ∧ (Sample.opened.after Sample.remarking).records ≠ Sample.opened.records)
    ∧ Sample.filing.conditions.vanishes = false ∧ (¬ ∃ id, Sample.filing.request.Reloads id)
      ∧ Sample.opened.answer Sample.filing = .error .unavailable
      ∧ (Sample.opened.after Sample.filing).records ≠ Sample.opened.records
  := by
  refine ⟨⟨rfl, ?_, by decide +kernel, by decide +kernel⟩, rfl, ?_, by decide +kernel,
    by decide +kernel⟩
  · rintro ⟨id, ⟨⟩⟩
  · rintro ⟨id, ⟨⟩⟩

end Workshop
