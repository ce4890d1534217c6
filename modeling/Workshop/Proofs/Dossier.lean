import Workshop.Proofs.History

/-!
# Dossiers

The dossier of an event is all that is stored about it: the event itself, its comments, its links,
the documents that they lead to, and its entries in the audit trail.  `Dossier.Next` lists the ways
in which one commit adds to a dossier, and `State.run_dossier` is the induction by which properties
of the dossiers are proved.
-/

namespace Workshop

/-- All that is stored about an event. -/
structure Dossier where
  event : Option Event
  comments : List Comment
  links : List DocumentLink
  documents : List Document
  audit : List Audit.Entry
deriving DecidableEq, Repr, Inhabited

/-- The dossier with one more entry of the audit trail. -/
def Dossier.enter (d : Dossier) (context : Audit.Context) (action : Audit.Action) (id : String)
    (time : Instant) : Dossier :=
  { d with audit := d.audit ++ [⟨context, action, id, time⟩] }

namespace Records

variable {r : Records} {id eventId : String} {context : Audit.Context} {action : Audit.Action}
  {time : Instant} {e : Event}

/-- The dossier of the event with the given id. -/
def dossier (r : Records) (id : String) : Dossier where
  event := r.event? id
  comments := r.comments.filter (·.eventId == id)
  links := r.links.filter (·.eventId == id)
  documents := r.documents.filter fun d => r.isLinked id d.id
  audit := r.audit.filter (·.eventId == id)

/-! ### Rows of the event -/

theorem dossier_audited_self :
  (r.audited context action id time).dossier id = (r.dossier id).enter context action id time
  := by
  have haudit : (r.audited context action id time).audit.filter (·.eventId == id)
      = r.audit.filter (·.eventId == id) ++ [⟨context, action, id, time⟩] := by
    simp [audited, List.filter_append]
  simp only [dossier, haudit]
  rfl

theorem dossier_insertEvent_self (absent : r.event? e.id = none) :
  dossier { r with events := r.events ++ [e] } e.id = { r.dossier e.id with event := some e }
  := by
  have hevent : event? { r with events := r.events ++ [e] } e.id = some e := by
    simp only [event?, List.find?_append] at *
    simp [absent]
  simp only [dossier, hevent]
  rfl

theorem dossier_replaceEvent_self {e' : Event} (found : r.event? e.id = some e)
    (hid : e'.id = e.id) :
  (r.replaceEvent e').dossier e.id = { r.dossier e.id with event := some e' }
  := by
  have hevent : (r.replaceEvent e').event? e.id = some e' := by
    rw [event?_replaceEvent, if_pos hid.symm, found, Option.map_some]
  simp only [dossier, hevent]
  rfl

theorem dossier_insertComment_self (m : Comment) :
  dossier { r with comments := r.comments ++ [m] } m.eventId
    = { r.dossier m.eventId with comments := (r.dossier m.eventId).comments ++ [m] }
  := by
  have hcomments : (r.comments ++ [m]).filter (·.eventId == m.eventId)
      = r.comments.filter (·.eventId == m.eventId) ++ [m] := by
    simp [List.filter_append]
  simp only [dossier, hcomments]
  rfl

/-! ### Rows of other events -/

theorem dossier_audited (h : eventId ≠ id) :
  (r.audited context action eventId time).dossier id = r.dossier id
  := by
  have haudit : (r.audited context action eventId time).audit.filter (·.eventId == id)
      = r.audit.filter (·.eventId == id) := by
    simp [audited, List.filter_append, h]
  simp only [dossier, haudit]
  rfl

theorem dossier_insertEvent (h : e.id ≠ id) :
  dossier { r with events := r.events ++ [e] } id = r.dossier id
  := by
  have hevent : event? { r with events := r.events ++ [e] } id = r.event? id := by
    simp [event?, List.find?_append, h]
  simp only [dossier, hevent]
  rfl

theorem dossier_replaceEvent (h : e.id ≠ id) :
  (r.replaceEvent e).dossier id = r.dossier id
  := by
  have hevent : (r.replaceEvent e).event? id = r.event? id := by
    rw [event?_replaceEvent, if_neg h.symm]
  simp only [dossier, hevent]
  rfl

theorem dossier_insertComment {m : Comment} (h : m.eventId ≠ id) :
  dossier { r with comments := r.comments ++ [m] } id = r.dossier id
  := by
  have hcomments : (r.comments ++ [m]).filter (·.eventId == id)
      = r.comments.filter (·.eventId == id) := by
    simp [List.filter_append, h]
  simp only [dossier, hcomments]
  rfl

/-- Documents and links of any event add to a dossier the links that are its own, and perhaps
documents. -/
theorem dossier_attach (r : Records) (id : String) (documents : List Document)
    (links : List DocumentLink) :
  ∃ documents', (r.dossier id).documents.Sublist documents'
    ∧ dossier { r with documents := r.documents ++ documents, links := r.links ++ links } id
      = { r.dossier id with
          documents := documents'
          links := (r.dossier id).links ++ links.filter (·.eventId == id) }
  := by
  refine ⟨_, ?_, by simp only [dossier, List.filter_append]; rfl⟩
  apply List.sublist_append_of_sublist_left
  apply List.monotone_filter_right
  intro d hd
  simp only [isLinked, List.any_append, Bool.or_eq_true] at *
  left
  apply hd

end Records

/-! ### What a commit adds -/

/-- `Dossier.Next catalog c context id d d'` says that one commit turns the dossier `d` of the event
with the given id into `d'`, under the conditions `c` and asked for by `context`.  A commit that is
about another event may add documents, where a link was left without one. -/
inductive Dossier.Next (catalog : Catalog) (c : Conditions) (context : Audit.Context)
    (id : String) (d : Dossier) : Dossier → Prop where
  | other {documents : List Document} (grown : d.documents.Sublist documents) :
    Next catalog c context id d { d with documents }
  | create {draft : EventDraft} {b : Booking} (absent : d.event = none)
      (resolved : draft.resolve catalog id context.actor c.now = .ok b) :
    Next catalog c context id d
      (Dossier.enter { d with event := some b.event } context (.ofCreated b.event) id c.now)
  | patch {p : EventPatch} {tokens : Event.Tokens} {e : Event} {b : Booking} {stamp : Instant}
      (found : d.event = some e) (isOpen : e.archivedAt = none)
      (resolved : p.resolve catalog e = .ok b)
      (stamped : Instant.next? e.updatedAt c.now = some stamp) :
    Next catalog c context id d
      (Dossier.enter { d with event := some (p.apply e b.event context.actor stamp) } context
        (.update p tokens b.event.snapshot) id c.now)
  | archive {e : Event} {stamp : Instant}
      (found : d.event = some e) (isOpen : e.archivedAt = none)
      (stamped : Instant.next? e.updatedAt c.now = some stamp) :
    Next catalog c context id d
      (Dossier.enter { d with event := some (e.archive context.actor stamp) } context .archive id
        c.now)
  | comment {e : Event} {commentId body : String}
      (found : d.event = some e) (isOpen : e.archivedAt = none)
      (absent : ∀ m ∈ d.comments, m.id ≠ commentId) :
    Next catalog c context id d
      (Dossier.enter
        { d with comments := d.comments ++ [⟨commentId, id, body, some context.actor, c.now⟩] }
        context (.comment commentId) id c.now)
  | upload {e : Event} {us : List Upload} {documents : List Document}
      (found : d.event = some e) (isOpen : e.archivedAt = none)
      (grown : d.documents.Sublist documents) :
    Next catalog c context id d
      (Dossier.enter
        { d with documents, links := d.links ++ us.map (·.link id context.actor c.now) } context
        (.upload us.length) id c.now)

/-- A change turns every dossier into a next one. -/
theorem State.Change.next {s : State} {c : Conditions} {context : Audit.Context}
    {request : Request} {r : Records} (change : s.Change c context request r) (id : String) :
  Dossier.Next s.catalog c context id (s.records.dossier id) (r.dossier id)
  := by
  have hsame : ∀ d, Dossier.Next s.catalog c context id d d := by
    intro d
    apply Dossier.Next.other (List.Sublist.refl d.documents)
  cases change with
  | @create id' d b resolved _ _ absent =>
    obtain ⟨-, -, -, -, -, -, hid, -⟩ := EventDraft.of_resolve resolved
    subst hid
    by_cases h : b.event.id = id
    · subst h
      rw [Records.dossier_audited_self, Records.dossier_insertEvent_self absent]
      apply Dossier.Next.create absent resolved
    · rw [Records.dossier_audited h, Records.dossier_insertEvent h]
      apply hsame
  | @patch id' p tokens e b stamp _ found isOpen resolved _ stamped =>
    have hid := EventPatch.id_apply resolved context.actor stamp
    obtain rfl := Records.id_of_event? found
    by_cases h : e.id = id
    · subst h
      rw [Records.dossier_audited_self, Records.dossier_replaceEvent_self found hid]
      apply Dossier.Next.patch found isOpen resolved stamped
    · rw [Records.dossier_audited h, Records.dossier_replaceEvent]
      · apply hsame
      · rw [hid]
        apply h
  | @archive id' e stamp found isOpen stamped =>
    have hid := e.id_archive context.actor stamp
    obtain rfl := Records.id_of_event? found
    by_cases h : e.id = id
    · subst h
      rw [Records.dossier_audited_self, Records.dossier_replaceEvent_self found hid]
      apply Dossier.Next.archive found isOpen stamped
    · rw [Records.dossier_audited h, Records.dossier_replaceEvent]
      · apply hsame
      · rw [hid]
        apply h
  | archiveAgain => apply hsame
  | @comment eventId commentId body e found isOpen absent =>
    by_cases h : eventId = id
    · subst h
      have hinsert := s.records.dossier_insertComment_self
        ⟨commentId, eventId, body, some context.actor, c.now⟩
      rw [Records.dossier_audited_self, hinsert]
      apply Dossier.Next.comment found isOpen
      intro m hm
      simpa using List.find?_eq_none.mp absent m (List.mem_of_mem_filter hm)
    · rw [Records.dossier_audited h, Records.dossier_insertComment h]
      apply hsame
  | @upload eventId files us e _ _ found isOpen _ _ =>
    obtain ⟨documents, grown, hattach⟩ := s.records.dossier_attach id
      (us.map (·.document c.now)) (us.map (·.link eventId context.actor c.now))
    by_cases h : eventId = id
    · subst h
      have hown : (us.map (·.link eventId context.actor c.now)).filter (·.eventId == eventId)
          = us.map (·.link eventId context.actor c.now) := by
        simp [List.filter_eq_self, Upload.link]
      rw [Records.dossier_audited_self, hattach, hown]
      apply Dossier.Next.upload found isOpen grown
    · have hnone : (us.map (·.link eventId context.actor c.now)).filter (·.eventId == id) = [] := by
        simp [List.filter_eq_nil_iff, Upload.link, h]
      rw [Records.dossier_audited h, hattach, hnone, List.append_nil]
      apply Dossier.Next.other grown

/-! ### Runs -/

/-- What holds of the dossier of an event and of every next one holds of it after a run, as long as
no other client deletes rows. -/
theorem State.run_dossier {s : State} {steps : List Step} {id : String} {P : Dossier → Prop}
    (h : P (s.records.dossier id)) (stays : ∀ x ∈ steps, x.conditions.vanishes = false)
    (next : ∀ x ∈ steps, ∀ d d', P d →
      Dossier.Next s.catalog x.conditions x.context id d d' → P d') :
  P ((s.run steps).records.dossier id)
  := by
  apply run_records (P := fun r => P (r.dossier id)) h
  · intro t r ht hP x hx change
    apply next x hx _ _ hP
    rw [← ht]
    apply change.next
  · intro r hP x hx
    rw [Conditions.commit_of_stays (stays x hx)]
    apply hP

end Workshop
