import Workshop.Api.Call
import Workshop.Proofs.Outcomes

/-!
# Replies to valid calls

A call that passes the checks of its parameters and its body, and is not about files, is replied to
by a body under one of five statuses, whatever it finds stored: `Api.replies_to_valid_calls`.  The
exceptions are the calls that strain the storage or the calendar, which may have no reply at all.
-/

namespace Workshop

/-- A refusal says that the request is wrong, that something is not found, or that something is in
the way. -/
theorem Refusal.status_mem (why : Refusal) :
  why.status ∈ [400, 404, 409]
  := by
  cases why <;> simp [status]

/-- Only a request that handles files is answered by a file. -/
theorem State.ne_file_of_perform {s : State} {c : Conditions} {context : Audit.Context}
    {request : Request} {a : Answer} (plain : ¬ request.HandlesFiles)
    (h : (s.perform c context request).1 = .ok a) (f : DocumentFile) :
  a ≠ .file f
  := by
  cases request with
  | document => exact absurd trivial plain
  | _ =>
    obtain ⟨_, -, rfl⟩ := map_eq_ok_iff.mp h
    exact Answer.noConfusion

namespace Api

/-- Whether the reply is a body under a status for success or for a refusal. -/
def Reply.IsDocumented (reply : Reply) : Prop :=
  ∃ status body, reply = .json status body ∧ status ∈ [200, 201, 400, 404, 409]

theorem Reply.isDocumented_json {status : Nat} {body : Json}
    (h : status ∈ [200, 201] ∨ status ∈ [400, 404, 409]) :
  (json status body).IsDocumented
  := by
  have hstatus : status ∈ [200, 201] ++ [400, 404, 409] := List.mem_append.mpr h
  exact ⟨status, body, rfl, hstatus⟩

theorem Reply.isDocumented_refused (why : Refusal) :
  (ofFailure (.refused why)).IsDocumented
  := isDocumented_json (.inr why.status_mem)

/-- Whether calls to the endpoint store or read files. -/
def Endpoint.HandlesFiles : Endpoint → Prop
  | upload _ | download .. => True
  | _ => False

namespace Call

/-- Whether the ids that the call brings for new rows are new. -/
def Meaning.IsFresh (r : Records) : Meaning → Prop
  | .request _ asked => asked.IsFresh r
  | _ => True

/-- Whether the call strains the storage, or the calendar, as does a listing whose range leaves the
years 1 to 9999. -/
def Meaning.Strains (s : State) : Meaning → Prop
  | .health => False
  | .request _ asked => s.Strains asked
  | .farRange => True

variable {call : Call} {m : Meaning}

theorem request_of_seq {α : Type} {f : α → Request} {x : Schema.Checked String}
    {y : Schema.Checked α} {actor : String} {request : Request}
    (h : (fun actor a => Meaning.request actor (f a)) <$> x <*> y
      = .valid (.request actor request)) :
  ∃ a, request = f a
  := by
  obtain ⟨_, a, h, -, heq⟩ := Schema.Checked.seq_eq_valid.mp h
  obtain ⟨_, -, rfl⟩ := Schema.Checked.map_eq_valid.mp h
  cases heq
  use a

/-- A call to an endpoint for no files asks for no files. -/
theorem plain_of_meaning {actor : String} {request : Request}
    (plain : ¬ call.endpoint.HandlesFiles) (h : call.meaning [] = .valid (.request actor request)) :
  ¬ request.HandlesFiles
  := by
  simp only [meaning] at h
  cases hend : call.endpoint <;> simp only [hend] at h plain
  case upload => exact absurd trivial plain
  case download => exact absurd trivial plain
  case health => cases h
  case detail =>
    cases h
    exact id
  case archive =>
    obtain ⟨_, -, heq⟩ := Schema.Checked.map_eq_valid.mp h
    cases heq
    exact id
  case resources =>
    obtain ⟨_, -, heq⟩ := Schema.Checked.map_eq_valid.mp h
    cases heq
    exact id
  case list =>
    obtain ⟨query, -, heq⟩ := Schema.Checked.map_eq_valid.mp h
    cases query <;> cases heq
    exact id
  all_goals
    obtain ⟨_, rfl⟩ := request_of_seq h
    exact id

theorem successStatus_mem (call : Call) :
  call.successStatus ∈ [200, 201]
  := by
  simp only [successStatus]
  split <;> simp

theorem isDocumented_present {a : Answer} (h : ∀ f, a ≠ .file f) :
  (call.present a).IsDocumented
  := by
  have hpresent : call.present a = .json call.successStatus a.toJson := by
    cases a with
    | file f => exact absurd rfl (h f)
    | _ => rfl
  rw [hpresent]
  apply Reply.isDocumented_json (.inl call.successStatus_mem)

end Call

/-- Valid calls are replied to.  Let the state be reached from one without events, in a catalog
whose numbers the storage can hold, and let nothing fail from outside.  Then a call that is valid,
that is not about files and whose ids for new rows are new is replied to by a body under a status
for success or for a refusal; or else it strains the storage or the calendar, and then it has no
reply, and leaves the state alone. -/
theorem replies_to_valid_calls {s : State} {steps : List Step} {c : Conditions} {call : Call}
    {m : Call.Meaning} (empty : s.records.events = []) (stored : s.catalog.IsStorable)
    (calm : c.IsCalm) (plain : ¬ call.endpoint.HandlesFiles)
    (valid : call.meaning [] = .valid m) (fresh : m.IsFresh (s.run steps).records) :
  (answer (s.run steps) c call).1.IsDocumented
    ∨ m.Strains (s.run steps) ∧ answer (s.run steps) c call = (.failed .outOfRange, s.run steps)
  := by
  have hparts : call.parts = .ok [] := by
    simp only [Call.parts]
    split
    · rename_i hupload
      simp [hupload, Endpoint.HandlesFiles] at plain
    · rfl
  rw [← State.catalog_run s steps] at stored
  have sound := State.run_isSound empty steps
  simp only [answer, hparts, valid]
  cases m with
  | health =>
    left
    exact ⟨200, _, rfl, by simp⟩
  | farRange =>
    right
    exact ⟨trivial, rfl⟩
  | request actor request =>
    have hplain := Call.plain_of_meaning plain valid
    have hsettles := @State.perform_settles (s.run steps) c (call.context actor) request calm stored
      sound hplain fresh
    rcases hperform : (s.run steps).perform c (call.context actor) request with ⟨result, t⟩
    simp only [hperform] at hsettles ⊢
    cases result with
    | ok a =>
      left
      apply Call.isDocumented_present
      apply State.ne_file_of_perform hplain
      rw [hperform]
    | error f =>
      obtain ⟨expected, rfl⟩ := hsettles f rfl
      cases f with
      | refused why =>
        left
        apply Reply.isDocumented_refused
      | outOfRange =>
        right
        exact ⟨expected, rfl⟩
      | _ => cases expected

end Api

namespace Sample

/-- A workshop in which an event was planned and is done. -/
def worked : List Step :=
  [ step 1 (.create "first" { draft 8 12 with orderId := some 2 }),
    step 13 (.patch "first" { status := some .done } {}) ]

/-- A call for the events of a day that belong to an order. -/
def asking (orderId : String) : Api.Call where
  endpoint := .list
  query :=
    [ ("range_start_utc", "2025-11-29T08:00:00Z"),
      ("range_end_utc", "2025-11-30T08:00:00Z"),
      ("order_id", orderId) ]

/-- The query that such a call asks for. -/
def query (orderId : Int) : Listing.Query where
  range := ⟨hour 0, hour 24⟩
  orderId := some orderId

end Sample

/-- There is a reply for an order that is not stored, but not for one that cannot be stored. -/
theorem Api.replies_to_asking :
  (answer (Sample.state.run Sample.worked) { now := Sample.hour 14 }
      (Sample.asking "7")).1.IsDocumented
    ∧ answer (Sample.state.run Sample.worked) { now := Sample.hour 14 }
        (Sample.asking "9223372036854775808")
      = (.failed .outOfRange, Sample.state.run Sample.worked)
  := by
  have valid : (Sample.asking "7").meaning [] = .valid (.request "" (.list (Sample.query 7))) := by
    decide +kernel
  have valid' : (Sample.asking "9223372036854775808").meaning []
      = .valid (.request "" (.list (Sample.query 9223372036854775808))) := by
    decide +kernel
  have hfails : (Sample.state.run Sample.worked).perform { now := Sample.hour 14 }
        ((Sample.asking "9223372036854775808").context "")
        (.list (Sample.query 9223372036854775808))
      = (.error .outOfRange, Sample.state.run Sample.worked) := by
    decide +kernel
  constructor
  · have hreplies := @replies_to_valid_calls Sample.state Sample.worked { now := Sample.hour 14 }
      (Sample.asking "7") _ rfl (by decide) (by decide) (fun h => h) valid trivial
    apply hreplies.resolve_right
    rintro ⟨⟨n, hn, hlarge⟩, -⟩
    cases hn
    apply hlarge
    decide
  · have hparts : (Sample.asking "9223372036854775808").parts = .ok [] := rfl
    simp only [answer, hparts, valid', hfails]
    rfl

end Workshop
