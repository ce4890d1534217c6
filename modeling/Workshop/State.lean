import Workshop.Booking.Archive
import Workshop.Comment
import Workshop.Document.Attach
import Workshop.Resource.Listing

/-!
# The state of the workshop and the requests on it

A `State` holds the catalog, the records of planning and the shelf of files.  `State.perform`
answers one request under given conditions, and returns the state after it.
-/

namespace Workshop

/-- The catalog, the records and the files. -/
structure State where
  catalog : Catalog := {}
  records : Records := {}
  shelf : Shelf
deriving DecidableEq, Repr, Inhabited

/-- A file that a client sends. -/
structure SentFile where
  /-- The id of the document that the file becomes. -/
  documentId : String
  name : String
  mediaType : Option String := none
  bytes : Bytes
  /-- Whether halves of pairs stood in the name. -/
  hasHalves : Bool := false
deriving DecidableEq, Repr, Inhabited

/-- A request, with the ids of the rows that it may add. -/
inductive Request where
  | create (id : String) (draft : EventDraft)
  | patch (eventId : String) (patch : EventPatch) (tokens : Event.Tokens)
  | archive (eventId : String)
  | comment (eventId id body : String)
  | upload (eventId : String) (files : List SentFile)
  | detail (eventId : String)
  | list (query : Listing.Query)
  | resources (includeArchived : Bool)
  | document (eventId documentId : String)
  | clashes (resource : Resource) (span : Interval) (exclude : Option String)
deriving DecidableEq, Repr, Inhabited

/-- An event with its comments and its documents. -/
structure EventDetail where
  event : EventView
  comments : List CommentView
  documents : List Document
deriving DecidableEq, Repr, Inhabited

/-- What a request is answered. -/
inductive Answer where
  | event (view : EventView)
  | archiving (eventId : String) (result : ArchiveResult)
  | comment (view : CommentView)
  | documents (documents : List Document)
  | detail (detail : EventDetail)
  | listing (views : List EventView)
  | resources (list : ResourceList)
  | file (file : DocumentFile)
  | clashes (clashes : List Clash)
deriving DecidableEq, Repr, Inhabited

namespace Records

/-- The event with the given id, with its comments and its documents. -/
def detail (r : Records) (c : Conditions) (catalog : Catalog) (id : String) :
    Except Failure EventDetail := do
  match ← r.view c catalog id with
  | some v =>
    let comments ← r.listComments c catalog id
    let documents ← r.listDocuments c id
    return ⟨v, comments, documents⟩
  | none => .error (.refused .eventNotFound)

end Records

namespace Shelf

/-- Spools the files that a client sends. -/
def spoolAll (s : Shelf) : List SentFile → List Upload × Shelf
  | [] => ([], s)
  | f :: fs =>
    let (number, s) := s.spoolFile f.bytes
    let (uploads, s) := s.spoolAll fs
    (⟨f.documentId, f.name, f.mediaType, f.hasHalves, number⟩ :: uploads, s)

end Shelf

namespace State

/-- Spools the files that a client sends, attaches them to the event, and discards those that are
still spooled. -/
def upload (s : State) (c : Conditions) (context : Audit.Context) (eventId : String)
    (files : List SentFile) : Except Failure (List Document) × State :=
  let (uploads, shelf) := s.shelf.spoolAll files
  let (answer, records, shelf) := s.records.attach shelf c context eventId uploads
  let shelf := uploads.zipIdx.foldl
    (fun shelf file => shelf.discardSpooled (c.fileFaultsOf file.2) file.1.number) shelf
  (answer, { s with records, shelf })

/-- The state with other records. -/
def withRecords {α : Type} (s : State) (f : α → Answer) (result : Except Failure α × Records) :
    Except Failure Answer × State :=
  (result.1.map f, { s with records := result.2 })

/-- Answers one request. -/
def perform (s : State) (c : Conditions) (context : Audit.Context) :
    Request → Except Failure Answer × State
  | .create id draft => s.withRecords .event (s.records.create c s.catalog context id draft)
  | .patch eventId patch tokens =>
    s.withRecords .event (s.records.patch c s.catalog context eventId patch tokens)
  | .archive eventId => s.withRecords (.archiving eventId) (s.records.archive c context eventId)
  | .comment eventId id body =>
    s.withRecords .comment (s.records.comment c s.catalog context eventId id body)
  | .upload eventId files =>
    let (answer, s) := s.upload c context eventId files
    (answer.map .documents, s)
  | .detail eventId => ((s.records.detail c s.catalog eventId).map .detail, s)
  | .list query => ((s.records.list c s.catalog query).map .listing, s)
  | .resources includeArchived =>
    ((c.attempt .catalogSelect).map fun _ => .resources (s.catalog.resources includeArchived), s)
  | .document eventId documentId =>
    ((s.records.documentFile s.shelf c eventId documentId).map .file, s)
  | .clashes resource span exclude =>
    ((s.records.findClashes c s.catalog resource span exclude).map .clashes, s)

end State

end Workshop
