import Workshop.Document.MediaType
import Workshop.Document.Shelf
import Workshop.Records
import Workshop.Sorting

/-!
# Attaching documents

`Records.attach` stores a batch of spooled files and links them to an event, all of them or none:
if any step fails, the records stay as they were and the files that were moved are discarded.
`Records.documentsOf` lists the documents of an event, which `Records.listDocuments` reads for a
request, and `Records.documentFile` finds the bytes of one of them.
-/

namespace Workshop

/-- A spooled file that is to be attached. -/
structure Upload where
  /-- The id of the new document. -/
  documentId : String
  name : String
  mediaType : Option String := none
  /-- Whether halves of pairs stood in the name, which no column can hold. -/
  hasHalves : Bool := false
  /-- The number of the spooled file. -/
  number : Nat
deriving DecidableEq, Repr, Inhabited

namespace Upload

/-- Whether the file is in the portable document format. -/
def isPdf (u : Upload) : Bool :=
  FileName.isPdf (some u.name) u.mediaType

/-- The document that the file becomes. -/
def document (u : Upload) (now : Instant) : Document :=
  ⟨u.documentId, u.name, if u.isPdf then some "PDF" else u.mediaType, now⟩

/-- The link of the document to the event. -/
def link (u : Upload) (eventId actor : String) (now : Instant) : DocumentLink :=
  ⟨eventId, u.documentId, if u.isPdf then some "PDF" else none, some actor, now⟩

end Upload

/-- How far a batch has come. -/
structure Attaching where
  records : Records
  shelf : Shelf
  /-- The files that were moved to their places. -/
  stored : List Path := []
  /-- The link that is written after the next document. -/
  pending : Option DocumentLink := none
deriving DecidableEq, Repr, Inhabited

namespace Attaching

/-- Fails a batch, the files it has moved being discarded. -/
def fail {α : Type} (a : Attaching) (c : Conditions) (f : Failure) : Except (Failure × Shelf) α :=
  .error (f, a.stored.zipIdx.foldl (fun s file => s.discard (c.fileFaultsOf file.2) file.1) a.shelf)

/-- Writes the document of a file. -/
def writeDocument (a : Attaching) (c : Conditions) (u : Upload) : Except Failure Records :=
  if u.hasHalves then do
    c.attempt .documentInsert
    .error .unwritable
  else a.records.insertDocument c (u.document c.now)

/-- Writes the pending link. -/
def writePending (a : Attaching) (c : Conditions) : Except Failure Records :=
  match a.pending with
  | some l => a.records.insertLink c l
  | none => .ok a.records

/-- Stores the next file of the batch: moves it, writes its document, then the link of the file
before it. -/
def storeOne (a : Attaching) (c : Conditions) (eventId actor : String) (u : Upload) :
    Except (Failure × Shelf) Attaching :=
  let index := a.stored.length
  let name := FileName.stored u.documentId (some u.name)
  match a.shelf.store (c.fileFaultsOf index) u.number name with
  | (.error f, shelf) => { a with shelf }.fail c f
  | (.ok path, shelf) =>
    let a := { a with shelf, stored := a.stored ++ [path] }
    match a.writeDocument (c.during (.file index)) u with
    | .error f => a.fail c f
    | .ok records =>
      match { a with records }.writePending (c.during (.file (index - 1))) with
      | .error f => a.fail c f
      | .ok records => .ok { a with records, pending := some (u.link eventId actor c.now) }

/-- Stores the files of a batch one after another. -/
def storeAll (c : Conditions) (eventId actor : String) (a : Attaching) :
    List Upload → Except (Failure × Shelf) Attaching
  | [] => .ok a
  | u :: us =>
    match a.storeOne c eventId actor u with
    | .ok a => storeAll c eventId actor a us
    | .error e => .error e

end Attaching

/-- The order of documents in listings: by name, and by id among those of the same name. -/
def Document.listedBefore (a b : Document) : Bool :=
  a.name < b.name || (a.name = b.name && a.id ≤ b.id)

/-- The record in which an answer shows a document. -/
def Document.toJson (d : Document) : Json :=
  .obj
    [ ("document_id", .str d.id),
      ("document_name", .str d.name),
      ("type", .optStr d.type) ]

/-- A document with its bytes, as it is served. -/
structure DocumentFile where
  /-- The place of the file below the documents directory. -/
  path : Path
  name : String
  mediaType : String
  bytes : Bytes
deriving DecidableEq, Repr, Inhabited

namespace Records

/-- Whether the document is linked to the event. -/
def isLinked (r : Records) (eventId documentId : String) : Bool :=
  r.links.any fun l => l.eventId == eventId && l.documentId == documentId

/-- The documents linked to the event. -/
def documentsOf (r : Records) (eventId : String) : List Document :=
  sortBy Document.listedBefore (r.documents.filter fun d => r.isLinked eventId d.id)

/-- The documents linked to the event, as a request reads them. -/
def listDocuments (r : Records) (c : Conditions) (eventId : String) :
    Except Failure (List Document) := do
  c.attempt .documentSelect
  return r.documentsOf eventId

/-- Stores a batch in the records and on the shelf. -/
def writeAttached (r : Records) (shelf : Shelf) (c : Conditions) (context : Audit.Context)
    (eventId : String) (uploads : List Upload) : Except (Failure × Shelf) (Records × Shelf) :=
  match r.lockOpen c eventId with
  | .error f => .error (f, shelf)
  | .ok _ =>
    match Attaching.storeAll c eventId context.actor { records := r, shelf } uploads with
    | .error e => .error e
    | .ok a =>
      match a.writePending (c.during (.file (uploads.length - 1))) with
      | .error f => a.fail c f
      | .ok records =>
        match records.conclude c context eventId (.upload uploads.length) with
        | .error f => a.fail c f
        | .ok records => .ok (records, a.shelf)

/-- Attaches spooled files to an event, and answers all documents of the event. -/
def attach (r : Records) (shelf : Shelf) (c : Conditions) (context : Audit.Context)
    (eventId : String) (uploads : List Upload) :
    Except Failure (List Document) × Records × Shelf :=
  if uploads.isEmpty then (.error (.refused .noDocuments), r, shelf)
  else
    match r.writeAttached shelf c context eventId uploads with
    | .error (f, shelf) => (.error f, r, shelf)
    | .ok (r', shelf) => ((c.commit r').listDocuments c eventId, c.commit r', shelf)

/-- The file of a document that is linked to the event. -/
def documentFile (r : Records) (shelf : Shelf) (c : Conditions) (eventId documentId : String) :
    Except Failure DocumentFile := do
  c.attempt .documentSelect
  match (r.document? documentId).filter fun d => r.isLinked eventId d.id with
  | none => .error (.refused .documentNotFound)
  | some d =>
    let path ← Path.ofStored shelf.base (FileName.stored d.id (some d.name))
    match ← shelf.fetch path with
    | some bytes => return ⟨path, d.name, MediaType.resolve d.type (some d.name), bytes⟩
    | none => .error (.refused .fileNotFound)

end Records

end Workshop
