import Workshop.Api.ByteRange
import Workshop.Schema.Issue
import Workshop.State
import Workshop.Text.Latin
import Workshop.Text.Percent

/-!
# Replies

A `Reply` is what a call over the network is answered: a status with a body, a file or ranges of it,
or nothing at all if the call fails in a way that has no reply.
-/

namespace Workshop.Api

/-- What a call is answered. -/
inductive Reply where
  | json (status : Nat) (body : Json)
  /-- A file, with the bytes by which the head of the reply names its media type. -/
  | file (contentType : Bytes) (contentDisposition : String) (bytes : Bytes)
  /-- A status with bytes in the place of a file. -/
  | raw (status : Nat) (bytes : Bytes)
  | failed (failure : Failure)
deriving Inhabited, Repr

namespace Reply

/-- The reply that tells details of what went wrong. -/
def ofDetail (status : Nat) (detail : Json) : Reply :=
  json status (.obj [("detail", detail)])

/-- The reply to a call with issues. -/
def ofIssues (issues : List Schema.Issue) : Reply :=
  ofDetail 422 (.arr (issues.map Schema.Issue.toJson))

/-- The reply to a call whose path leads nowhere. -/
def notFound : Reply :=
  ofDetail 404 (.str "Not Found")

/-- The reply to a call by a method that reaches nothing under its path. -/
def wrongMethod : Reply :=
  ofDetail 405 (.str "Method Not Allowed")

/-- The reply that sends a client on to another path.  It has no body. -/
def elsewhere : Reply :=
  raw 307 []

/-- The reply to a call that failed in the storage. -/
def storageFailure : Reply :=
  ofDetail 500 (.obj [("code", .str "INTERNAL"), ("message", .str "Internal server error")])

/-- The reply to a call that failed. -/
def ofFailure : Failure → Reply
  | .refused r => ofDetail r.status r.detail
  | .violated _ => storageFailure
  | .unavailable => storageFailure
  | f => failed f

/-- The media type of a file as the reply names it: texts are said to be encoded as UTF-8 unless
the media type names an encoding. -/
def contentType (mediaType : String) : String :=
  if "text/".toList.isPrefixOf mediaType.toList
      && !Text.contains (Text.lower mediaType) "charset=" then
    mediaType ++ "; charset=utf-8"
  else mediaType

/-- How a file is to be presented, and under which name: the name stands there as it is, or
percent-encoded if that changes it. -/
def contentDisposition (asAttachment : Bool) (name : String) : String :=
  let manner := if asAttachment then "attachment" else "inline"
  let encoded := Text.Percent.encode name
  if encoded = name then manner ++ "; filename=\"" ++ name ++ "\""
  else manner ++ "; filename*=utf-8''" ++ encoded

/-- What stands between the ranges in a reply that serves several. -/
def rangeBoundary : String :=
  "ranges"

/-- A range of a file behind a head that says which one it is. -/
def writeRange (contentType bytes : Bytes) (r : ByteRange) : Bytes :=
  let place := toString r.start ++ "-" ++ toString ((r.stop : Int) - 1)
  let size := toString bytes.length
  ("--" ++ rangeBoundary ++ "\nContent-Type: ").toUTF8.toList ++ contentType
    ++ ("\nContent-Range: bytes " ++ place ++ "/" ++ size ++ "\n\n").toUTF8.toList
    ++ r.select bytes ++ "\n".toUTF8.toList

/-- The reply that serves ranges of a file: the bytes themselves, or several ranges behind heads. -/
def ofRanges (contentType bytes : Bytes) : List ByteRange → Reply
  | [r] => raw 206 (r.select bytes)
  | rs =>
    raw 206
      (rs.flatMap (writeRange contentType bytes)
        ++ ("\n--" ++ rangeBoundary ++ "--\n").toUTF8.toList)

/-- The reply that serves a file, or the ranges of it that a header asks for.  The media type of the
file must be one that the head of a reply can carry. -/
def ofFile (asAttachment : Bool) (range? : Option String) (f : DocumentFile) : Reply :=
  match Text.Latin.encode? (contentType f.mediaType) with
  | none => failed .unwritable
  | some type =>
    match range?.elim (.ok none) (ByteRange.read f.bytes.length) with
    | .ok none => file type (contentDisposition asAttachment f.name) f.bytes
    | .ok (some ranges) => ofRanges type f.bytes ranges
    | .error defect => raw defect.status defect.message.toUTF8.toList

end Reply

end Workshop.Api

namespace Workshop

/-- The record in which an answer shows an event with its comments and documents. -/
def EventDetail.toJson (d : EventDetail) : Json :=
  .obj
    [ ("event", d.event.toJson),
      ("comments", .arr (d.comments.map CommentView.toJson)),
      ("documents", .arr (d.documents.map Document.toJson)) ]

/-- The record in which a reply shows an answer. -/
def Answer.toJson : Answer → Json
  | event v => v.toJson
  | archiving id result => .obj [("event_id", .str id), ("result", .str result.name)]
  | comment v => v.toJson
  | documents ds => .obj [("documents", .arr (ds.map Document.toJson))]
  | detail d => d.toJson
  | listing vs => .obj [("items", .arr (vs.map EventView.toJson)), ("total", .int vs.length)]
  | resources l => l.toJson
  | file f =>
    .obj
      [ ("path", .str f.path.toText),
        ("filename", .str f.name),
        ("media_type", .str f.mediaType) ]
  | clashes cs => .obj [("conflicts", .arr (cs.map Clash.toJson))]

end Workshop
