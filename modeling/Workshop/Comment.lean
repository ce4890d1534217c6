import Workshop.Catalog
import Workshop.Records
import Workshop.Sorting

/-!
# Comments

Comments are added to events that are not archived, and are neither changed nor removed.
`Records.comment` adds one, and `Records.commentsOf` lists those of an event, oldest first, which
`Records.listComments` reads for a request.
-/

namespace Workshop

/-- A comment with the name of its author. -/
structure CommentView extends Comment where
  createdByUsername : Option String
deriving DecidableEq, Repr, Inhabited

/-- The view of a comment. -/
def Catalog.viewComment (c : Catalog) (m : Comment) : CommentView :=
  { m with createdByUsername := (m.createdBy.bind c.user?).map (·.username) }

/-- The record in which an answer shows a comment. -/
def CommentView.toJson (v : CommentView) : Json :=
  .obj
    [ ("comment_id", .str v.id),
      ("event_id", .str v.eventId),
      ("body", .str v.body),
      ("created_by", .optStr v.createdBy),
      ("created_by_username", .optStr v.createdByUsername),
      ("created_at", .str v.createdAt.toText) ]

/-- The order of comments in listings: by time, and by id among those of the same time. -/
def Comment.listedBefore (a b : Comment) : Bool :=
  a.createdAt < b.createdAt || (a.createdAt = b.createdAt && a.id ≤ b.id)

namespace Records

/-- The comments on the event with the given id. -/
def commentsOf (r : Records) (catalog : Catalog) (eventId : String) : List CommentView :=
  (sortBy Comment.listedBefore (r.comments.filter (·.eventId == eventId))).map catalog.viewComment

/-- The comments on an event, as a request reads them. -/
def listComments (r : Records) (c : Conditions) (catalog : Catalog) (eventId : String) :
    Except Failure (List CommentView) := do
  c.attempt .commentSelect
  return r.commentsOf catalog eventId

/-- The view of a comment that was just written. -/
def reloadComment (r : Records) (c : Conditions) (catalog : Catalog) (id : String) :
    Except Failure CommentView := do
  c.attempt .commentSelect
  match r.comment? id with
  | some m => return catalog.viewComment m
  | none => .error .internal

/-- The records with a new comment and its entry in the audit trail. -/
def writeComment (r : Records) (c : Conditions) (context : Audit.Context)
    (eventId id body : String) : Except Failure Records := do
  let _ ← r.lockOpen c eventId
  let r ← r.insertComment c ⟨id, eventId, body, some context.actor, c.now⟩
  r.conclude c context eventId (.comment id)

/-- Adds a comment to an event, and answers its view. -/
def comment (r : Records) (c : Conditions) (catalog : Catalog) (context : Audit.Context)
    (eventId id body : String) : Except Failure CommentView × Records :=
  match r.writeComment c context eventId id body with
  | .error f => (.error f, r)
  | .ok r' => ((c.commit r').reloadComment c catalog id, c.commit r')

end Records

end Workshop
