import Workshop.Api.HeaderValue
import Workshop.Api.Endpoint
import Workshop.Api.Form
import Workshop.Api.Reply
import Workshop.Schema.Event
import Workshop.Schema.Query

/-!
# Calls

A `Call` is a request as it comes over the network: an endpoint, parameters, headers and a body,
which is a structured value or a form.  `Call.meaning` checks all of it and says what is asked for,
or which issues it has, and `answer` replies to a call.
-/

namespace Workshop.Api

/-- A request as it comes over the network. -/
structure Call where
  endpoint : Endpoint
  /-- The path that led to the endpoint. -/
  path : String := endpoint.path
  query : List (String × String) := []
  headers : List (String × String) := []
  /-- The body; null if there is none.  Its numbers are finite, as no message carries others. -/
  body : Json := .null
  /-- The bytes that come in the place of the body. -/
  form : Bytes := []
  /-- The id of the row that the call may add. -/
  newId : String := ""
  /-- The ids of the documents that the call may add. -/
  documentIds : List String := []
  /-- What the ids of further documents begin with. -/
  documentStem : String := ""
deriving Inhabited, Repr

namespace Call

/-- The address from which a call comes if no header says otherwise. -/
def clientHost : String :=
  "client-host"

/-- The header called `name`; the names of headers are told apart without regard to case. -/
def header? (call : Call) (name : String) : Option String :=
  (call.headers.find? fun h => Text.lower h.1 == name).map (·.2)

/-- The address from which a call comes: the first one for which it was forwarded, or the client's
own. -/
def ip (call : Call) : String :=
  match given (call.header? "x-forwarded-for") with
  | some forwarded =>
    Text.trimBy Text.isSeparator (String.ofList (forwarded.toList.takeWhile (· ≠ ',')))
  | none => clientHost

/-- The path of a call as the audit trail shows it: tabs and line ends are left out, and the marks
that would begin a query or a fragment and the backslash are escaped. -/
def auditPath (call : Call) : String :=
  let shown := call.path.toList.filter fun c => c ≠ '\t' ∧ c ≠ '\n' ∧ c ≠ '\r'
  String.ofList (Text.Percent.escapeChars (fun c => c == '?' || c == '#' || c == '\\') shown)

/-- Who makes the call, and from where. -/
def context (call : Call) (actor : String) : Audit.Context where
  actor
  ip := some call.ip
  userAgent := call.header? "user-agent"
  path := some call.auditPath
  pageKey := call.header? "x-page-key"
  clientSessionId := call.header? "x-client-session-id"

/-- What the head of the call says of the body. -/
def contentType? (call : Call) : Option String :=
  call.header? "content-type"

/-- Reads the body of a call.  It is left unread if the head says that it is something else than
a structured value. -/
def readBody {α : Type} (call : Call) (read : Schema.Fields → Schema.Checked α) :
    Schema.Checked α :=
  match call.body with
  | .null => .invalid [⟨[.name "body"], .missing⟩]
  | body =>
    if call.contentType?.all ContentType.isStructured then
      (Schema.record .bodyNotRecord read body).below "body"
    else .invalid [⟨[.name "body"], .bodyNotRecord⟩]

/-- The parts of the form that comes with a call.  Where no form is expected it is left unread. -/
def parts (call : Call) : Except Form.Defect (List Form.Part) :=
  match call.endpoint with
  | .upload _ => Form.receive call.contentType? call.form
  | _ => .ok []

/-- The parameters of a call. -/
def parameters (call : Call) : Schema.Fields :=
  Schema.parameters call.query

/-- What a call asks for. -/
inductive Meaning where
  /-- Whether the program runs. -/
  | health
  /-- An answer to a request on behalf of a user, who is nameless if nothing is to be changed. -/
  | request (actor : String) (request : Request)
  /-- A listing of a range that leaves the years 1 to 9999. -/
  | farRange
deriving DecidableEq, Repr, Inhabited

/-- What a call asks for, given the parts of its form.  The parameters are checked before the
body. -/
def meaning (call : Call) (parts : List Form.Part) : Schema.Checked Meaning :=
  let q := call.parameters
  match call.endpoint with
  | .create =>
    (fun actor draft => .request actor (.create call.newId draft))
      <$> Schema.readActor q <*> call.readBody Schema.readDraft
  | .patch e =>
    (fun actor (body : Schema.PatchBody) => .request actor (.patch e body.patch body.tokens))
      <$> Schema.readActor q <*> call.readBody Schema.PatchBody.read
  | .archive e => (fun actor => .request actor (.archive e)) <$> Schema.readActor q
  | .comment e =>
    (fun actor body => .request actor (.comment e call.newId body))
      <$> Schema.readActor q <*> call.readBody Schema.readComment
  | .upload e =>
    (fun actor files => .request actor (.upload e files))
      <$> Schema.readActor q <*> Form.documents call.documentIds call.documentStem parts
  | .detail e => .valid (.request "" (.detail e))
  | .list =>
    (Schema.readListing q).map fun query =>
      match query with
      | some query => .request "" (.list query)
      | none => .farRange
  | .resources =>
    (Schema.readSwitch "include_archived" q).map fun b => .request "" (.resources b)
  | .download e d => (Schema.readSwitch "download" q).map fun _ => .request "" (.document e d)
  | .health => .valid .health

/-- The status of a call that succeeds. -/
def successStatus (call : Call) : Nat :=
  match call.endpoint with
  | .create => 201
  | .comment _ => 201
  | .upload _ => 201
  | _ => 200

/-- Whether a call asks for a file to be saved rather than shown. -/
def wantsAttachment (call : Call) : Bool :=
  match Schema.readSwitch "download" call.parameters with
  | .valid b => b
  | _ => false

/-- The header that asks for ranges of a file.  One that asks for them only if the file is still the
same is left alone, for the client cannot name the file that it means. -/
def range? (call : Call) : Option String :=
  if (call.header? "if-range").isNone then call.header? "range" else none

/-- The reply that shows an answer. -/
def present (call : Call) : Answer → Reply
  | .file f => .ofFile call.wantsAttachment call.range? f
  | a => .json call.successStatus a.toJson

/-- The reply of the endpoint that tells whether the program runs. -/
def healthReply : Reply :=
  .json 200 (.obj [("status", .str "ok")])

end Call

/-- Replies to a call.  The numbers in its body are taken to be finite, which `Message.fault?` sees
to: a reply with issues repeats what it finds fault with, and JSON has no way to write a number that
is not finite. -/
def answer (s : State) (c : Conditions) (call : Call) : Reply × State :=
  match call.parts with
  | .error defect => (.ofDetail 400 (.str defect.message), s)
  | .ok parts =>
    match call.meaning parts with
    | .outOfRange => (.failed .outOfRange, s)
    | .invalid issues => (.ofIssues issues, s)
    | .valid .health => (Call.healthReply, s)
    | .valid .farRange => (.failed .outOfRange, s)
    | .valid (.request actor request) =>
      match s.perform c (call.context actor) request with
      | (.ok a, s) => (call.present a, s)
      | (.error f, s) => (.ofFailure f, s)

end Workshop.Api
