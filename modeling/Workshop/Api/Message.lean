import Workshop.Api.Call

/-!
# Messages

A `Message` is what a client sends: a method, the names of a path, and the rest of a call.  A dot in
the path stays and two dots go back, and each name is sent percent-encoded and arrives as it was.
`Message.route` is the endpoint that is reached in this way, and `receive` replies to a message.
Main statement: a message to an endpoint arrives there if the ids in its path are plain.
-/

namespace Workshop.Api

/-- What a client sends. -/
structure Message where
  method : Method
  /-- The names of the path. -/
  names : List String
  query : List (String × String) := []
  headers : List (String × String) := []
  /-- The body; null if there is none. -/
  body : Json := .null
  /-- The files that are sent in the place of a body, with the ids of the documents they become. -/
  files : List SentFile := []
  /-- The id of the row that the message may add. -/
  newId : String := ""
  /-- What the ids of documents begin with that are none of the files. -/
  documentStem : String := ""
deriving Inhabited, Repr

/-- Where a message arrives. -/
inductive Route where
  /-- At an endpoint under a path. -/
  | endpoint (path : String) (endpoint : Endpoint)
  /-- Under a path where the method reaches nothing. -/
  | wrongMethod
  /-- Under a path that leads nowhere because of the separators at its end. -/
  | elsewhere
  | nowhere
deriving DecidableEq, Repr, Inhabited

namespace Message

/-- The path with the given names as it arrives. -/
def arrive (names : List String) : String :=
  writtenPath (Path.settle names)

/-- A path without the separators at its end. -/
def bare (path : String) : String :=
  String.ofList (path.toList.reverse.dropWhile (· = '/')).reverse

/-- The path under which a message arrives. -/
def path (m : Message) : String :=
  arrive m.names

/-- Where a message arrives. -/
def route (m : Message) : Route :=
  if (Endpoint.under (pathNames m.path)).isEmpty then
    if (Endpoint.under (pathNames (bare m.path))).isEmpty then .nowhere else .elsewhere
  else
    match Endpoint.reach? (pathNames m.path) m.method with
    | some e => .endpoint m.path e
    | none => .wrongMethod

/-- Why a message cannot be sent, if it cannot: its headers must be written with characters of
ASCII, and the numbers in its body must be finite. -/
def fault? (m : Message) : Option Failure :=
  let isAscii (s : String) := s.toList.all fun c => c.toNat < 128
  if m.headers.any fun (name, value) => !isAscii name || !isAscii value then some .unwritable
  else if m.body.isFinite then none
  else some .notFinite

/-- What the headers of a message say of its body, if any of them do. -/
def contentType? (m : Message) : Option String :=
  let said := m.headers.filter fun h => Text.lower h.1 == "content-type"
  if said.isEmpty then none else some (", ".intercalate (said.map (·.2)))

/-- The program that sends a message if no header says otherwise. -/
def defaultAgent : String :=
  "agent"

/-- The parts of the form in which the files are sent. -/
def parts (m : Message) : List Form.Part :=
  m.files.map Form.ofFile

/-- The headers that are sent.  The one that names the program comes first, unless a header of just
this name replaces it, and one that goes with the form comes last, if there is a form and no such
header. -/
def sentHeaders (m : Message) : List (String × String) :=
  let agent := ("user-agent", (m.headers.lookup "user-agent").getD defaultAgent)
  let headers := agent :: m.headers.filter fun h => h.1 ≠ "user-agent"
  if m.contentType?.isNone ∧ m.files ≠ [] then
    headers ++ [("content-type", Form.header none m.parts)]
  else headers

/-- The call that a message makes at an endpoint. -/
def call (m : Message) (path : String) (endpoint : Endpoint) : Call where
  endpoint
  path
  query := m.query
  headers := m.sentHeaders
  body := m.body
  form := Form.send m.contentType? m.parts
  newId := m.newId
  documentIds := m.files.map (·.documentId)
  documentStem := m.documentStem

/-- Plain names arrive as they are. -/
theorem arrive_of_forall_isPlain {names : List String} (h : ∀ name ∈ names, Endpoint.IsPlain name) :
  arrive names = writtenPath names
  := by
  rw [arrive, Path.settle_of_forall_ne fun name hn => ⟨(h name hn).1, (h name hn).2.1⟩]

/-- A message to an endpoint arrives there if the ids in the path are plain and not empty. -/
theorem route_of_isPlain {endpoint : Endpoint}
    (h : ∀ id ∈ endpoint.ids, id ≠ "" ∧ Endpoint.IsPlain id) {m : Message}
    (hm : m.method = endpoint.method) (hn : m.names = endpoint.names) :
  m.route = .endpoint endpoint.path endpoint
  := by
  have hp {name : String} (hn : name ∈ endpoint.names) : Endpoint.IsPlain name :=
    Endpoint.isPlain_of_mem_names (fun id hi => (h id hi).2) hn
  have hu : pathNames (writtenPath endpoint.names) = endpoint.names :=
    pathNames_writtenPath (by cases endpoint <;> simp [Endpoint.names, Endpoint.events])
      fun name hn => (hp hn).2.2
  have hr := Endpoint.reach?_names fun he => (h "" he).1 rfl
  have hne := Endpoint.under_ne_nil hr
  have hpath : m.path = endpoint.path := by
    rw [path, hn, arrive_of_forall_isPlain fun name => hp]
    rfl
  rw [route, hpath, Endpoint.path, hu, hm, hr]
  simp [hne]

end Message

/-- Replies to a message. -/
def receive (s : State) (c : Conditions) (m : Message) : Reply × State :=
  match m.fault? with
  | some failure => (.failed failure, s)
  | none =>
    match m.route with
    | .endpoint path endpoint => answer s c (m.call path endpoint)
    | .wrongMethod => (.wrongMethod, s)
    | .elsewhere => (.elsewhere, s)
    | .nowhere => (.notFound, s)

end Workshop.Api
