import Workshop.Api.Form.Reader
import Workshop.Document.MediaType
import Workshop.Schema.Checked
import Workshop.State

/-!
# Files in forms

A client sends files as the parts of a form, behind a header that says what separates the parts:
`Form.header` is that header and `Form.send` the form.  `Form.receive` takes apart what came with a
header, which may also say that there is a line of fields, and `Form.documents` are the files among
the parts.
-/

namespace Workshop.Api.Form

/-- The media type of forms. -/
def mediaType : String :=
  "multipart/form-data"

/-- The media type of lines of fields. -/
def lineType : String :=
  "application/x-www-form-urlencoded"

/-- The field that the files fill. -/
def field : String :=
  "documents"

/-! ## Sending -/

/-- The part that a file becomes.  A file without a name is sent as a text, and the media type of a
file is guessed from its name if it is not given. -/
def ofFile (f : SentFile) : Part where
  field
  fileName? := given (some f.name)
  mediaType? :=
    f.mediaType.or <|
      (given (some f.name)).map fun name => (MediaType.guess? name).getD MediaType.unknown
  bytes := f.bytes

/-- The boundary that a header gives to the client: the value of the first parameter of that name,
quotation marks at its ends aside.  Quotation marks do not keep semicolons together there, and the
media type must stand at the beginning in small letters. -/
def givenBoundary? (header : String) : Option Bytes :=
  let name := "boundary=".toList
  let sections := (Text.split ';' header.toList).map (Text.trimChars Text.isAsciiBlank)
  if mediaType.toList.isPrefixOf header.toList then
    (sections.find? fun cs => name.isPrefixOf (cs.map Text.lowerChar)).map fun cs =>
      textBytes (String.ofList (Text.trimChars (· = '"') (cs.drop name.length)))
  else none

/-- The boundary with the number `n`. -/
def numberedBoundary (n : Nat) : Bytes :=
  textBytes (String.ofList (Text.Digits.write 32 n))

/-- The first boundary with the number `n` or a greater one, of so many, that does not occur in any
part. -/
def freshBoundary (parts : List Part) (n : Nat) : Nat → Bytes
  | 0 => numberedBoundary n
  | count + 1 =>
    let boundary := numberedBoundary n
    if parts.any fun p => Text.occursIn boundary p.write then freshBoundary parts (n + 1) count
    else boundary

/-- The boundary by which a client separates parts, given the header that it is to send, if it is to
send one. -/
def boundary (header? : Option String) (parts : List Part) : Bytes :=
  (header?.bind givenBoundary?).getD (freshBoundary parts 0 partLimit)

/-- The header that goes with a form. -/
def header (header? : Option String) (parts : List Part) : String :=
  header?.getD (mediaType ++ "; boundary=" ++ Text.Latin.decode (boundary header? parts))

/-- The bytes of a form; there are none without parts. -/
def send (header? : Option String) (parts : List Part) : Bytes :=
  if parts.isEmpty then [] else write (boundary header? parts) parts

/-! ## Receiving -/

/-- Reads a form that came with a header of this value. -/
def readParted (value : HeaderValue) (bytes : Bytes) : Except Defect (List Part) :=
  match value.parameter? "boundary" with
  | none => .error .boundaryMissing
  | some boundary =>
    let boundary := (Text.Latin.encode? boundary).getD []
    if boundaryLimit < boundary.length then .error .malformed
    else read ((value.parameter? "charset").getD "utf-8") boundary bytes

/-- The parts that came with a header.  There are none unless the header says that there is a
form. -/
def receive (header? : Option String) (bytes : Bytes) : Except Defect (List Part) :=
  match header?.map HeaderValue.read with
  | none => .ok []
  | some value =>
    if value.main = mediaType then readParted value bytes
    else if value.main = lineType then readFields bytes
    else .ok []

/-- The file that a part is, and the `i`-th of its kind.  Its document gets the `i`-th of the ids,
or one that begins with `stem`. -/
def file (ids : List String) (stem : String) (p : Part) (i : Nat) : SentFile where
  documentId := ids[i]?.getD (stem ++ toString i)
  name := (given p.fileName?).getD "document"
  mediaType := p.mediaType?
  bytes := p.bytes
  hasHalves := p.hasHalves

/-- The files among the parts that fill the field, where a text is out of place.  Blank files do not
count. -/
def documents (ids : List String) (stem : String) (parts : List Part) :
    Schema.Checked (List SentFile) :=
  let filling := (parts.filter fun p => p.field = field ∧ !p.isBlank).zipIdx
  let texts := filling.filter fun (p, _) => p.fileName?.isNone
  if texts.isEmpty then .valid (filling.map fun (p, i) => file ids stem p i)
  else .invalid (texts.map fun (_, i) => ⟨[.name "body", .name field, .index i], .notFile⟩)

end Workshop.Api.Form
