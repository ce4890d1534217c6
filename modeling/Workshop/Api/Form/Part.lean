import Workshop.Document.Shelf
import Workshop.Text.Percent

/-!
# Parts of forms

A form is a list of parts, each of which fills a field with a text or with a file.  A `Form.Defect`
is the reason for which bytes are no form.

`Form.write` writes the parts of a form: each behind a line with the boundary and a head that names
the field and the file.  A name stands between quotation marks, which is why quotation marks in it
are escaped, as control characters are, and backslashes are doubled.
-/

namespace Workshop.Api.Form

/-- A part of a form. -/
structure Part where
  /-- The name of the field that the part fills. -/
  field : String
  /-- The name of the file, if the part is one. -/
  fileName? : Option String := none
  mediaType? : Option String := none
  bytes : Bytes
  /-- Whether halves of pairs stood in the name of the file, where replacement characters stand
  now. -/
  hasHalves : Bool := false
deriving DecidableEq, Repr, Inhabited

/-- Whether the part is a file that holds nothing and has no name. -/
def Part.isBlank (p : Part) : Bool :=
  p.fileName? = some "" && p.bytes.isEmpty

/-- Why bytes are no form. -/
inductive Defect where
  /-- It is not said what separates the parts. -/
  | boundaryMissing
  /-- The bytes are not those of parts with heads. -/
  | malformed
  /-- A part does not say which field it fills. -/
  | fieldMissing
  /-- A name is written in a way that cannot be read. -/
  | unreadable
  | tooManyFiles
  | tooManyTexts
  /-- A text is too long. -/
  | textTooLong
deriving DecidableEq, Repr, Inhabited

/-- The most parts of a form that are files, and the most that are texts. -/
abbrev partLimit : Nat :=
  1000

/-- The most units of 1024 bytes in a text. -/
abbrev textLimit : Nat :=
  1024

/-- What is said of a defect. -/
def Defect.message : Defect → String
  | boundaryMissing => "Missing boundary in multipart."
  | malformed => "Invalid multipart data."
  | fieldMissing => "The Content-Disposition header field \"name\" must be provided."
  | unreadable => "There was an error parsing the body"
  | tooManyFiles => "Too many files. Maximum number of files is " ++ toString partLimit ++ "."
  | tooManyTexts => "Too many fields. Maximum number of fields is " ++ toString partLimit ++ "."
  | textTooLong => "Part exceeded maximum size of " ++ toString textLimit ++ "KB."

/-- The most bytes of a boundary. -/
abbrev boundaryLimit : Nat :=
  256

/-- The end of a line. -/
def lineEnd : Bytes :=
  [0x0D, 0x0A]

/-- What stands in front of a boundary, and behind the last one. -/
def dashes : Bytes :=
  [0x2D, 0x2D]

/-! ## How forms are written -/

/-- Whether a character of a name is escaped: the quotation mark and the control characters, but for
one. -/
def isEscaped (c : Char) : Bool :=
  c == '"' || (c.toNat < 0x20 && c ≠ '\x1b')

/-- A name between quotation marks. -/
def quotedName (name : String) : String :=
  let doubled := name.toList.flatMap fun c => if c = '\\' then ['\\', '\\'] else [c]
  String.ofList ('"' :: Text.Percent.escapeChars isEscaped doubled ++ ['"'])

/-- The bytes of a text. -/
def textBytes (s : String) : Bytes :=
  s.toUTF8.toList

/-- The head of a part. -/
def Part.head (p : Part) : Bytes :=
  let file := p.fileName?.elim "" fun name => "; filename=" ++ quotedName name
  let disposition := "Content-Disposition: form-data; name=" ++ quotedName p.field ++ file
  let type := p.mediaType?.elim [] fun t => textBytes ("Content-Type: " ++ t) ++ lineEnd
  textBytes disposition ++ lineEnd ++ type ++ lineEnd

/-- A part without the boundary in front of it. -/
def Part.write (p : Part) : Bytes :=
  p.head ++ p.bytes ++ lineEnd

/-- A form whose parts the boundary separates. -/
def write (boundary : Bytes) (parts : List Part) : Bytes :=
  (parts.flatMap fun p => dashes ++ boundary ++ lineEnd ++ p.write)
    ++ dashes ++ boundary ++ dashes ++ lineEnd

end Workshop.Api.Form
