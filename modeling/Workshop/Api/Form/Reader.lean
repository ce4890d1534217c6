import Workshop.Api.Form.Part
import Workshop.Api.HeaderValue
import Workshop.Text.Charset
import Workshop.Text.Latin

/-!
# Reading forms

`Form.read` takes the bytes of a form apart.  A line with the boundary begins the form and each of
its parts, and two dashes behind the boundary end it; whatever follows is left alone, and so is a
part that does not end.  The head of a part consists of headers, of which `content-disposition` says
which field is filled and what the file is called.

A form that holds texts only may come as one line, `a=1&b=x+y`: a field and its text for each piece
between ampersands.  Spaces are written as plus signs and other characters percent-encoded.
`Form.readFields` takes such a line apart.

Main statements: what is read as the content of a part stands in front of a line with the boundary,
and each part that is read of a line of fields is a text.
-/

namespace Workshop.Api.Form

/-! ## Heads -/

/-- A header as it is read: its name and its value. -/
structure Header where
  name : Bytes
  value : Bytes
deriving DecidableEq, Repr, Inhabited

/-- The most headers of a part. -/
abbrev headerLimit : Nat :=
  8

/-- The most bytes of a header. -/
abbrev headerSize : Nat :=
  4224

/-- The marks that may stand in the name of a header. -/
def nameMarks : List Char :=
  "!#$%&'*+-.^_|~".toList ++ [Char.ofNat 0x60]

/-- Whether the byte may stand in the name of a header. -/
def isNameByte (b : UInt8) : Bool :=
  let c := Char.ofNat b.toNat
  c.isAlphanum || nameMarks.contains c

/-- Reads the end of a line. -/
def readLineEnd : Bytes → Except Defect (Option Bytes)
  | 0x0D :: 0x0A :: rest => .ok (some rest)
  | [0x0D] => .ok none
  | [] => .ok none
  | _ => .error .malformed

/-- Reads the value of a header behind its colon, and the end of the line. -/
def readValue (name : Bytes) (bytes : Bytes) : Except Defect (Option (Header × Bytes)) := do
  let value := bytes.dropWhile (· = 0x20)
  let text := value.takeWhile (· ≠ 0x0D)
  let spaces := bytes.length - value.length
  if headerSize < name.length + 1 + spaces + text.length then .error .malformed
  else return (← readLineEnd (value.drop text.length)).map fun rest => (⟨name, text⟩, rest)

/-- Reads a header, if there is one before the end of the bytes. -/
def readHeader (bytes : Bytes) : Except Defect (Option (Header × Bytes)) :=
  let name := bytes.takeWhile isNameByte
  match bytes.drop name.length with
  | 0x3A :: rest => if name.isEmpty then .error .malformed else readValue name rest
  | [] => .ok none
  | _ => .error .malformed

/-- Reads headers up to an empty line, but no more than so many.  There is nothing to be read if the
bytes end before that. -/
def readHeaders : Nat → Bytes → Except Defect (Option (List Header × Bytes))
  | most, bytes =>
    if bytes.head? = some 0x0D then do
      return (← readLineEnd bytes).map fun rest => ([], rest)
    else
      match most with
      | 0 => if bytes.isEmpty then .ok none else .error .malformed
      | most + 1 => do
        match ← readHeader bytes with
        | none => return none
        | some (header, rest) =>
          return (← readHeaders most rest).map fun (headers, rest) => (header :: headers, rest)

/-- The name of a header as a text in small letters. -/
def Header.key (h : Header) : String :=
  Text.lower (Text.Latin.decode h.name)

/-- Whether the name of a file begins as paths with backslashes do. -/
def isPath : List Char → Bool
  | '\\' :: '\\' :: _ => true
  | _ :: ':' :: '\\' :: _ => true
  | _ => false

/-- The name of a file, of which only the last part is kept if it is a path. -/
def withoutPath (name : String) : String :=
  let cs := name.toList
  if isPath cs then String.ofList (cs.reverse.takeWhile (· ≠ '\\')).reverse else name

/-- Reads a text that stands in a head byte by byte, by the name of a character set.  What is not
written in the character set stays as it stands. -/
def readText (charset s : String) : Except Defect (List Nat) :=
  match Text.Charset.read charset ((Text.Latin.encode? s).getD []) with
  | .ok ns => .ok ns
  | .error .unreadable => .ok (s.toList.map Char.toNat)
  | .error .refused => .error .unreadable

/-- The part that headers describe, without its bytes.  The last header that says which field is
filled counts, and the first one that names the media type. -/
def Part.ofHeaders (charset : String) (headers : List Header) : Except Defect Part :=
  let value? (key : String) (headers : List Header) : Option String :=
    (headers.find? fun h => h.key = key).map fun h => Text.Latin.decode h.value
  let disposition := (value? "content-disposition" headers.reverse).map HeaderValue.read
  match disposition.bind fun d => d.parameter? "name" with
  | none => .error .fieldMissing
  | some field => do
    let field ← readText charset field
    let name? ← (disposition.bind fun d => d.parameter? "filename").mapM fun name =>
      readText charset (withoutPath name)
    .ok
      { field := Text.Wide.text field
        fileName? := name?.map Text.Wide.text
        mediaType? := value? "content-type" headers
        bytes := []
        hasHalves := name?.any fun ns => ns.any Text.Wide.isHalf }

/-! ## Bytes -/

/-- What may follow a boundary. -/
inductive Mark where
  /-- Another part follows. -/
  | next
  /-- The form ends. -/
  | last
deriving DecidableEq, Repr, Inhabited

/-- Whether the byte may stand between a boundary and the end of its line. -/
def isPadding (b : UInt8) : Bool :=
  b = 0x20 || b = 0x09

/-- Reads what follows a boundary, which is no boundary if nothing of the kind does.  Where padding
follows it, the line must end behind the padding. -/
def readMark : Bytes → Except Defect (Option (Mark × Bytes))
  | 0x0D :: 0x0A :: rest => .ok (some (.next, rest))
  | 0x2D :: 0x2D :: rest => .ok (some (.last, rest))
  | b :: rest =>
    if isPadding b then
      return (← readLineEnd (rest.dropWhile isPadding)).map fun rest => (.next, rest)
    else .ok none
  | [] => .ok none

/-- What follows the delimiter and the mark behind it, if the bytes begin with both. -/
def delimited (delimiter bytes : Bytes) : Except Defect (Option (Mark × Bytes)) :=
  if delimiter.isPrefixOf bytes then readMark (bytes.drop delimiter.length) else .ok none

/-- Bytes up to a delimiter, the mark behind it, and the bytes behind the mark. -/
structure Content where
  bytes : Bytes
  mark : Mark
  rest : Bytes
deriving DecidableEq, Repr, Inhabited

/-- Reads bytes up to the delimiter, if there is one, behind those that are given in reverse. -/
def readContent (delimiter before : Bytes) : Bytes → Except Defect (Option Content)
  | [] => .ok none
  | b :: bs =>
    match delimited delimiter (b :: bs) with
    | .ok (some (mark, rest)) => .ok (some ⟨before.reverse, mark, rest⟩)
    | .ok none => readContent delimiter (b :: before) bs
    | .error defect => .error defect

/-- What is read as content stands in front of a delimiter. -/
theorem exists_of_readContent {delimiter before bytes : Bytes} {content : Content}
    (h : readContent delimiter before bytes = .ok (some content)) :
  ∃ inner behind, content.bytes = before.reverse ++ inner ∧ bytes = inner ++ behind
    ∧ delimited delimiter behind = .ok (some (content.mark, content.rest))
  := by
  induction bytes generalizing before with
  | nil => simp [readContent] at h
  | cons b bs ih =>
    simp only [readContent] at h
    split at h
    · rename_i hd
      simp only [Except.ok.injEq, Option.some.injEq] at h
      subst h
      exact ⟨[], b :: bs, by simp, rfl, hd⟩
    · obtain ⟨inner, behind, hc, rfl, hd⟩ := ih h
      exact ⟨b :: inner, behind, by simp [hc], rfl, hd⟩
    · simp at h

/-! ## Forms -/

/-- A part with its content, and what `follow` reads behind it.  A part that does not end is left
out. -/
def finish (part : Part) (follow : Bytes → Except Defect (List Part)) :
    Option Content → Except Defect (List Part)
  | none => .ok []
  | some ⟨bytes, .last, _⟩ => .ok [{ part with bytes }]
  | some ⟨bytes, .next, rest⟩ => do return { part with bytes } :: (← follow rest)

/-- Whether the content is too long for a text. -/
def isTooLong (content : Option Content) : Bool :=
  content.any fun c => textLimit * 1024 < c.bytes.length

/-- Reads parts, but no more files and texts than so many. -/
def readParts (charset : String) (delimiter : Bytes) (files texts : Nat) (bytes : Bytes) :
    Except Defect (List Part) := do
  match ← readHeaders headerLimit bytes with
  | none => return []
  | some (headers, rest) =>
    let part ← Part.ofHeaders charset headers
    if part.fileName?.isSome then
      match files with
      | 0 => .error .tooManyFiles
      | files + 1 =>
        finish part (readParts charset delimiter files texts) (← readContent delimiter [] rest)
    else
      match texts with
      | 0 => .error .tooManyTexts
      | texts + 1 =>
        let content ← readContent delimiter [] rest
        if isTooLong content then .error .textTooLong
        else finish part (readParts charset delimiter files texts) content
termination_by files + texts

/-- Reads what follows the first boundary of a form. -/
def readFirst (charset : String) (delimiter bytes : Bytes) : Except Defect (List Part) := do
  match ← readMark bytes with
  | some (.next, rest) => readParts charset delimiter partLimit partLimit rest
  | some (.last, _) => return []
  | none =>
    match bytes.dropWhile isPadding with
    | [] => return []
    | [0x0D] => return []
    | [0x2D] => return []
    | _ => .error .malformed

/-- Reads a form.  Line ends in front of it are left out. -/
def read (charset : String) (boundary bytes : Bytes) : Except Defect (List Part) :=
  let first := dashes ++ boundary
  let bytes := bytes.dropWhile fun b => b = 0x0D || b = 0x0A
  if first.isPrefixOf bytes then readFirst charset (lineEnd ++ first) (bytes.drop first.length)
  else if bytes.isPrefixOf first then .ok []
  else .error .malformed

/-! ## Fields in a line -/

/-- The text that a name or a value in a line denotes. -/
def decodeField (cs : List Char) : String :=
  Text.Percent.decode (String.ofList (cs.map fun c => if c = '+' then ' ' else c))

/-- The part that a piece of a line says: the field in front of the first equals sign, and the text
behind it. -/
def fieldPart (piece : List Char) : Part where
  field := decodeField (piece.takeWhile (· ≠ '='))
  bytes := (decodeField ((piece.dropWhile (· ≠ '=')).drop 1)).toUTF8.toList

/-- The pieces of a line that say something.  The last one does not if it has no equals sign. -/
def fieldPieces (pieces : List (List Char)) : List (List Char) :=
  (pieces.dropLast ++ (pieces.getLast?.filter fun piece => piece.contains '=').toList).filter
    fun piece => !piece.isEmpty

/-- Reads a line of fields. -/
def readFields (bytes : Bytes) : Except Defect (List Part) :=
  let pieces := fieldPieces (Text.split '&' (Text.Latin.decode bytes).toList)
  if partLimit < pieces.length then .error .tooManyTexts else .ok (pieces.map fieldPart)

/-- The parts in a line are texts, and there are not too many of them. -/
theorem of_readFields {bytes : Bytes} {parts : List Part} (h : readFields bytes = .ok parts) :
  parts.length ≤ partLimit ∧ ∀ p ∈ parts, p.fileName? = none
  := by
  simp only [readFields] at h
  split at h
  · simp at h
  · simp only [Except.ok.injEq] at h
    subst h
    refine ⟨by simpa using Nat.le_of_not_lt (by assumption), fun p hp => ?_⟩
    obtain ⟨piece, _, rfl⟩ := List.mem_map.1 hp
    rfl

end Workshop.Api.Form
