import Workshop.Text.Basic

/-!
# Names of documents

The bytes of a document are stored in a file called after the id of the document and, if the
document's own name ends in a plain extension, that extension: `FileName.stored` is that name.
`FileName.split` takes a name apart into its stem and its extension.
-/

namespace Workshop.FileName

/-- The part of a path behind its last separator. -/
def lastComponent (cs : List Char) : List Char :=
  (cs.reverse.takeWhile (· ≠ '/')).reverse

/-- The extension of a path: in its last component, what begins with the last point, unless only
points stand before that one. -/
def extension (cs : List Char) : List Char :=
  let name := lastComponent cs
  let tail := (name.reverse.takeWhile (· ≠ '.')).reverse
  let stem := name.take (name.length - tail.length - 1)
  if stem.all (· = '.') then [] else '.' :: tail

/-- A path without its extension, and the extension. -/
def split (cs : List Char) : List Char × List Char :=
  (cs.take (cs.length - (extension cs).length), extension cs)

/-- Whether the character may stand in a plain extension. -/
def isPlain (c : Char) : Bool :=
  ('a' ≤ c && c ≤ 'z') || ('0' ≤ c && c ≤ '9')

/-- Whether the extension is a point and one to ten plain characters.  One line end may follow
them. -/
def isSafe : List Char → Bool
  | '.' :: cs =>
    let plain := cs.takeWhile isPlain
    let rest := cs.dropWhile isPlain
    1 ≤ plain.length && plain.length ≤ 10 && (rest == [] || rest == ['\n'])
  | _ => false

/-- The extension of a name in small letters, or nothing if it is not safe. -/
def safeExtension (name : Option String) : String :=
  let small := Text.lower (String.ofList (extension (name.getD "").toList))
  if isSafe small.toList then small else ""

/-- The name of the file for the bytes of a document. -/
def stored (documentId : String) (name : Option String) : String :=
  documentId ++ safeExtension name

/-- Whether a document is in the portable document format, told by its media type or by its
name. -/
def isPdf (name mediaType : Option String) : Bool :=
  Text.contains (Text.lower (mediaType.getD "")) "pdf" || safeExtension name == ".pdf"

end Workshop.FileName
