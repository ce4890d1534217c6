import Workshop.Text.Basic

/-!
# Values of headers

The value of a header may have parameters, which semicolons set off: `form-data; name="a;b"`.
`HeaderValue.read` takes them apart.  The value of a parameter may stand between quotation marks,
and semicolons there set nothing off.

A header also tells the type of a body, and `ContentType.isStructured` says whether a body of that
type is a structured value: JSON, or a type that is written in JSON.
-/

namespace Workshop.Api

/-- The value of a header. -/
structure HeaderValue where
  /-- What stands in front of the parameters, in small letters. -/
  main : String
  /-- The parameters.  The names are in small letters, but for those without an equals sign. -/
  parameters : List (String × String) := []
deriving DecidableEq, Repr, Inhabited

namespace HeaderValue

/-- Whether the character is left out at the ends of what is taken apart. -/
def isSpace (c : Char) : Bool :=
  c == ' ' || c == '\t'

/-- The text without spaces at its ends. -/
def trim (cs : List Char) : List Char :=
  Text.trimChars isSpace cs

/-- The pieces between the semicolons that are not between quotation marks, behind the characters of
a piece in reverse.  A quotation mark behind a backslash is a character like any other. -/
def pieces (isQuoted isEscaped : Bool) (piece : List Char) : List Char → List (List Char)
  | [] => [piece.reverse]
  | c :: cs =>
    if c = ';' ∧ !isQuoted then piece.reverse :: pieces false false [] cs
    else pieces (isQuoted != (c == '"' && !isEscaped)) (c == '\\') (c :: piece) cs

/-- The text with a backslash left out in front of each character `c`. -/
def unescape (c : Char) : List Char → List Char
  | '\\' :: d :: cs => if d = c then c :: unescape c cs else '\\' :: unescape c (d :: cs)
  | d :: cs => d :: unescape c cs
  | [] => []

/-- The text between quotation marks, if it stands between them, and otherwise the text itself. -/
def unquote (cs : List Char) : List Char :=
  match cs with
  | '"' :: rest =>
    match rest.reverse with
    | '"' :: inner => unescape '"' (unescape '\\' inner.reverse)
    | _ => cs
  | _ => cs

/-- Reads a parameter: its name, and its value behind an equals sign.  Without an equals sign the
value is empty, and the name stays as it is. -/
def readParameter (piece : List Char) : String × String :=
  let name := String.ofList (trim (piece.takeWhile (· ≠ '=')))
  match piece.dropWhile (· ≠ '=') with
  | [] => (name, "")
  | _ :: value => (Text.lower name, String.ofList (unquote (trim value)))

/-- Reads the value of a header. -/
def read (s : String) : HeaderValue :=
  let parts := pieces false false [] s.toList
  { main := Text.lower (String.ofList (trim (parts.headD [])))
    parameters := parts.tail.map readParameter }

/-- The value of the last parameter called `name`. -/
def parameter? (v : HeaderValue) (name : String) : Option String :=
  v.parameters.reverse.lookup name

end HeaderValue

/-! ### The type of a body -/

namespace ContentType

/-- The media type without its parameters. -/
def mediaType (written : String) : String :=
  Text.lower (Text.trimBy Text.isSeparator (String.ofList (written.toList.takeWhile (· ≠ ';'))))

/-- Whether a body of this type is a structured value. -/
def isStructured (written : String) : Bool :=
  match Text.split '/' (mediaType written).toList with
  | [main, sub] =>
    main == "application".toList && (sub == "json".toList || "+json".toList.isSuffixOf sub)
  | _ => false

end ContentType

end Workshop.Api
