import Workshop.Document.Name
import Workshop.Text.Basic

/-!
# Media types

`MediaType.guess?` tells the media type of a file from its name: from a table of extensions, after
extensions that stand for two have been spelled out and one extension of a compression has been
taken off; or, if the name is a `data:` address, from what the address itself says.
-/

namespace Workshop.MediaType

/-- The media type of documents in the portable document format. -/
def pdf : String :=
  "application/pdf"

/-- The media type of files about which nothing is known. -/
def unknown : String :=
  "application/octet-stream"

/-- The media types, with the extensions that tell them. -/
def table : List (String × List String) :=
  [ ("application/javascript", [".js", ".mjs"]),
    ("application/json", [".json"]),
    ("application/manifest+json", [".webmanifest"]),
    ("application/msword", [".doc", ".dot", ".wiz"]),
    ("application/n-quads", [".nq"]),
    ("application/n-triples", [".nt"]),
    ("application/octet-stream", [".a", ".bin", ".dll", ".exe", ".o", ".obj", ".so"]),
    ("application/oda", [".oda"]),
    ("application/pdf", [".pdf"]),
    ("application/pkcs7-mime", [".p7c"]),
    ("application/postscript", [".ai", ".eps", ".ps"]),
    ("application/trig", [".trig"]),
    ("application/vnd.apple.mpegurl", [".m3u", ".m3u8"]),
    ("application/vnd.ms-excel", [".xlb", ".xls"]),
    ("application/vnd.ms-powerpoint", [".pot", ".ppa", ".pps", ".ppt", ".pwz"]),
    ("application/wasm", [".wasm"]),
    ("application/x-bcpio", [".bcpio"]),
    ("application/x-cpio", [".cpio"]),
    ("application/x-csh", [".csh"]),
    ("application/x-dvi", [".dvi"]),
    ("application/x-gtar", [".gtar"]),
    ("application/x-hdf", [".hdf"]),
    ("application/x-hdf5", [".h5"]),
    ("application/x-latex", [".latex"]),
    ("application/x-mif", [".mif"]),
    ("application/x-netcdf", [".cdf", ".nc"]),
    ("application/x-pkcs12", [".p12", ".pfx"]),
    ("application/x-pn-realaudio", [".ram"]),
    ("application/x-python-code", [".pyc", ".pyo"]),
    ("application/x-sh", [".sh"]),
    ("application/x-shar", [".shar"]),
    ("application/x-shockwave-flash", [".swf"]),
    ("application/x-sv4cpio", [".sv4cpio"]),
    ("application/x-sv4crc", [".sv4crc"]),
    ("application/x-tar", [".tar"]),
    ("application/x-tcl", [".tcl"]),
    ("application/x-tex", [".tex"]),
    ("application/x-texinfo", [".texi", ".texinfo"]),
    ("application/x-troff", [".roff", ".t", ".tr"]),
    ("application/x-troff-man", [".man"]),
    ("application/x-troff-me", [".me"]),
    ("application/x-troff-ms", [".ms"]),
    ("application/x-ustar", [".ustar"]),
    ("application/x-wais-source", [".src"]),
    ("application/xml", [".rdf", ".wsdl", ".xpdl", ".xsl"]),
    ("application/zip", [".zip"]),
    ("audio/3gpp", [".3gp", ".3gpp"]),
    ("audio/3gpp2", [".3g2", ".3gpp2"]),
    ("audio/aac", [".aac", ".adts", ".ass", ".loas"]),
    ("audio/basic", [".au", ".snd"]),
    ("audio/mpeg", [".mp2", ".mp3"]),
    ("audio/opus", [".opus"]),
    ("audio/x-aiff", [".aif", ".aifc", ".aiff"]),
    ("audio/x-pn-realaudio", [".ra"]),
    ("audio/x-wav", [".wav"]),
    ("image/avif", [".avif"]),
    ("image/bmp", [".bmp"]),
    ("image/gif", [".gif"]),
    ("image/heic", [".heic"]),
    ("image/heif", [".heif"]),
    ("image/ief", [".ief"]),
    ("image/jpeg", [".jpe", ".jpeg", ".jpg"]),
    ("image/png", [".png"]),
    ("image/svg+xml", [".svg"]),
    ("image/tiff", [".tif", ".tiff"]),
    ("image/vnd.microsoft.icon", [".ico"]),
    ("image/x-cmu-raster", [".ras"]),
    ("image/x-portable-anymap", [".pnm"]),
    ("image/x-portable-bitmap", [".pbm"]),
    ("image/x-portable-graymap", [".pgm"]),
    ("image/x-portable-pixmap", [".ppm"]),
    ("image/x-rgb", [".rgb"]),
    ("image/x-xbitmap", [".xbm"]),
    ("image/x-xpixmap", [".xpm"]),
    ("image/x-xwindowdump", [".xwd"]),
    ("message/rfc822", [".eml", ".mht", ".mhtml", ".nws"]),
    ("text/css", [".css"]),
    ("text/csv", [".csv"]),
    ("text/html", [".htm", ".html"]),
    ("text/n3", [".n3"]),
    ("text/plain", [".bat", ".c", ".h", ".ksh", ".pl", ".srt", ".txt"]),
    ("text/richtext", [".rtx"]),
    ("text/tab-separated-values", [".tsv"]),
    ("text/vtt", [".vtt"]),
    ("text/x-python", [".py"]),
    ("text/x-setext", [".etx"]),
    ("text/x-sgml", [".sgm", ".sgml"]),
    ("text/x-vcard", [".vcf"]),
    ("text/xml", [".xml"]),
    ("video/mp4", [".mp4"]),
    ("video/mpeg", [".m1v", ".mpa", ".mpe", ".mpeg", ".mpg"]),
    ("video/quicktime", [".mov", ".qt"]),
    ("video/webm", [".webm"]),
    ("video/x-msvideo", [".avi"]),
    ("video/x-sgi-movie", [".movie"]) ]

/-- The extensions that stand for two. -/
def compounds : List (String × String) :=
  [ (".svgz", ".svg.gz"), (".tgz", ".tar.gz"), (".taz", ".tar.gz"), (".tz", ".tar.gz"),
    (".tbz2", ".tar.bz2"), (".txz", ".tar.xz") ]

/-- The extensions of compressions. -/
def compressions : List String :=
  [".gz", ".Z", ".bz2", ".xz", ".br"]

/-- The media type that an extension in small letters tells. -/
def ofExtension? (extension : String) : Option String :=
  (table.find? fun entry => entry.2.contains extension).map (·.1)

/-- The scheme of an address and what follows it, if it has one. -/
def splitScheme (cs : List Char) : Option (List Char × List Char) :=
  let scheme := cs.takeWhile fun c => c ≠ '/' && c ≠ ':'
  match cs.dropWhile fun c => c ≠ '/' && c ≠ ':' with
  | ':' :: rest => if scheme.isEmpty then none else some (scheme, rest)
  | _ => none

/-- The media type that a `data:` address says, given what follows its scheme: the text before the
first semicolon or comma, which is plain text if it is not a type at all.  Nothing if there is no
comma. -/
def ofData? (cs : List Char) : Option String :=
  if cs.contains ',' then
    let type := (cs.takeWhile (· ≠ ',')).takeWhile (· ≠ ';')
    if type.contains '=' || !type.contains '/' then some "text/plain"
    else some (String.ofList type)
  else none

/-- The name with an extension that stands for two spelled out. -/
def spellOut (cs : List Char) : List Char :=
  let (stem, extension) := FileName.split cs
  match compounds.lookup (Text.lower (String.ofList extension)) with
  | some spelled => stem ++ spelled.toList
  | none => cs

/-- The name without the extension of a compression. -/
def uncompressed (cs : List Char) : List Char :=
  let (stem, extension) := FileName.split cs
  if compressions.contains (String.ofList extension) then stem else cs

/-- The media type that the extension of a path tells. -/
def ofPath? (cs : List Char) : Option String :=
  ofExtension? (Text.lower (String.ofList (FileName.extension (uncompressed (spellOut cs)))))

/-- The media type that a name tells. -/
def guess? (name : String) : Option String :=
  match splitScheme name.toList with
  | none => ofPath? name.toList
  | some (scheme, rest) =>
    if Text.lower (String.ofList scheme) = "data" then ofData? rest else ofPath? rest

/-- Whether the type kept with a document is only the word for the portable document format. -/
def isPdfWord (type : String) : Bool :=
  Text.lower type == "pdf"

/-- The media type under which a document is served: what is kept of its type if that is a media
type, and otherwise what its name tells. -/
def resolve (type name : Option String) : String :=
  let guessed := (guess? (name.getD "")).getD unknown
  match given type with
  | none => guessed
  | some t =>
    if isPdfWord t then pdf
    else if Text.contains t "/" then t
    else guessed

end Workshop.MediaType
