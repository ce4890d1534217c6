import Workshop.Text.Charset.Backslash
import Workshop.Text.Charset.Chinese
import Workshop.Text.Charset.HostName
import Workshop.Text.Charset.Iso2022
import Workshop.Text.Charset.Korean
import Workshop.Text.Charset.Page.Dos
import Workshop.Text.Charset.Page.Ebcdic
import Workshop.Text.Charset.Page.Iso8859
import Workshop.Text.Charset.Page.Terminal
import Workshop.Text.Charset.Page.Windows
import Workshop.Text.Charset.Unicode
import Workshop.Text.Charset.Utf7

/-!
# Character sets by name

A `Charset` is a way to write a text in bytes, which has a name and perhaps other names.
`Charset.find?` looks it up, and `Charset.read` reads bytes by the name.  What is read are the
numbers of characters, among which there may be halves of pairs.  Main statement: what is found has
the name, but for the signs in it.
-/

namespace Workshop.Text

/-- A way to write texts in bytes. -/
structure Charset where
  name : String
  /-- The other names. -/
  aliases : List String := []
  /-- Reads bytes as the numbers of characters. -/
  decode : List UInt8 → Except Charset.Misreading (List Nat)

namespace Charset

/-! ## The character sets -/

/-- The character set of a code page. -/
def ofPage (p : Page) : Charset where
  name := p.name
  aliases := p.aliases
  decode := fun bytes => Misreading.ofOption ((p.decode? bytes).map (·.map Char.toNat))

/-- The character set that is read step by step. -/
def ofStep (name : String) (aliases : List String) (step : Step) : Charset where
  name
  aliases
  decode := fun bytes => Misreading.ofOption ((step.decode? bytes).map (·.map Char.toNat))

/-- The character set that is read as numbers. -/
def ofNumbers (name : String) (aliases : List String) (decode? : List UInt8 → Option (List Nat)) :
    Charset where
  name
  aliases
  decode := fun bytes => Misreading.ofOption (decode? bytes)

/-- The character set with calls for sets of characters. -/
def ofVariant (name : String) (aliases : List String) (v : Iso2022.Variant) : Charset where
  name
  aliases
  decode := fun bytes => (v.decode bytes).map (·.map Char.toNat)

/-- The code pages. -/
def pages : List Page :=
  Page.iso8859 ++ Page.windows ++ Page.dos ++ Page.ebcdic ++ Page.macintosh ++ Page.terminal

/-- The character sets of Unicode. -/
def unicode : List Charset :=
  [ ofNumbers "utf_8" ["cp65001", "u8", "utf", "utf8", "utf8_ucs2", "utf8_ucs4"] Unicode.utf8?,
    ofNumbers "utf_8_sig" [] Unicode.utf8Marked?,
    ofNumbers "utf_16" ["u16", "utf16"] Unicode.utf16Marked?,
    ofNumbers "utf_16_be" ["unicodebigunmarked", "utf_16be"] (Unicode.utf16? true),
    ofNumbers "utf_16_le" ["unicodelittleunmarked", "utf_16le"] (Unicode.utf16? false),
    ofNumbers "utf_32" ["u32", "utf32"] Unicode.utf32Marked?,
    ofNumbers "utf_32_be" ["utf_32be"] (Unicode.utf32? true),
    ofNumbers "utf_32_le" ["utf_32le"] (Unicode.utf32? false),
    ofNumbers "utf_7" ["u7", "unicode_1_1_utf_7", "utf7"] (Utf7.decode? none) ]

/-- The character sets with characters of several bytes. -/
def eastAsian : List Charset :=
  [ ofStep "euc_jp" ["eucjp", "u_jis", "ujis"] Japanese.eucJp,
    ofStep "euc_jisx0213" ["eucjisx0213"] (Japanese.eucJis .first),
    ofStep "euc_jis_2004" ["euc_jis2004", "eucjis2004", "jisx0213"] (Japanese.eucJis .second),
    ofStep "shift_jis" ["csshiftjis", "s_jis", "shiftjis", "sjis", "x_mac_japanese"]
      Japanese.shiftJis,
    ofStep "shift_jisx0213" ["s_jisx0213", "shiftjisx0213", "sjisx0213"]
      (Japanese.shiftJis0213 .first),
    ofStep "shift_jis_2004" ["s_jis_2004", "shiftjis2004", "sjis_2004"]
      (Japanese.shiftJis0213 .second),
    ofStep "cp932" ["932", "ms932", "ms_kanji", "mskanji"] Japanese.codePage932,
    ofVariant "iso2022_jp" ["csiso2022jp", "iso2022jp", "iso_2022_jp"] Iso2022.jp,
    ofVariant "iso2022_jp_1" ["iso2022jp_1", "iso_2022_jp_1"] Iso2022.jp1,
    ofVariant "iso2022_jp_2" ["iso2022jp_2", "iso_2022_jp_2"] Iso2022.jp2,
    ofVariant "iso2022_jp_3" ["iso2022jp_3", "iso_2022_jp_3"] Iso2022.jp3,
    ofVariant "iso2022_jp_2004" ["iso2022jp_2004", "iso_2022_jp_2004"] Iso2022.jp2004,
    ofVariant "iso2022_jp_ext" ["iso2022jp_ext", "iso_2022_jp_ext"] Iso2022.jpExtended,
    ofStep "euc_kr"
      ["euckr", "korean", "ks_c_5601", "ks_c_5601_1987", "ks_x_1001", "ksc5601", "ksx1001",
        "x_mac_korean"]
      Korean.eucKr,
    ofStep "cp949" ["949", "ms949", "uhc"] Korean.codePage949,
    ofStep "johab" ["cp1361", "ms1361"] Korean.johab,
    ofVariant "iso2022_kr" ["csiso2022kr", "iso2022kr", "iso_2022_kr"] Iso2022.kr,
    ofStep "gb2312"
      ["chinese", "csiso58gb231280", "euc_cn", "euccn", "eucgb2312_cn", "gb2312_1980", "gb2312_80",
        "iso_ir_58", "x_mac_simp_chinese"]
      Chinese.gb2312,
    ofStep "gbk" ["936", "cp936", "ms936"] Chinese.gbk,
    ofStep "gb18030" ["gb18030_2000"] Chinese.gb18030,
    ofNumbers "hz" ["hz_gb", "hz_gb_2312", "hzgb"]
      fun bytes => (Hz.decode? false bytes).map (·.map Char.toNat),
    ofStep "big5" ["big5_tw", "csbig5", "x_mac_trad_chinese"] Chinese.big5,
    ofStep "big5hkscs" ["big5_hkscs", "hkscs"] Chinese.hkscs,
    ofStep "cp950" ["950", "ms950"] Chinese.codePage950 ]

/-- The character sets for other purposes.  One of them is there to be refused. -/
def special : List Charset :=
  [ ofNumbers "charmap" [] fun bytes => some (bytes.map UInt8.toNat),
    ofNumbers "unicode_escape" [] Backslash.marked?,
    ofNumbers "raw_unicode_escape" [] Backslash.numbered?,
    { name := "punycode", decode := Punycode.decode },
    { name := "idna", decode := HostName.decode },
    { name := "undefined", decode := fun _ => .error .refused } ]

/-- All character sets. -/
def all : List Charset :=
  unicode ++ pages.map ofPage ++ eastAsian ++ special

/-! ## Names -/

/-- Whether the character counts in a name. -/
def isNameChar (c : Char) : Bool :=
  c.isAlphanum || c == '.'

/-- The words of a name in small letters, with one underscore between any two of them. -/
def key (name : String) : String :=
  let words := split '_' (name.toList.map fun c => if isNameChar c then c.toLower else '_')
  String.ofList (join '_' (words.filter fun word => !word.isEmpty))

/-- The character set with a name.  Dots in one of the other names may be written as underscores. -/
def find? (name : String) : Option Charset :=
  let key := key name
  let undotted := key.map fun c => if c = '.' then '_' else c
  (all.find? fun s => s.aliases.contains key).or <|
    (all.find? fun s => s.aliases.contains undotted).or <|
      all.find? fun s => s.name = key

/-- What is found is called so. -/
theorem of_find? {name : String} {s : Charset} (h : find? name = some s) :
  s ∈ all ∧
    (s.name = key name ∨ key name ∈ s.aliases
      ∨ (key name).map (fun c => if c = '.' then '_' else c) ∈ s.aliases)
  := by
  simp only [find?, Option.or_eq_some_iff] at h
  rcases h with h | ⟨_, h | ⟨_, h⟩⟩
  · exact ⟨List.mem_of_find?_eq_some h, .inr (.inl (by simpa using List.find?_some h))⟩
  · exact ⟨List.mem_of_find?_eq_some h, .inr (.inr (by simpa using List.find?_some h))⟩
  · exact ⟨List.mem_of_find?_eq_some h, .inl (by simpa using List.find?_some h)⟩

/-- Reads bytes by the name of a character set, which must not hold the character NUL.  No bytes are
always an empty text. -/
def read (name : String) (bytes : List UInt8) : Except Misreading (List Nat) :=
  if name.toList.contains '\x00' then .error .refused
  else if bytes.isEmpty then .ok []
  else
    match find? name with
    | some s => s.decode bytes
    | none => .error .unreadable

end Charset

end Workshop.Text
