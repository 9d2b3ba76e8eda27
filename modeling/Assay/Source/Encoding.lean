import Assay.Text.Utf8

/-!
# Encodings of source files

A source file is in UTF-8 unless a comment in its first line declares something else, or one in its
second line if the first holds nothing but a comment. A byte order mark in front declares UTF-8, and
a comment must not say otherwise. Of encodings that extend ASCII in other ways only the ASCII part is
known.
-/

namespace Assay.Source

/-- The encodings that can be declared. -/
inductive Encoding where
  | utf8
  | latin1
  | ascii
  | extendedAscii
  deriving DecidableEq, Repr, Inhabited

namespace Encoding

/-! ## Declarations -/

/-- Whether a character may stand before a comment in the line of a declaration. -/
def isBlank (c : Char) : Bool := c = ' ' || c = '\t' || c = '\x0c'

/-- Whether a character may stand in the name of an encoding. -/
def isNameChar (c : Char) : Bool := c.isAlphanum || c = '-' || c = '_' || c = '.'

/-- The name that a comment declares. -/
def declaredBy : List Char → Option String
  | [] => none
  | c :: cs =>
      let further := declaredBy cs
      match "coding".toList.isPrefixOf (c :: cs), cs.drop 5 with
      | true, mark :: rest =>
          let name := (rest.dropWhile fun c => c = ' ' || c = '\t').takeWhile isNameChar
          if (mark = ':' || mark = '=') && !name.isEmpty then some (String.ofList name) else further
      | _, _ => further

/-- The name that a line declares. -/
def declaredIn (line : List Char) : Option String :=
  match line.dropWhile isBlank with
  | '#' :: comment => declaredBy comment
  | _ => none

/-- Whether a line holds nothing but a comment. -/
def isCommentOnly (line : List Char) : Bool :=
  match line.dropWhile isBlank with
  | [] => true
  | c :: _ => c = '#'

/-- The name that the first two lines of a text declare. -/
def declared (first second : List Char) : Option String :=
  match declaredIn first with
  | some name => some name
  | none => if isCommentOnly first then declaredIn second else none

/-! ## Names -/

/-- The common name of the two encodings that are told apart by the front of their names; other names
stay as they are. -/
def normalName (name : String) : String :=
  let front := String.ofList ((name.toList.take 12).map fun c => if c = '_' then '-' else c.toLower)
  let isOrExtends (s : String) : Bool := front = s || front.startsWith (s ++ "-")
  if isOrExtends "utf-8" then "utf-8"
  else if ["latin-1", "iso-8859-1", "iso-latin-1"].any isOrExtends then "iso-8859-1"
  else name

/-- The form of a name that look-ups use: small letters, and low lines between the words. -/
def lookupName (name : String) : String :=
  let rec go : Bool → List Char → List Char
    | _, [] => []
    | gap, c :: cs =>
        if c.isAlphanum || c = '.' then (if gap then ['_'] else []) ++ c.toLower :: go false cs
        else go true cs
  String.ofList ((go false name.toList).dropWhile (· = '_'))

/-- Names of UTF-8. -/
def utf8Names : List String :=
  ["utf_8", "utf8", "u8", "utf", "utf8_ucs2", "utf8_ucs4", "cp65001", "utf_8_sig"]

/-- Names of the encoding of the first 256 characters. -/
def latin1Names : List String :=
  ["latin_1", "latin1", "latin", "l1", "iso_8859_1", "iso8859_1", "iso8859", "8859", "cp819",
   "csisolatin1", "ibm819", "iso_8859_1_1987", "iso_ir_100"]

/-- Names of ASCII. -/
def asciiNames : List String :=
  ["ascii", "us_ascii", "us", "646", "ansi_x3.4_1968", "ansi_x3_4_1968", "ansi_x3.4_1986", "cp367",
   "csascii", "ibm367", "iso646_us", "iso_646.irv_1991", "iso_ir_6"]

/-- Names of encodings that extend ASCII. -/
def extendedAsciiNames : List String :=
  ["1250", "1251", "1252", "1253", "1254", "1255", "1256", "1257", "1258", "big5", "big5_tw",
   "big5hkscs", "chinese", "cp1006", "cp1125", "cp1250", "cp1251", "cp1252", "cp1253", "cp1254",
   "cp1255", "cp1256", "cp1257", "cp1258", "cp437", "cp720", "cp737", "cp775", "cp850", "cp852",
   "cp855", "cp856", "cp857", "cp858", "cp860", "cp861", "cp862", "cp863", "cp864", "cp865",
   "cp866", "cp869", "cp874", "cp932", "cp936", "cp949", "cp950", "cyrillic", "euc_cn", "euc_jis_2004",
   "euc_jisx0213", "euc_jp", "euc_kr", "eucgb2312_cn", "eucjp", "euckr", "gb18030", "gb18030_2000",
   "gb2312", "gbk", "greek", "hebrew", "hz", "ibm437", "ibm850", "idna", "iso2022_jp", "iso2022_kr",
   "iso8859_10", "iso8859_11", "iso8859_13", "iso8859_14", "iso8859_15", "iso8859_16", "iso8859_2",
   "iso8859_3", "iso8859_4", "iso8859_5", "iso8859_6", "iso8859_7", "iso8859_8", "iso8859_9",
   "iso_8859_10", "iso_8859_13", "iso_8859_14", "iso_8859_15", "iso_8859_16", "iso_8859_2",
   "iso_8859_3", "iso_8859_4", "iso_8859_5", "iso_8859_6", "iso_8859_7", "iso_8859_8", "iso_8859_9",
   "johab", "koi8_r", "koi8_t", "koi8_u", "korean", "kz1048", "latin2", "latin3", "latin4", "latin5",
   "latin6", "latin7", "latin8", "latin9", "latin10", "latin_2", "latin_9", "mac_cyrillic",
   "mac_greek", "mac_iceland", "mac_latin2", "mac_roman", "mac_turkish", "macroman", "ms936", "mskanji",
   "palmos", "ptcp154", "punycode", "raw_unicode_escape", "s_jis", "shift_jis", "shift_jis_2004",
   "shift_jisx0213", "shiftjis", "sjis", "thai", "tis_620", "u7", "uhc", "ujis", "unicode_escape",
   "unicode_1_1_utf_7", "utf7", "utf_7", "windows_1250", "windows_1251", "windows_1252",
   "windows_1253", "windows_1254", "windows_1255", "windows_1256", "windows_1257", "windows_1258"]

/-- Names of codecs that give no texts. -/
def otherCodecNames : List String :=
  ["base64", "base64_codec", "base_64", "bz2", "bz2_codec", "hex", "hex_codec", "quopri",
   "quopri_codec", "quoted_printable", "quotedprintable", "rot13", "rot_13", "uu", "uu_codec", "zip",
   "zlib", "zlib_codec"]

/-- The encoding of a name, or why there is none. -/
def ofName (name : String) : Except String Encoding :=
  let key := lookupName name
  if utf8Names.contains key then .ok .utf8
  else if latin1Names.contains key then .ok .latin1
  else if asciiNames.contains key then .ok .ascii
  else if extendedAsciiNames.contains key then .ok .extendedAscii
  else if otherCodecNames.contains key then
    .error (s!"'{name}' is not a text encoding; " ++
      "use codecs.decode() to handle arbitrary codecs")
  else .error s!"unknown encoding: {name}"

/-! ## Decoding -/

/-- The byte order mark of UTF-8. -/
def mark : List UInt8 := [0xef, 0xbb, 0xbf]

/-- Bytes as the characters with their codes. -/
def widen (bytes : List UInt8) : List Char := bytes.map fun b => Char.ofNat b.toNat

/-- The first two lines of bytes. -/
def firstLines (bytes : List UInt8) : List Char × List Char :=
  let isEnd (b : UInt8) : Bool := b = 10 || b = 13
  let first := bytes.takeWhile fun b => !isEnd b
  let rest := match bytes.drop first.length with
    | 13 :: 10 :: rest => rest
    | _ :: rest => rest
    | [] => []
  (widen first, widen (rest.takeWhile fun b => !isEnd b))

/-- The number of line feeds that are lost when line ends are made line feeds. -/
def lostLineFeeds : List UInt8 → Nat
  | 13 :: 10 :: rest => 1 + lostLineFeeds rest
  | _ :: rest => lostLineFeeds rest
  | [] => 0

/-- The message for a byte that is no ASCII, at a position of a text whose line ends are single
characters. -/
def notAscii (bytes : List UInt8) : Option String :=
  let before := bytes.takeWhile (· < 0x80)
  match bytes.drop before.length with
  | [] => none
  | b :: _ =>
      let hex := String.ofList (Nat.toDigits 16 b.toNat)
      let position := before.length - lostLineFeeds before
      some (s!"'ascii' codec can't decode byte 0x{hex} in position {position}: " ++
        "ordinal not in range(128)")

/-- How the bytes of a source file are to be decoded: the encoding, whether faults in UTF-8 matter
only where they stand in a word or a text, and the bytes behind the mark. -/
structure Reading where
  encoding : Encoding := .utf8
  isLenient : Bool := true
  bytes : List UInt8

/-- How to decode a source file. -/
def reading (file : List UInt8) : Except String Reading :=
  let isMarked := mark.isPrefixOf file
  let bytes := if isMarked then file.drop 3 else file
  let (first, second) := firstLines bytes
  match (declared first second).map normalName with
  | none | some "utf-8" => .ok { bytes }
  | some name =>
      if isMarked then .error s!"encoding problem: {name} with BOM"
      else do return { encoding := ← ofName name, isLenient := false, bytes }

/-- The characters of a file; bytes that are none in a lenient reading are masked by control
characters. -/
def Reading.chars (r : Reading) : Except String (List Char) :=
  match r.encoding with
  | .utf8 =>
      if r.isLenient then
        .ok (Text.Utf8.decodeWith (fun n => List.replicate n '\x7f') (r.bytes.length + 1) r.bytes)
      else match Text.Utf8.decode r.bytes with
        | .ok cs => .ok cs
        | .error f =>
            .error { f with first := f.first - lostLineFeeds (r.bytes.take f.first) }.message
  | .latin1 => .ok (widen r.bytes)
  | .ascii => match notAscii r.bytes with
    | some message => .error message
    | none => .ok (widen r.bytes)
  | .extendedAscii => .ok ((widen r.bytes).map fun c => if c.toNat < 128 then c else '\ufffd')

end Encoding

end Assay.Source
