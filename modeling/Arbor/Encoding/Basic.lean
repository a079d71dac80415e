import Arbor.Text.Blank
/-!
Text encodings and their labels.
-/

namespace Arbor

/-- The encodings a text may be read and written in. -/
inductive Encoding where
  | utf8
  | ibm866
  | iso8859n2
  | iso8859n3
  | iso8859n4
  | iso8859n5
  | iso8859n6
  | iso8859n7
  | iso8859n8
  | iso8859n8i
  | iso8859n10
  | iso8859n13
  | iso8859n14
  | iso8859n15
  | iso8859n16
  | koi8r
  | koi8u
  | macintosh
  | windows874
  | windows1250
  | windows1251
  | windows1252
  | windows1253
  | windows1254
  | windows1255
  | windows1256
  | windows1257
  | windows1258
  | macCyrillic
  | gbk
  | gb18030
  | big5
  | eucJp
  | iso2022Jp
  | shiftJis
  | eucKr
  | replacement
  | utf16be
  | utf16le
  | userDefined
  deriving DecidableEq, Repr, Inhabited

namespace Encoding

/-- The encoding's name. -/
def name : Encoding → String
  | .utf8 => "UTF-8"
  | .ibm866 => "IBM866"
  | .iso8859n2 => "ISO-8859-2"
  | .iso8859n3 => "ISO-8859-3"
  | .iso8859n4 => "ISO-8859-4"
  | .iso8859n5 => "ISO-8859-5"
  | .iso8859n6 => "ISO-8859-6"
  | .iso8859n7 => "ISO-8859-7"
  | .iso8859n8 => "ISO-8859-8"
  | .iso8859n8i => "ISO-8859-8-I"
  | .iso8859n10 => "ISO-8859-10"
  | .iso8859n13 => "ISO-8859-13"
  | .iso8859n14 => "ISO-8859-14"
  | .iso8859n15 => "ISO-8859-15"
  | .iso8859n16 => "ISO-8859-16"
  | .koi8r => "KOI8-R"
  | .koi8u => "KOI8-U"
  | .macintosh => "macintosh"
  | .windows874 => "windows-874"
  | .windows1250 => "windows-1250"
  | .windows1251 => "windows-1251"
  | .windows1252 => "windows-1252"
  | .windows1253 => "windows-1253"
  | .windows1254 => "windows-1254"
  | .windows1255 => "windows-1255"
  | .windows1256 => "windows-1256"
  | .windows1257 => "windows-1257"
  | .windows1258 => "windows-1258"
  | .macCyrillic => "x-mac-cyrillic"
  | .gbk => "GBK"
  | .gb18030 => "gb18030"
  | .big5 => "Big5"
  | .eucJp => "EUC-JP"
  | .iso2022Jp => "ISO-2022-JP"
  | .shiftJis => "Shift_JIS"
  | .eucKr => "EUC-KR"
  | .replacement => "replacement"
  | .utf16be => "UTF-16BE"
  | .utf16le => "UTF-16LE"
  | .userDefined => "x-user-defined"

def labels : List (Encoding × List String) :=
  [(.utf8, ["unicode-1-1-utf-8", "unicode11utf8", "unicode20utf8", "utf-8", "utf8",
      "x-unicode20utf8"]),
   (.ibm866, ["866", "cp866", "csibm866", "ibm866"]),
   (.iso8859n2, ["csisolatin2", "iso-8859-2", "iso-ir-101", "iso8859-2", "iso88592",
      "iso_8859-2", "iso_8859-2:1987", "l2", "latin2"]),
   (.iso8859n3, ["csisolatin3", "iso-8859-3", "iso-ir-109", "iso8859-3", "iso88593",
      "iso_8859-3", "iso_8859-3:1988", "l3", "latin3"]),
   (.iso8859n4, ["csisolatin4", "iso-8859-4", "iso-ir-110", "iso8859-4", "iso88594",
      "iso_8859-4", "iso_8859-4:1988", "l4", "latin4"]),
   (.iso8859n5, ["csisolatincyrillic", "cyrillic", "iso-8859-5", "iso-ir-144", "iso8859-5",
      "iso88595", "iso_8859-5", "iso_8859-5:1988"]),
   (.iso8859n6, ["arabic", "asmo-708", "csiso88596e", "csiso88596i", "csisolatinarabic",
      "ecma-114", "iso-8859-6", "iso-8859-6-e", "iso-8859-6-i", "iso-ir-127", "iso8859-6",
      "iso88596", "iso_8859-6", "iso_8859-6:1987"]),
   (.iso8859n7, ["csisolatingreek", "ecma-118", "elot_928", "greek", "greek8", "iso-8859-7",
      "iso-ir-126", "iso8859-7", "iso88597", "iso_8859-7", "iso_8859-7:1987", "sun_eu_greek"]),
   (.iso8859n8, ["csiso88598e", "csisolatinhebrew", "hebrew", "iso-8859-8", "iso-8859-8-e",
      "iso-ir-138", "iso8859-8", "iso88598", "iso_8859-8", "iso_8859-8:1988", "visual"]),
   (.iso8859n8i, ["csiso88598i", "iso-8859-8-i", "logical"]),
   (.iso8859n10, ["csisolatin6", "iso-8859-10", "iso-ir-157", "iso8859-10", "iso885910", "l6",
      "latin6"]),
   (.iso8859n13, ["iso-8859-13", "iso8859-13", "iso885913"]),
   (.iso8859n14, ["iso-8859-14", "iso8859-14", "iso885914"]),
   (.iso8859n15, ["csisolatin9", "iso-8859-15", "iso8859-15", "iso885915", "iso_8859-15",
      "l9"]),
   (.iso8859n16, ["iso-8859-16"]),
   (.koi8r, ["cskoi8r", "koi", "koi8", "koi8-r", "koi8_r"]),
   (.koi8u, ["koi8-ru", "koi8-u"]),
   (.macintosh, ["csmacintosh", "mac", "macintosh", "x-mac-roman"]),
   (.windows874, ["dos-874", "iso-8859-11", "iso8859-11", "iso885911", "tis-620",
      "windows-874"]),
   (.windows1250, ["cp1250", "windows-1250", "x-cp1250"]),
   (.windows1251, ["cp1251", "windows-1251", "x-cp1251"]),
   (.windows1252, ["ansi_x3.4-1968", "ascii", "cp1252", "cp819", "csisolatin1", "ibm819",
      "iso-8859-1", "iso-ir-100", "iso8859-1", "iso88591", "iso_8859-1", "iso_8859-1:1987", "l1",
      "latin1", "us-ascii", "windows-1252", "x-cp1252"]),
   (.windows1253, ["cp1253", "windows-1253", "x-cp1253"]),
   (.windows1254, ["cp1254", "csisolatin5", "iso-8859-9", "iso-ir-148", "iso8859-9", "iso88599",
      "iso_8859-9", "iso_8859-9:1989", "l5", "latin5", "windows-1254", "x-cp1254"]),
   (.windows1255, ["cp1255", "windows-1255", "x-cp1255"]),
   (.windows1256, ["cp1256", "windows-1256", "x-cp1256"]),
   (.windows1257, ["cp1257", "windows-1257", "x-cp1257"]),
   (.windows1258, ["cp1258", "windows-1258", "x-cp1258"]),
   (.macCyrillic, ["x-mac-cyrillic", "x-mac-ukrainian"]),
   (.gbk, ["chinese", "csgb2312", "csiso58gb231280", "gb2312", "gb_2312", "gb_2312-80", "gbk",
      "iso-ir-58", "x-gbk"]),
   (.gb18030, ["gb18030"]),
   (.big5, ["big5", "big5-hkscs", "cn-big5", "csbig5", "x-x-big5"]),
   (.eucJp, ["cseucpkdfmtjapanese", "euc-jp", "x-euc-jp"]),
   (.iso2022Jp, ["csiso2022jp", "iso-2022-jp"]),
   (.shiftJis, ["csshiftjis", "ms932", "ms_kanji", "shift-jis", "shift_jis", "sjis",
      "windows-31j", "x-sjis"]),
   (.eucKr, ["cseuckr", "csksc56011987", "euc-kr", "iso-ir-149", "korean", "ks_c_5601-1987",
      "ks_c_5601-1989", "ksc5601", "ksc_5601", "windows-949"]),
   (.replacement, ["csiso2022kr", "hz-gb-2312", "iso-2022-cn", "iso-2022-cn-ext",
      "iso-2022-kr", "replacement"]),
   (.utf16be, ["unicodefffe", "utf-16be"]),
   (.utf16le, ["csunicode", "iso-10646-ucs-2", "ucs-2", "unicode", "unicodefeff", "utf-16",
      "utf-16le"]),
   (.userDefined, ["x-user-defined"])]

/-- The blanks a label may have around it: tab, line feed, form feed, carriage return and
space. -/
def isLabelBlank (c : Char) : Bool :=
  c == '\t' || c == '\n' || c == '\x0c' || c == '\r' || c == ' '

/-- A label as it is compared: ASCII blanks around it dropped, ASCII letters in lower case. -/
def normalLabel (label : String) : String :=
  String.ofList (((label.toList.dropWhile isLabelBlank).reverse.dropWhile isLabelBlank).reverse.map
    Char.toLower)

/-- The encoding a label names, if it names one. Blanks of any kind around the label are
dropped first. -/
def ofLabel? (label : String) : Option Encoding :=
  let key := normalLabel (Text.trim label)
  (labels.find? fun (_, names) => names.contains key).map (·.1)

def debugText (e : Encoding) : String := "TextEncoding(\"" ++ e.name ++ "\")"

def writesAsUtf8 : Encoding → Bool
  | .utf16be | .utf16le | .replacement => true
  | _ => false

end Encoding

/-- Why text could not be decoded or encoded. -/
inductive EncodingError where
  | unknownLabel (label : String)
  | decode (encoding : Encoding)
  | unmappable (encoding : Encoding)
  deriving DecidableEq, Repr

/-- The sentence shown for an encoding failure. -/
def EncodingError.message : EncodingError → String
  | .unknownLabel label => s!"unknown encoding label: {label}"
  | .decode e => s!"input is not valid {e.name}"
  | .unmappable e => s!"text cannot be represented in {e.name}"

/-- The name of the failure's kind. -/
def EncodingError.kind : EncodingError → String
  | .unknownLabel .. => "UnknownLabel"
  | .decode .. => "Decode"
  | .unmappable .. => "Unmappable"

/-- The encoding a label names, or the failure that names the label. -/
def Encoding.forLabel (label : String) : Except EncodingError Encoding :=
  match Encoding.ofLabel? label with
  | some e => .ok e
  | none => .error (.unknownLabel label)

end Arbor
