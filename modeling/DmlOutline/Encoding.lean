import DmlOutline.Encoding.EucKr
import DmlOutline.Encoding.SingleByte
import DmlOutline.Encoding.Utf16

/-!
# Encodings

The ways in which the bytes of a file may stand for text: UTF-8, the Korean encoding, the two of
single bytes and those of UTF-16, each with all labels that the Encoding Standard gives it. Its other
encodings are left out. What is proved of stores does not depend on them: a store may be given any
encodings and labels (`Charsets`).

* `Encoding` — the encodings; `Encoding.name` is how each is called.
* `Encoding.ofLabel?` — the encoding that a label of a configuration means.
* `Encoding.decode?` — the text of some bytes, unless the encoding refuses them.
-/

namespace DmlOutline

/-- A way in which bytes stand for text. -/
inductive Encoding where
  | utf8
  | eucKr
  | windows1252
  | userDefined
  | utf16le
  | utf16be
  /-- The place of encodings that are not safe to read: it refuses every text. -/
  | replacement
  deriving DecidableEq, Repr

namespace Encoding

/-- How an encoding is called. -/
def name : Encoding → String
  | utf8 => "UTF-8"
  | eucKr => "EUC-KR"
  | windows1252 => "windows-1252"
  | userDefined => "x-user-defined"
  | utf16le => "UTF-16LE"
  | utf16be => "UTF-16BE"
  | replacement => "replacement"

/-! ## Labels -/

/-- The labels of each encoding, in lower case. -/
def labels : List (Encoding × List String) :=
  [(eucKr,
      ["euc-kr", "windows-949", "korean", "ks_c_5601-1987", "ks_c_5601-1989", "ksc5601",
       "ksc_5601", "iso-ir-149", "cseuckr", "csksc56011987"]),
   (utf8,
      ["utf-8", "utf8", "unicode-1-1-utf-8", "unicode11utf8", "unicode20utf8", "x-unicode20utf8"]),
   (windows1252,
      ["latin1", "iso-8859-1", "iso8859-1", "iso88591", "iso_8859-1", "iso_8859-1:1987",
       "iso-ir-100", "csisolatin1", "l1", "cp819", "ibm819", "ascii", "us-ascii",
       "ansi_x3.4-1968", "windows-1252", "cp1252", "x-cp1252"]),
   (userDefined, ["x-user-defined"]),
   (utf16le,
      ["utf-16", "utf-16le", "ucs-2", "iso-10646-ucs-2", "unicode", "unicodefeff", "csunicode"]),
   (utf16be, ["utf-16be", "unicodefffe"]),
   (replacement,
      ["iso-2022-kr", "csiso2022kr", "iso-2022-cn", "iso-2022-cn-ext", "hz-gb-2312",
       "replacement"])]

/-- Whether a character around a label does not count. -/
def isLabelBlank (c : Char) : Bool :=
  c == ' ' || c == '\t' || c == '\n' || c == '\x0c' || c == '\r'

/-- A label without blanks around it and with its ASCII letters in lower case. -/
def canonicalLabel (label : String) : String :=
  let trimmed := (label.toList.dropWhile isLabelBlank).reverse.dropWhile isLabelBlank
  String.ofList (trimmed.reverse.map Char.toLower)

/-- The encoding that a label means. -/
def ofLabel? (label : String) : Option Encoding :=
  (labels.find? fun entry => entry.2.contains (canonicalLabel label)).map (·.1)

/-! ## Texts -/

/-- The text of some bytes, unless the encoding refuses them. -/
def decode? (encoding : Encoding) (bytes : ByteArray) : Option String :=
  let octets := bytes.data.toList
  match encoding with
  | utf8 => String.fromUTF8? bytes
  | eucKr => (decodeEucKr octets).map String.ofList
  | windows1252 => some (String.ofList (octets.map windows1252Char))
  | userDefined => some (String.ofList (octets.map userDefinedChar))
  | utf16le => ((units? false octets).bind (charsOfUnits? none)).map String.ofList
  | utf16be => ((units? true octets).bind (charsOfUnits? none)).map String.ofList
  | replacement => if octets = [] then some "" else none

end Encoding

end DmlOutline
