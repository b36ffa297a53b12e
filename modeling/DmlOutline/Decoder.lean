import DmlOutline.Encoding

/-!
# Reading bytes as text

Bytes are read as UTF-8 if they are that, and else in the first of a chain of other encodings that
accepts them.

* `Decodes` — what encodings make of bytes; `Charsets` — encodings with their labels. Those of the
  library are the ones that are meant where no others are given.
* `Decoder` — the chain; `Decoder.naming` makes it from labels, with no encoding twice.
* `Decoder.decodeWith`, `Decoder.decode?` — the text of some bytes.
* `Decoder.ofLabels` — the chain of encodings of the library that labels name.
-/

namespace DmlOutline

/-- What encodings make of bytes. -/
class Decodes (α : Type) where
  /-- The text of some bytes, unless the encoding refuses them. -/
  decode? : α → ByteArray → Option String

/-- Encodings and the labels that name them. -/
class Charsets where
  Charset : Type
  [decEq : DecidableEq Charset]
  [decodes : Decodes Charset]
  /-- The encoding that a label means. -/
  ofLabel? : String → Option Charset

instance : Decodes Encoding :=
  ⟨Encoding.decode?⟩

instance : Charsets where
  Charset := Encoding
  ofLabel? := Encoding.ofLabel?

/-- A chain of encodings to try after UTF-8, in order. -/
structure Decoder (α : Type) where
  fallbacks : List α
  deriving DecidableEq, Repr

namespace Decoder

variable {α : Type}

/-- A chain with one more encoding at its end, unless it is already in it. -/
def add [DecidableEq α] (chain : List α) (encoding : α) : List α :=
  if encoding ∈ chain then chain else chain ++ [encoding]

/-- The chain that labels name, given what each label means; labels that mean no encoding are passed
over. -/
def naming [DecidableEq α] (meaning : String → Option α) (labels : List String) : Decoder α :=
  ⟨(labels.filterMap meaning).foldl add []⟩

/-- The chain of encodings of the library that labels name. -/
def ofLabels (labels : List String) : Decoder Encoding :=
  naming Encoding.ofLabel? labels

/-- The text of some bytes, given what each encoding makes of them. -/
def decodeWith (decode : α → ByteArray → Option String) (decoder : Decoder α)
    (bytes : ByteArray) : Option String :=
  match String.fromUTF8? bytes with
  | some text => some text
  | none => decoder.fallbacks.findSome? (decode · bytes)

/-- The text of some bytes. -/
def decode? [Decodes α] (decoder : Decoder α) (bytes : ByteArray) : Option String :=
  decoder.decodeWith Decodes.decode? bytes

/-- The labels that are tried where a configuration names none. -/
def defaultLabels : List String :=
  ["euc-kr", "windows-949"]

end Decoder

end DmlOutline
