import Vicinity.Platform
import Vicinity.Value

/-!
# Names of text encodings

How a name finds an encoding. Names are compared by their letters, digits and full stops, ignoring
case : every run of other characters between them is one underscore, and those at either end do not
count (`Encoding.normalized`). A full stop in an alias may stand for an underscore, one in a proper
name may not. A few registered names belong to transformations of bytes, which have a name but
decode no text. Every other name is looked up by the platform.
-/

namespace Vicinity

/-- What a registered name stands for. -/
inductive Registered where
  | encoding (e : TextEncoding)
  /-- A transformation of bytes, which is no encoding of text. -/
  | transformation

namespace Encoding

/-- Lower-case letters, digits and full stops, with one underscore for each run of other
characters between them. `gap` tells whether such a run has been passed. -/
def normalizedFrom (started gap : Bool) : List Char → List Char
  | [] => []
  | c :: rest =>
    if c.isAlphanum || c = '.' then
      if started && gap then '_' :: c.toLower :: normalizedFrom true false rest
      else c.toLower :: normalizedFrom true false rest
    else normalizedFrom started true rest

/-- The form in which names are compared. -/
def normalized (name : String) : String := String.ofList (normalizedFrom false false name.toList)

/-- The normal form with underscores for full stops. -/
def undotted (name : String) : String := name.map fun c => if c = '.' then '_' else c

/-- The proper names of an encoding, in normal form. -/
def properNames : Encoding → List String
  | utf8 => ["utf_8"]
  | utf8Signed => ["utf_8_sig"]
  | ascii => ["ascii"]
  | latin1 => ["latin_1", "iso8859_1"]
  | windows1252 => ["cp1252"]
  | utf16 => ["utf_16"]
  | utf16LittleEndian => ["utf_16_le"]
  | utf16BigEndian => ["utf_16_be"]

/-- The other names of an encoding, in normal form. -/
def aliases : Encoding → List String
  | utf8 => ["utf8", "u8", "utf", "utf8_ucs2", "utf8_ucs4", "cp65001"]
  | utf8Signed => []
  | ascii => ["us_ascii", "us", "646", "ansi_x3.4_1968", "ansi_x3_4_1968", "ansi_x3.4_1986",
      "cp367", "csascii", "ibm367", "iso646_us", "iso_646.irv_1991", "iso_ir_6"]
  | latin1 => ["latin1", "latin", "l1", "iso8859_1", "iso_8859_1", "iso8859", "8859",
      "iso_8859_1_1987", "iso_ir_100", "cp819", "ibm819", "csisolatin1"]
  | windows1252 => ["windows_1252", "1252"]
  | utf16 => ["utf16", "u16"]
  | utf16LittleEndian => ["utf_16le", "unicodelittleunmarked"]
  | utf16BigEndian => ["utf_16be", "unicodebigunmarked"]

/-- All encodings. -/
def all : List Encoding :=
  [utf8, utf8Signed, ascii, latin1, windows1252, utf16, utf16LittleEndian, utf16BigEndian]

/-- The proper names of the transformations of bytes, in normal form. -/
def transformationNames : List String :=
  ["base64_codec", "bz2_codec", "hex_codec", "quopri_codec", "rot_13", "uu_codec", "zlib_codec"]

/-- The other names of the transformations of bytes, in normal form. -/
def transformationAliases : List String :=
  ["base64", "base_64", "bz2", "hex", "quopri", "quoted_printable", "quotedprintable", "rot13",
    "uu", "zip", "zlib"]

/-- Whether a name in normal form is one of some proper names or aliases. -/
def isNamed (properNames aliases : List String) (name : String) : Bool :=
  properNames.contains name || aliases.contains name || aliases.contains (undotted name)

/-- The encoding of the library that has a name. -/
def named? (name : String) : Option Encoding :=
  all.find? fun e => isNamed e.properNames e.aliases (normalized name)

/-- Whether a name is one of a transformation of bytes. -/
def isTransformation (name : String) : Bool :=
  isNamed transformationNames transformationAliases (normalized name)

/-- What a name stands for, if it is registered. -/
def lookup? [Platform] (name : String) : Option Registered :=
  match named? name with
  | some e => some (.encoding e)
  | none =>
    if isTransformation name then some .transformation
    else (Platform.decoder? name).map fun d => .encoding (.foreign d)

end Encoding

/-! ## Encodings as settings -/

/-- Why a setting names no encoding that is registered. -/
inductive EncodingFault where
  | unknown
  /-- The setting is not a text. -/
  | notText
  /-- The name contains the character U+0000. -/
  | containsNul
deriving DecidableEq

namespace Encoding

/-- What a setting stands for. -/
def registered [Platform] (setting : Value) : Except EncodingFault Registered :=
  match setting with
  | .text name =>
    if name.contains '\x00' then .error .containsNul
    else
      match lookup? name with
      | some r => .ok r
      | none => .error .unknown
  | _ => .error .notText

/-- The encoding in which a file is read. If none is set, or only the name that says so, it is the
one of the platform. A transformation of bytes is as good as unknown. -/
def ofSetting [Platform] (setting : Value) : Except EncodingFault TextEncoding :=
  if setting = .null ∨ setting = .text "locale" then .ok Platform.encoding
  else do
    match ← registered setting with
    | .encoding e => return e
    | .transformation => throw .unknown

end Encoding

end Vicinity
