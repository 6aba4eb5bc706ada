import Vicinity.FileSystem
import Vicinity.Gzip
import Vicinity.Text.Decoder
import Vicinity.Text.Name

/-!
# Text streams

A `TextStream` is a file that has been opened for reading its text : what its bytes deliver,
unpacked if they are compressed, and their encoding. Its text can be read as lines
(`TextStream.lines`), which are decoded piece by piece as they arrive, so that those before a
failure are known, or as a whole (`TextStream.text`).

A line ends with a line feed, a carriage return, or both in this order, and shows a line feed in
their place. Before a failure a line counts only if its end is there, and a carriage return that
is the very last character is not an end yet, for a line feed might have followed.

Failures are of three kinds. A `ReadFailure` is one of the system, of the compression or of the
encoding; every other `StreamFailure` is either met before anything is read, or the missing mark
of UTF-16, or the like from a decoder that is not the library's own.
-/

namespace Vicinity

/-- Why a file is not read to its end. -/
inductive ReadFailure where
  | opening (e : OpenError)
  | unpacking (e : GzipError)
  | decoding (e : Text.DecodeError)

/-- Why a stream is not opened, or not read to its end. -/
inductive StreamFailure where
  | reading (f : ReadFailure)
  /-- The text is in UTF-16 and its byte order is not told. -/
  | missingMark
  /-- The text is refused by a decoder that is not the library's own. -/
  | refused (wording : String)
  /-- The path contains the character U+0000. -/
  | pathContainsNul
  | encoding (f : EncodingFault)

/-! ## Wording -/

/-- The wording of a decode error. -/
def Text.DecodeError.message (e : Text.DecodeError) : String :=
  let which :=
    if e.stop = e.start + 1 then
      "byte 0x" ++ String.ofList (Text.hexadecimal 2 e.first.toNat) ++ " in position " ++
        toString e.start
    else "bytes in position " ++ toString e.start ++ "-" ++ toString (e.stop - 1)
  "'" ++ e.codec ++ "' codec can't decode " ++ which ++ ": " ++ e.reason.message

/-- The wording of a failure. -/
def ReadFailure.message : ReadFailure → String
  | opening e => e.message
  | unpacking e => e.message
  | decoding e => e.message

/-- The wording of the missing mark. -/
def missingMarkMessage : String := "UTF-16 stream does not start with BOM"

/-- The failure that a fault of decoding is. -/
def StreamFailure.ofDecodeFault : Text.DecodeFault → StreamFailure
  | .undecodable e => .reading (.decoding e)
  | .missingMark => .missingMark
  | .refused wording => .refused wording

/-! ## Line ends -/

namespace Text

/-- Put a character before a text whose line ends are unified. The flag tells whether that text
began with a line feed of its own, which ends the same line as a carriage return before it. -/
def unifyChar (c : Char) (text : Bool × List Char) : Bool × List Char :=
  if c = '\r' then (false, if text.1 then text.2 else '\n' :: text.2)
  else (c = '\n', c :: text.2)

/-- Every line end is a line feed. -/
def unifyLineEnds (chars : List Char) : List Char := (chars.foldr unifyChar (false, [])).2

/-- The characters without a carriage return at the very end. -/
def withoutLastReturn (chars : List Char) : List Char :=
  if chars.getLast? = some '\r' then chars.dropLast else chars

/-- Put a character before lines and what follows the last of them. -/
def consLines (c : Char) (text : List (List Char) × List Char) : List (List Char) × List Char :=
  if c = '\n' then (['\n'] :: text.1, text.2)
  else
    match text.1 with
    | [] => ([], c :: text.2)
    | line :: lines => ((c :: line) :: lines, text.2)

/-- The lines of a text, each with its line feed, and what follows the last line feed. -/
def splitLines (chars : List Char) : List (List Char) × List Char := chars.foldr consLines ([], [])

/-- The lines of a whole text; what follows the last line feed is a line unless it is empty. -/
def linesOfWhole (chars : List Char) : List (List Char) :=
  let (lines, last) := splitLines (unifyLineEnds chars)
  if last.isEmpty then lines else lines ++ [last]

/-- The lines of a text that breaks off. -/
def linesOfBroken (chars : List Char) : List (List Char) :=
  (splitLines (unifyLineEnds (withoutLastReturn chars))).1

end Text

/-! ## Streams -/

/-- A file that has been opened for reading its text. -/
structure TextStream where
  encoding : TextEncoding
  delivery : Delivery GzipError

namespace TextStream

/-- Open a file. The path is tried first, then the encoding. -/
def openFile [Platform] (fs : FileSystem) (path : String) (encoding : Value) :
    Except StreamFailure TextStream :=
  if path.contains '\x00' then .error .pathContainsNul
  else
    match fs.read path with
    | .error e => .error (.reading (.opening e))
    | .ok bytes =>
      match Encoding.ofSetting encoding with
      | .error f => .error (.encoding f)
      | .ok encoding => .ok ⟨encoding, Gzip.deliver bytes⟩

/-- The characters that are decoded piece by piece, and the failure that follows them. -/
def decoded (s : TextStream) : List Char × Option StreamFailure :=
  match s.encoding.decoder.feedAll s.delivery.pieces with
  | (cs, .error f) => (cs, some (.ofDecodeFault f))
  | (cs, .ok d) =>
    match s.delivery.failure with
    | some e => (cs, some (.reading (.unpacking e)))
    | none =>
      match d.feed true [] with
      | .error f => (cs, some (.ofDecodeFault f))
      | .ok (cs', _) => (cs ++ cs', none)

/-- The lines that are read, each with its line feed, and the failure that follows them. -/
def lines (s : TextStream) : List String × Option StreamFailure :=
  match s.decoded with
  | (cs, none) => ((Text.linesOfWhole cs).map String.ofList, none)
  | (cs, some f) => ((Text.linesOfBroken cs).map String.ofList, some f)

/-- The whole text. All bytes are there before they are decoded. -/
def text (s : TextStream) : Except StreamFailure String :=
  match s.delivery.failure with
  | some e => .error (.reading (.unpacking e))
  | none =>
    match s.encoding.decoder.feed true s.delivery.bytes with
    | .error f => .error (.ofDecodeFault f)
    | .ok (cs, _) => .ok (String.ofList (Text.unifyLineEnds cs))

end TextStream

end Vicinity
