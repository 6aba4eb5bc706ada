import Vicinity.Column.Cell
import Vicinity.Csv
import Vicinity.FileSystem.Expand
import Vicinity.Frame.Json
import Vicinity.Gzip
import Vicinity.Partition
import Vicinity.Zlib

/-!
# Reading tables

A table is read from all files that a path stands for (`FileSystem.expand`), which hold texts or
frames. Texts can be compressed. The rows of several files stand below each other. The columns of
texts must be the same; those of frames must be the ones of the first frame, in any order, unless a
frame has no rows.
-/

namespace Vicinity

/-- Why a table is not made, read or written. -/
inductive TableFault where
  /-- The cells of a column form none. -/
  | column (f : ColumnFault)
  | files (f : ExpandFault)
  /-- Compressed data is damaged. -/
  | damaged
  | text (f : Csv.Fault)
  /-- The name of a column should be a pattern and is none. -/
  | badPattern
  /-- A file should be a frame and is none. -/
  | notFrame
  /-- A frame has other columns than the first one, or other types of columns. -/
  | differentFrames
  | partition (f : Partition.Fault)
  | frame (f : FrameFault)
  | writing (e : OpenError)
  /-- The path of a table that is to be written contains the character U+0000. -/
  | pathContainsNul
deriving DecidableEq

namespace ObjectTable

/-! ## Texts -/

/-- The least number of bytes of a compressed file. -/
def minCompressedSize : Nat := 4

/-- The content of a file, unpacked if it is compressed. -/
def contentOf (bytes : List UInt8) : Except TableFault (List UInt8) :=
  let content? :=
    if bytes.length < minCompressedSize then some bytes
    else if Gzip.isCompressed bytes then Gzip.content? bytes
    else if Zlib.isCompressed bytes then Zlib.content? bytes
    else some bytes
  match content? with
  | some content => .ok content
  | none => .error .damaged

/-- The sheet of a file. -/
def sheetOf (bytes : List UInt8) : Except TableFault Csv.Sheet := do
  let content ← contentOf bytes
  (Csv.Sheet.ofBytes content).mapError .text

/-- The frame of texts. -/
def frameOfTexts (files : List (List UInt8)) : Except TableFault Frame := do
  let sheets ← files.mapM sheetOf
  (Csv.frameOfSheets sheets).mapError .text

/-- Split the cells of the columns that a name stands for. -/
def splitTexts (separator : Char) (name : String) (f : Frame) : Except TableFault Frame :=
  match Selection.ofName? name with
  | some selection => (Csv.splitColumns separator selection f).mapError .frame
  | none => .error .badPattern

/-! ## Frames -/

/-- Put the rows of a frame below those of another one, which decides on names, types and order of
the columns. A column without a type can be one of any type. -/
def append (f g : Frame) : Except TableFault Frame := do
  if g.height = 0 then return f
  if g.columns.any fun d => !f.columns.any fun c => c.name == d.name then throw .differentFrames
  let columns ← f.columns.mapM fun c =>
    match g.columns.find? fun d => d.name == c.name with
    | none => throw (.frame (.missingColumn c.name))
    | some d =>
      if d.type = c.type ∨ d.type = .null then pure { c with values := c.values ++ d.values }
      else throw .differentFrames
  return ⟨columns⟩

/-- The bytes of a node. -/
def bytesOf : Node → List UInt8
  | .file bytes => bytes
  | .directory => []

/-- The frame in a file, with the directories in which the file lies. -/
def frameIn (file : FileSystem.FoundFile) : Except TableFault (List String × Frame) :=
  match Frame.ofBytes? (bytesOf file.node) with
  | some f => .ok (file.directories, f)
  | none => .error .notFrame

/-- The frame of the frames in files, below each other. -/
def frameOfFrames (files : List FileSystem.FoundFile) : Except TableFault Frame := do
  let frames ← (Partition.addAll (← files.mapM frameIn)).mapError .partition
  match frames with
  | [] => throw .notFrame
  | first :: others => others.foldlM append first

/-! ## Paths -/

/-- The table of the texts that a path stands for. -/
def readTexts (fs : FileSystem) (path : String) : Except TableFault Frame := do
  let files ← (fs.expand path).mapError .files
  frameOfTexts (files.map fun file => bytesOf file.node)

/-- The table of the frames that a path stands for. -/
def readFrame (fs : FileSystem) (path : String) : Except TableFault Frame := do
  let files ← (fs.expand path).mapError .files
  frameOfFrames files

end ObjectTable

end Vicinity
