import Vicinity.Command.Arguments
import Vicinity.Neighborhood
import Vicinity.TableLibrary

/-!
# The command

The command reads a table of objects, loads a neighbor file against their labels and prints a
summary. It goes through its stages in a fixed order : the configuration is loaded, completed by
the options and checked before the table of objects is read, and the table is read before the
neighbor file. An invalid configuration ends it with the code 2, a failed load with the code 1,
both with a line on the error output and nothing else; every other failure is one of the command
itself (`Command.Failure`). Tables are left to a library (`TableLibrary`).
-/

namespace Vicinity

namespace Command

/-- Why the command gives no result. -/
inductive Failure (lib : TableLibrary) where
  | configuration (f : ConfigurationFault)
  | validation (f : ValidationFault)
  /-- The option of the table of objects is without a value. -/
  | blankTable
  /-- The option of a column is without a value. -/
  | blankColumn
  /-- A table is not made, read, split or written. -/
  | table (f : lib.Fault)
  | frame (f : FrameFault)
  | objects (f : IndexFault)
  | load (f : LoadFailure)

/-- What the command leaves behind. -/
structure Result where
  code : Nat
  output : String := ""
  errors : String := ""
  fs : FileSystem

/-! ## Summaries -/

/-- Digits in groups of three from the end, with commas between them. -/
def grouped (n : Nat) : String :=
  let digits := Nat.toDigits 10 n
  String.ofList (digits.zipIdx.flatMap fun (c, i) =>
    if i ≠ 0 ∧ (digits.length - i) % 3 = 0 then [',', c] else [c])

/-- The figures of a load that succeeded. -/
structure Summary where
  objects : Nat
  neighborhoods : Nat
  pairs : Nat
  linesRead : Nat
  skippedLines : Nat
  unresolvedNeighbors : Nat

/-- The text of a summary. -/
def Summary.toText (s : Summary) : String :=
  "\nObjects:              " ++ grouped s.objects ++
  "\nNeighborhoods:        " ++ grouped s.neighborhoods ++
  "\nNeighbor pairs:       " ++ grouped s.pairs ++
  "\nLines read:           " ++ grouped s.linesRead ++
  "\nSkipped lines:        " ++ grouped s.skippedLines ++
  "\nUnresolved neighbors: " ++ grouped s.unresolvedNeighbors ++ "\n"

/-- The line about a table that was written. -/
def writtenLine (path : String) : String := "\nWrote neighbor pairs to " ++ path ++ "\n"

/-- The line about an invalid configuration. -/
def invalidLine (i : Invalidity) : String := "Invalid configuration: " ++ i.message ++ "\n"

/-- The line about a load that failed. -/
def failedLine (f : ReadFailure) : String :=
  loadFailureMessage ++ " Cause: " ++ f.message ++ "\n"

/-! ## Stages -/

/-- The configuration that the arguments name, or the one with default settings. -/
def configuration (fs : FileSystem) (a : Arguments) :
    Told (Except ConfigurationFault Configuration) :=
  match a.config.value? with
  | none => ⟨[], .ok {}⟩
  | some path => Configuration.load fs path

/-- What the arguments say goes before what the configuration says. -/
def complete (a : Arguments) (c : Configuration) : Configuration :=
  let c := match a.neighbors.value? with
    | some path => { c with file := some (Path.normalized path) }
    | none => c
  if a.includeSubject then { c with includeSubject := .bool true } else c

/-- The suffix of tables that are read as they were written. -/
def frameSuffix : String := ".parquet"

/-- The separator of labels in a cell of a text. -/
def labelSeparator : Char := ';'

section

variable (lib : TableLibrary)

/-- Read a table of objects. A path whose suffix says so leads to a table that was written, any
other to a text with several labels in a cell. -/
def readObjects (fs : FileSystem) (path : String) (labelColumn : Given) :
    Except (Failure lib) Frame :=
  if (Path.suffix path).map Char.toLower = frameSuffix then (lib.readFrame fs path).mapError .table
  else do
    let f ← (lib.readTexts fs path).mapError .table
    match labelColumn with
    | .value name => (lib.splitTexts labelSeparator name f).mapError .table
    | .nothing | .blank => throw .blankColumn

/-- The name of a column, which must be there. -/
def columnOf (f : Frame) : Given → Except (Failure lib) String
  | .value name => ((f.column name).mapError .frame).map fun _ => name
  | .nothing | .blank => .error .blankColumn

/-- The columns that the arguments name, in the order in which they are looked up. -/
def columnsOf (a : Arguments) (f : Frame) : Except (Failure lib) ObjectColumns := do
  let id ← columnOf lib f a.idColumn
  let labels ← columnOf lib f a.labelColumn
  match a.externalIdColumn with
  | .nothing => return { id, labels }
  | given => return { id, labels, externalId := some (← columnOf lib f given) }

/-- The objects that the arguments name. -/
def objectRecords (fs : FileSystem) (a : Arguments) :
    Except (Failure lib) (List ObjectRecord) := do
  match a.objects with
  | .nothing | .blank => throw .blankTable
  | .value path =>
    let f ← readObjects lib fs (Path.normalized path) a.labelColumn
    let columns ← columnsOf lib a f
    (ObjectRecord.ofFrame f columns).mapError .frame

/-- Report a neighborhood that was loaded by a reader, and write its pairs if asked to. -/
def report (fs : FileSystem) (a : Arguments) (objects : Nat) (stats : LoadStats)
    (n : Neighborhood) : Except (Failure lib) Result := do
  let summary : Summary := {
    objects
    neighborhoods := n.size
    pairs := n.store.pairCount
    linesRead := stats.linesRead
    skippedLines := stats.skippedLines
    unresolvedNeighbors := stats.unresolvedNeighbors }
  match a.output.value? with
  | none => return { code := 0, output := summary.toText, fs }
  | some path =>
    let path := Path.normalized path
    let frame ← (n.store.toFrame lib).mapError .table
    let fs ← (lib.write fs path frame).mapError .table
    return { code := 0, output := summary.toText ++ writtenLine path, fs }

/-- Load the neighborhood of objects and report it. -/
def load [Platform] (fs : FileSystem) (a : Arguments) (factory : NeighborhoodFactory)
    (records : List ObjectRecord) : Told (Except (Failure lib) Result) :=
  let (factory, told) := factory.instantiate fs (records.map .record)
  let stats := (factory.lastReader.map fun r => r.last.stats).getD {}
  ⟨told.events,
    match told.result with
    | .ok n => report lib fs a records.length stats n
    | .error (.load (.unreadable f)) => .ok { code := 1, errors := failedLine f, fs }
    | .error (.load f) => .error (.load f)
    | .error (.objects f) => .error (.objects f)⟩

/-- Run the command with a configuration. -/
def runConfigured [Platform] (fs : FileSystem) (a : Arguments) (c : Configuration) :
    Told (Except (Failure lib) Result) :=
  match NeighborhoodFactory.ofConfiguration (complete a c) with
  | .error (.invalid i) => ⟨[], .ok { code := 2, errors := invalidLine i, fs }⟩
  | .error f => ⟨[], .error (.validation f)⟩
  | .ok factory =>
    match objectRecords lib fs a with
    | .error f => ⟨[], .error f⟩
    | .ok records => load lib fs a factory records

/-- Run the command. -/
def run [Platform] (fs : FileSystem) (a : Arguments) : Told (Except (Failure lib) Result) :=
  let configured := configuration fs a
  match configured.result with
  | .error f => ⟨configured.events, .error (.configuration f)⟩
  | .ok c =>
    let told := runConfigured lib fs a c
    ⟨configured.events ++ told.events, told.result⟩

end

end Command

end Vicinity
