import Vicinity.Command.Message
import Vicinity.TableLibrary.Standard

/-!
# The program

Reads the files that the arguments name, runs the command on what they hold, and writes what the
command leaves behind.
-/

namespace Vicinity

namespace Program

/-- What lies at a path. -/
def nodeAt? (path : String) : IO (Option Node) := do
  try
    let bytes ← IO.FS.readBinFile path
    return some (.file bytes.toList)
  catch e =>
    match e with
    | .inappropriateType _ code _ => return if code = 21 then some .directory else none
    | _ => return none

/-- The paths that lead to a path, and itself. -/
def pathsTo (path : String) : List String :=
  let names := path.splitOn "/"
  (List.range names.length).map fun i => "/".intercalate (names.take (i + 1))

/-- Take what lies at a path, and on the way to it, from the system. -/
def take (fs : FileSystem) (path : String) : IO FileSystem :=
  (pathsTo path).foldlM (fun fs path => do
    match fs.locate path, ← nodeAt? path with
    | .ok names, some node => return fs.put names node
    | _, _ => return fs) fs

/-- The names in a directory. -/
def namesIn (path : String) : IO (List String) := do
  try
    let entries ← (← IO.FS.realPath path).readDir
    return entries.toList.map fun e => e.fileName
  catch _ => return []

/-- How deep directories are searched. -/
def maxDepth : Nat := 64

/-- Take what lies below a directory, down to a depth. -/
def takeBelow : (depth : Nat) → FileSystem → String → IO FileSystem
  | 0, fs, _ => return fs
  | depth + 1, fs, directory => do
    (← namesIn directory).foldlM (fun fs name => do
      let path := directory ++ "/" ++ name
      match fs.locate path, ← nodeAt? path with
      | .ok names, some node => takeBelow depth (fs.put names node) path
      | _, _ => return fs) fs

/-- Take all files that a path stands for. -/
def takeAll (fs : FileSystem) (path : String) : IO FileSystem := do
  let parts := path.splitOn "/"
  let isPlain := FileSystem.isPlain
  let directory := "/".intercalate (parts.takeWhile isPlain)
  let searched := parts.dropWhile isPlain
  let fs ← take fs directory
  if searched.isEmpty then takeBelow maxDepth fs directory
  else
    takeBelow (if searched.contains "**" then maxDepth else searched.length) fs
      (if directory.isEmpty && !path.startsWith "/" then "." else directory)

/-- The working directory with nothing in it. -/
def workingDirectory : IO FileSystem := do
  let path ← IO.currentDir
  return .ofWorkingDirectory ((path.toString.splitOn "/").filter (· ≠ ""))

/-- Write the table of pairs, if there is one. -/
def writeOutput (a : Command.Arguments) (r : Command.Result) : IO Unit := do
  match a.output.value?, r.code with
  | some path, 0 =>
    match r.fs.read (Path.normalized path) with
    | .ok bytes => IO.FS.writeBinFile path ⟨bytes.toArray⟩
    | .error _ => return
  | _, _ => return

/-- Run the command. -/
def run (a : Command.Arguments) : IO UInt32 := do
  let named := [a.config, a.output].filterMap Command.Given.value?
  let fs ← named.foldlM take (← workingDirectory)
  let fs ← (a.objects.value?.toList.map Path.normalized).foldlM takeAll fs
  let fs ←
    match (Command.configuration fs a).result with
    | .ok c => (Command.complete a c).file.toList.foldlM take fs
    | .error _ => pure fs
  let told := Command.run .standard fs a
  for e in told.events.filter (Event.isShown a.verbose) do
    IO.eprintln e.line
  match told.result with
  | .error f =>
    IO.eprintln f.message
    return 1
  | .ok r =>
    writeOutput a r
    IO.print r.output
    IO.eprint r.errors
    return r.code.toUInt32

end Program

end Vicinity

/-- Load the neighbors of objects from a file. -/
def main (args : List String) : IO UInt32 := do
  match Vicinity.Command.Arguments.ofWords args with
  | .error .help =>
    IO.print Vicinity.Command.usage
    return 0
  | .error .wrong =>
    IO.eprint Vicinity.Command.usage
    return 2
  | .ok a => Vicinity.Program.run a
