import Vicinity.Text.Quoted
import Vicinity.Text.Tokens

/-!
# Files

A `FileSystem` holds files of bytes and directories, each under the names that lead to it from the
root, and a working directory, from which paths start that do not begin with a slash.
`FileSystem.locate` walks a path name by name.

Opening fails for the reasons a system gives, in the order in which the walk meets them
(`OpenFault`), and the message names the path as it was given.
-/

namespace Vicinity

/-- Why a path is not opened. -/
inductive OpenFault where
  | notFound
  | notDirectory
  | isDirectory
  | nameTooLong
deriving DecidableEq

/-- The number of a fault. -/
def OpenFault.number : OpenFault → Nat
  | notFound => 2
  | notDirectory => 20
  | isDirectory => 21
  | nameTooLong => 36

/-- The wording of a fault. -/
def OpenFault.message : OpenFault → String
  | notFound => "No such file or directory"
  | notDirectory => "Not a directory"
  | isDirectory => "Is a directory"
  | nameTooLong => "File name too long"

/-- A path that is not opened. -/
structure OpenError where
  fault : OpenFault
  path : String
deriving DecidableEq

/-- The wording of an error. -/
def OpenError.message (e : OpenError) : String :=
  "[Errno " ++ toString e.fault.number ++ "] " ++ e.fault.message ++ ": " ++ Text.quoted e.path

/-- What lies under a name. -/
inductive Node where
  | file (bytes : List UInt8)
  | directory

/-- Nodes under the names that lead to them, and the names of the working directory. The working
directory and those that it lies in are always there. -/
structure FileSystem where
  workingDirectory : List String
  nodes : List (List String × Node)

namespace FileSystem

/-- Nothing but a working directory. -/
def ofWorkingDirectory (names : List String) : FileSystem := ⟨names, []⟩

/-- What lies under some names. -/
def find? (fs : FileSystem) (names : List String) : Option Node :=
  if names.isPrefixOf fs.workingDirectory then some .directory
  else (fs.nodes.find? fun e => e.1 == names).map Prod.snd

/-- Put a node under some names, in place of what lies there. -/
def put (fs : FileSystem) (names : List String) (node : Node) : FileSystem :=
  { fs with nodes := fs.nodes.filter (fun e => e.1 != names) ++ [(names, node)] }

/-! ## Walking a path -/

/-- The greatest number of bytes of a name. -/
def maxNameSize : Nat := 255

/-- The number of bytes that a path must stay below. -/
def maxPathSize : Nat := 4096

/-- Names can be followed only from a directory. -/
def checkDirectory (fs : FileSystem) (names : List String) : Except OpenFault Unit :=
  match fs.find? names with
  | some .directory => .ok ()
  | some _ => .error .notDirectory
  | none => .error .notFound

/-- Follow one more name, which need not be there. An empty name and a single full stop lead
nowhere else, two full stops lead back. -/
def enter (fs : FileSystem) (names : List String) (name : String) :
    Except OpenFault (List String) := do
  checkDirectory fs names
  if name = "" ∨ name = "." then return names
  else if name = ".." then return names.dropLast
  else if maxNameSize < name.utf8ByteSize then throw .nameTooLong
  else return names ++ [name]

/-- Where a path starts, and the names that it follows. -/
def startOf (fs : FileSystem) (path : String) : List String × List String :=
  match Text.splitAt '/' path.toList with
  | [] :: rest => ([], rest.map String.ofList)
  | names => (fs.workingDirectory, names.map String.ofList)

/-- The names that a path leads to. Only the last name on the way need not be there. -/
def locate (fs : FileSystem) (path : String) : Except OpenFault (List String) :=
  if path = "" then .error .notFound
  else if maxPathSize ≤ path.utf8ByteSize then .error .nameTooLong
  else
    let (start, names) := fs.startOf path
    names.foldlM (enter fs) start

/-! ## Opening -/

/-- What a path leads to, if it is there and no directory. -/
def open? (fs : FileSystem) (path : String) : Except OpenError Node :=
  match fs.locate path with
  | .error fault => .error ⟨fault, path⟩
  | .ok names =>
    match fs.find? names with
    | none => .error ⟨.notFound, path⟩
    | some .directory => .error ⟨.isDirectory, path⟩
    | some node => .ok node

/-- The bytes of a file. -/
def read (fs : FileSystem) (path : String) : Except OpenError (List UInt8) :=
  match fs.open? path with
  | .error e => .error e
  | .ok (.file bytes) => .ok bytes
  | .ok .directory => .error ⟨.isDirectory, path⟩

/-- Whether a path leads to anything. A name that is too long is an error here too. -/
def exists? (fs : FileSystem) (path : String) : Except OpenError Bool :=
  match fs.locate path with
  | .error .nameTooLong => .error ⟨.nameTooLong, path⟩
  | .error _ => .ok false
  | .ok names => .ok (fs.find? names).isSome

/-- A path without the slashes at its end. -/
def withoutEndSlashes (path : String) : String :=
  String.ofList (Text.dropEnd (· = '/') path.toList)

/-- The names of a file that is to be written. It need not be there, but all that leads to it
must, and it must not be a directory nor be spelled like one. -/
def locateNew (fs : FileSystem) (path : String) : Except OpenError (List String) :=
  match fs.locate path with
  | .ok names =>
    match fs.find? names with
    | some .directory => .error ⟨.isDirectory, path⟩
    | _ => .ok names
  | .error fault =>
    match path.toList.getLast?, fs.locate (withoutEndSlashes path) with
    | some '/', .ok _ => .error ⟨.isDirectory, path⟩
    | _, _ => .error ⟨fault, path⟩

/-- Write a node, in place of a file that is there. -/
def write (fs : FileSystem) (path : String) (node : Node) : Except OpenError FileSystem :=
  match fs.locateNew path with
  | .error e => .error e
  | .ok names => .ok (fs.put names node)

end FileSystem

end Vicinity
