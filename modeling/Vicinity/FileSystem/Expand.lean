import Vicinity.FileSystem
import Vicinity.Glob
import Vicinity.Path

/-!
# Paths that stand for several files

A path with characters of a pattern stands for all files that the pattern matches, the path of a
directory for all files in it and below. Files without content do not count, and there must be
others. A pattern gives its files in ascending order of their names (`FileSystem.filesMatching`),
a directory gives the files nearest to it first (`FileSystem.filesBelow`), and all of these must
have the same suffix. Any other path stands for what lies there.
-/

namespace Vicinity

/-- Why a path stands for no files. -/
inductive ExpandFault where
  | opening (e : OpenError)
  | containsNul
  | badPattern
  | noFiles
  /-- The files below a directory do not all have the same suffix. -/
  | mixedSuffixes
deriving DecidableEq

namespace FileSystem

/-- A file with the names that lead to it. -/
abbrev FileEntry := List String × Node

/-- A file that a path stands for, with the names of the directories in which it lies below the
directory of the path. -/
structure FoundFile where
  node : Node
  directories : List String := []

/-- Whether a node is a file with content. -/
def hasContent : Node → Bool
  | .file bytes => !bytes.isEmpty
  | .directory => false

/-- Whether names come before others or are the same, in the order of the first that differ. -/
def namesLe : List String → List String → Bool
  | [], _ => true
  | _ :: _, [] => false
  | a :: as, b :: bs => a < b || (a = b && namesLe as bs)

/-- All files with content in the order of their names. -/
def filesWithContent (fs : FileSystem) : List FileEntry :=
  (fs.nodes.filter fun e => hasContent e.2).mergeSort fun a b => namesLe a.1 b.1

/-- The names after those of a directory, if they lead below it. -/
def relative? (directory names : List String) : Option (List String) :=
  if directory.isPrefixOf names then some (names.drop directory.length) else none

/-- The files below a directory that a pattern matches. -/
def filesMatching (fs : FileSystem) (directory : List String) (steps : List Glob.Step) :
    List FileEntry :=
  fs.filesWithContent.filter fun e =>
    ((relative? directory e.1).map (Glob.matchesFile steps)).getD false

/-- The files below a directory, those that fewer names lead to first. -/
def filesBelow (fs : FileSystem) (directory : List String) : List FileEntry :=
  (fs.filesWithContent.filter fun e => directory.isPrefixOf e.1).mergeSort
    fun a b => a.1.length ≤ b.1.length

/-- The suffix of the last of some names. -/
def suffixOf (names : List String) : String := Path.suffix (names.getLast?.getD "")

/-- Whether all files have the same suffix. -/
def haveSameSuffix : List FileEntry → Bool
  | [] => true
  | first :: rest => rest.all fun e => suffixOf e.1 = suffixOf first.1

/-- There must be files. -/
def nonempty (files : List FileEntry) : Except ExpandFault (List FileEntry) :=
  if files.isEmpty then .error .noFiles else .ok files

/-- Whether a part of a path has no character of a pattern. -/
def isPlain (part : String) : Bool := !part.toList.any Glob.isSpecial

/-- The files of a pattern. The names before the first one with a character of a pattern lead to
the directory that is searched. -/
def expandPattern (fs : FileSystem) (path : String) : Except ExpandFault (List FoundFile) := do
  let (start, parts) := fs.startOf path
  let some steps := Glob.parse? (parts.dropWhile isPlain) | throw .badPattern
  match (parts.takeWhile isPlain).foldlM (enter fs) start with
  | .error _ => throw .noFiles
  | .ok directory =>
    let files ← nonempty (fs.filesMatching directory steps)
    return files.map fun e => { node := e.2 }

/-- The files of a directory. -/
def expandDirectory (fs : FileSystem) (names : List String) :
    Except ExpandFault (List FoundFile) := do
  let files ← nonempty (fs.filesBelow names)
  if haveSameSuffix files then
    return files.map fun e =>
      { node := e.2, directories := (e.1.drop names.length).dropLast }
  else throw .mixedSuffixes

/-- The files that a path stands for. -/
def expand (fs : FileSystem) (path : String) : Except ExpandFault (List FoundFile) :=
  if path.contains '\x00' then .error .containsNul
  else if !isPlain path then fs.expandPattern path
  else
    match fs.locate path with
    | .error fault => .error (.opening ⟨fault, path⟩)
    | .ok names =>
      match fs.find? names with
      | none => .error (.opening ⟨.notFound, path⟩)
      | some .directory => fs.expandDirectory names
      | some node => .ok [{ node }]

end FileSystem

end Vicinity
