import Vicinity.Text.Tokens

/-!
# Paths

Names of files, separated by slashes. `Path.normalized` is the form in which a path is kept :
without empty components and without those that are a single full stop, and without a slash at
the end. A path that begins with exactly two slashes keeps both, more of them count as one, and
a path without components is a full stop. `Path.suffix` is what follows the last full stop in
the last component, unless nothing follows it or nothing precedes it.
-/

namespace Vicinity

namespace Path

/-- Parts that are kept in the normal form. -/
def isComponent (part : List Char) : Bool := part ≠ [] && part ≠ ['.']

/-- The components of a path. -/
def components (path : List Char) : List (List Char) := (Text.splitAt '/' path).filter isComponent

/-- The slashes with which the normal form of a path begins. -/
def root : List Char → List Char
  | '/' :: '/' :: '/' :: _ => ['/']
  | '/' :: '/' :: _ => ['/', '/']
  | '/' :: _ => ['/']
  | _ => []

/-- Components with slashes between them. -/
def join : List (List Char) → List Char
  | [] => []
  | [c] => c
  | c :: rest => c ++ '/' :: join rest

/-- The normal form, as characters. -/
def normalizedChars (path : List Char) : List Char :=
  match root path ++ join (components path) with
  | [] => ['.']
  | chars => chars

/-- The form in which a path is kept. -/
def normalized (path : String) : String := String.ofList (normalizedChars path.toList)

/-- The end of the last component from its last full stop on. -/
def suffix (path : String) : String :=
  match (components path.toList).getLast? with
  | none => ""
  | some name =>
    let ending := (name.reverse.takeWhile (· ≠ '.')).reverse
    if ending = [] ∨ name.length ≤ ending.length + 1 then ""
    else String.ofList ('.' :: ending)

end Path

end Vicinity
