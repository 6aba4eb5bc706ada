import Vicinity.Text.Digit

/-!
# Arguments of the command

The command takes options only. An option is spelled with two hyphens and a name, which may be
shortened as long as one option remains, or with one hyphen and a letter. A value follows as the
next word, after an equals sign, or right behind the letter; letters of options without a value
can stand together. Two hyphens that are attached to an option give no value (`Given.blank`).
Words are told apart before any of them counts (`Word.ofString`), so a shortened name that fits
several options makes the arguments wrong wherever it stands. A request for help ends the reading
of arguments where it is met, unless other letters of its word are wrong.
-/

namespace Vicinity

namespace Command

/-! ## Options -/

/-- The options of the command. -/
inductive Switch where
  | help
  | objects
  | neighbors
  | config
  | idColumn
  | labelColumn
  | externalIdColumn
  | includeSubject
  | output
  | verbose
deriving DecidableEq

/-- The spellings of the options. -/
def spellings : List (String × Switch) :=
  [("-h", .help), ("--help", .help), ("--objects", .objects), ("--neighbors", .neighbors),
    ("--config", .config), ("--id-column", .idColumn), ("--label-column", .labelColumn),
    ("--external-id-column", .externalIdColumn), ("--include-subject", .includeSubject),
    ("--output", .output), ("-o", .output), ("--verbose", .verbose), ("-v", .verbose)]

/-- Whether an option has a value. -/
def Switch.takesValue : Switch → Bool
  | help | includeSubject | verbose => false
  | objects | neighbors | config | idColumn | labelColumn | externalIdColumn | output => true

/-- The option of a spelling. -/
def Switch.ofSpelling? (s : String) : Option Switch :=
  (spellings.find? fun e => e.1 == s).map Prod.snd

/-- The value of an option. -/
inductive Given where
  /-- The option is not there. -/
  | nothing
  /-- The option is there, but without a value. -/
  | blank
  | value (s : String)
deriving DecidableEq

/-- The value, if there is one. -/
def Given.value? : Given → Option String
  | nothing | blank => none
  | value s => some s

/-- What the arguments say. -/
structure Arguments where
  objects : Given := .nothing
  neighbors : Given := .nothing
  config : Given := .nothing
  idColumn : Given := .value "id"
  labelColumn : Given := .value "labels"
  externalIdColumn : Given := .nothing
  includeSubject : Bool := false
  output : Given := .nothing
  verbose : Bool := false
  /-- Whether there were words that belong to no option. -/
  hasExtras : Bool := false

/-- Why there are no arguments. -/
inductive Usage where
  /-- Help was asked for. -/
  | help
  /-- The arguments are wrong. -/
  | wrong
deriving DecidableEq

/-! ## Words -/

/-- What a word is. -/
inductive Word where
  /-- An option by its name, with what follows an equals sign. -/
  | name (s : Switch) (attached : Option String)
  /-- An option by its letter, with what is attached to the letter. -/
  | letter (s : Switch) (attached : Option (List Char))
  | value (s : String)
  /-- A word that looks like an option and is none. -/
  | unknown

/-- The parts of a word before and after its first equals sign, if there is one. -/
def splitEquals (word : List Char) : List Char × Option String :=
  (word.takeWhile (· ≠ '='),
    if '=' ∈ word then some (String.ofList ((word.dropWhile (· ≠ '=')).drop 1)) else none)

/-- A negative number, which is a value although it begins with a hyphen. -/
def isNegativeNumber : List Char → Bool
  | '-' :: rest =>
    let rest := if rest.getLast? = some '\n' then rest.dropLast else rest
    let whole := rest.takeWhile Text.isDecimalDigit
    match rest.dropWhile Text.isDecimalDigit with
    | [] => !whole.isEmpty
    | '.' :: fraction => !fraction.isEmpty && fraction.all Text.isDecimalDigit
    | _ => false
  | _ => false

/-- What a word is that begins with a hyphen and spells no option : negative numbers and words
with a space in them are values. -/
def Word.other (word : String) : Word :=
  if isNegativeNumber word.toList || ' ' ∈ word.toList then .value word else .unknown

/-- The options whose spelling begins with some characters. -/
def candidates (start : List Char) : List Switch :=
  (spellings.filter fun e => start.isPrefixOf e.1.toList).map Prod.snd

/-- What is attached to a letter : what stands behind it, less an equals sign. -/
def attachedTo : List Char → Option (List Char)
  | [] => none
  | '=' :: rest => some rest
  | behind => some behind

/-- Tell what a word is. The error is a shortened name that fits several options. -/
def Word.ofString (word : String) : Except Usage Word :=
  match word.toList with
  | '-' :: '-' :: rest =>
    match Switch.ofSpelling? word with
    | some s => .ok (.name s none)
    | none =>
      let (start, attached) := splitEquals ('-' :: '-' :: rest)
      match Switch.ofSpelling? (String.ofList start), candidates start with
      | some s, _ | none, [s] => .ok (.name s attached)
      | none, [] => .ok (.other word)
      | none, _ :: _ :: _ => .error .wrong
  | '-' :: c :: rest =>
    match Switch.ofSpelling? (String.ofList ['-', c]) with
    | some s => .ok (.letter s (attachedTo rest))
    | none => .ok (.other word)
  | _ => .ok (.value word)

/-- Tell what all words are. After two hyphens alone every word is a value; they are none. -/
def wordsOf : List String → Except Usage (List Word)
  | [] => .ok []
  | "--" :: rest => .ok (.unknown :: rest.map .value)
  | word :: rest => do
    let w ← Word.ofString word
    let ws ← wordsOf rest
    return w :: ws

/-! ## Reading -/

namespace Arguments

/-- Take an option without a value. -/
def setFlag (a : Arguments) : Switch → Arguments
  | .includeSubject => { a with includeSubject := true }
  | .verbose => { a with verbose := true }
  | _ => a

/-- Take an option with its value. -/
def setValue (a : Arguments) (s : Switch) (g : Given) : Arguments :=
  match s with
  | .objects => { a with objects := g }
  | .neighbors => { a with neighbors := g }
  | .config => { a with config := g }
  | .idColumn => { a with idColumn := g }
  | .labelColumn => { a with labelColumn := g }
  | .externalIdColumn => { a with externalIdColumn := g }
  | .output => { a with output := g }
  | .help | .includeSubject | .verbose => a

/-- How the options of a word end. -/
inductive ClusterEnd where
  /-- With an option without a value. -/
  | flag
  /-- With an option and its value. -/
  | valued (s : Switch) (g : Given)
  /-- With an option whose value is the next word. -/
  | wanting (s : Switch)
  /-- The word belongs to no option. -/
  | extra

/-- The value that is attached to an option. -/
def givenOf (attached : String) : Given := if attached = "--" then .blank else .value attached

/-- The options of letters that stand together, the first of them with the characters behind it :
options without a value, and the end of the word. All that is behind an option with a value is
the value. -/
def cluster (s : Switch) : List Char → Except Usage (List Switch × ClusterEnd)
  | [] => .ok (if s.takesValue then ([], .wanting s) else ([s], .flag))
  | c :: rest =>
    if s.takesValue then .ok ([], .valued s (givenOf (String.ofList (c :: rest))))
    else
      match Switch.ofSpelling? (String.ofList ['-', c]) with
      | none => .error .wrong
      | some next => do
        let (flags, last) ← cluster next rest
        return (s :: flags, last)

/-- An option with a value that is attached by an equals sign. -/
def valued (s : Switch) (attached : String) : Except Usage (List Switch × ClusterEnd) :=
  if s.takesValue then .ok ([], .valued s (givenOf attached)) else .error .wrong

/-- The options of one word. -/
def switches : Word → Except Usage (List Switch × ClusterEnd)
  | .name s none | .letter s none => cluster s []
  | .name s (some attached) => valued s attached
  | .letter s (some []) => valued s ""
  | .letter s (some (c :: rest)) => cluster s (c :: rest)
  | .value _ | .unknown => .ok ([], .extra)

/-- Take options without a value; help ends the reading. -/
def setFlags (a : Arguments) (flags : List Switch) : Except Usage Arguments :=
  if .help ∈ flags then .error .help else .ok (flags.foldl setFlag a)

/-- Read words one after the other. -/
def readWords (a : Arguments) : List Word → Except Usage Arguments
  | [] => .ok a
  | word :: rest =>
    match switches word with
    | .error u => .error u
    | .ok (flags, .wanting s) =>
      match rest with
      | .value v :: rest => do readWords ((← a.setFlags flags).setValue s (.value v)) rest
      | _ => .error .wrong
    | .ok (flags, .flag) => do readWords (← a.setFlags flags) rest
    | .ok (flags, .valued s g) => do readWords ((← a.setFlags flags).setValue s g) rest
    | .ok (flags, .extra) => do readWords { ← a.setFlags flags with hasExtras := true } rest

/-- The arguments of a command line. There must be a table of objects and no word that belongs
to no option. -/
def ofWords (words : List String) : Except Usage Arguments := do
  let a ← readWords {} (← wordsOf words)
  if a.objects = .nothing ∨ a.hasExtras then throw .wrong
  return a

end Arguments

end Command

end Vicinity
