import Vicinity.Pattern
import Vicinity.Text.Hexadecimal

/-!
# Reading patterns

A pattern is written as a regular expression. A character stands for itself unless it has a
meaning of its own : `.` is any character but a line feed, `^` and `$` are the ends of the text,
`|` separates choices, `*`, `+`, `?` and a number of times in braces repeat what precedes them, a
backslash takes the meaning from a character or gives it one, brackets hold a set of characters,
and parentheses hold a pattern, which may begin with a name or with flags.

`Pattern.ofText?` gives no pattern if the text is not written that way. Parts of a pattern are put
together from the left on : what is open at a place is a row of groups (`Pattern.Reading`), or
within brackets a row of sets (`Pattern.OpenSet`).
-/

namespace Vicinity

namespace Pattern

/-! ## Flags -/

/-- What can be switched on and off within a pattern. -/
structure Flags where
  ignoresCase : Bool := false
  /-- The ends of lines count as ends of the text. -/
  multiLine : Bool := false
  /-- A dot also stands for a line feed. -/
  dotAll : Bool := false
  /-- Blanks and comments do not count. -/
  verbose : Bool := false

/-- Switch a flag on or off. Some flags make no difference to which texts match. -/
def Flags.set? (flags : Flags) (on : Bool) : Char → Option Flags
  | 'i' => some { flags with ignoresCase := on }
  | 'm' => some { flags with multiLine := on }
  | 's' => some { flags with dotAll := on }
  | 'x' => some { flags with verbose := on }
  | 'U' | 'u' | 'R' => some flags
  | _ => none

/-- Flags up to the character that ends them. Those after a minus sign are switched off, no flag
is written twice, and a minus sign is followed by one. -/
def readFlags (flags : Flags) (on : Bool) (seen : List Char) :
    List Char → Option (Flags × List Char × List Char)
  | [] => none
  | c :: rest =>
    if c = ':' ∨ c = ')' then
      if seen.head? = some '-' then none else some (flags, seen, c :: rest)
    else if c ∈ seen then none
    else if c = '-' then readFlags flags false ('-' :: seen) rest
    else
      match flags.set? on c with
      | some flags => readFlags flags on (c :: seen) rest
      | none => none

/-- Skip blanks and comments. A comment begins with a number sign and ends with its line. -/
def skipBlanks (comment : Bool) : List Char → List Char
  | [] => []
  | c :: rest =>
    if comment then skipBlanks (c ≠ '\n') rest
    else if CharSet.isBlank c then skipBlanks false rest
    else if c = '#' then skipBlanks true rest
    else c :: rest

/-- Skip what does not count. -/
def Flags.skip (flags : Flags) (chars : List Char) : List Char :=
  if flags.verbose then skipBlanks false chars else chars

/-! ## Escapes -/

/-- What a backslash and the characters after it stand for. -/
inductive Escape where
  | char (c : Char)
  | set (s : CharSet)
  | anchor (a : Anchor)

/-- The character of a number, if it is one. -/
def charOfCode? (n : Nat) : Option Char := if n.isValidChar then some (Char.ofNat n) else none

/-- A character by its number : so many digits, or any number of them in braces. -/
def readCode (size : Nat) (chars : List Char) : Option (Escape × List Char) := do
  let (digits, rest) ← match chars with
    | '{' :: inner =>
      match inner.dropWhile (· ≠ '}') with
      | _ :: rest => some (inner.takeWhile (· ≠ '}'), rest)
      | [] => none
    | _ => if size ≤ chars.length then some (chars.take size, chars.drop size) else none
  if digits.isEmpty then none
  else
    let c ← (Text.ofHexadecimal? digits).bind charOfCode?
    return (.char c, rest)

/-- The sets that have names of their own. -/
def classes : List (String × CharSet) :=
  [("any", .all), ("ascii", .range '\x00' '\x7f'), ("l", .letter), ("letter", .letter),
    ("lu", .capital), ("uppercaseletter", .capital), ("uppercase", .capital), ("upper", .capital),
    ("ll", .small), ("lowercaseletter", .small), ("lowercase", .small), ("lower", .small),
    ("m", .mark), ("mark", .mark), ("combiningmark", .mark), ("nd", .digit),
    ("decimalnumber", .digit), ("digit", .digit), ("whitespace", .blank), ("space", .blank)]

/-- The set of a name. Its case, blanks, hyphens and low lines do not count. -/
def classOf? (name : List Char) : Option CharSet :=
  let key := String.ofList ((name.filter fun c => !(" -_".contains c)).map Char.toLower)
  (classes.find? fun e => e.1 == key).map Prod.snd

/-- A set by its name, which is one letter or stands in braces. -/
def readClass (negated : Bool) (chars : List Char) : Option (Escape × List Char) := do
  let (name, rest) ← match chars with
    | '{' :: inner =>
      match inner.dropWhile (· ≠ '}') with
      | _ :: rest => some (inner.takeWhile (· ≠ '}'), rest)
      | [] => none
    | c :: rest => some ([c], rest)
    | [] => none
  return (.set (.negatedIf negated (← classOf? name)), rest)

/-- The conditions on places at the ends of words, by their names. -/
def wordAnchors : List (String × Anchor) :=
  [("start", .wordStart), ("end", .wordEnd), ("start-half", .wordStartHalf),
    ("end-half", .wordEndHalf)]

/-- Whether a character can be one of the name of a condition. -/
def isAnchorChar (c : Char) : Bool := c.isAlpha || c = '-'

/-- A boundary of words, of which a name in braces may give the kind. -/
def readBoundary (chars : List Char) : Option (Escape × List Char) :=
  match chars with
  | '{' :: inner =>
    let name := inner.takeWhile isAnchorChar
    if inner.isEmpty then none
    else if name.isEmpty then some (.anchor .wordBoundary, chars)
    else
      match inner.dropWhile isAnchorChar, wordAnchors.find? fun e => e.1.toList == name with
      | '}' :: rest, some e => some (.anchor e.2, rest)
      | _, _ => none
  | _ => some (.anchor .wordBoundary, chars)

/-- The letters that stand for something after a backslash, but for those that begin more. -/
def letterEscapes : List (Char × Escape) :=
  [('d', .set .digit), ('D', .set (.complement .digit)), ('s', .set .blank),
    ('S', .set (.complement .blank)), ('w', .set .word), ('W', .set (.complement .word)),
    ('a', .char '\x07'), ('f', .char '\x0c'), ('t', .char '\t'), ('n', .char '\n'),
    ('r', .char '\r'), ('v', .char '\x0b'), ('A', .anchor .textStart), ('z', .anchor .textEnd),
    ('B', .anchor .noWordBoundary), ('<', .anchor .wordStart), ('>', .anchor .wordEnd)]

/-- What follows a backslash. Letters, digits and characters beyond ASCII have to have a meaning
there, any other character stands for itself. -/
def readEscape : List Char → Option (Escape × List Char)
  | [] => none
  | 'x' :: rest => readCode 2 rest
  | 'u' :: rest => readCode 4 rest
  | 'U' :: rest => readCode 8 rest
  | 'p' :: rest => readClass false rest
  | 'P' :: rest => readClass true rest
  | 'b' :: rest => readBoundary rest
  | c :: rest =>
    match letterEscapes.find? fun e => e.1 == c with
    | some e => some (e.2, rest)
    | none => if c.isAlphanum || '\x7f' < c then none else some (.char c, rest)

/-! ## Sets in brackets -/

/-- A set of which not everything has been read. -/
structure OpenSet where
  negated : Bool
  /-- The operation with which what is read goes to what has been read before it. -/
  combine : CharSet → CharSet := id
  items : CharSet

/-- Add characters to a set. -/
def OpenSet.add (o : OpenSet) (s : CharSet) : OpenSet := { o with items := .union o.items s }

/-- What has been read of a set. -/
def OpenSet.soFar (o : OpenSet) (ignoresCase : Bool) : CharSet :=
  o.combine (.anyCaseIf ignoresCase o.items)

/-- Begin the second operand of an operation. -/
def OpenSet.operate (o : OpenSet) (ignoresCase : Bool)
    (operation : CharSet → CharSet → CharSet) : OpenSet :=
  { o with combine := operation (o.soFar ignoresCase), items := .empty }

/-- The set that ends. -/
def OpenSet.close (o : OpenSet) (ignoresCase : Bool) : CharSet :=
  .negatedIf o.negated (o.soFar ignoresCase)

/-- What follows an opening bracket : a circumflex turns the set into its complement, and hyphens,
or else a closing bracket, stand for themselves at the beginning. -/
def openSet (flags : Flags) (chars : List Char) : OpenSet × List Char :=
  let (negated, chars) := match flags.skip chars with
    | '^' :: rest => (true, flags.skip rest)
    | chars => (false, chars)
  match chars with
  | ']' :: rest => (⟨negated, id, .single ']'⟩, rest)
  | '-' :: rest => (⟨negated, id, .single '-'⟩, rest.dropWhile (· = '-'))
  | chars => (⟨negated, id, .empty⟩, chars)

/-- The sets of ASCII characters that have names. -/
def asciiClasses : List (String × CharSet) :=
  [("alnum", .ofRanges [('0', '9'), ('A', 'Z'), ('a', 'z')]),
    ("alpha", .ofRanges [('A', 'Z'), ('a', 'z')]), ("ascii", .range '\x00' '\x7f'),
    ("blank", .ofRanges [('\t', '\t'), (' ', ' ')]),
    ("cntrl", .ofRanges [('\x00', '\x1f'), ('\x7f', '\x7f')]), ("digit", .range '0' '9'),
    ("graph", .range '!' '~'), ("lower", .range 'a' 'z'), ("print", .range ' ' '~'),
    ("punct", .ofRanges [('!', '/'), (':', '@'), ('[', '\x60'), ('\x7b', '~')]),
    ("space", .ofRanges [('\t', '\r'), (' ', ' ')]), ("upper", .range 'A' 'Z'),
    ("word", .ofRanges [('0', '9'), ('A', 'Z'), ('_', '_'), ('a', 'z')]),
    ("xdigit", .ofRanges [('0', '9'), ('A', 'F'), ('a', 'f')])]

/-- A named set between colons, without the bracket that opens it. -/
def readAsciiClass (chars : List Char) : Option (CharSet × List Char) :=
  match chars with
  | ':' :: inner =>
    let (negated, inner) := match inner with
      | '^' :: rest => (true, rest)
      | inner => (false, inner)
    let name := inner.takeWhile (· ≠ ':')
    match inner.dropWhile (· ≠ ':'), asciiClasses.find? fun e => e.1.toList == name with
    | ':' :: ']' :: rest, some e => some (.negatedIf negated e.2, rest)
    | _, _ => none
  | _ => none

/-- A character or a set of characters within brackets. -/
def readSetItem : List Char → Option (Escape × List Char)
  | [] => none
  | '\\' :: rest => readEscape rest
  | c :: rest => some (.char c, rest)

/-- A range within brackets, or what stands there without a hyphen after it. A hyphen before
another one or before the closing bracket makes no range. -/
def readSetRange (flags : Flags) (chars : List Char) : Option (CharSet × List Char) := do
  let (first, rest) ← readSetItem chars
  let single := match first with
    | .char c => some (CharSet.single c)
    | .set s => some s
    | .anchor _ => none
  match flags.skip rest with
  | [] => none
  | '-' :: behind =>
    match flags.skip behind with
    | ']' :: _ | '-' :: _ => return (← single, '-' :: behind)
    | behind =>
      match first, ← readSetItem behind with
      | .char c, (.char d, rest) => if c ≤ d then some (.range c d, rest) else none
      | _, _ => none
  | rest => return (← single, rest)

/-- A set up to the bracket that closes it, with the sets around it that are open too, the
innermost first. Every step takes at least one character, so that `todo`, which is greater than
their number, never runs out. -/
def readSet (flags : Flags) : (todo : Nat) → OpenSet → List OpenSet → List Char →
    Option (CharSet × List Char)
  | 0, _, _, _ => none
  | todo + 1, o, outer, chars =>
    match flags.skip chars with
    | [] => none
    | '[' :: rest =>
      match readAsciiClass rest with
      | some (s, rest) => readSet flags todo (o.add s) outer rest
      | none =>
        let (inner, rest) := openSet flags rest
        readSet flags todo inner (o :: outer) rest
    | ']' :: rest =>
      let s := o.close flags.ignoresCase
      match outer with
      | [] => some (s, rest)
      | next :: outer => readSet flags todo (next.add s) outer rest
    | '&' :: '&' :: rest =>
      readSet flags todo (o.operate flags.ignoresCase .intersection) outer rest
    | '-' :: '-' :: rest =>
      readSet flags todo (o.operate flags.ignoresCase .difference) outer rest
    | '~' :: '~' :: rest =>
      readSet flags todo (o.operate flags.ignoresCase .symmetricDifference) outer rest
    | chars =>
      match readSetRange flags chars with
      | some (s, rest) => readSet flags todo (o.add s) outer rest
      | none => none

/-! ## Repetitions -/

/-- The greatest number of times that can be written. -/
def maxTimes : Nat := 4294967295

/-- A decimal number, with blanks around it or without. -/
def readTimes (chars : List Char) : Option Nat × List Char :=
  let chars := chars.dropWhile CharSet.isBlank
  let digits := chars.takeWhile Char.isDigit
  let rest := (chars.dropWhile Char.isDigit).dropWhile CharSet.isBlank
  let n := digits.foldl (fun n c => 10 * n + (c.toNat - '0'.toNat)) 0
  (if digits.isEmpty ∨ maxTimes < n then none else some n, rest)

/-- The least and the greatest number of times in braces, without the brace that opens them. -/
def readBounds (chars : List Char) : Option (Nat × Option Nat × List Char) :=
  match readTimes chars with
  | (some least, '}' :: rest) => some (least, some least, rest)
  | (some least, ',' :: '}' :: rest) => some (least, none, rest)
  | (some least, ',' :: rest) =>
    match readTimes rest with
    | (some most, '}' :: rest) => if least ≤ most then some (least, some most, rest) else none
    | _ => none
  | _ => none

/-- A question mark behind a repetition makes no difference to which texts match. -/
def skipLazy : List Char → List Char
  | '?' :: rest => rest
  | chars => chars

/-! ## Groups -/

/-- A group of which not everything has been read. -/
structure OpenGroup where
  /-- The flags that hold in it at this place. -/
  flags : Flags := {}
  /-- The choices before the one that is read, the last first. -/
  choices : List Pattern := []
  /-- What has been read of the last choice, the last first. Flags stand there without a
  pattern : they cannot be repeated. -/
  parts : List (Option Pattern) := []

namespace OpenGroup

/-- Add a pattern. -/
def add (g : OpenGroup) (p : Pattern) : OpenGroup := { g with parts := some p :: g.parts }

/-- The choice that is read. -/
def choice (g : OpenGroup) : Pattern := ofRow (g.parts.reverse.filterMap id)

/-- Begin another choice. -/
def nextChoice (g : OpenGroup) : OpenGroup :=
  { g with choices := g.choice :: g.choices, parts := [] }

/-- The pattern of a group. -/
def close (g : OpenGroup) : Pattern := g.choices.foldl (fun p q => either q p) g.choice

/-- Repeat the last part. -/
def repeat? (g : OpenGroup) (least : Nat) (most : Option Nat) : Option OpenGroup :=
  match g.parts with
  | some p :: parts => some { g with parts := some (repeated p least most) :: parts }
  | _ => none

/-- The pattern of a set of characters under the flags of a group. -/
def charPattern (g : OpenGroup) (s : CharSet) : Pattern := char (.anyCaseIf g.flags.ignoresCase s)

/-- The pattern of an escape. -/
def escapePattern (g : OpenGroup) : Escape → Pattern
  | .char c => g.charPattern (.single c)
  | .set s => g.charPattern s
  | .anchor a => anchor a

/-- The pattern of a character that stands in no brackets and behind no backslash. -/
def plainPattern (g : OpenGroup) (c : Char) : Pattern :=
  if c = '.' then char (if g.flags.dotAll then .all else .complement (.single '\n'))
  else if c = '^' then anchor (if g.flags.multiLine then .lineStart else .textStart)
  else if c = '$' then anchor (if g.flags.multiLine then .lineEnd else .textEnd)
  else g.charPattern (.single c)

end OpenGroup

/-- What has been read of a pattern. -/
structure Reading where
  group : OpenGroup := {}
  /-- The groups around it that are open too, the innermost first. -/
  outer : List OpenGroup := []
  /-- The names that groups have. -/
  names : List (List Char) := []

/-- Whether a character can be one of the name of a group. -/
def isNameChar (isFirst : Bool) (c : Char) : Bool :=
  c = '_' || Text.isLetter c ||
    (!isFirst && (Text.isDecimalDigit c || c = '.' || c = '[' || c = ']'))

/-- Whether a group can have a name. -/
def isName (name : List Char) : Bool :=
  ((name.head?.map (isNameChar true)).getD false) && name.all (isNameChar false)

namespace Reading

/-- Change the innermost group. -/
def withGroup (r : Reading) (g : OpenGroup) : Reading := { r with group := g }

/-- Open a group. -/
def push (r : Reading) (flags : Flags) : Reading :=
  { r with group := { flags }, outer := r.group :: r.outer }

/-- Open a group with a name. -/
def pushNamed (r : Reading) (chars : List Char) : Option (Reading × List Char) :=
  let name := chars.takeWhile (· ≠ '>')
  match chars.dropWhile (· ≠ '>') with
  | [] => none
  | _ :: rest =>
    if isName name ∧ name ∉ r.names then
      some ({ r.push r.group.flags with names := name :: r.names }, rest)
    else none

/-- What follows an opening parenthesis. -/
def openGroup (r : Reading) (chars : List Char) : Option (Reading × List Char) :=
  match r.group.flags.skip chars with
  | '?' :: '=' :: _ | '?' :: '!' :: _ | '?' :: '<' :: '=' :: _ | '?' :: '<' :: '!' :: _ => none
  | '?' :: 'P' :: '<' :: rest | '?' :: '<' :: rest => r.pushNamed rest
  | '?' :: rest =>
    match readFlags r.group.flags true [] rest with
    | some (flags, _, ':' :: rest) => some (r.push flags, rest)
    | some (flags, _ :: _, ')' :: rest) =>
      some (r.withGroup { r.group with flags, parts := none :: r.group.parts }, rest)
    | _ => none
  | rest => some (r.push r.group.flags, rest)

/-- Close the innermost group. -/
def closeGroup (r : Reading) : Option Reading :=
  match r.outer with
  | g :: outer => some { r with group := g.add r.group.close, outer }
  | [] => none

/-- What a character and those after it add. -/
def step (r : Reading) (c : Char) (rest : List Char) : Option (Reading × List Char) :=
  let g := r.group
  let add (p : Pattern) (rest : List Char) := some (r.withGroup (g.add p), rest)
  let again (least : Nat) (most : Option Nat) (rest : List Char) :=
    (g.repeat? least most).map fun g => (r.withGroup g, skipLazy rest)
  match c with
  | '(' => r.openGroup rest
  | ')' => r.closeGroup.map fun r => (r, rest)
  | '|' => some (r.withGroup g.nextChoice, rest)
  | '*' => again 0 none rest
  | '+' => again 1 none rest
  | '?' => again 0 (some 1) rest
  | '{' => (readBounds (g.flags.skip rest)).bind fun (least, most, rest) => again least most rest
  | '[' =>
    let (o, inner) := openSet g.flags rest
    (readSet g.flags (rest.length + 1) o [] inner).bind fun (s, rest) => add (char s) rest
  | '\\' => (readEscape rest).bind fun (e, rest) => add (g.escapePattern e) rest
  | c => add (g.plainPattern c) rest

/-- Read to the end. Every step takes at least one character, so that `todo`, which is greater
than their number, never runs out. -/
def finish : (todo : Nat) → Reading → List Char → Option Pattern
  | 0, _, _ => none
  | todo + 1, r, chars =>
    match r.group.flags.skip chars with
    | [] => if r.outer.isEmpty then some r.group.close else none
    | c :: rest => (r.step c rest).bind fun (r, rest) => finish todo r rest

end Reading

/-- The greatest size of a pattern. -/
def maxSize : Nat := 300000

/-- The pattern that a text writes, unless it is too large. -/
def ofText? (s : String) : Option Pattern :=
  (Reading.finish (s.length + 1) {} s.toList).filter fun p => p.size ≤ maxSize

end Pattern

end Vicinity
